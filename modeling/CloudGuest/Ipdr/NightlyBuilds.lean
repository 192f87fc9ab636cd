import CloudGuest.Library.Calls
import CloudGuest.Library.Runs
import CloudGuest.Ipdr.Components
import CloudGuest.Ipdr.SubjectIndex

/-!
The nightly build of the archive (`closed_days`, `run_closed_days`, `build_day`,
`save_day_file`), by any number of workers. A worker finds no file for a closed day of a
location with flows and reads the tables; then it saves the file with its subjects, or
fails and leaves the day to the next night.
-/

namespace CloudGuest.Ipdr
open Calendar Runs Texts

section Nightly

variable (hashing : Hashing) (retentionDays : Nat) (owner : Uuid → Uuid)

def daysSince (oldestKept : Int) : Nat → List Nat
  | 0 => []
  | day + 1 =>
      if oldestKept ≤ (istDayBounds (day + 1 : Nat)).1 then daysSince oldestKept day ++ [day + 1] else []

def closedDays (now : Int) : List Nat :=
  daysSince (now - retentionDays * dayLength) (istDay now - 1).toNat

structure DayBuild where
  now : Int
  sources : Sources
  organizationId : Uuid
  locationId : Uuid
  day : Nat
  recordsIncomplete : Bool

def DayBuild.flows (build : DayBuild) : List FlowInput :=
  flowsOf build.sources.flows build.locationId (istDayBounds build.day).1 (istDayBounds build.day).2

def DayBuild.records (build : DayBuild) : List Record :=
  Ipdr.build build.sources build.locationId build.organizationId (istDayBounds build.day).1
    (istDayBounds build.day).2

def DayBuild.file (build : DayBuild) : DayFile where
  organizationId := build.organizationId
  locationId := build.locationId
  day := build.day
  recordsIncomplete := build.recordsIncomplete
  read := some build.records
  built := by
    intro rows readable
    obtain rfl := Option.some.inj readable
    unfold DayBuild.records Ipdr.build
    dsimp only
    split
    · exact ⟨[], build.sources.join [] build.locationId build.organizationId 0 0, rfl⟩
    · exact ⟨_, _, rfl⟩

structure Archive where
  files : List DayFile
  subjects : List SubjectRow
  builds : List DayBuild

def Archive.hasFile (archive : Archive) (locationId : Uuid) (day : Nat) : Bool :=
  archive.files.any fun file => file.locationId = locationId && file.day = day

def Archive.saveDayFile (archive : Archive) (build : DayBuild) : Archive where
  -- The day's row points at the new object, and its subjects are replaced.
  files := build.file :: archive.files.filter fun other =>
    other.locationId ≠ build.locationId ∨ other.day ≠ build.day
  subjects := (subjectsOf hashing build.records).map
      (fun subject => ⟨build.locationId, build.day, subject.1, subject.2⟩) ++
    archive.subjects.filter fun row => row.locationId ≠ build.locationId ∨ row.day ≠ build.day
  builds := archive.builds

def Archive.ended (archive : Archive) (place : Nat) : Archive :=
  { archive with builds := archive.builds.eraseIdx place }

inductive NightEvent where
  | read (build : DayBuild)
  | save (place : Nat)
  | fail (place : Nat)

def nightStep (archive : Archive) : NightEvent → Option Archive
  -- A location has one owner, so a row that is there keeps its organization.
  | .read build =>
      if build.day ∈ closedDays retentionDays build.now ∧ build.flows ≠ [] ∧
          build.organizationId = owner build.locationId ∧
          archive.hasFile build.locationId build.day = false then
        some { archive with builds := archive.builds ++ [build] }
      else none
  | .save place => archive.builds[place]?.map fun build =>
      (archive.saveDayFile hashing build).ended place
  | .fail place => if place < archive.builds.length then some (archive.ended place) else none

def oneByOne (archive : Archive) : NightEvent → Prop
  | .read _ => archive.builds = []
  | _ => True

/-! ### What is kept -/

structure Exact (archive : Archive) : Prop where
  distinct : archive.files.Pairwise fun left right =>
    left.locationId ≠ right.locationId ∨ left.day ≠ right.day
  indexed : Indexed hashing archive.files archive.subjects
  subjects : ∀ row ∈ archive.subjects, ∃ file ∈ archive.files, ∃ rows ∈ file.read,
    row.locationId = file.locationId ∧ row.day = file.day ∧
      (row.kind, row.digest) ∈ subjectsOf hashing rows

structure Alone (archive : Archive) : Prop where
  few : archive.builds.length ≤ 1
  missing : ∀ build ∈ archive.builds, archive.hasFile build.locationId build.day = false

variable {hashing retentionDays owner} {archive after : Archive} {event : NightEvent}

theorem daysSince_kept {oldestKept : Int} {day : Nat} : ∀ top, day ∈ daysSince oldestKept top →
    1 ≤ day ∧ day ≤ top ∧ oldestKept ≤ (istDayBounds day).1 := by
  intro top
  induction top with
  | zero => exact fun listed => absurd listed List.not_mem_nil
  | succ top ih =>
      intro listed
      rw [daysSince] at listed
      split at listed
      · next kept =>
          rcases List.mem_append.mp listed with earlier | last
          · obtain ⟨first, below, since⟩ := ih earlier
            exact ⟨first, below.trans (Nat.le_succ top), since⟩
          · obtain rfl := List.mem_singleton.mp last
            exact ⟨Nat.succ_pos top, le_rfl, kept⟩
      · cases listed

theorem closedDays_ended {now : Int} {day : Nat} (closed : day ∈ closedDays retentionDays now) :
    now - retentionDays * dayLength ≤ (istDayBounds day).1 ∧ (istDayBounds day).2 ≤ now := by
  obtain ⟨first, below, since⟩ := daysSince_kept _ closed
  refine ⟨since, ?_⟩
  simp only [istDay, istDayBounds, dayLength] at below ⊢
  omega

theorem night_cases (stepped : nightStep hashing retentionDays owner archive event = some after) :
    (∃ build, event = .read build ∧ build.day ∈ closedDays retentionDays build.now ∧
      build.flows ≠ [] ∧ archive.hasFile build.locationId build.day = false ∧
      after = { archive with builds := archive.builds ++ [build] }) ∨
    (∃ place build, event = .save place ∧ archive.builds[place]? = some build ∧
      after = (archive.saveDayFile hashing build).ended place) ∨
    ∃ place, event = .fail place ∧ after = archive.ended place := by
  cases event with
  | read build =>
      simp only [nightStep] at stepped
      split at stepped
      · next free =>
          exact .inl ⟨build, rfl, free.1, free.2.1, free.2.2.2, (Option.some.inj stepped).symm⟩
      · cases stepped
  | save place =>
      obtain ⟨build, found, made⟩ := Option.map_eq_some_iff.mp stepped
      exact .inr (.inl ⟨place, build, rfl, found, made.symm⟩)
  | fail place =>
      simp only [nightStep] at stepped
      split at stepped
      · exact .inr (.inr ⟨place, rfl, (Option.some.inj stepped).symm⟩)
      · cases stepped

theorem Exact.saved (exact : Exact hashing archive) (build : DayBuild) :
    Exact hashing (archive.saveDayFile hashing build) where
  distinct := by
    refine List.pairwise_cons.mpr ⟨fun other kept => ?_, exact.distinct.filter _⟩
    have apart := of_decide_eq_true (List.mem_filter.mp kept).2
    exact apart.imp Ne.symm Ne.symm
  indexed := by
    intro file stored rows readable subject inside
    rcases List.mem_cons.mp stored with rfl | kept
    · obtain rfl := Option.some.inj readable
      exact List.mem_append_left _ (List.mem_map.mpr ⟨subject, inside, rfl⟩)
    · obtain ⟨old, apart⟩ := List.mem_filter.mp kept
      have listed := exact.indexed file old rows readable subject inside
      exact List.mem_append_right _ (List.mem_filter.mpr ⟨listed, apart⟩)
  subjects := by
    intro row listed
    rcases List.mem_append.mp listed with new | kept
    · obtain ⟨subject, inside, rfl⟩ := List.mem_map.mp new
      exact ⟨build.file, List.mem_cons_self, build.records, rfl, rfl, rfl, inside⟩
    · obtain ⟨earlier, apart⟩ := List.mem_filter.mp kept
      obtain ⟨file, stored, rows, readable, location, day, inside⟩ := exact.subjects row earlier
      rw [location, day] at apart
      exact ⟨file, List.mem_cons_of_mem _ (List.mem_filter.mpr ⟨stored, apart⟩), rows, readable,
        location, day, inside⟩

theorem exact_step (exact : Exact hashing archive)
    (stepped : nightStep hashing retentionDays owner archive event = some after) :
    Exact hashing after := by
  rcases night_cases stepped with ⟨build, -, -, -, -, rfl⟩ | ⟨place, build, -, -, rfl⟩ | ⟨place, -, rfl⟩
  · exact ⟨exact.distinct, exact.indexed, exact.subjects⟩
  · obtain ⟨distinct, indexed, subjects⟩ := exact.saved build
    exact ⟨distinct, indexed, subjects⟩
  · exact ⟨exact.distinct, exact.indexed, exact.subjects⟩

theorem hasFile_step {locationId : Uuid} {day : Nat} (held : archive.hasFile locationId day = true)
    (stepped : nightStep hashing retentionDays owner archive event = some after) :
    after.hasFile locationId day = true := by
  rcases night_cases stepped with ⟨build, -, -, -, -, rfl⟩ | ⟨place, build, -, -, rfl⟩ | ⟨place, -, rfl⟩
  · exact held
  · obtain ⟨file, stored, same⟩ := List.any_eq_true.mp held
    by_cases apart : file.locationId ≠ build.locationId ∨ file.day ≠ build.day
    · exact List.any_eq_true.mpr ⟨file,
        List.mem_cons_of_mem _ (List.mem_filter.mpr ⟨stored, decide_eq_true apart⟩), same⟩
    · rw [not_or, not_not, not_not] at apart
      rw [apart.1, apart.2] at same
      exact List.any_eq_true.mpr ⟨build.file, List.mem_cons_self, same⟩
  · exact held

theorem alone_step (alone : Alone archive) (turn : oneByOne archive event)
    (stepped : nightStep hashing retentionDays owner archive event = some after) :
    Alone after ∧ ∀ file ∈ archive.files, file ∈ after.files := by
  obtain ⟨few, missing⟩ := alone
  rcases night_cases stepped with ⟨build, rfl, -, -, free, rfl⟩ | ⟨place, build, rfl, found, rfl⟩ |
    ⟨place, -, rfl⟩
  · have idle : archive.builds = [] := turn
    refine ⟨⟨by simp [idle], fun other listed => ?_⟩, fun _ stored => stored⟩
    simp only [idle, List.nil_append, List.mem_singleton] at listed
    exact listed ▸ free
  · obtain ⟨inside, -⟩ := List.getElem?_eq_some_iff.mp found
    have none_left : archive.builds.eraseIdx place = [] :=
      List.length_eq_zero_iff.mp (by rw [List.length_eraseIdx_of_lt inside]; omega)
    refine ⟨⟨by simp [Archive.ended, Archive.saveDayFile, none_left], fun other listed => ?_⟩, ?_⟩
    · simp [Archive.ended, Archive.saveDayFile, none_left] at listed
    · intro file stored
      refine List.mem_cons_of_mem _ (List.mem_filter.mpr ⟨stored, decide_eq_true ?_⟩)
      have absent := missing build (List.mem_of_getElem? found)
      by_contra same
      rw [not_or, not_not, not_not] at same
      have there : archive.hasFile build.locationId build.day = true :=
        List.any_eq_true.mpr ⟨file, stored, by simp [same.1, same.2]⟩
      rw [there] at absent
      cases absent
  · refine ⟨⟨?_, fun build left => missing build (List.mem_of_mem_eraseIdx left)⟩, fun _ stored => stored⟩
    exact (List.length_eraseIdx_le _ _).trans few

/-! ### Runs -/

theorem read_traced {admitted : Archive → NightEvent → Prop} {trace : List (Taken Archive NightEvent)}
    (traced : Traced (nightStep hashing retentionDays owner) admitted ⟨[], [], []⟩ trace archive) :
    (∀ build ∈ archive.builds, ∃ taken ∈ trace, taken.action = .read build) ∧
      ∀ file ∈ archive.files, ∃ build, build.file = file ∧ ∃ taken ∈ trace, taken.action = .read build := by
  induction traced with
  | start => exact ⟨fun _ listed => absurd listed List.not_mem_nil, fun _ listed => absurd listed List.not_mem_nil⟩
  | @next trace before after event earlier _ stepped ih =>
      have later : ∀ build, (∃ taken ∈ trace, taken.action = .read build) →
          ∃ taken ∈ trace ++ [⟨before, event, after⟩], taken.action = .read build :=
        fun _ ⟨taken, listed, read⟩ => ⟨taken, List.mem_append_left _ listed, read⟩
      have files : ∀ file ∈ before.files, ∃ build, build.file = file ∧
          ∃ taken ∈ trace ++ [⟨before, event, after⟩], taken.action = .read build := by
        intro file stored
        obtain ⟨build, made, read⟩ := ih.2 file stored
        exact ⟨build, made, later build read⟩
      rcases night_cases stepped with ⟨build, rfl, -, -, -, rfl⟩ | ⟨place, build, rfl, found, rfl⟩ |
        ⟨place, rfl, rfl⟩
      · refine ⟨Calls.each_started (fun other listed => later other (ih.1 other listed)) ?_, files⟩
        exact ⟨_, List.mem_append_right _ (List.mem_singleton_self _), rfl⟩
      · refine ⟨Calls.each_ended (fun other listed => later other (ih.1 other listed)) place, ?_⟩
        intro file stored
        rcases List.mem_cons.mp stored with rfl | kept
        · exact ⟨build, rfl, later build (Calls.found_holds ih.1 found)⟩
        · exact files file (List.mem_filter.mp kept).1
      · exact ⟨Calls.each_ended (fun other listed => later other (ih.1 other listed)) place, files⟩

/-- Whatever workers build the archive, a location has one file a day, read when the day was over and its flow
records were kept; the table has the subjects of the files and no others; a day that has a file keeps one, and
where one worker builds it keeps the file that it has. -/
theorem nightly_builds_exact {trace : List (Taken Archive NightEvent)}
    (traced : Traced (nightStep hashing retentionDays owner) (fun _ _ => True) ⟨[], [], []⟩ trace archive) :
    Exact hashing archive ∧
    (∀ file ∈ archive.files, ∃ build, build.file = file ∧ (∃ taken ∈ trace, taken.action = .read build) ∧
      build.flows ≠ [] ∧ build.now - retentionDays * dayLength ≤ (istDayBounds file.day).1 ∧
      (istDayBounds file.day).2 ≤ build.now) ∧
    (∀ file ∈ archive.files, ∀ later,
      Reached (nightStep hashing retentionDays owner) (fun _ _ => True) archive later →
        later.hasFile file.locationId file.day = true) ∧
    (archive.builds = [] → ∀ later, Reached (nightStep hashing retentionDays owner) oneByOne archive later →
      ∀ file ∈ archive.files, file ∈ later.files) := by
  refine ⟨?_, fun file stored => ?_, fun file stored later reached => ?_, fun idle later reached => ?_⟩
  · refine traced.reached.invariant (Exact hashing) ⟨.nil, fun _ listed => absurd listed List.not_mem_nil,
      fun _ listed => absurd listed List.not_mem_nil⟩ fun _ _ _ exact _ stepped => exact_step exact stepped
  · obtain ⟨build, rfl, taken, listed, read⟩ := (read_traced traced).2 file stored
    have guarded := traced.always (fun taken => ∀ build, taken.action = .read build →
      build.day ∈ closedDays retentionDays build.now ∧ build.flows ≠ []) (fun before event after _ _ stepped => by
        rintro build rfl
        rcases night_cases stepped with ⟨_, same, closed, flows, -⟩ | ⟨_, _, same, -⟩ | ⟨_, same, -⟩
        · cases same
          exact ⟨closed, flows⟩
        · cases same
        · cases same) taken listed build read
    exact ⟨build, rfl, ⟨taken, listed, read⟩, guarded.2, closedDays_ended guarded.1⟩
  · refine reached.invariant (fun archive => archive.hasFile file.locationId file.day = true) ?_
      fun _ _ _ held _ stepped => hasFile_step held stepped
    exact List.any_eq_true.mpr ⟨file, stored, by simp⟩
  · have kept := reached.invariant (fun state => Alone state ∧ ∀ file ∈ archive.files, file ∈ state.files)
      ⟨⟨by simp [idle], fun build listed => by simp [idle] at listed⟩, fun _ stored => stored⟩
      fun _ _ _ held turn stepped => by
        obtain ⟨alone, more⟩ := alone_step held.1 turn stepped
        exact ⟨alone, fun file stored => more file (held.2 file stored)⟩
    exact kept.2

end Nightly

def firstNight : DayBuild where
  now := 66600000000
  sources := ⟨mirrored.map (⟨some someUuid, ·⟩), [], [], [], [], fun _ _ => ⟨[], [], []⟩, 0⟩
  organizationId := phoneRequest.organizationId
  locationId := someUuid
  day := 719163
  recordsIncomplete := false

theorem nightly_builds_exact_firstNight : ∃ archive, Exact emptyArchive.hashing archive ∧
    archive.hasFile firstNight.locationId firstNight.day = true := by
  obtain ⟨archive, reached, seen⟩ := @run_observed Archive NightEvent (fun _ _ => True)
    (nightStep emptyArchive.hashing 7 fun _ => firstNight.organizationId) ⟨[], [], []⟩ (fun _ _ => true)
    (fun archive => archive.hasFile firstNight.locationId firstNight.day) (fun _ _ _ => trivial)
    [.read firstNight, .save 0] (by decide +kernel)
  obtain ⟨trace, traced⟩ := reached.traced
  exact ⟨archive, (nightly_builds_exact traced).1, seen⟩

end CloudGuest.Ipdr
