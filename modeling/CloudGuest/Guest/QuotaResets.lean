import CloudGuest.Guest.QuotaPeriods
import CloudGuest.Library.Rollovers
import CloudGuest.Library.Runs

/-!
The usage rows of a guest while time passes (guest/service.py, `get_or_reset_quota_usage`,
`get_or_reset_quota_usages`, `run_quota_reset`). Each path compares the row's start
with the one it computes for the instant and starts the row anew where that is later.
A guest's rows are followed with what was counted in them.
-/

namespace CloudGuest.Guest.QuotaResets

open Calendar Zones QuotaPeriods Rollovers

/-! ### Rows -/

/-- A time at which a period's row was read, and what was then counted in it. -/
structure Touch where
  instant : Moment
  start : Moment
  bytes : Nat
  minutes : Nat
  renewed : Bool

structure Book where
  row : Option GuestQuotaUsage
  touches : List Touch

def counted (usage : GuestQuotaUsage) (now : Moment) (bytes minutes : Nat) : GuestQuotaUsage :=
  { usage with
    bytesUsed := usage.bytesUsed + bytes
    minutesUsed := usage.minutesUsed + minutes
    lastAccruedAt := if 0 < minutes then some now.val else usage.lastAccruedAt }

def Book.count (book : Book) (now start : Moment) (bytes minutes : Nat) : Book where
  row := some (counted (getOrResetQuotaUsage book.row start.val) now bytes minutes)
  touches :=
    ⟨now, start, bytes, minutes, book.row.all fun usage => usage.periodStart < start.val⟩ ::
      book.touches

def Book.reset (book : Book) (now start : Moment) (usage : GuestQuotaUsage) : Book where
  row := some (if usage.periodStart < start.val then ⟨start.val, 0, 0, none⟩ else usage)
  touches := ⟨now, start, 0, 0, usage.periodStart < start.val⟩ :: book.touches

inductive Access where
  | one (period : QuotaPeriodType) (bytes minutes : Nat)
  | several (periods : List QuotaPeriodType) (bytes minutes : QuotaPeriodType → Nat)
  | sweep

def Access.reads (access : Access) (row : Option GuestQuotaUsage) (period : QuotaPeriodType) :
    Prop :=
  match access with
  | .one read _ _ => read = period
  | .several periods _ _ => period ∈ periods
  | .sweep => row ≠ none

structure Event where
  now : Moment
  access : Access

/-- What an event makes of a period's row, if the calendar has the period's start. -/
def touched (zone : Zone) (event : Event) (period : QuotaPeriodType) (book : Book) : Option Book :=
  let start := computePeriodStart zone period event.now
  match event.access with
  | .one read bytes minutes =>
      if read = period then start.map fun start => book.count event.now start bytes minutes
      else some book
  | .several periods bytes minutes =>
      if period ∈ periods then
        start.map fun start => book.count event.now start (bytes period) (minutes period)
      else some book
  | .sweep =>
      match book.row with
      | none => some book
      | some usage => start.map fun start => book.reset event.now start usage

/-! ### Runs -/

structure World where
  books : QuotaPeriodType → Book
  clock : Moment

def World.start (clock : Moment) : World := ⟨fun _ => ⟨none, []⟩, clock⟩

def step (zone : Zone) (world : World) (event : Event) : Option World :=
  if world.clock ≤ event.now ∧
      ∀ period ∈ QuotaPeriodType.all, (touched zone event period (world.books period)).isSome then
    some
      { books := fun period =>
          (touched zone event period (world.books period)).getD (world.books period)
        clock := event.now }
  else none

/-- The midnights of the periods whose rows an event reads are settled. -/
def AtSettled (zone : Zone) (world : World) (event : Event) : Prop :=
  ∀ period, event.access.reads (world.books period).row period → Settled zone period event.now

/-- The row was reset at the first read in each period and at no other, and holds all that was
counted in the period of the last one. -/
structure ResetOnce (zone : Zone) (period : QuotaPeriodType) (book : Book) : Prop where
  once : ∀ later touch earlier, book.touches = later ++ touch :: earlier →
    (touch.renewed = true ↔
      ∀ past ∈ earlier, ¬SamePeriod zone period past.instant touch.instant)
  kept : ∀ last earlier, book.touches = last :: earlier →
    let current := book.touches.filter fun touch =>
      SamePeriod zone period touch.instant last.instant
    ∃ usage, book.row = some usage ∧
      usage.bytesUsed = (current.map Touch.bytes).sum ∧
      usage.minutesUsed = (current.map Touch.minutes).sum

/-! ### Rows as counters -/

def counterOf (usage : GuestQuotaUsage) : Counter Int (Nat × Nat) :=
  ⟨usage.periodStart, usage.bytesUsed, usage.minutesUsed⟩

def Touch.entry (touch : Touch) : Entry Int (Nat × Nat) :=
  ⟨touch.start.val, (touch.bytes, touch.minutes), touch.renewed⟩

theorem counterOf_reset (row : Option GuestQuotaUsage) (start : Int) :
    counterOf (getOrResetQuotaUsage row start) = rolled (row.map counterOf) start := by
  cases row with
  | none => rfl
  | some usage =>
      simp only [getOrResetQuotaUsage, rolled, Option.map_some, counterOf]
      split <;> rfl

theorem renews_row (row : Option GuestQuotaUsage) (start : Int) :
    renews (row.map counterOf) start = row.all fun usage => usage.periodStart < start := by
  cases row <;> rfl

theorem countedUnder_entries (touches : List Touch) (start : Int) :
    countedUnder start (touches.map Touch.entry) =
      (((touches.filter fun touch => touch.start.val = start).map Touch.bytes).sum,
        ((touches.filter fun touch => touch.start.val = start).map Touch.minutes).sum) := by
  induction touches with
  | nil => rfl
  | cons touch rest ih =>
      by_cases here : touch.start.val = start
      · subst here
        rw [List.map_cons]
        have added := countedUnder_cons touch.entry (rest.map Touch.entry)
        simp only [Touch.entry] at added ih ⊢
        rw [added, ih]
        simp [Nat.add_comm]
      · have apart : countedUnder start (touch.entry :: rest.map Touch.entry) =
            countedUnder start (rest.map Touch.entry) := by
          simp [countedUnder, RunningTotals.part, Touch.entry, here]
        rw [List.map_cons, apart, ih]
        simp [here]

/-! ### What holds at every time -/

/-- The row is the counter of its reads, each of them at a settled start. -/
structure Ledger (zone : Zone) (period : QuotaPeriodType) (clock : Moment) (book : Book) :
    Prop where
  tells : Tells (book.touches.map Touch.entry) (book.row.map counterOf)
  dated : ∀ touch ∈ book.touches, Settled zone period touch.instant ∧
    computePeriodStart zone period touch.instant = some touch.start ∧ touch.instant ≤ clock

section Ledgers

variable {zone : Zone} {period : QuotaPeriodType} {clock now start : Moment} {book next : Book}

theorem Ledger.later (ledger : Ledger zone period clock book) (passed : clock ≤ now) :
    Ledger zone period now book := by
  refine ⟨ledger.tells, ?_⟩
  intro touch member
  obtain ⟨settled, computed, before⟩ := ledger.dated touch member
  exact ⟨settled, computed, le_trans before passed⟩

theorem Ledger.count (ledger : Ledger zone period clock book) (passed : clock ≤ now)
    (settled : Settled zone period now) (computed : computePeriodStart zone period now = some start)
    (bytes minutes : Nat) : Ledger zone period now (book.count now start bytes minutes) := by
  -- The starts are ordered as the reads are, so that the row's start never has to go back.
  have grown : ∀ past ∈ book.touches.map Touch.entry, past.key ≤ start.val := by
    intro past member
    obtain ⟨touch, listed, rfl⟩ := List.mem_map.mp member
    obtain ⟨touchSettled, touchComputed, before⟩ := ledger.dated touch listed
    exact (starts_ordered zone period touch.instant now touch.start start touchSettled settled
      touchComputed computed).1 (le_trans before passed)
  constructor
  · have tells := ledger.tells.enter grown (bytes, minutes)
    rw [renews_row, ← counterOf_reset] at tells
    exact tells
  · intro touch member
    rcases List.mem_cons.mp member with rfl | earlier
    · exact ⟨settled, computed, le_refl now⟩
    · exact (ledger.later passed).dated touch earlier

theorem reset_count (usage : GuestQuotaUsage) (found : book.row = some usage) :
    book.reset now start usage = book.count now start 0 0 := by
  simp only [Book.reset, Book.count, found, getOrResetQuotaUsage, counted]
  rfl

theorem touched_cases {event : Event} (done : touched zone event period book = some next) :
    next = book ∨ event.access.reads book.row period ∧ ∃ start bytes minutes,
      computePeriodStart zone period event.now = some start ∧
        next = book.count event.now start bytes minutes := by
  obtain ⟨now, access⟩ := event
  -- Each way to a row passes it over or counts in it.
  cases access with
  | one read bytes minutes =>
      simp only [touched] at done
      split at done
      · obtain ⟨start, computed, rfl⟩ := Option.map_eq_some_iff.mp done
        exact Or.inr ⟨‹read = period›, start, bytes, minutes, computed, rfl⟩
      · exact Or.inl (Option.some.inj done).symm
  | several periods bytes minutes =>
      simp only [touched] at done
      split at done
      · obtain ⟨start, computed, rfl⟩ := Option.map_eq_some_iff.mp done
        exact Or.inr ⟨‹period ∈ periods›, start, bytes period, minutes period, computed, rfl⟩
      · exact Or.inl (Option.some.inj done).symm
  | sweep =>
      simp only [touched] at done
      split at done
      · exact Or.inl (Option.some.inj done).symm
      · rename_i usage found
        obtain ⟨start, computed, rfl⟩ := Option.map_eq_some_iff.mp done
        have present : book.row ≠ none := by simp [found]
        exact Or.inr ⟨present, start, 0, 0, computed, reset_count usage found⟩

theorem touched_ledger {event : Event} (ledger : Ledger zone period clock book)
    (passed : clock ≤ event.now)
    (settled : event.access.reads book.row period → Settled zone period event.now)
    (done : touched zone event period book = some next) : Ledger zone period event.now next := by
  rcases touched_cases done with rfl | ⟨reads, start, bytes, minutes, computed, rfl⟩
  · exact ledger.later passed
  · exact ledger.count passed (settled reads) computed bytes minutes

theorem Ledger.same (ledger : Ledger zone period clock book) {touch other : Touch}
    (member : touch ∈ book.touches) (otherMember : other ∈ book.touches) :
    touch.entry.key = other.entry.key ↔ SamePeriod zone period touch.instant other.instant := by
  obtain ⟨settled, computed, -⟩ := ledger.dated touch member
  obtain ⟨otherSettled, otherComputed, -⟩ := ledger.dated other otherMember
  exact (starts_ordered zone period touch.instant other.instant touch.start other.start settled
    otherSettled computed otherComputed).2

theorem Ledger.resetOnce (ledger : Ledger zone period clock book) :
    ResetOnce zone period book := by
  constructor
  -- Keys are periods here, so what the log says of keys the touches say of periods.
  · intro later touch earlier split
    have here : touch ∈ book.touches := by simp [split]
    have once := ledger.tells.renewedOnce
    rw [split, List.map_append, List.map_cons] at once
    constructor
    · intro renewed past member same
      have listed : past ∈ book.touches := by simp [split, member]
      exact once.at.mp renewed past.entry (List.mem_map_of_mem member)
        ((ledger.same listed here).mpr same)
    · intro apart
      refine once.at.mpr ?_
      intro entry member
      obtain ⟨past, old, rfl⟩ := List.mem_map.mp member
      have listed : past ∈ book.touches := by simp [split, old]
      exact fun same => apart past old ((ledger.same listed here).mp same)
  · intro last earlier split
    have here : last ∈ book.touches := by simp [split]
    have current : (book.touches.filter fun touch => touch.start.val = last.start.val) =
        book.touches.filter fun touch => SamePeriod zone period touch.instant last.instant := by
      refine List.filter_congr ?_
      intro touch member
      exact decide_eq_decide.mpr (ledger.same member here)
    have tells := ledger.tells
    have summed := countedUnder_entries book.touches last.start.val
    cases found : book.row with
    | none =>
        rw [found, split] at tells
        exact tells.elim
    | some usage =>
        rw [found, split] at tells
        obtain ⟨start, -, total, -⟩ := tells
        rw [← List.map_cons, ← split, ← start] at total
        rw [current] at summed
        obtain ⟨bytes, minutes⟩ := Prod.mk.inj (total.trans summed)
        exact ⟨usage, rfl, bytes, minutes⟩

end Ledgers

theorem step_spec {zone : Zone} {world next : World} {event : Event}
    (stepped : step zone world event = some next) :
    next.clock = event.now ∧ world.clock ≤ event.now ∧
      ∀ period, touched zone event period (world.books period) = some (next.books period) := by
  simp only [step] at stepped
  split at stepped
  · rename_i enabled
    obtain rfl := Option.some.inj stepped
    refine ⟨rfl, enabled.1, ?_⟩
    intro period
    obtain ⟨book, done⟩ := Option.isSome_iff_exists.mp (enabled.2 period period.mem_all)
    simp [done]
  · cases stepped

/-- While the midnights are settled, the rows are reset once a period and nothing counted in the
current one is lost. -/
theorem resets_once (zone : Zone) (clock : Moment) (final : World)
    (reached : Runs.Reached (step zone) (AtSettled zone) (World.start clock) final)
    (period : QuotaPeriodType) : ResetOnce zone period (final.books period) := by
  have ledger : Ledger zone period final.clock (final.books period) := by
    have initial : Ledger zone period clock ((World.start clock).books period) :=
      ⟨trivial, fun _ member => absurd member List.not_mem_nil⟩
    refine reached.invariant (fun world => Ledger zone period world.clock (world.books period))
      initial ?_
    intro world event next ledger settled stepped
    obtain ⟨now, passed, done⟩ := step_spec stepped
    rw [now]
    exact touched_ledger ledger passed (settled period) (done period)
  exact ledger.resetOnce

end CloudGuest.Guest.QuotaResets
