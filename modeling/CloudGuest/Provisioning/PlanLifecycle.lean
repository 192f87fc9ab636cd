import CloudGuest.Library.Runs
import CloudGuest.Provisioning.SafetyNet

/-!
The life of one stored plan (plan_service.py) under requests that overlap. A request
reads the committed row and tests it; its first update takes the row's lock and is
made on the row as it then is; its session commits at the end.

The status APPLYING is therefore never seen by another request, and what a request has
tested may no longer hold when it gets to write. `isTimely` keeps a run to the steps
where neither matters.
-/

namespace CloudGuest.PlanLifecycle
open Planner Runs

/-! ### Requests -/

structure PlanRow where
  status : PlanStatus
  renderedVersionId : Option Nat
  preApplyBackupVersionId : Option Nat
  deriving DecidableEq

inductive Request where
  | approvePlan | renderPlan | preparePlan | applyPlan | verifyPlanFinal
  deriving DecidableEq

def accepts (plan : ConfigurationPlan) (row : PlanRow) : Request → Bool
  | .approvePlan => row.status ≠ .blocked && row.status ≠ .applied
  | .renderPlan => row.status = .approved && row.renderedVersionId = none && plan.conflicts = []
  | .preparePlan =>
      (row.status = .approved || row.status = .rendering) && row.preApplyBackupVersionId = none
  | .applyPlan =>
      !applyPlanRefuses ⟨row.status, row.renderedVersionId, row.preApplyBackupVersionId, plan.actions⟩
  | .verifyPlanFinal => row.status = .applied

/-- A request that has passed its tests and has written nothing. -/
structure Reading where
  request : Request
  seen : PlanRow
  deriving DecidableEq

inductive Stage where
  | approved
  | marked
  | rendered
  | prepared
  | applying
  | started
  | finished
  deriving DecidableEq

def Stage.isStarted (stage : Stage) : Bool := stage = .started || stage = .finished

def Stage.isApplying (stage : Stage) : Bool := stage = .applying || stage.isStarted

structure Writing where
  stage : Stage
  version : PlanRow
  deriving DecidableEq

def Reading.firstWrite (reading : Reading) (row : PlanRow) (id : Nat) : Option Writing :=
  -- The first update of an operation, on the row as it is. The session writes a status only where
  -- it differs from the one that was read.
  match reading.request with
  | .approvePlan =>
      some ⟨.approved, if reading.seen.status = .approved then row else { row with status := .approved }⟩
  | .renderPlan => some ⟨.marked, { row with status := .rendering }⟩
  | .preparePlan => some ⟨.prepared, { row with preApplyBackupVersionId := some id }⟩
  | .applyPlan => some ⟨.applying, { row with status := .applying }⟩
  | .verifyPlanFinal => none

def Writing.proceed (writing : Writing) (id : Nat) (applyOk : Bool) : Option Writing :=
  -- What the holder does next: the version is recorded, or applied with an outcome.
  match writing.stage with
  | .marked => some ⟨.rendered, { writing.version with renderedVersionId := some id }⟩
  | .applying => some ⟨.started, writing.version⟩
  | .started => some ⟨.finished, { writing.version with status := if applyOk then .applied else .failed }⟩
  | _ => none

def Stage.isDone (stage : Stage) : Bool :=
  stage = .approved || stage = .rendered || stage = .prepared || stage = .finished

/-! ### The plan under requests -/

/-- The committed row, the requests under way, the versions that are APPLIED, and what has happened: the
starts of `apply_version` since the last approval and at all, whether an approval was accepted during an
apply, and whether APPLIED was left. -/
structure System where
  row : PlanRow
  readings : List Reading
  holder : Option Writing
  applied : List Nat
  starts : Nat
  everStarted : Bool
  approvedApplying : Bool
  appliedLeft : Bool

def System.created (plan : ConfigurationPlan) : System :=
  ⟨⟨plan.status, none, none⟩, [], none, [], 0, false, false, false⟩

inductive Action where
  | read (request : Request)
  | write (place id : Nat)
  | proceed (id : Nat) (applyOk : Bool)
  | commit
  | abort
  | leave (place : Nat)

def step (plan : ConfigurationPlan) (system : System) : Action → Option System
  | .read request =>
      if accepts plan system.row request then
        some { system with
          readings := system.readings ++ [⟨request, system.row⟩]
          approvedApplying := system.approvedApplying ||
            request = .approvePlan && system.holder.any (·.stage.isApplying) }
      else none
  | .write place id => do
      let reading ← system.readings[place]?
      guard (system.holder = none)
      let writing ← reading.firstWrite system.row id
      some { system with readings := system.readings.eraseIdx place, holder := some writing }
  | .proceed id applyOk => do
      let writing ← system.holder
      let next ← writing.proceed id applyOk
      -- `apply_version` is called behind the first update, and raises for a version that is APPLIED
      guard (writing.stage ≠ .applying ∨ ∀ version ∈ writing.version.renderedVersionId, version ∉ system.applied)
      let isStart := decide (writing.stage = .applying)
      some { system with
        holder := some next
        starts := if isStart then system.starts + 1 else system.starts
        everStarted := system.everStarted || isStart }
  | .commit => do
      let writing ← system.holder
      guard writing.stage.isDone
      some { system with
        row := writing.version
        holder := none
        applied := if writing.stage = .finished ∧ writing.version.status = .applied then
          system.applied ++ writing.version.renderedVersionId.toList else system.applied
        starts := if writing.stage = .approved then 0 else system.starts
        appliedLeft := system.appliedLeft || system.row.status = .applied && writing.version.status ≠ .applied }
  | .abort => system.holder.map fun _ => { system with holder := none }
  | .leave place =>
      if place < system.readings.length then
        some { system with readings := system.readings.eraseIdx place }
      else none

structure Law (plan : ConfigurationPlan) (system : System) : Prop where
  unblocked : system.everStarted = true → plan.conflicts = [] ∧ plan.status ≠ .blocked
  decided : system.everStarted = true → plan.decisions = [] ∧ plan.status ≠ .draft
  once : system.starts ≤ 1
  refused : system.approvedApplying = false
  final : system.appliedLeft = false
  renderable : system.row.status = .approved → accepts plan system.row .renderPlan = true

/-! ### Timely requests -/

def isInPlace (row : PlanRow) : Request → Bool
  | .approvePlan => row.renderedVersionId = none
  | .renderPlan => row.status = .approved || row.status = .rendering
  | .applyPlan => row.status = .rendering
  | _ => true

/-- Only a plan is approved that was made to be and is not rendered, a request writes before its
tests have gone stale, and an apply that has started is brought to its end. -/
def isTimely (plan : ConfigurationPlan) (system : System) : Action → Bool
  | .read .approvePlan =>
      plan.decisions = [] && system.row.status ≠ .draft && system.row.renderedVersionId = none
  | .write place _ => (system.readings[place]?).all fun reading => isInPlace system.row reading.request
  | .abort => system.holder.all fun writing => !writing.stage.isStarted
  | _ => true

/-! ### Invariant -/

/-- The plan was built for approval and asks for nothing. -/
structure Clean (plan : ConfigurationPlan) : Prop where
  unblocked : plan.conflicts = []
  decided : plan.decisions = []
  awaiting : plan.status = .awaitingApproval

/-- Where the committed row stands, and how often its version was started by then. -/
inductive Standing (row : PlanRow) (holder : Option Writing) (starts : Nat) : Prop where
  | unrendered (rendered : row.renderedVersionId = none) (unstarted : starts = 0)
      (status : row.status = .awaitingApproval ∨ row.status = .approved)
  | rendered (rendered : row.renderedVersionId ≠ none) (status : row.status = .rendering)
      (started : starts = if holder.any (·.stage.isStarted) then 1 else 0)
  | ended (rendered : row.renderedVersionId ≠ none) (started : starts ≤ 1)
      (status : row.status = .applied ∨ row.status = .failed)

def Writing.Fits (row : PlanRow) (writing : Writing) : Prop :=
  match writing.stage with
  | .approved => row.renderedVersionId = none ∧ writing.version.renderedVersionId = none ∧
      (writing.version.status = .awaitingApproval ∨ writing.version.status = .approved)
  | .marked => (row.status = .approved ∨ row.status = .rendering) ∧ writing.version.status = .rendering
  | .rendered => (row.status = .approved ∨ row.status = .rendering) ∧
      writing.version.status = .rendering ∧ writing.version.renderedVersionId ≠ none
  | .prepared => writing.version.status = row.status ∧
      writing.version.renderedVersionId = row.renderedVersionId
  | .applying => row.status = .rendering ∧ writing.version.renderedVersionId ≠ none
  | .started => row.status = .rendering ∧ writing.version.renderedVersionId ≠ none
  | .finished => row.status = .rendering ∧ writing.version.renderedVersionId ≠ none ∧
      (writing.version.status = .applied ∨ writing.version.status = .failed)

structure Sound (plan : ConfigurationPlan) (system : System) : Prop where
  clean : Clean plan ∨
    (system.row = ⟨plan.status, none, none⟩ ∧ system.readings = [] ∧ system.holder = none ∧
      system.everStarted = false ∧ system.starts = 0)
  standing : Clean plan → Standing system.row system.holder system.starts
  fits : ∀ writing, system.holder = some writing → writing.Fits system.row
  refused : system.approvedApplying = false
  final : system.appliedLeft = false

structure Built (plan : ConfigurationPlan) : Prop where
  status : plan.status = .blocked ∨ plan.status = .draft ∨ plan.status = .awaitingApproval
  unblocked : plan.status ≠ .blocked → plan.conflicts = []

theorem built_of_engine {ctx : PlanContext} {plan : ConfigurationPlan}
    (made : buildConfigurationPlan ctx = some plan) : Built plan := by
  obtain ⟨builder, -, rfl⟩ := Option.map_eq_some_iff.mp made
  by_cases blocked : builder.conflicts = []
  · refine ⟨?_, fun _ => blocked⟩
    simp only [PlanBuilder.resolveStatus, PlanBuilder.blocked, blocked]
    by_cases decided : builder.decisions = []
    · by_cases acted : builder.actions = [] <;> simp [decided, acted]
    · simp [decided]
  · have status : builder.resolveStatus = .blocked := by
      simp [PlanBuilder.resolveStatus, PlanBuilder.blocked, blocked]
    constructor
    · simp [status]
    · intro unblocked
      simp [status] at unblocked

theorem sound_created (plan : ConfigurationPlan) : Sound plan (.created plan) where
  clean := .inr ⟨rfl, rfl, rfl, rfl, rfl⟩
  standing := fun clean => .unrendered rfl rfl (.inl clean.awaiting)
  fits := by simp [System.created]
  refused := rfl
  final := rfl

theorem Sound.law {plan : ConfigurationPlan} {system : System} (built : Built plan)
    (sound : Sound plan system) : Law plan system := by
  have begun : system.everStarted = true → Clean plan := by
    intro started
    rcases sound.clean with clean | ⟨-, -, -, unstarted, -⟩
    · exact clean
    · rw [unstarted] at started
      exact absurd started Bool.false_ne_true
  constructor
  · intro started
    exact ⟨(begun started).unblocked, by simp [(begun started).awaiting]⟩
  · intro started
    exact ⟨(begun started).decided, by simp [(begun started).awaiting]⟩
  · rcases sound.clean with clean | ⟨-, -, -, -, unstarted⟩
    · cases sound.standing clean with
      | unrendered _ unstarted _ => omega
      | rendered _ _ started => rw [started]; split <;> omega
      | ended _ started _ => exact started
    · omega
  · exact sound.refused
  · exact sound.final
  · intro approved
    rcases sound.clean with clean | ⟨created, -⟩
    · cases sound.standing clean with
      | unrendered rendered _ _ => simp [accepts, approved, rendered, clean.unblocked]
      | rendered _ status _ => simp [status] at approved
      | ended _ _ status => simp [approved] at status
    · rw [created] at approved
      rcases built.status with status | status | status <;> simp [status] at approved

theorem clean_of_accepted {plan : ConfigurationPlan} {system : System} {request : Request}
    (built : Built plan) (sound : Sound plan system)
    (timely : isTimely plan system (.read request) = true)
    (accepted : accepts plan system.row request = true) : Clean plan := by
  rcases sound.clean with clean | ⟨created, -⟩
  · exact clean
  · rw [created] at accepted
    cases request with
    | approvePlan =>
        simp only [isTimely, created, accepts, Bool.and_eq_true, decide_eq_true_eq] at timely accepted
        refine ⟨built.unblocked accepted.1, timely.1.1, ?_⟩
        rcases built.status with status | status | status
        · exact absurd status accepted.1
        · exact absurd status timely.1.2
        · exact status
    | renderPlan | preparePlan | applyPlan | verifyPlanFinal =>
        rcases built.status with status | status | status <;>
          simp [accepts, applyPlanRefuses, status] at accepted

theorem applying_rendering {row : PlanRow} {writing : Writing} (fits : writing.Fits row)
    (applying : writing.stage.isApplying = true) : row.status = .rendering := by
  unfold Writing.Fits at fits
  cases stage : writing.stage with
  | applying | started => rw [stage] at fits; exact fits.1
  | finished => rw [stage] at fits; exact fits.1
  | approved | marked | rendered | prepared =>
      rw [stage] at applying
      exact absurd applying Bool.false_ne_true

theorem Standing.rendered_of_status {row : PlanRow} {holder : Option Writing} {starts : Nat}
    (standing : Standing row holder starts) (status : row.status = .rendering) :
    row.renderedVersionId ≠ none ∧ starts = if holder.any (·.stage.isStarted) then 1 else 0 := by
  cases standing with
  | unrendered _ _ other => simp [status] at other
  | rendered rendered _ started => exact ⟨rendered, started⟩
  | ended _ _ other => simp [status] at other

theorem sound_read {plan : ConfigurationPlan} {system next : System} {request : Request}
    (built : Built plan) (sound : Sound plan system)
    (timely : isTimely plan system (.read request) = true)
    (stepped : step plan system (.read request) = some next) : Sound plan next := by
  simp only [step] at stepped
  split at stepped
  · next accepted =>
      have clean := clean_of_accepted built sound timely accepted
      obtain rfl := Option.some.inj stepped
      refine ⟨.inl clean, sound.standing, sound.fits, ?_, sound.final⟩
      rw [sound.refused, Bool.false_or, Bool.and_eq_false_iff]
      by_cases approve : request = .approvePlan
      · right
        rw [Bool.eq_false_iff]
        intro joined
        obtain ⟨writing, held, applying⟩ := (Option.any_eq_true _ _).mp joined
        -- the version of an apply is in the row, and that plan is not to be approved
        have status := applying_rendering (sound.fits writing held) applying
        have version := ((sound.standing clean).rendered_of_status status).1
        subst approve
        simp only [isTimely, Bool.and_eq_true, decide_eq_true_eq] at timely
        exact version timely.2
      · left
        exact decide_eq_false approve
  · cases stepped

theorem firstWrite_fits {reading : Reading} {row : PlanRow} {id starts : Nat} {writing : Writing}
    (standing : Standing row none starts) (inPlace : isInPlace row reading.request = true)
    (wrote : reading.firstWrite row id = some writing) :
    writing.Fits row ∧ writing.stage.isStarted = false := by
  unfold Reading.firstWrite at wrote
  cases request : reading.request with
  | approvePlan =>
      simp only [request, isInPlace, decide_eq_true_eq] at wrote inPlace
      obtain rfl := Option.some.inj wrote
      refine ⟨?_, rfl⟩
      cases standing with
      | unrendered _ _ status =>
          by_cases again : reading.seen.status = .approved <;> simp [Writing.Fits, again, inPlace, status]
      | rendered version _ _ => exact absurd inPlace version
      | ended version _ _ => exact absurd inPlace version
  | renderPlan =>
      simp only [request, isInPlace, Bool.or_eq_true, decide_eq_true_eq] at wrote inPlace
      obtain rfl := Option.some.inj wrote
      exact ⟨⟨inPlace, rfl⟩, rfl⟩
  | preparePlan =>
      simp only [request] at wrote
      obtain rfl := Option.some.inj wrote
      exact ⟨⟨rfl, rfl⟩, rfl⟩
  | applyPlan =>
      simp only [request, isInPlace, decide_eq_true_eq] at wrote inPlace
      obtain rfl := Option.some.inj wrote
      exact ⟨⟨inPlace, (standing.rendered_of_status inPlace).1⟩, rfl⟩
  | verifyPlanFinal => simp [request] at wrote

theorem Standing.unstarted {row : PlanRow} {holder other : Option Writing} {starts : Nat}
    (standing : Standing row holder starts)
    (same : other.any (·.stage.isStarted) = holder.any (·.stage.isStarted)) :
    Standing row other starts := by
  cases standing with
  | unrendered version unstarted status => exact .unrendered version unstarted status
  | rendered version status started => exact .rendered version status (by rw [started, same])
  | ended version started status => exact .ended version started status

theorem sound_write {plan : ConfigurationPlan} {system next : System} {place id : Nat}
    (sound : Sound plan system) (timely : isTimely plan system (.write place id) = true)
    (stepped : step plan system (.write place id) = some next) : Sound plan next := by
  simp only [step, Option.bind_eq_bind, Option.bind_eq_some_iff, Option.guard_eq_some'] at stepped
  obtain ⟨reading, found, -, free, writing, wrote, stepped⟩ := stepped
  obtain rfl := Option.some.inj stepped
  have clean : Clean plan := by
    rcases sound.clean with clean | ⟨-, empty, -⟩
    · exact clean
    · simp [empty] at found
  have standing := sound.standing clean
  rw [free] at standing
  simp only [isTimely, found, Option.all_some] at timely
  obtain ⟨fits, calm⟩ := firstWrite_fits standing timely wrote
  refine ⟨.inl clean, fun _ => standing.unstarted (by simp [calm]), ?_, sound.refused, sound.final⟩
  intro other held
  obtain rfl := Option.some.inj held
  exact fits

theorem sound_proceed {plan : ConfigurationPlan} {system next : System} {id : Nat} {applyOk : Bool}
    (sound : Sound plan system)
    (stepped : step plan system (.proceed id applyOk) = some next) : Sound plan next := by
  simp only [step, Option.bind_eq_bind, Option.bind_eq_some_iff, Option.guard_eq_some'] at stepped
  obtain ⟨writing, held, further, proceeded, -, -, stepped⟩ := stepped
  obtain rfl := Option.some.inj stepped
  have clean : Clean plan := by
    rcases sound.clean with clean | ⟨-, -, free, -⟩
    · exact clean
    · simp [free] at held
  have standing := sound.standing clean
  have fits := sound.fits writing held
  unfold Writing.proceed at proceeded
  unfold Writing.Fits at fits
  cases stage : writing.stage with
  | marked =>
      simp only [stage] at proceeded fits
      obtain rfl := Option.some.inj proceeded
      refine ⟨.inl clean, fun _ => standing.unstarted ?_, ?_, sound.refused, sound.final⟩
      · simp [held, stage, Stage.isStarted]
      · intro other same
        obtain rfl := Option.some.inj same
        exact ⟨fits.1, fits.2, by simp⟩
  | applying =>
      simp only [stage] at proceeded fits
      obtain rfl := Option.some.inj proceeded
      obtain ⟨version, started⟩ := standing.rendered_of_status fits.1
      refine ⟨.inl clean, fun _ => .rendered version fits.1 ?_, ?_, sound.refused, sound.final⟩
      · simp [started, held, stage, Stage.isStarted]
      · intro other same
        obtain rfl := Option.some.inj same
        exact fits
  | started =>
      simp only [stage] at proceeded fits
      obtain rfl := Option.some.inj proceeded
      refine ⟨.inl clean, fun _ => standing.unstarted ?_, ?_, sound.refused, sound.final⟩
      · simp [held, stage, Stage.isStarted]
      · intro other same
        obtain rfl := Option.some.inj same
        exact ⟨fits.1, fits.2, by cases applyOk <;> simp⟩
  | approved | rendered | prepared | finished => simp [stage] at proceeded

theorem Standing.committed {row : PlanRow} {writing : Writing} {starts : Nat}
    (standing : Standing row (some writing) starts) (fits : writing.Fits row)
    (isDone : writing.stage.isDone = true) :
    Standing writing.version none (if writing.stage = .approved then 0 else starts) ∧
      (row.status = .applied → writing.version.status = .applied) := by
  unfold Writing.Fits at fits
  cases stage : writing.stage with
  | approved =>
      simp only [stage] at fits
      refine ⟨.unrendered fits.2.1 rfl fits.2.2, fun applied => ?_⟩
      cases standing with
      | unrendered _ _ status => simp [applied] at status
      | rendered version _ _ => exact absurd fits.1 version
      | ended version _ _ => exact absurd fits.1 version
  | rendered =>
      simp only [stage] at fits
      have unstarted : starts = 0 := by
        cases standing with
        | unrendered _ unstarted _ => exact unstarted
        | rendered _ _ started => simpa [stage, Stage.isStarted] using started
        | ended _ _ status => rcases fits.1 with other | other <;> simp [other] at status
      refine ⟨.rendered fits.2.2 fits.2.1 (by simp [unstarted]), fun applied => ?_⟩
      simp [applied] at fits
  | prepared =>
      simp only [stage] at fits
      refine ⟨?_, fun applied => fits.1.trans applied⟩
      rw [if_neg (by decide)]
      cases standing with
      | unrendered version unstarted status =>
          exact .unrendered (fits.2.trans version) unstarted (by rw [fits.1]; exact status)
      | rendered version status started =>
          exact .rendered (by rw [fits.2]; exact version) (fits.1.trans status)
            (by simpa [stage, Stage.isStarted] using started)
      | ended version started status =>
          exact .ended (by rw [fits.2]; exact version) started (by rw [fits.1]; exact status)
  | finished =>
      simp only [stage] at fits
      have started := (standing.rendered_of_status fits.1).2
      simp only [Option.any_some, stage, Stage.isStarted, decide_true, Bool.or_true, if_true] at started
      refine ⟨.ended fits.2.1 (by simp [started]) fits.2.2, fun applied => ?_⟩
      simp [applied] at fits
  | marked | applying | started =>
      rw [stage] at isDone
      exact absurd isDone Bool.false_ne_true

theorem sound_commit {plan : ConfigurationPlan} {system next : System} (sound : Sound plan system)
    (stepped : step plan system .commit = some next) : Sound plan next := by
  simp only [step, Option.bind_eq_bind, Option.bind_eq_some_iff, Option.guard_eq_some'] at stepped
  obtain ⟨writing, held, -, isDone, stepped⟩ := stepped
  obtain rfl := Option.some.inj stepped
  have clean : Clean plan := by
    rcases sound.clean with clean | ⟨-, -, free, -⟩
    · exact clean
    · simp [free] at held
  have standing := sound.standing clean
  rw [held] at standing
  obtain ⟨committed, forward⟩ := standing.committed (sound.fits writing held) isDone
  refine ⟨.inl clean, fun _ => committed, by simp, sound.refused, ?_⟩
  rw [sound.final, Bool.false_or, Bool.and_eq_false_iff]
  by_cases applied : system.row.status = .applied
  · right
    simp [forward applied]
  · left
    exact decide_eq_false applied

theorem sound_abort {plan : ConfigurationPlan} {system next : System} (sound : Sound plan system)
    (timely : isTimely plan system .abort = true) (stepped : step plan system .abort = some next) :
    Sound plan next := by
  obtain ⟨writing, held, rfl⟩ := Option.map_eq_some_iff.mp stepped
  have clean : Clean plan := by
    rcases sound.clean with clean | ⟨-, -, free, -⟩
    · exact clean
    · simp [free] at held
  refine ⟨.inl clean, fun _ => (sound.standing clean).unstarted ?_, by simp, sound.refused, sound.final⟩
  simp only [isTimely, held, Option.all_some, Bool.not_eq_true'] at timely
  simp [held, timely]

theorem sound_leave {plan : ConfigurationPlan} {system next : System} {place : Nat}
    (sound : Sound plan system) (stepped : step plan system (.leave place) = some next) :
    Sound plan next := by
  simp only [step] at stepped
  split at stepped
  · next present =>
      obtain rfl := Option.some.inj stepped
      refine ⟨?_, sound.standing, sound.fits, sound.refused, sound.final⟩
      rcases sound.clean with clean | ⟨-, empty, -⟩
      · exact .inl clean
      · simp [empty] at present
  · cases stepped

theorem sound_step {plan : ConfigurationPlan} (built : Built plan) (system : System) (action : Action)
    (next : System) (sound : Sound plan system) (timely : isTimely plan system action = true)
    (stepped : step plan system action = some next) : Sound plan next := by
  cases action with
  | read request => exact sound_read built sound timely stepped
  | write place id => exact sound_write sound timely stepped
  | proceed id applyOk => exact sound_proceed sound stepped
  | commit => exact sound_commit sound stepped
  | abort => exact sound_abort sound timely stepped
  | leave place => exact sound_leave sound stepped

/-- A plan of the engine keeps the promises of its lifecycle in every timely run. -/
theorem plan_lifecycle (ctx : PlanContext) (plan : ConfigurationPlan)
    (made : buildConfigurationPlan ctx = some plan) (system : System)
    (reached : Reached (step plan) (fun system action => isTimely plan system action = true)
      (.created plan) system) : Law plan system := by
  have built := built_of_engine made
  have sound := reached.invariant (Sound plan) (sound_created plan) (sound_step built)
  exact sound.law built

section Executed

def guestPlan : ConfigurationPlan := builtFor "ether4"

/-- A plan is approved, rendered, prepared and applied, with a second apply that comes too late. -/
theorem plan_lifecycle_applied :
    buildConfigurationPlan (guestsOn "ether4") = some guestPlan ∧
    ∃ system, Reached (step guestPlan) (fun system action => isTimely guestPlan system action = true)
        (.created guestPlan) system ∧
      system.row = ⟨.applied, some 7, some 8⟩ ∧ system.starts = 1 ∧ Law guestPlan system := by
  have made : buildConfigurationPlan (guestsOn "ether4") = some guestPlan := rfl
  obtain ⟨system, reached, seen⟩ := run_observed (step guestPlan) (.created guestPlan)
    (isTimely guestPlan)
    (fun system => system.row = ⟨.applied, some 7, some 8⟩ && system.starts = 1)
    (fun _ _ checked => checked)
    [.read .approvePlan, .write 0 0, .commit, .read .renderPlan, .write 0 0, .proceed 7 true, .commit,
      .read .applyPlan, .read .applyPlan, .read .preparePlan, .write 2 8, .commit,
      .write 0 0, .proceed 0 true, .proceed 0 true, .commit, .leave 0, .read .verifyPlanFinal, .leave 0]
    (by decide +kernel)
  simp only [Bool.and_eq_true, decide_eq_true_eq] at seen
  exact ⟨made, system, reached, seen.1, seen.2,
    plan_lifecycle (guestsOn "ether4") guestPlan made system reached⟩

/-- Two applies have read the plan before the first one writes; the first fails, and the version is started
again under one approval. An approval that is accepted during an apply leaves APPLIED, and the plan that
it approves cannot be rendered. -/
theorem overlapping_applies_break_the_plan :
    buildConfigurationPlan (guestsOn "ether4") = some guestPlan ∧
    (∃ system, Reached (step guestPlan) (fun _ _ => True) (.created guestPlan) system ∧
      ¬ Law guestPlan system ∧ system.starts = 2) ∧
    ∃ system, Reached (step guestPlan) (fun _ _ => True) (.created guestPlan) system ∧
      ¬ Law guestPlan system ∧ system.approvedApplying = true ∧ system.appliedLeft = true ∧
      system.row.status = .approved ∧ accepts guestPlan system.row .renderPlan = false := by
  refine ⟨rfl, ?_, ?_⟩
  · obtain ⟨system, reached, seen⟩ := run_observed (step guestPlan) (.created guestPlan)
      (fun _ _ => true) (fun system => system.starts = 2) (fun _ _ _ => trivial)
      [.read .approvePlan, .write 0 0, .commit, .read .renderPlan, .write 0 0, .proceed 7 true, .commit,
        .read .applyPlan, .read .applyPlan, .write 0 0, .proceed 0 true, .proceed 0 false, .commit,
        .write 0 0, .proceed 0 true] (by decide +kernel)
    have twice : system.starts = 2 := of_decide_eq_true seen
    refine ⟨system, reached, fun law => ?_, twice⟩
    have once := law.once
    omega
  · obtain ⟨system, reached, seen⟩ := run_observed (step guestPlan) (.created guestPlan)
      (fun _ _ => true) (fun system => system.approvedApplying && system.appliedLeft &&
        system.row.status = .approved && accepts guestPlan system.row .renderPlan = false)
      (fun _ _ _ => trivial)
      [.read .approvePlan, .write 0 0, .commit, .read .renderPlan, .write 0 0, .proceed 7 true, .commit,
        .read .applyPlan, .write 0 0, .proceed 0 true, .read .approvePlan, .proceed 0 true, .commit,
        .write 0 0, .commit] (by decide +kernel)
    simp only [Bool.and_eq_true, decide_eq_true_eq] at seen
    obtain ⟨⟨⟨joined, left⟩, approved⟩, unrenderable⟩ := seen
    refine ⟨system, reached, fun law => ?_, joined, left, approved, unrenderable⟩
    exact absurd (law.refused.symm.trans joined) Bool.false_ne_true

end Executed

end CloudGuest.PlanLifecycle
