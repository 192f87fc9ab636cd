import Mathlib.Data.List.Basic

/-!
Runs of a machine whose steps may be disabled. `admitted` restricts which
enabled actions a run may take, so that a property can be stated for every run
whose steps all meet a condition on the state before the step.
-/

namespace CloudGuest.Runs

universe u v
variable {State : Type u} {Action : Type v}
variable {step : State → Action → Option State} {admitted weaker : State → Action → Prop}
variable {start middle final : State}

inductive Reached (step : State → Action → Option State) (admitted : State → Action → Prop)
    (start : State) : State → Prop where
  | start : Reached step admitted start start
  | next {state next : State} {action : Action} (reached : Reached step admitted start state)
      (allowed : admitted state action) (stepped : step state action = some next) :
      Reached step admitted start next

theorem Reached.invariant (Holds : State → Prop) (initial : Holds start)
    (preserved : ∀ state action next, Holds state → admitted state action →
      step state action = some next → Holds next)
    (reached : Reached step admitted start final) : Holds final := by
  induction reached with
  | start => exact initial
  | next _ allowed stepped ih => exact preserved _ _ _ ih allowed stepped

theorem Reached.trans (first : Reached step admitted start middle)
    (second : Reached step admitted middle final) : Reached step admitted start final := by
  induction second with
  | start => exact first
  | next _ allowed stepped ih => exact .next ih allowed stepped

theorem Reached.weaken (implies : ∀ state action, admitted state action → weaker state action)
    (reached : Reached step admitted start final) : Reached step weaker start final := by
  induction reached with
  | start => exact .start
  | next _ allowed stepped ih => exact .next ih (implies _ _ allowed) stepped

structure Taken (State : Type u) (Action : Type v) where
  before : State
  action : Action
  after : State

inductive Traced (step : State → Action → Option State) (admitted : State → Action → Prop)
    (start : State) : List (Taken State Action) → State → Prop where
  | start : Traced step admitted start [] start
  | next {trace : List (Taken State Action)} {state next : State} {action : Action}
      (traced : Traced step admitted start trace state) (allowed : admitted state action)
      (stepped : step state action = some next) :
      Traced step admitted start (trace ++ [⟨state, action, next⟩]) next

theorem Traced.reached {trace : List (Taken State Action)}
    (traced : Traced step admitted start trace final) : Reached step admitted start final := by
  induction traced with
  | start => exact .start
  | next _ allowed stepped ih => exact .next ih allowed stepped

theorem Reached.traced (reached : Reached step admitted start final) :
    ∃ trace, Traced step admitted start trace final := by
  induction reached with
  | start => exact ⟨[], .start⟩
  | next _ allowed stepped ih =>
      obtain ⟨trace, traced⟩ := ih
      exact ⟨_, .next traced allowed stepped⟩

theorem Traced.always (Holds : Taken State Action → Prop)
    (each : ∀ state action next, Reached step admitted start state → admitted state action →
      step state action = some next → Holds ⟨state, action, next⟩)
    {trace : List (Taken State Action)} (traced : Traced step admitted start trace final) :
    ∀ taken ∈ trace, Holds taken := by
  induction traced with
  | start => simp
  | next earlier allowed stepped ih =>
      intro taken member
      rcases List.mem_append.mp member with past | last
      · exact ih taken past
      · obtain rfl := List.mem_singleton.mp last
        exact each _ _ _ earlier.reached allowed stepped

/-- The state after a list of actions, if each was enabled and passed the check. -/
def run (step : State → Action → Option State) (check : State → Action → Bool) :
    State → List Action → Option State
  | state, [] => some state
  | state, action :: rest =>
      if check state action then
        match step state action with
        | some next => run step check next rest
        | none => none
      else none

theorem run_reached (check : State → Action → Bool)
    (sound : ∀ state action, check state action = true → admitted state action)
    (actions : List Action) (begun : Reached step admitted start middle)
    (executed : run step check middle actions = some final) : Reached step admitted start final := by
  induction actions generalizing middle with
  | nil =>
      obtain rfl : middle = final := by simpa [run] using executed
      exact begun
  | cons action rest ih =>
      simp only [run] at executed
      split at executed
      · rename_i checked
        split at executed
        · rename_i next stepped
          exact ih (.next begun (sound middle action checked) stepped) executed
        · cases executed
      · cases executed

theorem run_observed (step : State → Action → Option State) (start : State)
    (check : State → Action → Bool) (observed : State → Bool)
    (sound : ∀ state action, check state action = true → admitted state action)
    (actions : List Action) (executed : (run step check start actions).any observed = true) :
    ∃ final, Reached step admitted start final ∧ observed final = true := by
  cases ran : run step check start actions with
  | none => simp [ran] at executed
  | some final =>
      refine ⟨final, run_reached check sound actions .start ran, ?_⟩
      simpa [ran] using executed

end CloudGuest.Runs
