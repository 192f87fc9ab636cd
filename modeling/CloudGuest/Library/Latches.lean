import CloudGuest.Library.Runs

/-!
Latches. A latch is set by the steps that fire and stands between two of them. Where it
falls only in states that are `calm`, any two steps of a run that fire have a calm state
between them: what fires, fires once each time the system leaves the calm states.
-/

namespace CloudGuest.Latches
open Runs

universe u v
variable {State : Type u} {Action : Type v}
variable {step : State → Action → Option State} {admitted : State → Action → Prop}
variable {start final : State}

theorem traced_append {front back : List (Taken State Action)}
    (traced : Traced step admitted start (front ++ back) final) :
    ∃ middle, Traced step admitted start front middle ∧
      Traced step admitted middle back final := by
  generalize whole : front ++ back = trace at traced
  induction traced generalizing back with
  | start =>
      obtain ⟨rfl, rfl⟩ := List.append_eq_nil_iff.mp whole
      exact ⟨start, .start, .start⟩
  | next traced allowed stepped ih =>
      rcases List.eq_nil_or_concat back with rfl | ⟨earlier, last, rfl⟩
      · rw [List.append_nil] at whole
        subst whole
        exact ⟨_, .next traced allowed stepped, .start⟩
      · rw [List.concat_eq_append, ← List.append_assoc] at whole
        obtain ⟨same, ends⟩ := List.append_inj' whole rfl
        obtain ⟨middle, first, second⟩ := ih same
        obtain rfl := List.singleton_inj.mp ends
        rw [List.concat_eq_append]
        exact ⟨middle, first, .next second allowed stepped⟩

theorem traced_nil (traced : Traced step admitted start [] final) : final = start := by
  generalize whole : [] = trace at traced
  cases traced with
  | start => rfl
  | next => simp at whole

theorem traced_singleton {taken : Taken State Action}
    (traced : Traced step admitted start [taken] final) :
    taken.before = start ∧ taken.after = final ∧ admitted taken.before taken.action ∧
      step taken.before taken.action = some taken.after := by
  generalize whole : [taken] = trace at traced
  cases traced with
  | start => cases whole
  | next earlier allowed stepped =>
      rename_i past state action
      obtain ⟨rfl, rfl⟩ : past = [] ∧ taken = ⟨state, action, final⟩ := by
        cases past with
        | nil => simpa using whole
        | cons other rest => simp at whole
      obtain rfl := traced_nil earlier
      exact ⟨rfl, rfl, allowed, stepped⟩

theorem traced_at {front back : List (Taken State Action)} {taken : Taken State Action}
    (traced : Traced step admitted start (front ++ taken :: back) final) :
    Traced step admitted start front taken.before ∧ admitted taken.before taken.action ∧
      step taken.before taken.action = some taken.after ∧
      Traced step admitted taken.after back final := by
  obtain ⟨middle, before, rest⟩ := traced_append traced
  rw [← List.singleton_append] at rest
  obtain ⟨next, one, after⟩ := traced_append rest
  obtain ⟨rfl, rfl, allowed, stepped⟩ := traced_singleton one
  exact ⟨before, allowed, stepped, after⟩

variable {latched calm : State → Prop}

theorem calm_of_fallen
    (rearmed : ∀ state action next, admitted state action → step state action = some next →
      latched state → ¬ latched next → calm next)
    {trace : List (Taken State Action)} (traced : Traced step admitted start trace final)
    (set : latched start) (fallen : ¬ latched final) : ∃ taken ∈ trace, calm taken.after := by
  induction traced with
  | start => exact absurd set fallen
  | next earlier allowed stepped ih =>
      rename_i past state next action
      by_cases still : latched state
      · exact ⟨_, List.mem_concat_self, rearmed state action next allowed stepped still fallen⟩
      · obtain ⟨taken, member, quiet⟩ := ih still
        exact ⟨taken, List.mem_append_left _ member, quiet⟩

theorem calm_between (latched calm : State → Prop) (fires : Taken State Action → Prop)
    (sets : ∀ state action next, admitted state action → step state action = some next →
      fires ⟨state, action, next⟩ → ¬ latched state ∧ latched next)
    (rearmed : ∀ state action next, admitted state action → step state action = some next →
      latched state → ¬ latched next → calm next)
    {front middle back : List (Taken State Action)} {first second : Taken State Action}
    (traced : Traced step admitted start (front ++ first :: (middle ++ second :: back)) final)
    (fired : fires first) (firedAgain : fires second) : ∃ taken ∈ middle, calm taken.after := by
  obtain ⟨-, allowed, stepped, later⟩ := traced_at traced
  obtain ⟨between, allowedAgain, steppedAgain, -⟩ := traced_at later
  have set := (sets _ _ _ allowed stepped fired).2
  have fallen := (sets _ _ _ allowedAgain steppedAgain firedAgain).1
  exact calm_of_fallen rearmed between set fallen

end CloudGuest.Latches
