import Mathlib.Data.List.Basic
import Mathlib.Algebra.Order.Group.Int
import Mathlib.Tactic.Common

/-!
Allowances in whole seconds, rounded up from what is left until a deadline in
microseconds. An absent allowance is no limit. The smallest of several meets every
deadline that one of them meets.
-/

namespace CloudGuest.Deadlines

def ceilSeconds (duration : Int) : Int := (duration + 999999) / 1000000

/-- An allowance granted now runs out by the deadline, but for a second of rounding. -/
def Meets (now : Int) (allowance : Option Int) (deadline : Int) : Prop :=
  ∃ seconds, allowance = some seconds ∧ now + seconds * 1000000 ≤ deadline + 1000000

theorem ceil_meets (now deadline : Int) :
    Meets now (some (ceilSeconds (deadline - now))) deadline := by
  refine ⟨_, rfl, ?_⟩
  unfold ceilSeconds
  omega

theorem max_ceil_meets {now deadline : Int} (left : now ≤ deadline) :
    Meets now (some (max (ceilSeconds (deadline - now)) 1)) deadline := by
  refine ⟨_, rfl, ?_⟩
  unfold ceilSeconds
  omega

def minPresent : List (Option Int) → Option Int
  | [] => none
  | none :: rest => minPresent rest
  | some value :: rest =>
      match minPresent rest with
      | none => some value
      | some least => some (min value least)

theorem minPresent_le {values : List (Option Int)} {value : Int} (member : some value ∈ values) :
    ∃ least, minPresent values = some least ∧ least ≤ value := by
  induction values with
  | nil => exact absurd member List.not_mem_nil
  | cons first rest ih =>
      cases first with
      | none =>
          have later : some value ∈ rest := by simpa using member
          exact ih later
      | some other =>
          rcases List.mem_cons.mp member with same | later
          · obtain rfl := Option.some.inj same
            cases found : minPresent rest with
            | none => exact ⟨value, by simp [minPresent, found], le_refl value⟩
            | some least => exact ⟨min value least, by simp [minPresent, found], min_le_left _ _⟩
          · obtain ⟨least, found, below⟩ := ih later
            exact ⟨min other least, by simp [minPresent, found], (min_le_right _ _).trans below⟩

theorem minPresent_mem {values : List (Option Int)} {least : Int}
    (found : minPresent values = some least) : some least ∈ values := by
  induction values generalizing least with
  | nil => cases found
  | cons first rest ih =>
      cases first with
      | none => exact List.mem_cons_of_mem _ (ih found)
      | some value =>
          cases tail : minPresent rest with
          | none =>
              simp only [minPresent, tail] at found
              exact found ▸ List.mem_cons_self
          | some other =>
              simp only [minPresent, tail, Option.some.injEq] at found
              rcases min_choice value other with here | there
              · exact List.mem_cons.mpr (Or.inl (by rw [← found, here]))
              · rw [← found, there]
                exact List.mem_cons_of_mem _ (ih tail)

theorem minPresent_meets {now deadline : Int} {values : List (Option Int)} {value : Option Int}
    (member : value ∈ values) (meets : Meets now value deadline) :
    Meets now (minPresent values) deadline := by
  obtain ⟨seconds, rfl, within⟩ := meets
  obtain ⟨least, found, below⟩ := minPresent_le member
  refine ⟨least, found, ?_⟩
  omega

end CloudGuest.Deadlines
