import Mathlib.Logic.Relation

/-!
Relations without a cycle. An edge may be added where no path leads from its end back
to its start.
-/

namespace CloudGuest.Acyclic

open Relation

universe u
variable {Node : Type u} {edge added : Node → Node → Prop} {start stop first last : Node}

def IsAcyclic (edge : Node → Node → Prop) : Prop := ∀ node, ¬ TransGen edge node node

theorem IsAcyclic.mono (acyclic : IsAcyclic edge) (fewer : ∀ left right, added left right → edge left right) :
    IsAcyclic added :=
  fun node cycle => acyclic node (TransGen.mono fewer node node cycle)

theorem path_added (one : ∀ left right, added left right → edge left right ∨ (left = start ∧ right = stop))
    (path : TransGen added first last) :
    TransGen edge first last ∨ (ReflTransGen edge first start ∧ ReflTransGen edge stop last) := by
  induction path with
  | single step =>
      rcases one _ _ step with known | ⟨rfl, rfl⟩
      · exact .inl (.single known)
      · exact .inr ⟨.refl, .refl⟩
  | tail _ step ih =>
      rcases one _ _ step with known | ⟨rfl, rfl⟩
      · rcases ih with direct | ⟨before, after⟩
        · exact .inl (direct.tail known)
        · exact .inr ⟨before, after.tail known⟩
      · rcases ih with direct | ⟨before, -⟩
        · exact .inr ⟨direct.to_reflTransGen, .refl⟩
        · exact .inr ⟨before, .refl⟩

theorem IsAcyclic.add (acyclic : IsAcyclic edge)
    (one : ∀ left right, added left right → edge left right ∨ (left = start ∧ right = stop))
    (apart : ¬ ReflTransGen edge stop start) : IsAcyclic added := by
  intro node cycle
  rcases path_added one cycle with old | ⟨before, after⟩
  · exact acyclic node old
  · exact apart (after.trans before)

end CloudGuest.Acyclic
