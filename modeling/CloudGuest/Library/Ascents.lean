import Mathlib.Data.Option.Basic

/-!
Ways up in a hierarchy, where each node has at most one node above it. Two hierarchies
that agree outside one node have the same ways up to it, and what is above it in the
one is, in the other, above the node that it was put under.
-/

namespace CloudGuest.Ascents

universe u
variable {Node : Type u} {up other : Node → Option Node} {node top changed parent : Node}

def rise (up : Node → Option Node) : Nat → Node → Option Node
  | 0, node => some node
  | steps + 1, node => (up node).bind (rise up steps)

def Within (up : Node → Option Node) (limit : Nat) (node top : Node) : Prop :=
  ∃ steps ≤ limit, rise up steps node = some top

theorem rise_succ {steps : Nat} : rise up (steps + 1) node = some top ↔
    ∃ above, up node = some above ∧ rise up steps above = some top :=
  Option.bind_eq_some_iff

theorem rise_add (first second : Nat) :
    ∀ node : Node, rise up (first + second) node = (rise up first node).bind (rise up second) := by
  induction first with
  | zero => exact fun node => by rw [Nat.zero_add]; rfl
  | succ first ih =>
      intro node
      rw [Nat.succ_add_eq_add_succ, Nat.add_succ, rise, rise, Option.bind_assoc]
      exact Option.bind_congr fun above _ => ih above

theorem Within.self (limit : Nat) (node : Node) : Within up limit node node :=
  ⟨0, Nat.zero_le limit, rfl⟩

theorem Within.beyond {below limit : Nat} (risen : rise up below node = some changed)
    (further : Within up limit changed top) : Within up (below + limit) node top := by
  obtain ⟨steps, few, risen'⟩ := further
  refine ⟨below + steps, Nat.add_le_add_left few below, ?_⟩
  rw [rise_add, risen, Option.bind_some, risen']

theorem Within.mono {limit more : Nat} (fewer : limit ≤ more) (within : Within up limit node top) :
    Within up more node top := by
  obtain ⟨steps, few, risen⟩ := within
  exact ⟨steps, Nat.le_trans few fewer, risen⟩

theorem rise_closed {Inside : Node → Prop} (closed : ∀ node, Inside node → ∀ above, up node = some above → Inside above)
    {steps : Nat} (inside : Inside node) (risen : rise up steps node = some top) : Inside top := by
  induction steps generalizing node with
  | zero => exact Option.some.inj risen ▸ inside
  | succ steps ih =>
      obtain ⟨above, next, further⟩ := rise_succ.mp risen
      exact ih (closed node inside above next) further

theorem rise_fewer (fewer : ∀ node above, other node = some above → up node = some above) {steps : Nat}
    (risen : rise other steps node = some top) : rise up steps node = some top := by
  induction steps generalizing node with
  | zero => exact risen
  | succ steps ih =>
      obtain ⟨above, next, further⟩ := rise_succ.mp risen
      exact rise_succ.mpr ⟨above, fewer node above next, ih further⟩

section Changed

variable (agree : ∀ node ≠ changed, other node = up node)

include agree

theorem rise_elsewhere {steps : Nat} (risen : rise other steps node = some top) :
    rise up steps node = some top ∨ ∃ below < steps, rise up below node = some changed ∧
      rise other (steps - below) changed = some top := by
  induction steps generalizing node with
  | zero => exact .inl risen
  | succ steps ih =>
      by_cases here : node = changed
      · subst here
        exact .inr ⟨0, Nat.succ_pos steps, rfl, risen⟩
      · obtain ⟨above, next, further⟩ := rise_succ.mp risen
        rw [agree node here] at next
        rcases ih further with direct | ⟨below, few, met, beyond⟩
        · exact .inl (rise_succ.mpr ⟨above, next, direct⟩)
        · refine .inr ⟨below + 1, Nat.succ_lt_succ few, rise_succ.mpr ⟨above, next, met⟩, ?_⟩
          rw [Nat.add_sub_add_right]
          exact beyond

theorem rise_to_changed {steps : Nat} (risen : rise up steps node = some changed) :
    Within other steps node changed := by
  induction steps generalizing node with
  | zero => exact ⟨0, Nat.le_refl 0, risen⟩
  | succ steps ih =>
      by_cases here : node = changed
      · subst here
        exact .self _ _
      · obtain ⟨above, next, further⟩ := rise_succ.mp risen
        obtain ⟨fewer, few, met⟩ := ih further
        rw [← agree node here] at next
        exact ⟨fewer + 1, Nat.succ_le_succ few, rise_succ.mpr ⟨above, next, met⟩⟩

theorem rise_beyond {steps : Nat} (moved : other changed = some parent)
    (risen : rise other (steps + 1) changed = some top) : Within up steps parent top := by
  induction steps using Nat.strongRecOn with
  | _ steps ih =>
      obtain ⟨above, next, further⟩ := rise_succ.mp risen
      obtain rfl := Option.some.inj (moved.symm.trans next)
      rcases rise_elsewhere agree further with direct | ⟨below, few, -, beyond⟩
      · exact ⟨steps, Nat.le_refl steps, direct⟩
      · obtain ⟨rest, left⟩ := Nat.exists_eq_add_of_lt few
        have again : steps - below = rest + 1 := by omega
        rw [again] at beyond
        exact (ih rest (by omega) beyond).mono (by omega)

theorem within_changed {limit : Nat} (within : Within other limit node top) :
    Within up limit node top ∨ ∃ below parent rest, rise up below node = some changed ∧
      other changed = some parent ∧ Within up rest parent top ∧ below + 1 + rest = limit := by
  -- What is met in the one hierarchy was met in the other, or it is above the new parent.
  obtain ⟨steps, few, risen⟩ := within
  rcases rise_elsewhere agree risen with direct | ⟨below, fewer, met, beyond⟩
  · exact .inl ⟨steps, few, direct⟩
  · obtain ⟨rest, left⟩ := Nat.exists_eq_add_of_lt fewer
    have again : steps - below = rest + 1 := by omega
    rw [again] at beyond
    obtain ⟨parent, next, -⟩ := rise_succ.mp beyond
    refine .inr ⟨below, parent, limit - below - 1, met, next, ?_, by omega⟩
    exact (rise_beyond agree next beyond).mono (by omega)

theorem within_moved {below rest : Nat} (met : rise up below node = some changed)
    (moved : other changed = some parent) (above : Within up rest parent top) :
    Within other (below + 1 + rest) node top ∨ Within up (below + rest) node top := by
  obtain ⟨steps, few, risen⟩ := above
  have back : ∀ node ≠ changed, up node = other node := fun node apart => (agree node apart).symm
  rcases rise_elsewhere back risen with direct | ⟨before, fewer, -, beyond⟩
  · obtain ⟨first, short, reached⟩ := rise_to_changed agree met
    have through : Within other (1 + steps) changed top :=
      ⟨1 + steps, Nat.le_refl _, by rw [Nat.add_comm]; exact rise_succ.mpr ⟨parent, moved, direct⟩⟩
    exact .inl ((Within.beyond reached through).mono (by omega))
  · exact .inr ((Within.beyond met ⟨steps - before, Nat.le_refl _, beyond⟩).mono (by omega))

end Changed

end CloudGuest.Ascents
