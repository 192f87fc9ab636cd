import Mathlib.Order.Lattice
import Mathlib.Order.Lattice.Nat

/-!
Readings of a cumulative counter, delivered in any order and any number of times. A
gauge that takes over the larger of what it holds and what it is told depends on the
set of readings only. A meter keeps up with a gauge while it grows by what the gauge
grows by.
-/

namespace CloudGuest.Readings

universe u
variable {Value : Type u}

section Absorbing

variable [SemilatticeSup Value]

/-- What a gauge shows that held `recorded` and took over the readings. -/
def absorbed (recorded : Value) (readings : List Value) : Value := readings.foldl (· ⊔ ·) recorded

theorem absorbed_le_iff (recorded : Value) (readings : List Value) (bound : Value) :
    absorbed recorded readings ≤ bound ↔
      recorded ≤ bound ∧ ∀ reading ∈ readings, reading ≤ bound := by
  induction readings generalizing recorded with
  | nil => simp [absorbed]
  | cons first rest ih =>
      have tail := ih (recorded ⊔ first)
      simp only [absorbed, List.foldl_cons, List.forall_mem_cons] at tail ⊢
      rw [tail, sup_le_iff, and_assoc]

theorem recorded_le_absorbed (recorded : Value) (readings : List Value) :
    recorded ≤ absorbed recorded readings :=
  ((absorbed_le_iff recorded readings _).mp le_rfl).1

theorem reading_le_absorbed (recorded : Value) {readings : List Value} {reading : Value}
    (member : reading ∈ readings) : reading ≤ absorbed recorded readings :=
  ((absorbed_le_iff recorded readings _).mp le_rfl).2 reading member

theorem absorbed_congr (recorded : Value) {readings others : List Value}
    (same : ∀ reading, reading ∈ readings ↔ reading ∈ others) :
    absorbed recorded readings = absorbed recorded others := by
  refine le_antisymm ?_ ?_
  · rw [absorbed_le_iff]
    exact ⟨recorded_le_absorbed recorded others,
      fun reading member => reading_le_absorbed recorded ((same reading).mp member)⟩
  · rw [absorbed_le_iff]
    exact ⟨recorded_le_absorbed recorded readings,
      fun reading member => reading_le_absorbed recorded ((same reading).mpr member)⟩

end Absorbing

theorem add_growth (recorded reading : Nat) :
    recorded + (reading - recorded) = recorded ⊔ reading := by
  rcases Nat.le_total recorded reading with less | more
  · rw [Nat.add_sub_cancel' less, sup_eq_right.mpr less]
  · rw [Nat.sub_eq_zero_of_le more, sup_eq_left.mpr more, Nat.add_zero]

def KeepsUp (gauge gaugeAfter meter meterAfter : Nat) : Prop :=
  gauge ≤ gaugeAfter ∧ meterAfter + gauge = meter + gaugeAfter

theorem keepsUp_refl (gauge meter : Nat) : KeepsUp gauge gauge meter meter := ⟨le_rfl, rfl⟩

theorem keepsUp_trans {gauge gaugeBetween gaugeAfter meter meterBetween meterAfter : Nat}
    (first : KeepsUp gauge gaugeBetween meter meterBetween)
    (second : KeepsUp gaugeBetween gaugeAfter meterBetween meterAfter) :
    KeepsUp gauge gaugeAfter meter meterAfter := by
  have before := first.2
  have after := second.2
  exact ⟨le_trans first.1 second.1, by omega⟩

end CloudGuest.Readings
