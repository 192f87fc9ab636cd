import Mathlib

/-!
A list without what was seen before, in the order of first appearance.
-/

namespace CloudGuest.FirstSeen

universe u
variable {Item : Type u} [DecidableEq Item]

def addNew (seen : List Item) (item : Item) : List Item :=
  if item ∈ seen then seen else seen ++ [item]

def firstSeen (items : List Item) : List Item := items.foldl addNew []

theorem firstSeen_append (items : List Item) (item : Item) :
    firstSeen (items ++ [item]) = addNew (firstSeen items) item := by
  simp [firstSeen]

@[simp] theorem mem_firstSeen (items : List Item) (item : Item) :
    item ∈ firstSeen items ↔ item ∈ items := by
  induction items using List.reverseRecOn with
  | nil => simp [firstSeen]
  | append_singleton items last ih =>
      rw [firstSeen_append, addNew]
      split
      · rename_i seen
        rw [ih, List.mem_append, List.mem_singleton]
        constructor
        · exact Or.inl
        · rintro (earlier | rfl)
          · exact earlier
          · exact ih.mp seen
      · simp [ih]

theorem firstSeen_append_ascending [LinearOrder Item] (items : List Item) (last : Item) :
    (firstSeen (items ++ [last])).Pairwise (· < ·) ↔
      (firstSeen items).Pairwise (· < ·) ∧ (last ∈ items ∨ ∀ other ∈ items, other < last) := by
  rw [firstSeen_append, addNew]
  by_cases seen : last ∈ items
  · simp [seen]
  · rw [if_neg (by simpa using seen), List.pairwise_append]
    simp [seen]

/-- The first appearances of a sequence ascend when each item was seen before or is above all
before it. -/
theorem firstSeen_range_ascending [LinearOrder Item] (item : Nat → Item) (count : Nat) :
    (firstSeen ((List.range count).map item)).Pairwise (· < ·) ↔
      ∀ place < count, (∃ earlier < place, item earlier = item place) ∨
        ∀ earlier < place, item earlier < item place := by
  induction count with
  | zero => simp [firstSeen]
  | succ count ih =>
      have next : ((List.range (count + 1)).map item) =
          (List.range count).map item ++ [item count] := by
        rw [List.range_succ, List.map_append, List.map_singleton]
      rw [next, firstSeen_append_ascending, ih, Nat.forall_lt_succ_right]
      simp only [List.mem_map, List.mem_range, forall_exists_index, and_imp,
        forall_apply_eq_imp_iff₂]

end CloudGuest.FirstSeen
