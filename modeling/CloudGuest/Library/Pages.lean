import Mathlib

/-!
Reading a sequence page by page: each page yields some items and, until the last,
a cursor for what remains. Where a page yields the front of what remains and the
cursor's weight falls, following the cursors ends and yields everything once, in
order.
-/

namespace CloudGuest.Pages

universe u v
variable {Cursor : Type u} {Item : Type v}

def collect (page : Nat → Cursor → Option (List Item × Option Cursor)) :
    Nat → Nat → Cursor → Option (List Item)
  | 0, _, _ => none
  | fuel + 1, turn, cursor =>
      match page turn cursor with
      | none => none
      | some (items, none) => some items
      | some (items, some next) => (collect page fuel (turn + 1) next).map (items ++ ·)

/-- Every page succeeds, yields the front and leaves less behind. -/
structure Laws (page : Nat → Cursor → Option (List Item × Option Cursor))
    (remaining : Cursor → List Item) (weight : Cursor → Nat) : Prop where
  pages : ∀ turn cursor, ∃ items next, page turn cursor = some (items, next) ∧
    remaining cursor = items ++ (next.map remaining).getD [] ∧
    ∀ later ∈ next, weight later < weight cursor

variable {page : Nat → Cursor → Option (List Item × Option Cursor)}
variable {remaining : Cursor → List Item} {weight : Cursor → Nat}

theorem Laws.collects (laws : Laws page remaining weight) (fuel turn : Nat) (cursor : Cursor)
    (enough : weight cursor < fuel) :
    collect page fuel turn cursor = some (remaining cursor) := by
  induction fuel generalizing turn cursor with
  | zero => omega
  | succ fuel ih =>
      obtain ⟨items, next, paged, front, later⟩ := laws.pages turn cursor
      cases next with
      | none => simp [collect, paged, front]
      | some next =>
          have less := later next rfl
          have rest := ih (turn + 1) next (by omega)
          simp [collect, paged, front, rest]

theorem filter_below {Key : Type v} [LinearOrder Key] (key : Item → Key) (front : List Item)
    (item : Item) (back : List Item)
    (descending : (front ++ item :: back).Pairwise fun left right => key right < key left) :
    (front ++ item :: back).filter (fun other => key other < key item) = back := by
  obtain ⟨-, fromItem, across⟩ := List.pairwise_append.mp descending
  obtain ⟨below, -⟩ := List.pairwise_cons.mp fromItem
  have noFront : front.filter (fun other => key other < key item) = [] := by
    refine List.filter_eq_nil_iff.mpr ?_
    intro other member
    have above := across other member item List.mem_cons_self
    simpa using le_of_lt above
  have allBack : back.filter (fun other => key other < key item) = back := by
    refine List.filter_eq_self.mpr ?_
    intro other member
    simpa using below other member
  rw [List.filter_append, noFront, List.filter_cons, allBack]
  simp

theorem filter_suffix {Key : Type v} [LinearOrder Key] (key : Item → Key) (items : List Item)
    (mark : Key) (descending : items.Pairwise fun left right => key right < key left) :
    ∃ front, items = front ++ items.filter fun item => key item < mark := by
  induction items with
  | nil => exact ⟨[], rfl⟩
  | cons item rest ih =>
      obtain ⟨below, sorted⟩ := List.pairwise_cons.mp descending
      by_cases small : key item < mark
      · refine ⟨[], ?_⟩
        symm
        refine List.filter_eq_self.mpr ?_
        intro other member
        rcases List.mem_cons.mp member with rfl | inRest
        · simpa using small
        · simpa using lt_trans (below other inRest) small
      · obtain ⟨front, split⟩ := ih sorted
        refine ⟨item :: front, ?_⟩
        rw [List.filter_cons_of_neg (by simpa using small), List.cons_append, ← split]

end CloudGuest.Pages
