import Mathlib

/-!
The unordered pairs of a list, each taken once. A loop that takes two items where one
comes before the other meets the pairs it can tell apart, and a record kept under a key
drops what comes under a key it has seen.
-/

namespace CloudGuest.Pairs

universe u v
variable {Item : Type u}

def pairs : List Item → List (Item × Item)
  | [] => []
  | item :: rest => rest.map (fun other => (item, other)) ++ pairs rest

def unordered (pair : Item × Item) : Sym2 Item := s(pair.1, pair.2)

theorem forall_pairs (items : List Item) (Related : Item → Item → Prop) :
    (∀ pair ∈ pairs items, Related pair.1 pair.2) ↔ items.Pairwise Related := by
  induction items with
  | nil => simp [pairs]
  | cons item rest ih =>
      rw [List.pairwise_cons, ← ih]
      constructor
      · intro all
        constructor
        · intro other member
          exact all (item, other) (List.mem_append_left _ (List.mem_map_of_mem member))
        · intro pair member
          exact all pair (List.mem_append_right _ member)
      · rintro ⟨first, later⟩ pair member
        rcases List.mem_append.mp member with here | there
        · obtain ⟨other, listed, rfl⟩ := List.mem_map.mp here
          exact first other listed
        · exact later pair there

theorem exists_pairs (items : List Item) (Related : Item → Item → Prop)
    (symmetric : ∀ left right, Related left right → Related right left) :
    (∃ pair ∈ pairs items, Related pair.1 pair.2) ↔ ∃ (i j : Nat) (left right : Item), i ≠ j ∧
      items[i]? = some left ∧ items[j]? = some right ∧ Related left right := by
  have all := forall_pairs items fun left right => ¬ Related left right
  rw [List.pairwise_iff_getElem] at all
  constructor
  · rintro ⟨pair, member, related⟩
    by_contra none
    apply all.mpr ?_ pair member related
    intro i j first second before related
    exact none ⟨i, j, items[i], items[j], before.ne, List.getElem?_eq_getElem first,
      List.getElem?_eq_getElem second, related⟩
  · rintro ⟨i, j, left, right, apart, atLeft, atRight, related⟩
    by_contra none
    have unrelated : ∀ pair ∈ pairs items, ¬ Related pair.1 pair.2 :=
      fun pair member held => none ⟨pair, member, held⟩
    obtain ⟨first, rfl⟩ := List.getElem?_eq_some_iff.mp atLeft
    obtain ⟨second, rfl⟩ := List.getElem?_eq_some_iff.mp atRight
    rcases Nat.lt_or_gt_of_ne apart with before | after
    · exact all.mp unrelated i j first second before related
    · exact all.mp unrelated j i second first after (symmetric _ _ related)

section Order

variable (before : Item → Item → Bool)

def ascending (items : List Item) : List (Item × Item) :=
  -- A loop within a loop over the same items, one on the left that comes before the other.
  items.flatMap fun left => (items.filter fun right => before left right).map fun right => (left, right)

theorem ascending_perm {items other : List Item} (same : items.Perm other) :
    (ascending before items).Perm (ascending before other) := by
  have rows : ∀ left, ((items.filter fun right => before left right).map
      fun right => (left, right)).Perm ((other.filter fun right => before left right).map
        fun right => (left, right)) := fun left => (same.filter _).map _
  exact (same.flatMap_right _).trans (List.Perm.flatMap_left other fun left _ => rows left)

theorem flatMap_singles (items : List Item) (chosen : Item → Bool) (made : Item → Item × Item) :
    (items.flatMap fun item => if chosen item then [made item] else []) =
      (items.filter chosen).map made := by
  induction items with
  | nil => rfl
  | cons item rest ih =>
      rw [List.flatMap_cons, ih, List.filter_cons]
      split <;> simp

def told (left right : Item) : Bool := before left right || before right left

section Asymmetric

variable (asymmetric : ∀ left right, before left right = true → before right left = false)
include asymmetric

theorem filter_told_perm (items : List Item) (item : Item) :
    ((items.filter fun other => before item other) ++ items.filter fun other => before other item).Perm
        (items.filter fun other => told before item other) := by
  induction items with
  | nil => simp
  | cons other rest ih =>
      cases first : before item other with
      | true => simpa [told, first, asymmetric item other first] using ih
      | false =>
          cases second : before other item with
          | true => simpa [told, first, second] using List.perm_middle.trans (ih.cons other)
          | false => simpa [told, first, second] using ih

/-- Such a loop meets each pair that it tells apart once. -/
theorem ascending_pairs (items : List Item) :
    ((ascending before items).map unordered).Perm
      (((pairs items).filter fun pair => told before pair.1 pair.2).map unordered) := by
  induction items with
  | nil => simp [ascending, pairs]
  | cons item rest ih =>
      have alone : before item item = false := by
        by_contra reflexive
        rw [Bool.not_eq_false] at reflexive
        have never := asymmetric item item reflexive
        rw [reflexive] at never
        cases never
      have own : ((item :: rest).filter fun right => before item right) =
          rest.filter fun right => before item right := by simp [alone]
      have row : ∀ left, (((item :: rest).filter fun right => before left right).map
          fun right => (left, right)) = (if before left item then [(left, item)] else []) ++
            ((rest.filter fun right => before left right).map fun right => (left, right)) := by
        intro left
        rw [List.filter_cons]
        split <;> simp
      have split : (ascending before (item :: rest)).Perm
          ((rest.filter fun right => before item right).map (fun right => (item, right)) ++
            ((rest.filter fun left => before left item).map (fun left => (left, item)) ++
              ascending before rest)) := by
        rw [ascending, List.flatMap_cons, own]
        apply List.Perm.append_left
        simp only [row]
        rw [← flatMap_singles rest (fun left => before left item) fun left => (left, item)]
        exact (List.flatMap_append_perm rest _ _).symm
      have met : (((rest.filter fun right => before item right).map
          (fun right => (item, right))).map unordered ++
            ((rest.filter fun left => before left item).map (fun left => (left, item))).map
              unordered).Perm
          (((rest.filter fun other => told before item other).map fun other => (item, other)).map
            unordered) := by
        have turned : ((rest.filter fun left => before left item).map
            (fun left => (left, item))).map unordered =
              ((rest.filter fun left => before left item).map
                (fun left => (item, left))).map unordered := by
          simp only [List.map_map]
          refine List.map_congr_left fun left _ => ?_
          exact Sym2.eq_swap
        rw [turned, ← List.map_append, ← List.map_append]
        exact ((filter_told_perm before asymmetric rest item).map _).map _
      rw [pairs, List.filter_append, List.map_append, List.filter_map]
      refine (split.map unordered).trans ?_
      rw [List.map_append, List.map_append, ← List.append_assoc]
      exact met.append ih

end Asymmetric

end Order

section Records

variable {Key : Type v} [DecidableEq Key] (keyOf : Item → Key)

def recorded (seen : List Key) : List Item → List Item
  | [] => []
  | item :: rest =>
      if keyOf item ∈ seen then recorded seen rest
      else item :: recorded (seen ++ [keyOf item]) rest

theorem recorded_sublist (seen : List Key) (items : List Item) :
    (recorded keyOf seen items).Sublist items := by
  induction items generalizing seen with
  | nil => exact List.Sublist.refl []
  | cons item rest ih =>
      rw [recorded]
      split
      · exact (ih seen).cons item
      · exact (ih _).cons_cons item

theorem recorded_eq_iff (seen : List Key) (items : List Item) :
    recorded keyOf seen items = items ↔
      (items.map keyOf).Nodup ∧ ∀ item ∈ items, keyOf item ∉ seen := by
  induction items generalizing seen with
  | nil => simp [recorded]
  | cons item rest ih =>
      rw [recorded, List.map_cons, List.nodup_cons, List.forall_mem_cons]
      split
      · rename_i before
        constructor
        · intro same
          have short := (recorded_sublist keyOf seen rest).length_le
          rw [same, List.length_cons] at short
          omega
        · intro ⟨_, fresh, _⟩
          exact absurd before fresh
      · rename_i fresh
        rw [List.cons_eq_cons, eq_self_iff_true, true_and, ih]
        simp only [List.mem_append, List.mem_singleton, not_or, List.mem_map, not_exists, not_and]
        constructor
        · rintro ⟨unique, apart⟩
          exact ⟨⟨fun other member same => (apart other member).2 same, unique⟩, fresh,
            fun other member => (apart other member).1⟩
        · rintro ⟨⟨differ, unique⟩, -, apart⟩
          exact ⟨unique, fun other member => ⟨apart other member, differ other member⟩⟩

theorem recorded_nil_eq_iff (items : List Item) :
    recorded keyOf [] items = items ↔ (items.map keyOf).Nodup := by
  rw [recorded_eq_iff]
  simp

end Records

end CloudGuest.Pairs
