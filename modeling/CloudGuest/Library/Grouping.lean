import Mathlib.Data.List.Induction
import Mathlib.Data.List.Nodup
import Mathlib.Data.List.Perm.Basic
import Mathlib.Algebra.BigOperators.Group.List.Basic

/-!
Grouping as a dictionary of lists does it: items are appended to the group of
their key, and a key keeps the place of its first item. A group is what a
filter by its key would select, and no item is lost or added.
-/

namespace CloudGuest.Grouping

universe u v
variable {Item : Type u} {Key : Type v} [DecidableEq Key]

def appendTo (key : Key) (item : Item) : List (Key × List Item) → List (Key × List Item)
  | [] => [(key, [item])]
  | (known, members) :: rest =>
      if known = key then (known, members ++ [item]) :: rest
      else (known, members) :: appendTo key item rest

def groups (keyOf : Item → Key) (items : List Item) : List (Key × List Item) :=
  items.foldl (fun table item => appendTo (keyOf item) item table) []

theorem groups_append (keyOf : Item → Key) (items : List Item) (item : Item) :
    groups keyOf (items ++ [item]) = appendTo (keyOf item) item (groups keyOf items) := by
  simp [groups]

theorem keys_appendTo (key : Key) (item : Item) (table : List (Key × List Item)) :
    (appendTo key item table).map Prod.fst =
      if key ∈ table.map Prod.fst then table.map Prod.fst else table.map Prod.fst ++ [key] := by
  induction table with
  | nil => simp [appendTo]
  | cons group rest ih =>
      obtain ⟨known, members⟩ := group
      by_cases same : known = key
      · simp [appendTo, same]
      · have other : key ≠ known := fun equal => same equal.symm
        simp only [appendTo, same, ↓reduceIte, List.map_cons, ih, List.mem_cons, other, false_or]
        split <;> simp

theorem keys_nodup (keyOf : Item → Key) (items : List Item) :
    ((groups keyOf items).map Prod.fst).Nodup := by
  induction items using List.reverseRecOn with
  | nil => simp [groups]
  | append_singleton items item ih =>
      rw [groups_append, keys_appendTo]
      split
      · exact ih
      · rename_i absent
        exact List.nodup_append.mpr ⟨ih, List.nodup_singleton _, by
          intro known stored added isAdded same
          obtain rfl : added = keyOf item := by simpa using isAdded
          exact absent (same ▸ stored)⟩

theorem keys_apart {keyOf : Item → Key} {items : List Item} {before after : List (Key × List Item)}
    {group other : Key × List Item} (split : groups keyOf items = before ++ group :: after)
    (member : other ∈ before ++ after) : other.1 ≠ group.1 := by
  have unique := keys_nodup keyOf items
  rw [split, List.map_append, List.map_cons] at unique
  have absent := (List.nodup_middle.mp unique).notMem
  rw [← List.map_append] at absent
  intro same
  exact absent (same ▸ List.mem_map_of_mem member)

theorem mem_appendTo (key : Key) (item : Item) (table : List (Key × List Item))
    (unique : (table.map Prod.fst).Nodup) (known : Key) (members : List Item) :
    (known, members) ∈ appendTo key item table ↔
      (known ≠ key ∧ (known, members) ∈ table) ∨
      (known = key ∧ ((∃ before, (key, before) ∈ table ∧ members = before ++ [item]) ∨
        (key ∉ table.map Prod.fst ∧ members = [item]))) := by
  induction table with
  | nil =>
      simp only [appendTo, List.mem_singleton, Prod.mk.injEq, List.not_mem_nil, and_false,
        false_and, exists_false, List.map_nil, not_false_eq_true, true_and, false_or]
  | cons group rest ih =>
      obtain ⟨first, held⟩ := group
      simp only [List.map_cons, List.nodup_cons] at unique
      by_cases same : first = key
      · subst first
        have absent : ∀ before, (key, before) ∉ rest := fun before stored =>
          unique.1 (List.mem_map_of_mem stored)
        simp only [appendTo, ↓reduceIte, List.mem_cons, Prod.mk.injEq, List.map_cons, true_or,
          not_true, false_and, or_false]
        by_cases chosen : known = key
        · subst known
          simp [absent]
        · simp [chosen]
      · have other : key ≠ first := fun equal => same equal.symm
        simp only [appendTo, same, ↓reduceIte, List.mem_cons, Prod.mk.injEq, ih unique.2,
          List.map_cons, other, false_and, false_or]
        by_cases chosen : known = key
        · subst known
          simp [other]
        · simp [chosen]

theorem mem_groups (keyOf : Item → Key) (items : List Item) (key : Key) (members : List Item) :
    (key, members) ∈ groups keyOf items ↔
      members = items.filter (fun item => keyOf item = key) ∧ members ≠ [] := by
  induction items using List.reverseRecOn generalizing members with
  | nil => simp [groups]
  | append_singleton items item ih =>
      rw [groups_append, mem_appendTo _ _ _ (keys_nodup keyOf items), List.filter_append]
      by_cases same : keyOf item = key
      · subst key
        have present : keyOf item ∈ (groups keyOf items).map Prod.fst ↔
            items.filter (fun other => keyOf other = keyOf item) ≠ [] := by
          constructor
          · intro stored
            obtain ⟨⟨known, held⟩, isStored, named⟩ := List.mem_map.mp stored
            obtain rfl : known = keyOf item := named
            obtain ⟨filtered, nonempty⟩ := (ih held).mp isStored
            exact filtered ▸ nonempty
          · intro nonempty
            exact List.mem_map.mpr ⟨(keyOf item, _), (ih _).mpr ⟨rfl, nonempty⟩, rfl⟩
        simp only [ne_eq, not_true, false_and, false_or, true_and, ih, present]
        by_cases nothing : items.filter (fun other => keyOf other = keyOf item) = []
        · simp only [nothing, List.nil_append]
          grind
        · simp only [nothing, not_false_eq_true, not_true, false_and, or_false]
          constructor
          · rintro ⟨before, ⟨filtered, -⟩, rfl⟩
            simp [filtered]
          · rintro ⟨filtered, -⟩
            exact ⟨_, ⟨rfl, nothing⟩, by simpa using filtered⟩
      · have different : key ≠ keyOf item := fun equal => same equal.symm
        simp [different, same, ih]

theorem length_appendTo_le (key : Key) (item : Item) (table : List (Key × List Item)) :
    (appendTo key item table).length ≤ table.length + 1 := by
  induction table with
  | nil => simp [appendTo]
  | cons group rest ih =>
      obtain ⟨known, members⟩ := group
      unfold appendTo
      split <;> simp [ih]

theorem length_groups_le (keyOf : Item → Key) (items : List Item) :
    (groups keyOf items).length ≤ items.length := by
  induction items using List.reverseRecOn with
  | nil => simp [groups]
  | append_singleton items item ih =>
      have step := length_appendTo_le (keyOf item) item (groups keyOf items)
      rw [groups_append, List.length_append, List.length_singleton]
      omega

theorem flatten_appendTo (key : Key) (item : Item) (table : List (Key × List Item)) :
    ((appendTo key item table).flatMap Prod.snd).Perm (item :: table.flatMap Prod.snd) := by
  induction table with
  | nil => simp [appendTo]
  | cons group rest ih =>
      obtain ⟨known, members⟩ := group
      by_cases same : known = key
      · simp [appendTo, same]
      · simp only [appendTo, same, ↓reduceIte, List.flatMap_cons]
        exact (ih.append_left members).trans List.perm_middle

theorem flatten_groups (keyOf : Item → Key) (items : List Item) :
    ((groups keyOf items).flatMap Prod.snd).Perm items := by
  induction items using List.reverseRecOn with
  | nil => simp [groups]
  | append_singleton items item ih =>
      rw [groups_append]
      exact (flatten_appendTo _ _ _).trans ((ih.cons item).trans (List.perm_append_singleton _ _).symm)

theorem sum_groups {Amount : Type*} [AddCommMonoid Amount] (keyOf : Item → Key)
    (amount : Item → Amount) (items : List Item) :
    ((groups keyOf items).map fun group => (group.2.map amount).sum).sum =
      (items.map amount).sum := by
  have flat : ∀ table : List (Key × List Item),
      (table.map fun group => (group.2.map amount).sum).sum =
        ((table.flatMap Prod.snd).map amount).sum := by
    intro table
    induction table with
    | nil => rfl
    | cons group rest ih => simp [ih]
  rw [flat]
  exact ((flatten_groups keyOf items).map amount).sum_eq

end CloudGuest.Grouping
