import Mathlib.Data.List.MinMax
import Mathlib.Data.List.Sort
import Mathlib.Data.Prod.Lex

/-!
Sorting by a key: the rearrangement of a list that is ascending in the key and
keeps the order of items with equal keys. Where no two items have the same key, the
first of the largest items and the first in descending order are the greatest one,
in whatever order they are listed.
-/

namespace CloudGuest.Sorting

universe u v
variable {Item : Type u} {Key : Type v} [LinearOrder Key]

def sortOn (key : Item → Key) (items : List Item) : List Item :=
  items.insertionSort fun left right => key left ≤ key right

theorem sortOn_perm (key : Item → Key) (items : List Item) : (sortOn key items).Perm items :=
  List.perm_insertionSort _ items

@[simp] theorem mem_sortOn (key : Item → Key) (items : List Item) (item : Item) :
    item ∈ sortOn key items ↔ item ∈ items :=
  (sortOn_perm key items).mem_iff

theorem sortOn_ascending (key : Item → Key) (items : List Item) :
    (sortOn key items).Pairwise fun left right => key left ≤ key right := by
  have total : Std.Total fun left right : Item => key left ≤ key right :=
    ⟨fun left right => le_total (key left) (key right)⟩
  have transitive : IsTrans Item fun left right => key left ≤ key right :=
    ⟨fun _ _ _ => le_trans⟩
  exact List.pairwise_insertionSort _ items

/-! ### The greatest item -/

structure Greatest (key : Item → Key) (Holds : Item → Prop) (best : Item) : Prop where
  holds : Holds best
  above : ∀ other, Holds other → key other ≤ key best

section Greatest

variable {key : Item → Key} {items : List Item} {best : Item} {Holds : Item → Prop}

theorem Greatest.congr {Other : Item → Prop} (same : ∀ item, Holds item ↔ Other item) :
    Greatest key Holds best ↔ Greatest key Other best :=
  ⟨fun greatest => ⟨(same best).mp greatest.holds, fun other held => greatest.above other ((same other).mpr held)⟩,
    fun greatest => ⟨(same best).mpr greatest.holds, fun other held => greatest.above other ((same other).mp held)⟩⟩

def Separates (key : Item → Key) (items : List Item) : Prop :=
  ∀ left ∈ items, ∀ right ∈ items, key left = key right → left = right

def largest (key : Item → Key) (items : List Item) : Option Item := items.argmax key

theorem largest_greatest (separates : Separates key items) :
    largest key items = some best ↔ Greatest key (· ∈ items) best := by
  unfold largest
  constructor
  · exact fun found => ⟨List.argmax_mem found, fun other listed => List.le_of_mem_argmax listed found⟩
  · intro greatest
    cases found : items.argmax key with
    | none =>
        rw [List.argmax_eq_none.mp found] at greatest
        exact absurd greatest.holds List.not_mem_nil
    | some other =>
        have listed : other ∈ items := List.argmax_mem found
        have atLeast : key best ≤ key other := List.le_of_mem_argmax greatest.holds found
        exact congrArg some (separates other listed best greatest.holds
          (le_antisymm (greatest.above other listed) atLeast))

def sortDescending (key : Item → Key) (items : List Item) : List Item :=
  sortOn (fun item => OrderDual.toDual (key item)) items

theorem find_descending {chosen : Item → Bool} (separates : Separates key items)
    (sorted : items.Pairwise fun left right => key right ≤ key left) :
    items.find? chosen = some best ↔
      Greatest key (fun item => item ∈ items ∧ chosen item = true) best := by
  have greatest : ∀ found, items.find? chosen = some found →
      Greatest key (fun item => item ∈ items ∧ chosen item = true) found := by
    intro found located
    obtain ⟨holds, earlier, later, split, passed⟩ := List.find?_eq_some_iff_append.mp located
    rw [split, List.pairwise_append, List.pairwise_cons] at sorted
    refine ⟨⟨List.mem_of_find?_eq_some located, holds⟩, ?_⟩
    rintro other ⟨present, taken⟩
    rw [split] at present
    rcases List.mem_append.mp present with before | after
    · have missed := passed other before
      rw [taken] at missed
      cases missed
    · rcases List.mem_cons.mp after with rfl | behind
      · exact le_refl _
      · exact sorted.2.1.1 other behind
  constructor
  · exact greatest best
  · intro held
    cases located : items.find? chosen with
    | none => exact absurd held.holds.2 (List.find?_eq_none.mp located best held.holds.1)
    | some found =>
        have other := greatest found located
        exact congrArg some (separates found other.holds.1 best held.holds.1
          (le_antisymm (held.above found other.holds) (other.above best held.holds)))

theorem find_sortDescending {chosen : Item → Bool} (separates : Separates key items) :
    (sortDescending key items).find? chosen = some best ↔
      Greatest key (fun item => item ∈ items ∧ chosen item = true) best := by
  have sorted := sortOn_ascending (fun item => OrderDual.toDual (key item)) items
  have separated : Separates key (sortDescending key items) := by
    intro left inLeft right inRight
    exact separates left ((mem_sortOn _ items left).mp inLeft) right
      ((mem_sortOn _ items right).mp inRight)
  rw [find_descending separated (sorted.imp OrderDual.toDual_le_toDual.mp)]
  exact Greatest.congr fun item => and_congr_left' (mem_sortOn _ items item)

theorem mem_takeWhile {early : Item → Bool}
    (closed : ∀ left right, key left ≤ key right → early right = true → early left = true)
    (sorted : items.Pairwise fun left right => key left ≤ key right) (item : Item) :
    item ∈ items.takeWhile early ↔ item ∈ items ∧ early item = true := by
  induction items with
  | nil => simp
  | cons first rest ih =>
      obtain ⟨below, ascending⟩ := List.pairwise_cons.mp sorted
      cases bound : early first with
      | true =>
          rw [List.takeWhile_cons_of_pos bound, List.mem_cons, List.mem_cons, ih ascending]
          constructor
          · rintro (rfl | ⟨inRest, before⟩)
            · exact ⟨.inl rfl, bound⟩
            · exact ⟨.inr inRest, before⟩
          · rintro ⟨rfl | inRest, before⟩
            · exact .inl rfl
            · exact .inr ⟨inRest, before⟩
      | false =>
          rw [List.takeWhile_cons_of_neg (by simp [bound])]
          refine ⟨fun nowhere => absurd nowhere List.not_mem_nil, ?_⟩
          rintro ⟨present, before⟩
          rcases List.mem_cons.mp present with rfl | inRest
          · rw [bound] at before
            cases before
          · have first := closed first item (below item inRest) before
            rw [bound] at first
            cases first

section Latest

variable {early chosen : Item → Bool}
variable (closed : ∀ left right, key left ≤ key right → early right = true → early left = true)

include closed

theorem mem_latest (item : Item) : item ∈ ((sortOn key items).takeWhile early).reverse ↔
    item ∈ items ∧ early item = true := by
  rw [List.mem_reverse, mem_takeWhile closed (sortOn_ascending key items), mem_sortOn]

/-- The last item of a kind among those up to a bound is the greatest of both. -/
theorem find_latest (separates : Separates key items) :
    ((sortOn key items).takeWhile early).reverse.find? chosen = some best ↔
      Greatest key (fun item => (item ∈ items ∧ early item = true) ∧ chosen item = true) best := by
  have separated : Separates key ((sortOn key items).takeWhile early).reverse := by
    intro left inLeft right inRight
    exact separates left ((mem_latest closed left).mp inLeft).1 right
      ((mem_latest closed right).mp inRight).1
  have descending : ((sortOn key items).takeWhile early).reverse.Pairwise
      fun left right => key right ≤ key left :=
    List.pairwise_reverse.mpr
      ((sortOn_ascending key items).sublist (List.takeWhile_sublist early))
  rw [find_descending separated descending]
  exact Greatest.congr fun item => and_congr_left' (mem_latest closed item)

theorem find_latest_none : ((sortOn key items).takeWhile early).reverse.find? chosen = none ↔
    ∀ item ∈ items, early item = true → ¬ chosen item = true := by
  rw [List.find?_eq_none]
  constructor
  · intro none item listed before
    exact none item ((mem_latest closed item).mpr ⟨listed, before⟩)
  · intro none item member
    obtain ⟨listed, before⟩ := (mem_latest closed item).mp member
    exact none item listed before

end Latest

theorem head_sortDescending (found : (sortDescending key items).head? = some best) :
    Greatest key (· ∈ items) best := by
  obtain ⟨rest, listed⟩ := List.head?_eq_some_iff.mp found
  have sorted := sortOn_ascending (fun item => OrderDual.toDual (key item)) items
  rw [← sortDescending, listed, List.pairwise_cons] at sorted
  have members : ∀ item, item ∈ best :: rest ↔ item ∈ items := by
    intro item
    rw [← listed]
    exact mem_sortOn _ items item
  refine ⟨(members best).mp List.mem_cons_self, ?_⟩
  intro other member
  rcases List.mem_cons.mp ((members other).mpr member) with rfl | behind
  · exact le_refl _
  · exact OrderDual.toDual_le_toDual.mp (sorted.1 other behind)

end Greatest

end CloudGuest.Sorting
