import CloudGuest.Library.Grouping

/-!
Dictionaries of totals: `table.setdefault(key, fresh)` brought up to date in place,
item after item. A total is what its key's items add up to, so that a sum over the
table is a sum over the items, and the order of the items moves entries only.
-/

namespace CloudGuest.Tallies

open Grouping

universe u v w
variable {Item : Type u} {Key : Type v} [DecidableEq Key] {Value : Type w}

def adjust (key : Key) (fresh : Value) (change : Value → Value) :
    List (Key × Value) → List (Key × Value)
  | [] => [(key, change fresh)]
  | (known, value) :: rest =>
      if known = key then (known, change value) :: rest
      else (known, value) :: adjust key fresh change rest

def valueAt (table : List (Key × Value)) (key : Key) : Option Value :=
  (table.find? fun entry => entry.1 = key).map Prod.snd

section Tally

variable (keyOf : Item → Key) (fresh : Key → Value) (add : Value → Item → Value)

def tally (items : List Item) : List (Key × Value) :=
  items.foldl
    (fun table item => adjust (keyOf item) (fresh (keyOf item)) (add · item) table) []

theorem tally_append (items : List Item) (item : Item) :
    tally keyOf fresh add (items ++ [item]) =
      adjust (keyOf item) (fresh (keyOf item)) (add · item) (tally keyOf fresh add items) := by
  simp [tally]

def entryOf (group : Key × List Item) : Key × Value :=
  (group.1, group.2.foldl add (fresh group.1))

theorem map_appendTo (key : Key) (item : Item) (table : List (Key × List Item)) :
    (appendTo key item table).map (entryOf fresh add) =
      adjust key (fresh key) (add · item) (table.map (entryOf fresh add)) := by
  induction table with
  | nil => rfl
  | cons group rest ih =>
      obtain ⟨known, members⟩ := group
      by_cases same : known = key
      · subst same
        simp [appendTo, adjust, entryOf]
      · have kept : (entryOf fresh add (known, members)).1 ≠ key := same
        rw [appendTo, if_neg same, List.map_cons, List.map_cons, ih]
        exact (if_neg kept).symm

theorem tally_groups (items : List Item) :
    tally keyOf fresh add items = (groups keyOf items).map (entryOf fresh add) := by
  -- A tally takes its items from the front, so the induction takes the last one off.
  induction items using List.reverseRecOn with
  | nil => rfl
  | append_singleton items item ih => rw [tally_append, ih, groups_append, map_appendTo]

theorem keys_tally (items : List Item) :
    (tally keyOf fresh add items).map Prod.fst = (groups keyOf items).map Prod.fst := by
  rw [tally_groups, List.map_map]
  rfl

theorem tally_nodup (items : List Item) : ((tally keyOf fresh add items).map Prod.fst).Nodup := by
  rw [keys_tally]
  exact keys_nodup keyOf items

theorem mem_tally (items : List Item) (key : Key) (value : Value) :
    (key, value) ∈ tally keyOf fresh add items ↔
      value = (items.filter fun item => keyOf item = key).foldl add (fresh key) ∧
        ∃ item ∈ items, keyOf item = key := by
  rw [tally_groups, List.mem_map]
  constructor
  · rintro ⟨⟨known, members⟩, grouped, same⟩
    obtain ⟨rfl, rfl⟩ : known = key ∧ members.foldl add (fresh known) = value := by
      simpa [entryOf] using same
    obtain ⟨rfl, nonempty⟩ := (mem_groups _ _ _ _).mp grouped
    obtain ⟨item, member⟩ := List.exists_mem_of_ne_nil _ nonempty
    have found : item ∈ items ∧ keyOf item = known := by simpa using member
    exact ⟨rfl, item, found⟩
  · rintro ⟨rfl, item, member, same⟩
    have chosen : item ∈ items.filter fun item => keyOf item = key := by simp [member, same]
    exact ⟨(key, _), (mem_groups _ _ _ _).mpr ⟨rfl, List.ne_nil_of_mem chosen⟩, rfl⟩

theorem valueAt_of_mem {table : List (Key × Value)} (unique : (table.map Prod.fst).Nodup)
    {key : Key} {value : Value} (member : (key, value) ∈ table) :
    valueAt table key = some value := by
  induction table with
  | nil => cases member
  | cons entry rest ih =>
      obtain ⟨absent, apart⟩ := List.nodup_cons.mp unique
      rcases List.mem_cons.mp member with rfl | later
      · simp [valueAt]
      · have other : entry.1 ≠ key := by
          rintro rfl
          exact absent (List.mem_map.mpr ⟨_, later, rfl⟩)
        have skipped : valueAt (entry :: rest) key = valueAt rest key := by
          simp [valueAt, other]
        rw [skipped, ih apart later]

theorem valueAt_adjust (key : Key) (fresh : Value) (change : Value → Value)
    (table : List (Key × Value)) (other : Key) :
    valueAt (adjust key fresh change table) other =
      if other = key then some (change ((valueAt table key).getD fresh)) else valueAt table other := by
  induction table with
  | nil =>
      by_cases same : other = key
      · simp [adjust, valueAt, same]
      · simp [adjust, valueAt, same, Ne.symm same]
  | cons entry rest ih =>
      obtain ⟨known, value⟩ := entry
      by_cases here : known = key
      · subst here
        by_cases same : other = known
        · simp [adjust, valueAt, same]
        · simp [adjust, valueAt, same, Ne.symm same]
      · by_cases asked : known = other
        · subst asked
          simp [adjust, valueAt, here]
        · simp only [valueAt] at ih
          simp [adjust, valueAt, here, asked, ih]

theorem valueAt_tally (items : List Item) (key : Key) (seen : ∃ item ∈ items, keyOf item = key) :
    (valueAt (tally keyOf fresh add items) key).isSome := by
  have stored := (mem_tally keyOf fresh add items key _).mpr ⟨rfl, seen⟩
  rw [valueAt_of_mem (tally_nodup keyOf fresh add items) stored]
  rfl

section Sums

variable {Amount : Type*} [AddCommMonoid Amount]
variable (measure : Value → Amount) (amount : Item → Amount)
variable (nothing : ∀ key, measure (fresh key) = 0)
variable (adds : ∀ value item, measure (add value item) = measure value + amount item)

include adds in
theorem measure_foldl (items : List Item) (value : Value) :
    measure (items.foldl add value) = measure value + (items.map amount).sum := by
  induction items generalizing value with
  | nil => simp
  | cons item rest ih => rw [List.foldl_cons, ih, adds, List.map_cons, List.sum_cons, add_assoc]

include nothing adds

theorem sum_tally (items : List Item) :
    ((tally keyOf fresh add items).map fun entry => measure entry.2).sum =
      (items.map amount).sum := by
  rw [tally_groups, List.map_map, ← sum_groups keyOf amount items]
  refine congrArg List.sum (List.map_congr_left ?_)
  rintro ⟨key, members⟩ -
  have held := measure_foldl add measure amount adds members (fresh key)
  rw [nothing, zero_add] at held
  exact held

theorem sum_lookup {Other : Type*} (otherFresh : Key → Other) (otherAdd : Other → Item → Other)
    (missing : Amount) (items : List Item) :
    ((tally keyOf otherFresh otherAdd items).map fun entry =>
      ((valueAt (tally keyOf fresh add items) entry.1).map measure).getD missing).sum =
      (items.map amount).sum := by
  -- Both tallies have the keys of the same groups, so no lookup misses.
  have found : ∀ entry ∈ groups keyOf items,
      valueAt (tally keyOf fresh add items) entry.1 = some (entryOf fresh add entry).2 := by
    intro entry member
    refine valueAt_of_mem (tally_nodup keyOf fresh add items) ?_
    rw [tally_groups]
    exact List.mem_map_of_mem member
  rw [← sum_tally keyOf fresh add measure amount nothing adds items,
    tally_groups keyOf otherFresh, List.map_map, tally_groups keyOf fresh, List.map_map]
  refine congrArg List.sum (List.map_congr_left ?_)
  intro entry member
  have looked := found entry member
  rw [tally_groups] at looked
  simp only [Function.comp_apply, entryOf] at looked ⊢
  rw [looked]
  rfl

end Sums

/-- Where a total does not depend on the order of its items, neither do the entries. -/
theorem tally_perm [RightCommutative add] {items other : List Item} (same : items.Perm other) :
    (tally keyOf fresh add items).Perm (tally keyOf fresh add other) := by
  have apart := tally_nodup keyOf fresh add items
  have otherApart := tally_nodup keyOf fresh add other
  refine (List.perm_ext_iff_of_nodup apart.of_map otherApart.of_map).mpr ?_
  rintro ⟨key, value⟩
  have chosen := same.filter fun item => keyOf item = key
  rw [mem_tally, mem_tally, chosen.foldl_eq (fresh key)]
  refine and_congr_right fun _ => exists_congr fun item => and_congr_left' same.mem_iff

end Tally

section Counts

variable (keyOf : Item → Key)

def counts (items : List Item) : List (Key × Nat) :=
  tally keyOf (fun _ => 0) (fun count _ => count + 1) items

def countAt (table : List (Key × Nat)) (key : Key) : Nat := (valueAt table key).getD 0

theorem foldl_succ (items : List Item) (start : Nat) :
    items.foldl (fun count _ => count + 1) start = start + items.length := by
  induction items generalizing start with
  | nil => rfl
  | cons item rest ih =>
      rw [List.foldl_cons, ih, List.length_cons]
      omega

theorem countAt_counts (items : List Item) (key : Key) :
    countAt (counts keyOf items) key = items.countP fun item => keyOf item = key := by
  by_cases seen : ∃ item ∈ items, keyOf item = key
  · have stored := (mem_tally keyOf (fun _ => 0) (fun count _ => count + 1) items key _).mpr
      ⟨rfl, seen⟩
    rw [countAt, counts, valueAt_of_mem (tally_nodup keyOf _ _ items) stored, Option.getD_some,
      foldl_succ, zero_add, List.countP_eq_length_filter]
  · have missing : valueAt (counts keyOf items) key = none := by
      rw [valueAt, Option.map_eq_none_iff, List.find?_eq_none]
      intro entry member same
      rw [decide_eq_true_eq] at same
      subst same
      exact seen ((mem_tally keyOf _ _ items entry.1 entry.2).mp member).2
    rw [countAt, missing, Option.getD_none, eq_comm, List.countP_eq_zero]
    intro item member same
    exact seen ⟨item, member, of_decide_eq_true same⟩

end Counts

end CloudGuest.Tallies
