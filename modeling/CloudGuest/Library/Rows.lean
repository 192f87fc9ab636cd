import Mathlib

/-!
Tables whose rows stay at their places: rows are changed and appended, never
removed. `Evolves` says of every row of a table what became of it in a later one.
-/

namespace CloudGuest.Rows

universe u
variable {Row : Type u} {became : Row → Row → Prop} {before middle after : List Row}

def Evolves (became : Row → Row → Prop) (before after : List Row) : Prop :=
  ∀ (place : Nat) (row : Row), before[place]? = some row →
    ∃ later, after[place]? = some later ∧ became row later

theorem Evolves.refl (stays : ∀ row, became row row) : Evolves became before before :=
  fun _ row stored => ⟨row, stored, stays row⟩

theorem Evolves.trans (joins : ∀ first second third, became first second → became second third →
      became first third)
    (early : Evolves became before middle) (late : Evolves became middle after) :
    Evolves became before after := by
  intro place row stored
  obtain ⟨between, storedBetween, first⟩ := early place row stored
  obtain ⟨last, storedLast, second⟩ := late place between storedBetween
  exact ⟨last, storedLast, joins row between last first second⟩

theorem Evolves.appended (stays : ∀ row, became row row) (added : List Row) :
    Evolves became before (before ++ added) := by
  intro place row stored
  have inside := (List.getElem?_eq_some_iff.mp stored).1
  exact ⟨row, by rw [List.getElem?_append_left inside, stored], stays row⟩

theorem Evolves.mapped (change : Row → Row) (changes : ∀ row, became row (change row)) :
    Evolves became before (before.map change) :=
  fun _ row stored => ⟨change row, by simp [stored], changes row⟩

theorem Evolves.replaced (stays : ∀ row, became row row) {place : Nat} {row next : Row}
    (found : before[place]? = some row) (changes : became row next) :
    Evolves became before (before.set place next) := by
  intro other stored held
  by_cases here : place = other
  · subst here
    obtain rfl : row = stored := Option.some.inj (found.symm.trans held)
    have inside := (List.getElem?_eq_some_iff.mp found).1
    exact ⟨next, by simp [inside], changes⟩
  · exact ⟨stored, by simp [here, held], stays stored⟩

theorem Evolves.modified (stays : ∀ row, became row row) {place : Nat} {change : Row → Row}
    (changes : ∀ row, before[place]? = some row → became row (change row)) :
    Evolves became before (before.modify place change) := by
  intro other row stored
  by_cases here : place = other
  · subst here
    exact ⟨change row, by simp [stored], changes row stored⟩
  · exact ⟨row, by simp [here, stored], stays row⟩

theorem Evolves.weight_le (kind : Row → Bool) (weight : Row → Nat)
    (grows : ∀ row later, became row later → kind row = true →
      kind later = true ∧ weight row ≤ weight later)
    (evolves : Evolves became before after) :
    ((before.filter kind).map weight).sum ≤ ((after.filter kind).map weight).sum := by
  induction before generalizing after with
  | nil => simp
  | cons row rest ih =>
      obtain ⟨later, stored, changes⟩ := evolves 0 row rfl
      cases after with
      | nil => simp at stored
      | cons first others =>
          obtain rfl : first = later := by simpa using stored
          have tail := ih fun place row stored => evolves (place + 1) row stored
          by_cases counted : kind row = true
          · obtain ⟨still, heavier⟩ := grows row first changes counted
            simp only [List.filter_cons, counted, still, if_true, List.map_cons, List.sum_cons]
            exact Nat.add_le_add heavier tail
          · simp only [List.filter_cons, counted]
            refine tail.trans ?_
            split
            · simp
            · exact le_rfl

theorem replaced_cases {place other : Nat} {row next : Row}
    (stored : (before.set place next)[other]? = some row) :
    place = other ∧ row = next ∨ place ≠ other ∧ before[other]? = some row := by
  by_cases here : place = other
  · subst here
    have inside : place < before.length := by
      have := (List.getElem?_eq_some_iff.mp stored).1
      simpa using this
    rw [List.getElem?_set_self inside] at stored
    exact .inl ⟨rfl, (Option.some.inj stored).symm⟩
  · rw [List.getElem?_set_ne here] at stored
    exact .inr ⟨here, stored⟩

theorem appended_cases {added : List Row} {place : Nat} {row : Row}
    (stored : (before ++ added)[place]? = some row) :
    before[place]? = some row ∨ before.length ≤ place ∧ row ∈ added := by
  rcases lt_or_ge place before.length with inside | outside
  · rw [List.getElem?_append_left inside] at stored
    exact .inl stored
  · rw [List.getElem?_append_right outside] at stored
    exact .inr ⟨outside, List.mem_of_getElem? stored⟩

/-! ### Rows one after another -/

theorem find_newest {rows : List Row} {kind pick : Row → Bool} {row : Row}
    (found : (rows.filter kind).reverse.find? pick = some row) :
    ∃ front behind, rows = front ++ row :: behind ∧ kind row = true ∧ pick row = true ∧
      ∀ newer ∈ behind, kind newer = true → pick newer = false := by
  obtain ⟨picked, newer, older, split, passed⟩ := List.find?_eq_some_iff_append.mp found
  have whole : rows.filter kind = older.reverse ++ row :: newer.reverse := by
    rw [← List.reverse_reverse (rows.filter kind), split]
    simp
  obtain ⟨front, back, rfl, -, kept⟩ := List.filter_eq_append_iff.mp whole
  obtain ⟨skipped, behind, rfl, -, ofKind, rest⟩ := List.filter_eq_cons_iff.mp kept
  refine ⟨front ++ skipped, behind, by simp, ofKind, picked, ?_⟩
  intro other member otherKind
  have listed : other ∈ newer := by
    rw [← List.mem_reverse, ← rest]
    exact List.mem_filter.mpr ⟨member, otherKind⟩
  simpa using passed other listed

section Keyed

universe w
variable {Key : Type w} [DecidableEq Key] (keyOf : Row → Key)

def replaceKeyed (row : Row) (rows : List Row) : List Row :=
  rows.map fun other => if keyOf other = keyOf row then row else other

theorem replaceKeyed_keys (row : Row) (rows : List Row) :
    (replaceKeyed keyOf row rows).map keyOf = rows.map keyOf := by
  unfold replaceKeyed
  rw [List.map_map]
  refine List.map_congr_left ?_
  intro other _
  dsimp only [Function.comp_apply]
  split
  · rename_i same
    exact same.symm
  · rfl

theorem replaceKeyed_absent {row : Row} {rows : List Row} (absent : keyOf row ∉ rows.map keyOf) :
    replaceKeyed keyOf row rows = rows := by
  unfold replaceKeyed
  refine (List.map_congr_left ?_).trans (List.map_id rows)
  intro other member
  refine if_neg fun same => absent ?_
  rw [← same]
  exact List.mem_map_of_mem member

theorem replaceKeyed_split {front behind : List Row} {held row : Row}
    (distinct : ((front ++ held :: behind).map keyOf).Nodup) (same : keyOf held = keyOf row) :
    replaceKeyed keyOf row (front ++ held :: behind) = front ++ row :: behind := by
  rw [List.map_append, List.map_cons, List.nodup_middle, List.nodup_cons, same,
    List.mem_append] at distinct
  have ahead := replaceKeyed_absent keyOf fun member => distinct.1 (Or.inl member)
  have after := replaceKeyed_absent keyOf fun member => distinct.1 (Or.inr member)
  unfold replaceKeyed at ahead after ⊢
  rw [List.map_append, List.map_cons, ahead, after, if_pos same]

end Keyed

/-! ### The newest row of a key

In a table that rows are appended to, the newest row of a key is the last one. -/

section Newest

universe v
variable {Key : Type v} [DecidableEq Key]

def lastIndex (key : Key) : List Key → Option Nat
  | [] => none
  | first :: rest =>
      match lastIndex key rest with
      | some place => some (place + 1)
      | none => if first = key then some 0 else none

theorem lastIndex_none {key : Key} {keys : List Key} : lastIndex key keys = none ↔ key ∉ keys := by
  induction keys with
  | nil => simp [lastIndex]
  | cons first rest ih =>
      simp only [lastIndex, List.mem_cons]
      cases found : lastIndex key rest with
      | some place =>
          have inside : key ∈ rest := by
            by_contra absent
            rw [ih.mpr absent] at found
            cases found
          simp [inside]
      | none =>
          have outside : key ∉ rest := ih.mp found
          by_cases here : first = key
          · simp [here]
          · simp [here, outside, Ne.symm here]

theorem lastIndex_some {key : Key} {keys : List Key} {place : Nat}
    (found : lastIndex key keys = some place) : keys[place]? = some key := by
  induction keys generalizing place with
  | nil => simp [lastIndex] at found
  | cons first rest ih =>
      simp only [lastIndex] at found
      split at found
      · rename_i later laterFound
        cases found
        simpa using ih laterFound
      · split at found <;> cases found
        rename_i same
        simp [same]

theorem lastIndex_append {key : Key} (keys : List Key) {added : List Key} (others : key ∉ added) :
    lastIndex key (keys ++ added) = lastIndex key keys := by
  induction keys with
  | nil => simpa [lastIndex] using lastIndex_none.mpr others
  | cons first rest ih => simp [lastIndex, ih]

theorem lastIndex_concat (key : Key) (keys : List Key) :
    lastIndex key (keys ++ [key]) = some keys.length := by
  induction keys with
  | nil => simp [lastIndex]
  | cons first rest ih => simp [lastIndex, ih]

variable {keyOf : Row → Key}

def newest (keyOf : Row → Key) (key : Key) (rows : List Row) : Option Nat :=
  lastIndex key (rows.map keyOf)

def changeNewest (keyOf : Row → Key) (key : Key) (change : Row → Row) (rows : List Row) : List Row :=
  match newest keyOf key rows with
  | none => rows
  | some place => rows.modify place change

theorem newest_row {key : Key} {rows : List Row} {place : Nat}
    (found : newest keyOf key rows = some place) :
    ∃ row, rows[place]? = some row ∧ keyOf row = key := by
  have stored := lastIndex_some found
  rw [List.getElem?_map] at stored
  obtain ⟨row, held, same⟩ := Option.map_eq_some_iff.mp stored
  exact ⟨row, held, same⟩

theorem changeNewest_map {Seen : Type*} (seen : Row → Seen) {change : Row → Row}
    (kept : ∀ row, seen (change row) = seen row) (key : Key) (rows : List Row) :
    (changeNewest keyOf key change rows).map seen = rows.map seen := by
  unfold changeNewest
  split
  · rfl
  · apply List.ext_getElem?
    intro place
    rw [List.getElem?_map, List.getElem?_map, List.getElem?_modify]
    cases rows[place]? with
    | none => rfl
    | some row =>
        simp only [Option.map_eq_map, Option.map_some]
        split
        · rw [kept]
        · rfl

theorem changeNewest_of_mem (key : Key) (change : Row → Row) {rows : List Row} {row : Row}
    (held : row ∈ rows) :
    row ∈ changeNewest keyOf key change rows ∨
      keyOf row = key ∧ change row ∈ changeNewest keyOf key change rows := by
  unfold changeNewest
  split
  · exact .inl held
  · rename_i place found
    obtain ⟨newestRow, stored, own⟩ := newest_row found
    obtain ⟨other, storedOther⟩ := List.mem_iff_getElem?.mp held
    by_cases here : place = other
    · subst here
      obtain rfl : newestRow = row := Option.some.inj (stored.symm.trans storedOther)
      refine .inr ⟨own, List.mem_iff_getElem?.mpr ⟨place, ?_⟩⟩
      simp [stored]
    · refine .inl (List.mem_iff_getElem?.mpr ⟨other, ?_⟩)
      simp [here, storedOther]

theorem changeNewest_newest {key : Key} (change : Row → Row) {rows : List Row} {place : Nat}
    {row : Row} (found : newest keyOf key rows = some place) (stored : rows[place]? = some row) :
    change row ∈ changeNewest keyOf key change rows := by
  rw [changeNewest, found]
  refine List.mem_iff_getElem?.mpr ⟨place, ?_⟩
  simp [stored]

theorem changeNewest_same {change : Row → Row} (same : ∀ row, change row = row) (key : Key)
    (rows : List Row) : changeNewest keyOf key change rows = rows := by
  obtain rfl : change = id := funext same
  unfold changeNewest
  split
  · rfl
  · exact List.modify_id _ rows

theorem changeNewest_append {key : Key} (change : Row → Row) (rows : List Row) {added : List Row}
    (others : key ∉ added.map keyOf) :
    changeNewest keyOf key change (rows ++ added) = changeNewest keyOf key change rows ++ added := by
  have same : newest keyOf key (rows ++ added) = newest keyOf key rows := by
    unfold newest
    rw [List.map_append, lastIndex_append _ others]
  unfold changeNewest
  rw [same]
  cases found : newest keyOf key rows with
  | none => rfl
  | some place =>
      obtain ⟨row, stored, -⟩ := newest_row found
      have inside := (List.getElem?_eq_some_iff.mp stored).1
      apply List.ext_getElem?
      intro index
      rw [List.getElem?_modify, List.getElem?_append, List.getElem?_append, List.length_modify,
        List.getElem?_modify]
      by_cases listed : index < rows.length
      · rw [if_pos listed, if_pos listed]
      · have elsewhere : place ≠ index := by omega
        simp [listed, elsewhere]

theorem changeNewest_mapped {key : Key} {change other : Row → Row}
    (kept : ∀ row, keyOf (other row) = keyOf row)
    (commute : ∀ row, change (other row) = other (change row)) (rows : List Row) :
    changeNewest keyOf key change (rows.map other) =
      (changeNewest keyOf key change rows).map other := by
  have same : newest keyOf key (rows.map other) = newest keyOf key rows := by
    unfold newest
    rw [List.map_map]
    exact congrArg (lastIndex key) (List.map_congr_left fun row _ => kept row)
  unfold changeNewest
  rw [same]
  cases newest keyOf key rows with
  | none => rfl
  | some place =>
      apply List.ext_getElem?
      intro index
      simp only [List.getElem?_modify, List.getElem?_map]
      cases rows[index]? with
      | none => rfl
      | some row =>
          simp only [Option.map_eq_map, Option.map_some]
          split
          · rw [commute]
          · rfl

theorem changeNewest_comm {key key' : Key} {change change' : Row → Row} (apart : key ≠ key')
    (kept : ∀ row, keyOf (change row) = keyOf row) (kept' : ∀ row, keyOf (change' row) = keyOf row)
    (rows : List Row) :
    changeNewest keyOf key change (changeNewest keyOf key' change' rows) =
      changeNewest keyOf key' change' (changeNewest keyOf key change rows) := by
  have same : newest keyOf key (changeNewest keyOf key' change' rows) = newest keyOf key rows :=
    congrArg (lastIndex key) (changeNewest_map keyOf kept' key' rows)
  have same' : newest keyOf key' (changeNewest keyOf key change rows) = newest keyOf key' rows :=
    congrArg (lastIndex key') (changeNewest_map keyOf kept key rows)
  unfold changeNewest at same same' ⊢
  rw [same, same']
  cases found : newest keyOf key rows with
  | none => rfl
  | some place =>
      cases found' : newest keyOf key' rows with
      | none => rfl
      | some place' =>
          refine List.modify_modify_ne _ _ rows fun here => apart ?_
          subst here
          obtain ⟨row, stored, own⟩ := newest_row found
          obtain ⟨other, held, own'⟩ := newest_row found'
          obtain rfl : row = other := Option.some.inj (stored.symm.trans held)
          exact own.symm.trans own'

end Newest

end CloudGuest.Rows
