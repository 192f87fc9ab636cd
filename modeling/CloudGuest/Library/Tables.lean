import Mathlib.Data.List.Nodup

/-!
A database table: rows under a primary key no two of them share. A conditional
update changes the rows a predicate selects and no key; an insert adds a row
under an unused key. What is counted afterwards follows from what was counted
before.
-/

namespace CloudGuest.Tables

universe u v
variable {Row : Type u} {Id : Type v} {idOf : Row → Id}

structure Table (idOf : Row → Id) where
  rows : List Row
  unique : (rows.map idOf).Nodup

def Table.empty : Table idOf := ⟨[], List.nodup_nil⟩

def Table.find [DecidableEq Id] (table : Table idOf) (id : Id) : Option Row :=
  table.rows.find? fun row => idOf row == id

def Table.count (table : Table idOf) (counted : Row → Bool) : Nat := table.rows.countP counted

structure Change (idOf : Row → Id) where
  apply : Row → Row
  keeps : ∀ row, idOf (apply row) = idOf row

def changeRow (selected : Row → Bool) (change : Row → Row) (row : Row) : Row :=
  if selected row then change row else row

theorem idOf_changeRow (selected : Row → Bool) (change : Change idOf) (row : Row) :
    idOf (changeRow selected change.apply row) = idOf row := by
  unfold changeRow
  split
  · exact change.keeps row
  · rfl

def Table.updateWhere (table : Table idOf) (selected : Row → Bool) (change : Change idOf) :
    Table idOf where
  rows := table.rows.map (changeRow selected change.apply)
  unique := by
    have same : idOf ∘ changeRow selected change.apply = idOf :=
      funext (idOf_changeRow selected change)
    simpa [same] using table.unique

def Table.insertNew [DecidableEq Id] (table : Table idOf) (row : Row) : Table idOf :=
  if absent : idOf row ∈ table.rows.map idOf then table
  else
    { rows := table.rows ++ [row]
      unique := by
        rw [List.map_append, List.nodup_append]
        refine ⟨table.unique, List.nodup_singleton _, ?_⟩
        intro key stored other added same
        obtain rfl : other = idOf row := by simpa using added
        exact absent (same ▸ stored) }

theorem updateWhere_none (table : Table idOf) (selected : Row → Bool) (change : Change idOf)
    (unselected : ∀ row, selected row = false) : table.updateWhere selected change = table := by
  have same : changeRow selected change.apply = id := by
    funext row
    simp [changeRow, unselected]
  cases table
  simp [Table.updateWhere, same]

theorem count_updateWhere (table : Table idOf) (selected counted : Row → Bool)
    (change : Change idOf) :
    (table.updateWhere selected change).count counted =
      table.count (fun row => counted row && !selected row) +
        table.count (fun row => selected row && counted (change.apply row)) := by
  simp only [Table.count, Table.updateWhere]
  induction table.rows with
  | nil => rfl
  | cons row rest ih =>
      rw [List.map_cons, List.countP_cons, List.countP_cons, List.countP_cons, ih]
      cases chosen : selected row with
      | false => simp only [changeRow, chosen]; simp; omega
      | true => simp only [changeRow, chosen]; simp; omega

theorem count_split (table : Table idOf) (counted selected : Row → Bool) :
    table.count counted =
      table.count (fun row => counted row && selected row) +
        table.count (fun row => counted row && !selected row) := by
  simp only [Table.count]
  induction table.rows with
  | nil => rfl
  | cons row rest ih =>
      simp only [List.countP_cons, ih]
      cases selected row <;> cases counted row <;> simp <;> omega

theorem count_congr (table : Table idOf) (left right : Row → Bool)
    (same : ∀ row ∈ table.rows, left row = right row) : table.count left = table.count right :=
  List.countP_congr fun row member => by simp [same row member]

variable [DecidableEq Id]

theorem find_mem (table : Table idOf) (id : Id) (row : Row) (found : table.find id = some row) :
    row ∈ table.rows ∧ idOf row = id := by
  have member := List.mem_of_find?_eq_some found
  have named := List.find?_some found
  exact ⟨member, by simpa using named⟩

theorem find_of_mem (table : Table idOf) (row : Row) (member : row ∈ table.rows) :
    table.find (idOf row) = some row := by
  cases found : table.find (idOf row) with
  | none =>
      have absent := List.find?_eq_none.mp found row member
      simp at absent
  | some other =>
      obtain ⟨stored, same⟩ := find_mem table (idOf row) other found
      exact congrArg some (List.inj_on_of_nodup_map table.unique stored member same)

theorem find_updateWhere (table : Table idOf) (selected : Row → Bool) (change : Change idOf)
    (id : Id) : (table.updateWhere selected change).find id =
      (table.find id).map (changeRow selected change.apply) := by
  have same : (fun row => idOf row == id) ∘ changeRow selected change.apply =
      fun row => idOf row == id := by
    funext row
    simp [idOf_changeRow]
  simp only [Table.find, Table.updateWhere, List.find?_map, same]

theorem count_pos (table : Table idOf) (counted : Row → Bool) (id : Id) (row : Row)
    (found : table.find id = some row) (holds : counted row = true) : 0 < table.count counted :=
  List.countP_pos_iff.mpr ⟨row, (find_mem table id row found).1, holds⟩

theorem count_one (table : Table idOf) (id : Id) (row : Row) (found : table.find id = some row)
    (counted : Row → Bool) :
    table.count (fun other => idOf other == id && counted other) =
      if counted row then 1 else 0 := by
  obtain ⟨member, named⟩ := find_mem table id row found
  have split := List.append_of_mem member
  obtain ⟨front, back, rows⟩ := split
  have unique := table.unique
  rw [rows, List.map_append, List.map_cons, named] at unique
  have distinct := List.nodup_middle.mp unique
  have absent : id ∉ front.map idOf ++ back.map idOf := (List.nodup_cons.mp distinct).1
  have none_of : ∀ part : List Row, id ∉ part.map idOf →
      part.countP (fun other => idOf other == id && counted other) = 0 := by
    intro part missing
    refine List.countP_eq_zero.mpr ?_
    intro other stored
    have different : idOf other ≠ id := fun same =>
      missing (List.mem_map.mpr ⟨other, stored, same⟩)
    simp [different]
  rw [List.mem_append, not_or] at absent
  simp only [Table.count, rows, List.countP_append, List.countP_cons, none_of front absent.1,
    none_of back absent.2, named]
  simp

theorem count_insertNew (table : Table idOf) (row : Row) (counted : Row → Bool)
    (fresh : idOf row ∉ table.rows.map idOf) :
    (table.insertNew row).count counted = table.count counted + if counted row then 1 else 0 := by
  simp [Table.insertNew, fresh, Table.count]

theorem find_insertNew (table : Table idOf) (row : Row) (id : Id) (stored : Row)
    (found : table.find id = some stored) : (table.insertNew row).find id = some stored := by
  unfold Table.insertNew
  split
  · exact found
  · simp only [Table.find] at found ⊢
    rw [List.find?_append, found]
    rfl

def Table.upsert (table : Table idOf) (row : Row) (change : Change idOf) : Table idOf :=
  match table.find (idOf row) with
  | none => table.insertNew row
  | some _ => table.updateWhere (fun other => idOf other == idOf row) change

theorem find_upsert (table : Table idOf) (row : Row) (change : Change idOf) (id : Id) :
    (table.upsert row change).find id =
      if id = idOf row then some ((table.find id).elim row change.apply) else table.find id := by
  unfold Table.upsert
  split
  · rename_i missing
    have fresh : idOf row ∉ table.rows.map idOf := by
      intro stored
      obtain ⟨other, member, same⟩ := List.mem_map.mp stored
      have found := find_of_mem table other member
      rw [same, missing] at found
      cases found
    by_cases same : id = idOf row
    · subst id
      simp only [↓reduceIte, missing, Option.elim_none, Table.insertNew, fresh, ↓reduceDIte]
      simp only [Table.find, List.find?_append] at missing ⊢
      simp [missing]
    · have other : idOf row ≠ id := fun equal => same equal.symm
      simp only [same, ↓reduceIte, Table.insertNew, fresh, ↓reduceDIte]
      simp [Table.find, List.find?_append, other]
  · rename_i stored found
    rw [find_updateWhere]
    by_cases same : id = idOf row
    · subst id
      have named := (find_mem table (idOf row) stored found).2
      simp [found, changeRow, named]
    · simp only [same, ↓reduceIte]
      cases looked : table.find id with
      | none => rfl
      | some other =>
          have named := (find_mem table id other looked).2
          have different : ¬ idOf other = idOf row := fun equal => same (named.symm.trans equal)
          simp [changeRow, different]

end CloudGuest.Tables
