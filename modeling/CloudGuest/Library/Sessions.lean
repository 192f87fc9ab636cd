import CloudGuest.Library.Tables

/-!
Calls in a database session. A call writes as it goes and may raise; a request
commits all it wrote or, when it raised, nothing. A sweep works through a list
of keys of a table, keeps whatever each item wrote, and may be stopped early by
an item whose exception escapes.
-/

namespace CloudGuest.Sessions

open Tables

section Calls

universe u
variable {Fault State Value : Type u}

def left (call : EStateM Fault State Value) (state : State) : State :=
  match call.run state with
  | .ok _ after => after
  | .error _ after => after

def committed (call : EStateM Fault State Value) (state : State) : State :=
  match call.run state with
  | .ok _ after => after
  | .error _ _ => state

def raised (call : EStateM Fault State Value) (state : State) : Bool :=
  match call.run state with
  | .ok _ _ => false
  | .error _ _ => true

end Calls

section Sweeps

universe u v
variable {Row : Type u} {Id : Type v} {idOf : Row → Id} [DecidableEq Id]

def touch (table : Table idOf) (id : Id) (change : Change idOf) : Table idOf :=
  table.updateWhere (fun row => idOf row == id) change

theorem find_touch (table : Table idOf) (id other : Id) (change : Change idOf) :
    (touch table id change).find other =
      if other = id then (table.find other).map change.apply else table.find other := by
  unfold touch
  rw [find_updateWhere]
  cases found : table.find other with
  | none => simp
  | some row =>
      have named := (find_mem table other row found).2
      by_cases same : other = id
      · simp [changeRow, named, same]
      · simp [changeRow, named, same]

/-- Work through the listed keys; an item that stops leaves the rest undone. -/
def sweep (work : Id → Change idOf) (stops : Id → Row → Bool) :
    List Id → Table idOf → Table idOf
  | [], table => table
  | id :: rest, table =>
      match table.find id with
      | none => sweep work stops rest table
      | some row =>
          let worked := touch table id (work id)
          if stops id row then worked else sweep work stops rest worked

/-- A sweep over distinct keys works each of a first part of them once and nothing else;
unless an item stops it, that part is the whole list. -/
theorem sweep_find (work : Id → Change idOf) (stops : Id → Row → Bool) (listed : List Id)
    (table : Table idOf) (distinct : listed.Nodup) :
    ∃ visited, visited <+: listed ∧
      (∀ id, (sweep work stops listed table).find id =
        if id ∈ visited then (table.find id).map (work id).apply else table.find id) ∧
      ((∀ id ∈ listed, ∀ row, table.find id = some row → stops id row = false) →
        visited = listed) := by
  induction listed generalizing table with
  | nil => exact ⟨[], List.prefix_rfl, by simp [sweep], fun _ => rfl⟩
  | cons first rest ih =>
      obtain ⟨absent, distinctRest⟩ := List.nodup_cons.mp distinct
      unfold sweep
      split
      · rename_i missing
        obtain ⟨visited, front, effect, whole⟩ := ih table distinctRest
        refine ⟨first :: visited, List.cons_prefix_cons.mpr ⟨rfl, front⟩, ?_, ?_⟩
        · intro id
          rw [effect id]
          by_cases same : id = first
          · simp [same, missing]
          · simp [same]
        · intro never
          rw [whole fun id member => never id (List.mem_cons_of_mem first member)]
      · rename_i row found
        split
        · rename_i stopped
          refine ⟨[first], ⟨rest, rfl⟩, ?_, ?_⟩
          · intro id
            rw [find_touch]
            by_cases same : id = first
            · simp [same]
            · simp [same]
          · intro never
            rw [never first List.mem_cons_self row found] at stopped
            cases stopped
        · obtain ⟨visited, front, effect, whole⟩ := ih (touch table first (work first)) distinctRest
          refine ⟨first :: visited, List.cons_prefix_cons.mpr ⟨rfl, front⟩, ?_, ?_⟩
          · intro id
            rw [effect id, find_touch]
            by_cases same : id = first
            · have unvisited : first ∉ visited := fun member => absent (front.subset member)
              simp [same, unvisited]
            · simp [same]
          · intro never
            -- The items still to come find their rows as the list was made.
            rw [whole fun id member row stored => never id (List.mem_cons_of_mem first member) row ?_]
            have different : id ≠ first := fun same => absent (same ▸ member)
            rwa [find_touch, if_neg different] at stored

end Sweeps

end CloudGuest.Sessions
