import CloudGuest.Library.RunningTotals
import Mathlib.Order.Defs.LinearOrder

/-!
Counters that start anew when the key they count under grows. If what is counted never
goes back to an earlier key, a counter starts anew once for each key and holds all that
was counted under its last one.
-/

namespace CloudGuest.Rollovers

open RunningTotals

universe u v
variable {Key : Type u} {Value : Type v}

structure Counter (Key : Type u) (Value : Type v) where
  key : Key
  total : Value

structure Entry (Key : Type u) (Value : Type v) where
  key : Key
  value : Value
  renewed : Bool

def RenewedOnce : List (Entry Key Value) → Prop
  | [] => True
  | entry :: earlier =>
      (entry.renewed = true ↔ ∀ past ∈ earlier, past.key ≠ entry.key) ∧ RenewedOnce earlier

theorem RenewedOnce.at {entry : Entry Key Value} {later earlier : List (Entry Key Value)}
    (once : RenewedOnce (later ++ entry :: earlier)) :
    entry.renewed = true ↔ ∀ past ∈ earlier, past.key ≠ entry.key := by
  induction later with
  | nil => exact once.1
  | cons last later ih => exact ih once.2

variable [LinearOrder Key] [AddCommMonoid Value]

def renews (counter : Option (Counter Key Value)) (key : Key) : Bool :=
  counter.all fun counter => counter.key < key

def rolled (counter : Option (Counter Key Value)) (key : Key) : Counter Key Value :=
  match counter with
  | none => ⟨key, 0⟩
  | some counter => if counter.key < key then ⟨key, 0⟩ else counter

def Counter.add (counter : Counter Key Value) (value : Value) : Counter Key Value :=
  { counter with total := counter.total + value }

def countedUnder (key : Key) (log : List (Entry Key Value)) : Value :=
  total Entry.value (part Entry.key key log)

def Tells : List (Entry Key Value) → Option (Counter Key Value) → Prop
  | [], none => True
  | last :: earlier, some counter =>
      last.key = counter.key ∧ (∀ past ∈ earlier, past.key ≤ counter.key) ∧
        counter.total = countedUnder counter.key (last :: earlier) ∧ RenewedOnce (last :: earlier)
  | _, _ => False

section Logs

variable {log : List (Entry Key Value)} {counter : Option (Counter Key Value)} {key : Key}

theorem countedUnder_cons (entry : Entry Key Value) (log : List (Entry Key Value)) :
    countedUnder entry.key (entry :: log) = countedUnder entry.key log + entry.value := by
  simp [countedUnder, part, total, add_comm]

theorem countedUnder_none (log : List (Entry Key Value)) (key : Key)
    (apart : ∀ entry ∈ log, entry.key ≠ key) : countedUnder key log = 0 := by
  have nothing : part Entry.key key log = [] := by
    refine List.filter_eq_nil_iff.mpr ?_
    intro entry member here
    exact apart entry member (beq_iff_eq.mp here)
  rw [countedUnder, nothing, total_nil]

theorem Tells.renewedOnce (tells : Tells log counter) : RenewedOnce log := by
  cases log with
  | nil => trivial
  | cons last earlier =>
      cases counter with
      | none => exact tells.elim
      | some counter => exact tells.2.2.2

theorem Tells.enter (tells : Tells log counter) (grown : ∀ past ∈ log, past.key ≤ key)
    (value : Value) :
    Tells (⟨key, value, renews counter key⟩ :: log) (some ((rolled counter key).add value)) := by
  have before := tells.renewedOnce
  cases log with
  | nil =>
      cases counter with
      | none => simp [Tells, RenewedOnce, renews, rolled, Counter.add, countedUnder, part, total]
      | some counter => exact tells.elim
  | cons last earlier =>
      cases counter with
      | none => exact tells.elim
      | some counter =>
          obtain ⟨here, below, counted, -⟩ := tells
          have lastGrown : counter.key ≤ key := here ▸ grown last List.mem_cons_self
          by_cases new : counter.key < key
          · -- All the keys of the log are before the new one.
            have apart : ∀ past ∈ last :: earlier, past.key ≠ key := by
              intro past member
              rcases List.mem_cons.mp member with rfl | old
              · exact ne_of_lt (here ▸ new)
              · exact ne_of_lt (lt_of_le_of_lt (below past old) new)
            have renewal : renews (some counter) key = true := by simp [renews, new]
            have anew : rolled (some counter) key = ⟨key, 0⟩ := if_pos new
            have counted :
                countedUnder key (⟨key, value, true⟩ :: last :: earlier) = 0 + value := by
              rw [← countedUnder_none (last :: earlier) key apart]
              exact countedUnder_cons ⟨key, value, true⟩ (last :: earlier)
            rw [anew, renewal]
            exact ⟨rfl, grown, counted.symm, iff_of_true rfl apart, before⟩
          · obtain rfl : counter.key = key := le_antisymm lastGrown (not_lt.mp new)
            have renewal : renews (some counter) counter.key = false := by simp [renews]
            have kept : rolled (some counter) counter.key = counter := if_neg (lt_irrefl _)
            have added := countedUnder_cons ⟨counter.key, value, false⟩ (last :: earlier)
            rw [← counted] at added
            rw [kept, renewal]
            refine ⟨rfl, grown, added.symm, iff_of_false Bool.false_ne_true ?_, before⟩
            intro apart
            exact apart last List.mem_cons_self here

end Logs

end CloudGuest.Rollovers
