import CloudGuest.Library.Tallies
import Mathlib.Order.Bounds.Basic
import Mathlib.Order.Bounds.Image

/-!
The latest of what is told, and a table that keeps it for each key. What such a table
holds depends on what it was told only: neither the order nor a repetition matters. A
mark that is moved to the latest, up to a limit and never back, ends at the greatest
of where it stood and what was told up to the limit.
-/

namespace CloudGuest.Latest

open Tallies

universe u v
variable {Key : Type u} [DecidableEq Key] {Value : Type v} [LinearOrder Value]

def IsLatest (values : Set Value) : Option Value → Prop
  | none => values = ∅
  | some latest => IsGreatest values latest

theorem IsLatest.unique {values : Set Value} {first second : Option Value}
    (one : IsLatest values first) (other : IsLatest values second) : first = second := by
  cases first with
  | none =>
      cases second with
      | none => rfl
      | some latest =>
          have empty : values = ∅ := one
          exact absurd (empty ▸ other.1) (Set.notMem_empty latest)
  | some latest =>
      cases second with
      | none =>
          have empty : values = ∅ := other
          exact absurd (empty ▸ one.1) (Set.notMem_empty latest)
      | some later => exact congrArg some (IsGreatest.unique one other)

def later (held : Option Value) (told : Value) : Value :=
  match held with
  | none => told
  | some latest => if latest < told then told else latest

theorem IsLatest.insert {values : Set Value} {held : Option Value} (latest : IsLatest values held)
    (told : Value) : IsLatest (insert told values) (some (later held told)) := by
  cases held with
  | none =>
      obtain rfl : values = ∅ := latest
      rw [insert_empty_eq]
      exact isGreatest_singleton
  | some before =>
      have greatest : IsGreatest (Insert.insert told values) (max told before) :=
        IsGreatest.insert told latest
      have chosen : later (some before) told = max told before := by
        by_cases less : before < told
        · rw [max_eq_left less.le]
          exact if_pos less
        · rw [max_eq_right (not_lt.mp less)]
          exact if_neg less
      rw [chosen]
      exact greatest

def keepLatest (held : List (Key × Value)) (told : Key × Value) : List (Key × Value) :=
  if (valueAt held told.1).all (· < told.2) then adjust told.1 told.2 (fun _ => told.2) held
  else held

theorem valueAt_keepLatest (held : List (Key × Value)) (told : Key × Value) (key : Key) :
    valueAt (keepLatest held told) key =
      if key = told.1 then some (later (valueAt held told.1) told.2) else valueAt held key := by
  unfold keepLatest
  cases before : valueAt held told.1 with
  | none =>
      rw [Option.all_none, if_pos rfl, valueAt_adjust]
      rfl
  | some latest =>
      by_cases less : latest < told.2
      · rw [Option.all_some, if_pos (decide_eq_true less), valueAt_adjust]
        simp [later, less]
      · rw [Option.all_some, if_neg (by simpa using less)]
        by_cases same : key = told.1
        · rw [if_pos same, same, before]
          simp [later, less]
        · rw [if_neg same]

theorem valueAt_latest (told : List (Key × Value)) (key : Key) :
    IsLatest {value | (key, value) ∈ told} (valueAt (told.foldl keepLatest []) key) := by
  -- The table takes its readings from the front, so the induction takes the last one off.
  induction told using List.reverseRecOn with
  | nil =>
      have empty : {value : Value | (key, value) ∈ []} = ∅ := by simp
      exact empty
  | append_singleton told last ih =>
      rw [List.foldl_append, List.foldl_cons, List.foldl_nil, valueAt_keepLatest]
      by_cases same : key = last.1
      · subst same
        have grown : {value | (last.1, value) ∈ told ++ [last]} =
            insert last.2 {value | (last.1, value) ∈ told} := by
          ext value
          simp [Prod.ext_iff, or_comm]
        rw [if_pos rfl, grown]
        exact ih.insert last.2
      · have kept : {value | (key, value) ∈ told ++ [last]} = {value | (key, value) ∈ told} := by
          ext value
          simp [Prod.ext_iff, same]
        rw [if_neg same, kept]
        exact ih

theorem moved_greatest {values : Set Value} {latest : Option Value} (isLatest : IsLatest values latest)
    (limit mark : Value) :
    IsGreatest (insert mark ((fun value => min value limit) '' values))
      (latest.elim mark fun value => max mark (min value limit)) := by
  cases latest with
  | none =>
      obtain rfl : values = ∅ := isLatest
      rw [Set.image_empty, insert_empty_eq]
      exact isGreatest_singleton
  | some value =>
      have clamp : Monotone fun value => min value limit :=
        fun _ _ less => inf_le_inf_right limit less
      exact (clamp.map_isGreatest isLatest).insert mark

theorem greatest_wider {values wider : Set Value} {greatest : Value}
    (isGreatest : IsGreatest values greatest) (within : values ⊆ wider) :
    IsGreatest wider greatest ↔ ∀ value ∈ wider, ∃ old ∈ values, value ≤ old := by
  constructor
  · intro widest value member
    exact ⟨greatest, isGreatest.1, widest.2 member⟩
  · intro below
    refine ⟨within isGreatest.1, ?_⟩
    intro value member
    obtain ⟨old, known, less⟩ := below value member
    exact less.trans (isGreatest.2 known)

end CloudGuest.Latest
