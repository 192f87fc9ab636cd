import CloudGuest.Traffic.FlowRecords

/-!
What preparing a window keeps: every record that is not left out is in exactly
one row, so the rows carry the same bytes, packets and flows, and the counts say
how many records each rule took. The rows come out largest first.
-/

namespace CloudGuest.Traffic

open Sorting Grouping

/-- The three counters of a record; a count the collector did not send adds nothing. -/
inductive Measure where
  | bytes | packets | flows
  deriving DecidableEq

def amount : Measure → FlowRecord → Nat
  | .bytes, record => record.bytes
  | .packets, record => record.packets.getD 0
  | .flows, record => record.flows.getD 0

def sumOf (measure : Measure) (records : List FlowRecord) : Nat :=
  (records.map (amount measure)).sum

theorem sumOf_append (measure : Measure) (front back : List FlowRecord) :
    sumOf measure (front ++ back) = sumOf measure front + sumOf measure back := by
  simp [sumOf]

theorem sumOf_perm (measure : Measure) {left right : List FlowRecord} (same : left.Perm right) :
    sumOf measure left = sumOf measure right :=
  (same.map (amount measure)).sum_eq

theorem total_getD (values : List (Option Nat)) :
    (total values).getD 0 = (values.map fun value => value.getD 0).sum := by
  have present : ∀ values : List (Option Nat),
      (values.filterMap id).sum = (values.map fun value => value.getD 0).sum := by
    intro values
    induction values with
    | nil => rfl
    | cons value rest ih => cases value <;> simpa using ih
  simp only [total]
  split
  · rename_i nothing
    rw [← present, nothing]
    rfl
  · exact present values

theorem amount_mergedFields (measure : Measure) (leading : FlowRecord) (rest : List FlowRecord) :
    amount measure (mergedFields leading rest) = sumOf measure (leading :: rest) := by
  cases measure with
  | bytes => rfl
  | packets =>
      change (total ((leading :: rest).map (·.packets))).getD 0 = _
      rw [total_getD, List.map_map]
      rfl
  | flows =>
      change (total ((leading :: rest).map (·.flows))).getD 0 = _
      rw [total_getD, List.map_map]
      rfl

theorem amount_mergedRecord (measure : Measure) (side : Option Side) (leading : FlowRecord)
    (rest : List FlowRecord) :
    amount measure (mergedRecord side leading rest) = sumOf measure (leading :: rest) := by
  rw [← amount_mergedFields]
  simp only [mergedRecord]
  split
  · rfl
  · split
    · rfl
    · cases measure <;> rfl
  · split
    · rfl
    · cases measure <;> rfl

theorem merge_some (side : Option Side) (group : List FlowRecord) (nonempty : group ≠ []) :
    ∃ row, merge side group = some row := by
  match group with
  | [record] => exact ⟨record, rfl⟩
  | leading :: second :: rest => exact ⟨_, rfl⟩

theorem amount_merge (measure : Measure) (side : Option Side) (group : List FlowRecord)
    (row : FlowRecord) (merged : merge side group = some row) :
    amount measure row = sumOf measure group := by
  match group with
  | [record] =>
      obtain rfl : record = row := by simpa [merge] using merged
      simp [sumOf]
  | leading :: second :: rest =>
      obtain rfl : mergedRecord side leading (second :: rest) = row := by
        simpa [merge] using merged
      exact amount_mergedRecord measure side leading (second :: rest)

theorem merged_rows (measure : Measure) (table : List (GroupKey × List FlowRecord))
    (nonempty : ∀ group ∈ table, group.2 ≠ []) :
    (table.filterMap fun group => merge group.1.side group.2).length = table.length ∧
      sumOf measure (table.filterMap fun group => merge group.1.side group.2) =
        (table.map fun group => sumOf measure group.2).sum := by
  induction table with
  | nil => simp [sumOf]
  | cons group rest ih =>
      obtain ⟨row, merged⟩ := merge_some group.1.side group.2 (nonempty group List.mem_cons_self)
      obtain ⟨lengths, sums⟩ := ih fun other member =>
        nonempty other (List.mem_cons_of_mem group member)
      have first := amount_merge measure group.1.side group.2 row merged
      simp only [List.filterMap_cons, merged, List.length_cons, lengths, List.map_cons,
        List.sum_cons, true_and]
      rw [← sums, ← first]
      rfl

section Preparation

variable (records : List FlowRecord) (storeInternal mergePorts : Bool) (summarisedPorts : List Nat)

theorem prepared_rows (measure : Measure) :
    let kept := records.filter fun record => !leftOut storeInternal record
    let rows := (prepareRecords records storeInternal mergePorts summarisedPorts).1
    rows.length ≤ kept.length ∧ sumOf measure rows = sumOf measure kept := by
  intro kept rows
  have nonempty : ∀ group ∈ groups (groupKey mergePorts summarisedPorts) kept, group.2 ≠ [] :=
    fun group member => ((mem_groups _ _ _ _).mp member).2
  obtain ⟨lengths, sums⟩ := merged_rows measure _ nonempty
  have sorted : rows.Perm ((groups (groupKey mergePorts summarisedPorts) kept).filterMap
      fun group => merge group.1.side group.2) := sortOn_perm largestFirst _
  constructor
  · rw [sorted.length_eq, lengths]
    exact length_groups_le _ _
  · rw [sumOf_perm measure sorted, sums]
    exact sum_groups _ (amount measure) kept

theorem prepared_counts :
    let prepared := prepareRecords records storeInternal mergePorts summarisedPorts
    prepared.2.received = records.length ∧
      records.length = prepared.1.length + prepared.2.merged + prepared.2.internal := by
  intro prepared
  have rows := (prepared_rows records storeInternal mergePorts summarisedPorts .bytes).1
  have split := List.length_eq_countP_add_countP (leftOut storeInternal) (l := records)
  have kept : (records.filter fun record => !leftOut storeInternal record).length =
      records.countP fun record => !leftOut storeInternal record :=
    List.countP_eq_length_filter.symm
  refine ⟨rfl, ?_⟩
  change records.length = prepared.1.length +
    (records.length - records.countP (leftOut storeInternal) - prepared.1.length) +
      records.countP (leftOut storeInternal)
  simp only [Bool.not_eq_true, ← Bool.not_eq_true', Bool.decide_eq_true] at split
  rw [kept] at rows
  have : prepared.1.length ≤ records.countP fun record => !leftOut storeInternal record := rows
  omega

theorem prepared_largest_first :
    (prepareRecords records storeInternal mergePorts summarisedPorts).1.Pairwise
      fun earlier later => later.bytes ≤ earlier.bytes := by
  refine (sortOn_ascending largestFirst _).imp ?_
  intro earlier later ordered
  rcases Prod.Lex.le_iff.mp ordered with less | ⟨same, -⟩
  · exact le_of_lt (OrderDual.toDual_lt_toDual.mp less)
  · exact le_of_eq (OrderDual.toDual.injective same).symm

end Preparation

end CloudGuest.Traffic
