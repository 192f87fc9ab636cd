import CloudGuest.Ipdr.DayCuts
import CloudGuest.Library.Components

/-!
What stitching traffic records computes: one connection for each connected component
of the records of a five-tuple, where two records are near when their intervals are at
most the gap apart. A record that ends before it starts lasts one instant.
-/

namespace CloudGuest.Ipdr

open Texts Calendar Sorting Grouping Stitching

section Records

structure TimedTraffic (flow : FlowInput) : Prop where
  traffic : flow.natEvent = none
  timed : flow.flowStart.isSome = true

/-- An upload or a download; a record of any other direction has no guest's side. -/
def isGuests (flow : FlowInput) : Bool := flow.direction = .upload || flow.direction = .download

def lastOf (flow : FlowInput) : Int := max (startOf flow) (endOf flow)

def recordsOf (flows : List FlowInput) (key : ConnectionKey) : List FlowInput :=
  flows.filter fun flow => isGuests flow && guestFirst flow = key

/-- Two records are connected when some way leads from one to the other over records of their
five-tuple that are at most the gap apart. -/
def Together (gap : Int) (records : List FlowInput) : FlowInput → FlowInput → Prop :=
  Connected startOf lastOf (fun moment => moment + gap) records

open Classical in
noncomputable def component (gap : Int) (flows : List FlowInput) (flow : FlowInput) :
    List FlowInput :=
  (recordsOf flows (guestFirst flow)).filter fun other =>
    Together gap (recordsOf flows (guestFirst flow)) flow other

structure SumsUp (records : List FlowInput) (connection : Connection) : Prop where
  key : ∀ flow ∈ records, guestFirst flow = connection.key
  starts : IsLeast {moment | ∃ flow ∈ records, startOf flow = moment} connection.ts.val
  ends : IsGreatest {moment | ∃ flow ∈ records, lastOf flow = moment} connection.tsEnd.val
  bytes : connection.bytes = (records.map (·.bytes)).sum
  packets : connection.packets = Traffic.total (records.map (·.packets))

def measured (connection : Connection) : ConnectionKey × Moment × Moment × Nat × Option Nat :=
  (connection.key, connection.ts, connection.tsEnd, connection.bytes, connection.packets)

theorem TimedTraffic.piece {flow : FlowInput} (known : TimedTraffic flow) :
    Timed (guestPiece flow) ∧ (guestPiece flow).ts.val = startOf flow ∧
      (guestPiece flow).tsEnd.val = lastOf flow := by
  obtain ⟨started, starts⟩ := Option.isSome_iff_exists.mp known.timed
  have last : (guestPiece flow).tsEnd.val = lastOf flow := by
    -- A record may end before it starts; its piece then lasts the instant of its start.
    rcases le_total started (flow.flowEnd.getD started) with forward | backward
    · have ordered : started.val ≤ (flow.flowEnd.getD started).val := forward
      simp [guestPiece, pieceOf, lastOf, startOf, endOf, starts, max_eq_right forward,
        max_eq_right ordered]
    · have ordered : (flow.flowEnd.getD started).val ≤ started.val := backward
      simp [guestPiece, pieceOf, lastOf, startOf, endOf, starts, max_eq_left backward,
        max_eq_left ordered]
  refine ⟨⟨?_, ?_⟩, ?_, last⟩
  · simp [guestPiece, pieceOf, starts]
  · exact Subtype.coe_le_coe.mpr (le_max_left _ _)
  · simp [guestPiece, pieceOf, startOf]

theorem TimedTraffic.oriented {flow : FlowInput} (known : TimedTraffic flow) :
    (isGuests flow = true → (∃ ends, oriented flow = some ends) ∧
      (guestPiece flow).key = guestFirst flow) ∧
    (isGuests flow = false → oriented flow = none) := by
  constructor
  · intro guests
    have known : ∃ ends, Ipdr.oriented flow = some ends ∧
        (pieceOf flow ends).key = guestFirst flow := by
      refine traffic_oriented ?_ known.traffic
      simpa [isGuests] using guests
    obtain ⟨ends, oriented_eq, keyed⟩ := known
    refine ⟨⟨ends, oriented_eq⟩, ?_⟩
    rw [guestPiece, oriented_eq]
    exact keyed
  · intro foreign
    cases direction : flow.direction <;>
      simp [isGuests, direction] at foreign <;> simp [Ipdr.oriented, direction]

theorem traffic_pieces (flows : List FlowInput) (known : ∀ flow ∈ flows, TimedTraffic flow) :
    allPieces flows = (flows.filter isGuests).map guestPiece := by
  have traffic : trafficPieces flows = (flows.filter isGuests).map guestPiece := by
    induction flows with
    | nil => rfl
    | cons flow rest ih =>
        have first := known flow List.mem_cons_self
        have later := ih fun other member => known other (List.mem_cons_of_mem flow member)
        rw [trafficPieces] at later ⊢
        rw [List.filterMap_cons, first.traffic]
        cases guests : isGuests flow with
        | true =>
            obtain ⟨⟨ends, oriented_eq⟩, -⟩ := first.oriented.1 guests
            rw [List.filter_cons_of_pos guests, List.map_cons, ← later]
            simp [oriented_eq, guestPiece]
        | false =>
            rw [List.filter_cons_of_neg (by simp [guests]), ← later]
            simp [first.oriented.2 guests]
  -- No record is a translation event, so the second half of the pieces is empty.
  have noEvents : eventPieces flows = [] := by
    refine List.filterMap_eq_nil_iff.mpr ?_
    intro flow member
    simp [(known flow member).traffic]
  rw [allPieces, traffic, noEvents]
  simp [groups]

end Records

section Runs

theorem total_snoc (counts : List (Option Nat)) (count : Option Nat) :
    Traffic.total (counts ++ [count]) = match count with
      | some packets => some ((Traffic.total counts).getD 0 + packets)
      | none => Traffic.total counts := by
  cases count with
  | none => simp [Traffic.total]
  | some packets =>
      have known : (Traffic.total counts).getD 0 = (counts.filterMap id).sum := by
        simp only [Traffic.total]
        split
        · rename_i nothing
          rw [nothing]
          rfl
        · rfl
      dsimp only
      rw [known]
      simp [Traffic.total]

theorem absorb_counts (into piece : Connection) :
    (absorb into piece).bytes = into.bytes + piece.bytes ∧
      (absorb into piece).packets = match piece.packets with
        | some packets => some (into.packets.getD 0 + packets)
        | none => into.packets := by
  unfold absorb
  split
  · exact ⟨rfl, rfl⟩
  · exact ⟨rfl, rfl⟩

theorem absorbed_sums (run : Run Connection) :
    (run.absorbed absorb).key = run.first.key ∧
      (run.absorbed absorb).bytes = (run.items.map (·.bytes)).sum ∧
      (run.absorbed absorb).packets = Traffic.total (run.items.map (·.packets)) := by
  obtain ⟨first, rest⟩ := run
  -- A run is absorbed from its first piece on, so the induction takes the last one off.
  induction rest using List.reverseRecOn with
  | nil =>
      refine ⟨rfl, by simp [Run.absorbed, Run.items], ?_⟩
      cases counted : first.packets with
      | none => simp [Run.absorbed, Run.items, Traffic.total, counted]
      | some packets => simp [Run.absorbed, Run.items, Traffic.total, counted]
  | append_singleton rest piece ih =>
      have whole : (⟨first, rest ++ [piece]⟩ : Run Connection) = Run.snoc ⟨first, rest⟩ piece := rfl
      obtain ⟨key, bytes, packets⟩ := ih
      obtain ⟨addedBytes, addedPackets⟩ := absorb_counts (Run.absorbed absorb ⟨first, rest⟩) piece
      rw [whole, Run.snoc_absorbed, Run.snoc_items, List.map_append, List.map_append]
      refine ⟨?_, ?_, ?_⟩
      · rw [absorb_key, key]
        rfl
      · rw [addedBytes, bytes, List.sum_append]
        simp
      · rw [addedPackets, packets, List.map_singleton, total_snoc]

variable {gap : Int} {flows : List FlowInput}

theorem recordsOf_known (known : ∀ flow ∈ flows, TimedTraffic flow) (key : ConnectionKey)
    (flow : FlowInput) (member : flow ∈ recordsOf flows key) :
    TimedTraffic flow ∧ isGuests flow = true ∧ guestFirst flow = key := by
  obtain ⟨inFlows, chosen⟩ := List.mem_filter.mp member
  rw [Bool.and_eq_true, decide_eq_true_eq] at chosen
  exact ⟨known flow inFlows, chosen⟩

theorem key_pieces (known : ∀ flow ∈ flows, TimedTraffic flow) (key : ConnectionKey) :
    (allPieces flows).filter (fun piece => piece.key = key) =
      (recordsOf flows key).map guestPiece := by
  rw [traffic_pieces flows known, List.filter_map, List.filter_filter, recordsOf]
  congr 1
  refine List.filter_congr ?_
  intro flow member
  cases guests : isGuests flow with
  | true => simp [((known flow member).oriented.1 guests).2]
  | false => simp

theorem key_images (known : ∀ flow ∈ flows, TimedTraffic flow) (key : ConnectionKey) :
    Images (fun connection : Connection => connection.ts.val)
      (fun connection => connection.tsEnd.val) startOf lastOf guestPiece (recordsOf flows key)
      (sortOn byTime ((recordsOf flows key).map guestPiece)) where
  members := by
    intro item
    rw [mem_sortOn, List.mem_map]
  starts := fun flow member => (recordsOf_known known key flow member).1.piece.2.1
  finishes := fun flow member => (recordsOf_known known key flow member).1.piece.2.2

theorem key_timed (known : ∀ flow ∈ flows, TimedTraffic flow) (key : ConnectionKey) :
    ∀ piece ∈ sortOn byTime ((recordsOf flows key).map guestPiece), Timed piece := by
  intro piece member
  obtain ⟨flow, inRecords, rfl⟩ := List.mem_map.mp ((mem_sortOn _ _ _).mp member)
  exact (recordsOf_known known key flow inRecords).1.piece.1

theorem component_perm (known : ∀ flow ∈ flows, TimedTraffic flow) (nonneg : 0 ≤ gap)
    (key : ConnectionKey) {runs : List (Run Connection)}
    (split : Split (fun connection : Connection => connection.ts.val)
      (fun connection => connection.tsEnd.val) (fun moment => moment + gap)
      (sortOn byTime ((recordsOf flows key).map guestPiece))
      (sortOn byTime ((recordsOf flows key).map guestPiece)) runs)
    {run : Run Connection} (member : run ∈ runs) {flow : FlowInput}
    (inRecords : flow ∈ recordsOf flows key) (inRun : guestPiece flow ∈ run.items) :
    ((component gap flows flow).map guestPiece).Perm run.items := by
  classical
  have images := key_images known key
  have keyed := (recordsOf_known known key flow inRecords).2.2
  have ordered : ∀ record ∈ recordsOf flows key, startOf record ≤ lastOf record + gap := by
    intro record _
    have later : startOf record ≤ lastOf record := le_max_left _ _
    omega
  -- Which records are connected is which pieces are of the run, as pieces carry their times.
  have chosen : (component gap flows flow).map guestPiece =
      ((recordsOf flows key).map guestPiece).filter fun piece => decide (piece ∈ run.items) := by
    rw [component, keyed, List.filter_map]
    congr 1
    refine List.filter_congr ?_
    intro other inOthers
    refine decide_eq_decide.mpr ?_
    rw [Together, connected_image images ordered inRecords inOthers]
    exact split.component member inRun (guestPiece other)
  -- Sorting by time only permutes the pieces, and a run is what the sorted ones hold of it.
  have pieces : ∀ piece ∈ sortOn byTime ((recordsOf flows key).map guestPiece),
      piece.ts.val ≤ piece.tsEnd.val + gap := by
    intro piece inPieces
    have ordered := (key_timed known key piece inPieces).ordered
    omega
  have sorted := (sortOn_perm byTime ((recordsOf flows key).map guestPiece)).symm
  rw [chosen]
  refine (sorted.filter _).trans (List.Perm.of_eq ?_)
  exact split.filter_component pieces member fun piece => decide_eq_true_iff

theorem total_perm {counts others : List (Option Nat)} (same : counts.Perm others) :
    Traffic.total counts = Traffic.total others := by
  have present := same.filterMap id
  simp only [Traffic.total, present.sum_eq]
  by_cases nothing : counts.filterMap id = []
  · rw [if_pos nothing, if_pos (List.perm_nil.mp (nothing ▸ present).symm)]
  · have some' : others.filterMap id ≠ [] := fun empty => nothing (List.perm_nil.mp (empty ▸ present))
    rw [if_neg nothing, if_neg some']

theorem SumsUp.perm {records others : List FlowInput} {connection : Connection}
    (sums : SumsUp records connection) (same : records.Perm others) :
    SumsUp others connection := by
  have moments : ∀ momentOf : FlowInput → Int,
      {moment | ∃ flow ∈ records, momentOf flow = moment} =
        {moment | ∃ flow ∈ others, momentOf flow = moment} := by
    intro momentOf
    ext moment
    exact exists_congr fun flow => and_congr_left' same.mem_iff
  refine ⟨fun flow member => sums.key flow (same.mem_iff.mpr member), ?_, ?_, ?_, ?_⟩
  · exact moments startOf ▸ sums.starts
  · exact moments lastOf ▸ sums.ends
  · exact sums.bytes.trans (same.map _).sum_eq
  · exact sums.packets.trans (total_perm (same.map _))

theorem SumsUp.measured {records : List FlowInput} {left right : Connection}
    (leftSums : SumsUp records left) (rightSums : SumsUp records right) :
    measured left = measured right := by
  obtain ⟨flow, inRecords, -⟩ := leftSums.starts.1
  have keys := (leftSums.key flow inRecords).symm.trans (rightSums.key flow inRecords)
  have starts := Subtype.ext (leftSums.starts.unique rightSums.starts)
  have ends := Subtype.ext (leftSums.ends.unique rightSums.ends)
  simp only [Ipdr.measured, keys, starts, ends, leftSums.bytes, rightSums.bytes, leftSums.packets,
    rightSums.packets]

theorem absorbed_component (known : ∀ flow ∈ flows, TimedTraffic flow) (nonneg : 0 ≤ gap)
    (key : ConnectionKey) {runs : List (Run Connection)}
    (split : Split (fun connection : Connection => connection.ts.val)
      (fun connection => connection.tsEnd.val) (fun moment => moment + gap)
      (sortOn byTime ((recordsOf flows key).map guestPiece))
      (sortOn byTime ((recordsOf flows key).map guestPiece)) runs)
    {run : Run Connection} (member : run ∈ runs) {flow : FlowInput}
    (inRecords : flow ∈ recordsOf flows key) (inRun : guestPiece flow ∈ run.items) :
    SumsUp (component gap flows flow) (run.absorbed absorb) := by
  have perm := component_perm known nonneg key split member inRecords inRun
  have keyed := (recordsOf_known known key flow inRecords).2.2
  have records : ∀ other ∈ component gap flows flow, other ∈ recordsOf flows key ∧
      guestPiece other ∈ run.items := by
    intro other inComponent
    refine ⟨?_, perm.mem_iff.mp (List.mem_map_of_mem inComponent)⟩
    rw [← keyed]
    exact List.mem_of_mem_filter inComponent
  -- Each piece of the run is some record of the component, and each such record has its piece.
  have pieces : ∀ piece ∈ run.items, ∃ other ∈ component gap flows flow,
      guestPiece other = piece := by
    intro piece inItems
    exact List.mem_map.mp (perm.mem_iff.mpr inItems)
  have own : ∀ other ∈ component gap flows flow, TimedTraffic other ∧
      guestFirst other = key ∧ (guestPiece other).key = key := by
    intro other inComponent
    obtain ⟨traffic, guests, same⟩ := recordsOf_known known key other (records other inComponent).1
    exact ⟨traffic, same, (traffic.oriented.1 guests).2.trans same⟩
  have sublist := split.sublist member
  have covers := run.covers (stitch_laws gap nonneg) fun piece inItems =>
    key_timed known key piece (sublist.mem inItems)
  obtain ⟨first, inFirst, isFirst⟩ := pieces run.first List.mem_cons_self
  obtain ⟨sumKey, sumBytes, sumPackets⟩ := absorbed_sums run
  refine ⟨?_, ⟨?_, ?_⟩, ⟨?_, ?_⟩, ?_, ?_⟩
  · intro other inComponent
    rw [(own other inComponent).2.1, sumKey, ← isFirst, (own first inFirst).2.2]
  · exact ⟨first, inFirst, by rw [covers.starts, ← isFirst, (own first inFirst).1.piece.2.1]⟩
  · rintro moment ⟨other, inComponent, rfl⟩
    rw [covers.starts, ← (own other inComponent).1.piece.2.1]
    have sorted := (sorted_starts ((recordsOf flows key).map guestPiece)).sublist sublist
    -- The run is in order, so its first piece starts no later than any other.
    rcases List.mem_cons.mp (records other inComponent).2 with same | later
    · rw [same]
    · exact (List.pairwise_cons.mp sorted).1 _ later
  · obtain ⟨piece, inItems, ends⟩ := covers.ends
    obtain ⟨last, inComponent, rfl⟩ := pieces piece inItems
    exact ⟨last, inComponent, (own last inComponent).1.piece.2.2.symm.trans ends⟩
  · rintro moment ⟨other, inComponent, rfl⟩
    rw [← (own other inComponent).1.piece.2.2]
    exact covers.bounded _ (records other inComponent).2
  · rw [sumBytes, ← (perm.map (·.bytes)).sum_eq, List.map_map]
    rfl
  · rw [sumPackets, ← total_perm (perm.map (·.packets)), List.map_map]
    refine congrArg Traffic.total (List.map_congr_left ?_)
    intro other inComponent
    simp [guestPiece, pieceOf, (own other inComponent).1.traffic]

end Runs

section Connections

variable {gap : Int} {flows : List FlowInput}

theorem connection_sumsUp (known : ∀ flow ∈ flows, TimedTraffic flow) (nonneg : 0 ≤ gap)
    (connection : Connection) (member : connection ∈ foldConnections flows gap) :
    ∃ flow ∈ flows, isGuests flow = true ∧ SumsUp (component gap flows flow) connection := by
  have stitched := (mem_foldConnections flows gap connection.key connection).mp ⟨member, rfl⟩
  rw [key_pieces known] at stitched
  obtain ⟨runs, results, split⟩ := stitch_split (stitch_laws gap nonneg) _
    (key_timed known connection.key) (sorted_starts _)
  rw [results] at stitched
  obtain ⟨run, inRuns, rfl⟩ := List.mem_map.mp stitched
  have inPieces : run.first ∈ sortOn byTime ((recordsOf flows _).map guestPiece) :=
    (split.sublist inRuns).mem List.mem_cons_self
  obtain ⟨flow, inRecords, isFirst⟩ := List.mem_map.mp ((mem_sortOn _ _ _).mp inPieces)
  refine ⟨flow, List.mem_of_mem_filter inRecords, (recordsOf_known known _ flow inRecords).2.1, ?_⟩
  refine absorbed_component known nonneg _ split inRuns inRecords ?_
  rw [isFirst]
  exact List.mem_cons_self

theorem component_connection (known : ∀ flow ∈ flows, TimedTraffic flow) (nonneg : 0 ≤ gap)
    (flow : FlowInput) (member : flow ∈ flows) (guests : isGuests flow = true) :
    ∃ connection ∈ foldConnections flows gap, SumsUp (component gap flows flow) connection := by
  have inRecords : flow ∈ recordsOf flows (guestFirst flow) :=
    List.mem_filter.mpr ⟨member, by simp [guests]⟩
  obtain ⟨runs, results, split⟩ := stitch_split (stitch_laws gap nonneg) _
    (key_timed known (guestFirst flow)) (sorted_starts _)
  have inPieces : guestPiece flow ∈
      sortOn byTime ((recordsOf flows (guestFirst flow)).map guestPiece) :=
    (mem_sortOn _ _ _).mpr (List.mem_map_of_mem inRecords)
  -- The runs hold all the pieces of the five-tuple: one of them has the piece of this record.
  rw [← split.whole] at inPieces
  obtain ⟨run, inRuns, inRun⟩ := List.mem_flatMap.mp inPieces
  refine ⟨run.absorbed absorb, ?_, absorbed_component known nonneg _ split inRuns inRecords inRun⟩
  refine ((mem_foldConnections flows gap (guestFirst flow) _).mpr ?_).1
  rw [key_pieces known, results]
  exact List.mem_map_of_mem inRuns

theorem connections_apart (known : ∀ flow ∈ flows, TimedTraffic flow) (nonneg : 0 ≤ gap) :
    (foldConnections flows gap).Pairwise fun left right =>
      left.key ≠ right.key ∨ left.tsEnd.val + gap < right.ts.val := by
  apply foldConnections_pairwise flows gap
  · intro group inGroups
    obtain ⟨filtered, -⟩ := (mem_groups _ _ group.1 group.2).mp inGroups
    rw [filtered, key_pieces known]
    have stitched := stitch_stitched (stitch_laws gap nonneg) _ (key_timed known group.1)
      (sorted_starts _)
    exact stitched.apart.imp fun far => .inr far
  · intro left right different
    exact .inl different

theorem bytes_conserved (known : ∀ flow ∈ flows, TimedTraffic flow) :
    ((foldConnections flows gap).map (·.bytes)).sum =
      ((flows.filter isGuests).map (·.bytes)).sum := by
  have stitched : ∀ pieces : List Connection,
      ((stitch (joins gap) absorb (sortOn byTime pieces)).map (·.bytes)).sum =
        (pieces.map (·.bytes)).sum := by
    intro pieces
    rw [stitch_sum _ fun into piece => (absorb_counts into piece).1]
    exact ((sortOn_perm byTime pieces).map _).sum_eq
  have laidOut : ∀ table : List (ConnectionKey × List Connection),
      ((table.flatMap fun group =>
          stitch (joins gap) absorb (sortOn byTime group.2)).map (·.bytes)).sum =
        (table.map fun group => (group.2.map (·.bytes)).sum).sum := by
    intro table
    induction table with
    | nil => rfl
    | cons group rest ih =>
        rw [List.flatMap_cons, List.map_append, List.sum_append, ih, stitched, List.map_cons,
          List.sum_cons]
  rw [foldConnections, laidOut, sum_groups, traffic_pieces flows known, List.map_map]
  rfl

theorem component_reorder {others : List FlowInput} (same : others.Perm flows) (flow : FlowInput) :
    (component gap others flow).Perm (component gap flows flow) := by
  have records := same.filter fun other => isGuests other && guestFirst other = guestFirst flow
  have connected : Together gap (recordsOf others (guestFirst flow)) flow =
      Together gap (recordsOf flows (guestFirst flow)) flow := by
    funext other
    exact propext (connected_congr (fun record => records.mem_iff) flow other)
  unfold component
  rw [connected]
  exact records.filter _

theorem component_once (known : ∀ flow ∈ flows, TimedTraffic flow) (nonneg : 0 ≤ gap)
    (flow : FlowInput) (member : flow ∈ flows) (guests : isGuests flow = true) :
    ∃ front connection back, foldConnections flows gap = front ++ connection :: back ∧
      SumsUp (component gap flows flow) connection ∧
      ∀ other ∈ front ++ back, ¬ SumsUp (component gap flows flow) other := by
  obtain ⟨connection, inFold, sums⟩ := component_connection known nonneg flow member guests
  obtain ⟨front, back, split⟩ := List.append_of_mem inFold
  refine ⟨front, connection, back, split, sums, ?_⟩
  -- Another connection with the same sums would share key and start, which no two do.
  have distinct := foldConnections_distinct flows gap nonneg
  rw [split, List.pairwise_append, List.pairwise_cons] at distinct
  intro other inOthers otherSums
  have same := sums.measured otherSums
  simp only [measured, Prod.mk.injEq] at same
  rcases List.mem_append.mp inOthers with before | after
  · rcases distinct.2.2 other before connection List.mem_cons_self with keys | starts
    · exact keys same.1.symm
    · exact starts same.2.1.symm
  · rcases distinct.2.1.1 other after with keys | starts
    · exact keys same.1
    · exact starts same.2.1

theorem measured_mem {others : List FlowInput} (known : ∀ flow ∈ flows, TimedTraffic flow)
    (nonneg : 0 ≤ gap) (same : others.Perm flows)
    (fields : ConnectionKey × Moment × Moment × Nat × Option Nat)
    (member : fields ∈ (foldConnections others gap).map measured) :
    fields ∈ (foldConnections flows gap).map measured := by
  obtain ⟨connection, inFold, rfl⟩ := List.mem_map.mp member
  obtain ⟨flow, inOthers, guests, sums⟩ := connection_sumsUp
    (fun flow inOthers => known flow (same.mem_iff.mp inOthers)) nonneg connection inFold
  obtain ⟨other, inFlows, otherSums⟩ := component_connection known nonneg flow
    (same.mem_iff.mp inOthers) guests
  rw [(sums.perm (component_reorder same flow)).measured otherSums]
  exact List.mem_map_of_mem inFlows

theorem measured_reorder {others : List FlowInput} (known : ∀ flow ∈ flows, TimedTraffic flow)
    (nonneg : 0 ≤ gap) (same : others.Perm flows) :
    ((foldConnections others gap).map measured).Perm ((foldConnections flows gap).map measured) := by
  have distinct : ∀ flows : List FlowInput, ((foldConnections flows gap).map measured).Nodup := by
    intro flows
    refine List.pairwise_map.mpr ((foldConnections_distinct flows gap nonneg).imp ?_)
    intro left right different equal
    simp only [measured, Prod.mk.injEq] at equal
    rcases different with keys | starts
    · exact keys equal.1
    · exact starts equal.2.1
  -- Both lists are without duplicates, so having the same members is enough.
  refine (List.perm_ext_iff_of_nodup (distinct others) (distinct flows)).mpr ?_
  intro fields
  constructor
  · exact measured_mem known nonneg same fields
  · exact measured_mem (fun flow member => known flow (same.mem_iff.mp member)) nonneg same.symm
      fields

/-- Stitching computes interval components: every connection sums up the component of a record, and
every component has exactly one connection; bytes are conserved, connections of one five-tuple are
more than the gap apart, and the order of the records does not matter. -/
theorem fold_components (flows : List FlowInput) (gap : Int)
    (known : ∀ flow ∈ flows, TimedTraffic flow) (nonneg : 0 ≤ gap) :
    (∀ connection ∈ foldConnections flows gap, ∃ flow ∈ flows, isGuests flow = true ∧
      SumsUp (component gap flows flow) connection) ∧
    (∀ flow ∈ flows, isGuests flow = true →
      ∃ front connection back, foldConnections flows gap = front ++ connection :: back ∧
        SumsUp (component gap flows flow) connection ∧
        ∀ other ∈ front ++ back, ¬ SumsUp (component gap flows flow) other) ∧
    ((foldConnections flows gap).map (·.bytes)).sum =
      ((flows.filter isGuests).map (·.bytes)).sum ∧
    ((foldConnections flows gap).Pairwise fun left right =>
      left.key ≠ right.key ∨ left.tsEnd.val + gap < right.ts.val) ∧
    ∀ others : List FlowInput, others.Perm flows →
      ((foldConnections others gap).map measured).Perm
        ((foldConnections flows gap).map measured) :=
  ⟨connection_sumsUp known nonneg, component_once known nonneg, bytes_conserved known,
    connections_apart known nonneg, fun _ same => measured_reorder known nonneg same⟩

end Connections

section Mirrored

def secondsAfter (seconds : Nat) (inRange : seconds < 1000000) : Moment :=
  ⟨seconds * 1000000, seconds_inRange seconds inRange⟩

theorem guest_inet : IpAddress.ipAddress "10.0.0.2".toList = some "10.0.0.2".toList ∧
    '%' ∉ "10.0.0.2".toList := by decide +kernel

theorem server_inet : IpAddress.ipAddress "192.0.2.1".toList = some "192.0.2.1".toList ∧
    '%' ∉ "192.0.2.1".toList := by decide +kernel

def exchanged (direction : Traffic.Direction) (start finish : Moment) : FlowInput where
  routerId := ⟨['r'], isToken_of_all _ (by decide)⟩
  windowStart := start
  flowStart := some start
  direction := direction
  srcAddress := if direction = .download then ⟨"192.0.2.1".toList, server_inet⟩
    else ⟨"10.0.0.2".toList, guest_inet⟩
  srcPort := some (if direction = .download then 443 else 50000)
  dstAddress := if direction = .download then ⟨"10.0.0.2".toList, guest_inet⟩
    else ⟨"192.0.2.1".toList, server_inet⟩
  dstPort := some (if direction = .download then 50000 else 443)
  protocol := some 6
  natSrcAddress := none
  natSrcPort := none
  flowEnd := some finish
  bytes := 10
  packets := none
  portsMerged := false
  natEvent := none

/-- An answer that ends before it starts, the request before it, and one a minute later. -/
def mirrored : List FlowInput :=
  [exchanged .download (secondsAfter 25 (by decide)) (secondsAfter 20 (by decide)),
    exchanged .upload (secondsAfter 0 (by decide)) (secondsAfter 10 (by decide)),
    exchanged .upload (secondsAfter 90 (by decide)) (secondsAfter 95 (by decide))]

theorem fold_components_mirrored :
    ((foldConnections mirrored 20000000).map (·.bytes)).sum = 30 ∧
    (foldConnections mirrored 20000000).map (fun connection =>
        (connection.ts.val, connection.tsEnd.val, connection.bytes)) =
      [(0, 25000000, 20), (90000000, 95000000, 10)] := by
  have known : ∀ flow ∈ mirrored, TimedTraffic flow := by
    intro flow member
    simp only [mirrored, List.mem_cons, List.not_mem_nil, or_false] at member
    rcases member with rfl | rfl | rfl
    · exact ⟨rfl, rfl⟩
    · exact ⟨rfl, rfl⟩
    · exact ⟨rfl, rfl⟩
  refine ⟨?_, by decide +kernel⟩
  exact (fold_components mirrored 20000000 known (by decide)).2.2.1.trans (by decide +kernel)

end Mirrored

end CloudGuest.Ipdr
