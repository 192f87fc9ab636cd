import CloudGuest.Ipdr.Connections

/-!
What the days of a location show of its guests' flows. A day is read by collector
window and cut by the start of the stitched connection; the two cuts agree only
where one day reads a whole chain of flows from one that nothing read before it
reaches.
-/

namespace CloudGuest.Ipdr

open Texts Calendar Sorting Grouping IpAddress
open Traffic (Direction)

section Guests

/-- How long before the window it is counted in a flow can have started. -/
def exportDelay : Int := 60000000

structure GuestFlow (flow : FlowInput) : Prop where
  direction : flow.direction = .upload ∨ flow.direction = .download
  traffic : flow.natEvent = none
  timed : ∃ started ended, flow.flowStart = some started ∧ flow.flowEnd = some ended ∧
    started ≤ ended ∧ flow.windowStart.val - exportDelay ≤ started.val

def guestFirst (flow : FlowInput) : ConnectionKey :=
  if flow.direction = .download then
    ⟨flow.routerId, flow.dstAddress.val, flow.dstPort, flow.srcAddress.val, flow.srcPort,
      flow.protocol⟩
  else
    ⟨flow.routerId, flow.srcAddress.val, flow.srcPort, flow.dstAddress.val, flow.dstPort,
      flow.protocol⟩

def startOf (flow : FlowInput) : Int := (flow.flowStart.getD flow.windowStart).val

def endOf (flow : FlowInput) : Int := (flow.flowEnd.getD (flow.flowStart.getD flow.windowStart)).val

theorem traffic_oriented {flow : FlowInput}
    (direction : flow.direction = .upload ∨ flow.direction = .download)
    (traffic : flow.natEvent = none) :
    ∃ ends, oriented flow = some ends ∧ (pieceOf flow ends).key = guestFirst flow := by
  rcases direction with up | down
  · obtain ⟨ends, oriented_eq, guestIp, guestPort, remoteIp, remotePort⟩ :=
      orientedEnds_inet flow.srcAddress flow.dstAddress flow.srcPort flow.dstPort
        (flow.natSrcAddress.map Subtype.val) flow.natSrcPort
    refine ⟨ends, by simp only [Ipdr.oriented, up, oriented_eq], ?_⟩
    simp [Connection.key, pieceOf, guestFirst, up, guestIp, guestPort, remoteIp, remotePort]
  · obtain ⟨ends, oriented_eq, guestIp, guestPort, remoteIp, remotePort⟩ :=
      orientedEnds_inet flow.dstAddress flow.srcAddress flow.dstPort flow.srcPort none none
    refine ⟨ends, by simp [Ipdr.oriented, down, traffic, oriented_eq], ?_⟩
    simp [Connection.key, pieceOf, guestFirst, down, guestIp, guestPort, remoteIp, remotePort]

theorem GuestFlow.oriented {flow : FlowInput} (guest : GuestFlow flow) :
    ∃ ends, oriented flow = some ends ∧ (pieceOf flow ends).key = guestFirst flow :=
  traffic_oriented guest.direction guest.traffic

def guestPiece (flow : FlowInput) : Connection :=
  pieceOf flow ((oriented flow).getD ⟨[], none, [], none, none, none⟩)

structure Timed (connection : Connection) : Prop where
  source : connection.tsSource = .flow
  ordered : connection.ts.val ≤ connection.tsEnd.val

theorem GuestFlow.key {flow : FlowInput} (guest : GuestFlow flow) :
    (guestPiece flow).key = guestFirst flow := by
  obtain ⟨ends, oriented_eq, keyed⟩ := guest.oriented
  rw [guestPiece, oriented_eq]
  exact keyed

theorem GuestFlow.timedPiece {flow : FlowInput} (guest : GuestFlow flow) :
    Timed (guestPiece flow) ∧ (guestPiece flow).ts.val = startOf flow ∧
      (guestPiece flow).tsEnd.val = endOf flow := by
  obtain ⟨started, ended, starts, ends, ordered, -⟩ := guest.timed
  have longer : max started ended = ended := max_eq_right ordered
  refine ⟨⟨?_, ?_⟩, ?_, ?_⟩
  · simp [guestPiece, pieceOf, starts]
  · simpa [guestPiece, pieceOf, starts, ends, longer] using ordered
  · simp [guestPiece, pieceOf, startOf]
  · simp [guestPiece, pieceOf, endOf, starts, ends, longer]

theorem guest_pieces (flows : List FlowInput) (guests : ∀ flow ∈ flows, GuestFlow flow) :
    allPieces flows = flows.map guestPiece := by
  have traffic : trafficPieces flows = flows.map guestPiece := by
    rw [trafficPieces, ← List.filterMap_eq_map]
    refine List.filterMap_congr ?_
    intro flow member
    obtain ⟨ends, oriented_eq, -⟩ := (guests flow member).oriented
    simp [(guests flow member).traffic, oriented_eq, guestPiece]
  have noEvents : eventPieces flows = [] := by
    refine List.filterMap_eq_nil_iff.mpr ?_
    intro flow member
    simp [(guests flow member).traffic]
  rw [allPieces, traffic, noEvents]
  simp [groups]

end Guests

section Chains

def reach (moment : Int) : Int := moment + stitchGap

theorem stitch_laws (gap : Int) (nonneg : 0 ≤ gap) :
    Stitching.Laws (joins gap) absorb (fun connection => connection.ts.val)
      (fun connection => connection.tsEnd.val) (fun moment => moment + gap) Timed where
  timed := by
    intro current piece held given
    refine ⟨?_, ?_⟩
    · rw [absorb_tsSource, if_pos given.source]
    · rw [absorb_ts, absorb_tsEnd]
      exact le_trans held.ordered (Subtype.coe_le_coe.mpr (le_max_left _ _))
  start_absorb := by
    intro current piece
    simp only [absorb_ts]
  finish_absorb := by
    intro current piece
    simp only [absorb_tsEnd]
    rcases le_total current.tsEnd piece.tsEnd with below | above
    · rw [max_eq_right below, max_eq_right (Subtype.coe_le_coe.mpr below)]
    · rw [max_eq_left above, max_eq_left (Subtype.coe_le_coe.mpr above)]
  joins_iff := by
    intro current piece held given
    simp only [joins, given.source, held.source, decide_true, Bool.or_self, Bool.true_and,
      Bool.not_true, Bool.false_and, Bool.or_false, decide_eq_true_eq]
    omega
  ordered := fun _ held => held.ordered
  extends_time := by
    intro moment
    omega
  monotone := by
    intro earlier later ordered
    dsimp only
    omega

variable (flows : List FlowInput) (guests : ∀ flow ∈ flows, GuestFlow flow) (key : ConnectionKey)

def ofTuple : List FlowInput := flows.filter fun flow => guestFirst flow = key

include guests

theorem tuple_pieces :
    (allPieces flows).filter (fun piece => piece.key = key) =
      (ofTuple flows key).map guestPiece := by
  rw [guest_pieces flows guests, List.filter_map, ofTuple]
  congr 1
  refine List.filter_congr ?_
  intro flow member
  simp [(guests flow member).key]

theorem tuple_images :
    Stitching.Images (fun connection : Connection => connection.ts.val)
      (fun connection => connection.tsEnd.val) startOf endOf guestPiece (ofTuple flows key)
      (sortOn byTime ((ofTuple flows key).map guestPiece)) where
  members := by
    intro item
    rw [mem_sortOn, List.mem_map]
  starts := by
    intro flow member
    exact (guests flow (List.mem_filter.mp member).1).timedPiece.2.1
  finishes := by
    intro flow member
    exact (guests flow (List.mem_filter.mp member).1).timedPiece.2.2

theorem tuple_stitched :
    (∀ piece ∈ sortOn byTime ((ofTuple flows key).map guestPiece), Timed piece) ∧
      Stitching.Stitched (fun connection : Connection => connection.ts.val)
        (fun connection => connection.tsEnd.val) reach
        (sortOn byTime ((ofTuple flows key).map guestPiece))
        (sortOn byTime ((ofTuple flows key).map guestPiece))
        (Stitching.stitch (joins stitchGap) absorb
          (sortOn byTime ((ofTuple flows key).map guestPiece))) := by
  have timed : ∀ piece ∈ sortOn byTime ((ofTuple flows key).map guestPiece), Timed piece := by
    intro piece member
    obtain ⟨flow, inTuple, rfl⟩ := List.mem_map.mp ((mem_sortOn _ _ _).mp member)
    exact (guests flow (List.mem_filter.mp inTuple).1).timedPiece.1
  exact ⟨timed, Stitching.stitch_stitched (stitch_laws stitchGap (by decide)) _ timed (sorted_starts _)⟩

theorem connection_chain (connection : Connection)
    (member : connection ∈ foldConnections flows stitchGap) (keyed : connection.key = key) :
    ∃ first ∈ ofTuple flows key, ∃ last ∈ ofTuple flows key,
      startOf first = connection.ts.val ∧
      Stitching.Fresh startOf endOf reach (ofTuple flows key) first ∧
      Stitching.Chain startOf endOf reach (ofTuple flows key) first last ∧
      endOf last = connection.tsEnd.val := by
  have images := tuple_images flows guests key
  have inStitched := (mem_foldConnections flows stitchGap key connection).mp ⟨member, keyed⟩
  rw [tuple_pieces flows guests key] at inStitched
  obtain ⟨piece, inPieces, lastPiece, -, starts, fresh, chained, ends⟩ :=
    (tuple_stitched flows guests key).2.spanned connection inStitched
  obtain ⟨first, inFirst, rfl⟩ := (images.members piece).mp inPieces
  obtain ⟨last, inLast, rfl, flowChain⟩ := (images.chain first inFirst lastPiece).mp chained
  refine ⟨first, inFirst, last, inLast, ?_, (images.fresh first inFirst).mp fresh, flowChain, ?_⟩
  · rw [← images.starts first inFirst]
    exact starts
  · rw [← images.finishes last inLast]
    exact ends

theorem chain_connection (first : FlowInput) (member : first ∈ ofTuple flows key)
    (fresh : Stitching.Fresh startOf endOf reach (ofTuple flows key) first) :
    ∃ connection ∈ foldConnections flows stitchGap, connection.key = key ∧
      connection.ts.val = startOf first ∧
      ∀ last ∈ ofTuple flows key,
        Stitching.Chain startOf endOf reach (ofTuple flows key) first last →
          endOf last ≤ connection.tsEnd.val := by
  have images := tuple_images flows guests key
  obtain ⟨timed, stitched⟩ := tuple_stitched flows guests key
  obtain ⟨connection, inStitched, starts, longest⟩ := stitched.of_fresh
    (stitch_laws stitchGap (by decide)) timed
    (guestPiece first) ((images.members _).mpr ⟨first, member, rfl⟩)
    ((images.fresh first member).mpr fresh)
  rw [← tuple_pieces flows guests key] at inStitched
  obtain ⟨inFolded, keyed⟩ := (mem_foldConnections flows stitchGap key connection).mpr inStitched
  refine ⟨connection, inFolded, keyed, starts.trans (images.starts first member), ?_⟩
  intro last inLast chained
  rw [← images.finishes last inLast]
  exact longest _ ((images.chain first member _).mpr ⟨last, inLast, rfl, chained⟩)

end Chains

section Days

def isDay (day : Int) : Bool := 1 < day && day < maxOrdinal

def readOn (stored : List StoredFlow) (locationId : Uuid) (day : Int) : List FlowInput :=
  flowsOf stored locationId (istDayBounds day).1 (istDayBounds day).2

def Shows (record : Record) (key : ConnectionKey) (moment : Int) : Prop :=
  (record.routerId = key.routerId.val ∧ record.srcIp = key.guestIp ∧
    record.srcPort = key.guestPort ∧ record.dstIp = key.remoteIp ∧
    record.dstPort = key.remotePort ∧ record.protocol = key.protocol) ∧
  ∃ ts tsEnd : Moment, record.ts = iso ts ∧ record.tsEnd = iso tsEnd ∧
    ts.val ≤ moment ∧ moment ≤ tsEnd.val

/-- Some day reads a chain of the flow's five-tuple that starts within the day, where nothing it
reads reaches the first one, and that lasts past the flow's start. -/
def Chained (stored : List StoredFlow) (locationId : Uuid) (flow : FlowInput) : Prop :=
  ∃ day, isDay day ∧
    ∃ first ∈ ofTuple (readOn stored locationId day) (guestFirst flow),
    ∃ last ∈ ofTuple (readOn stored locationId day) (guestFirst flow),
      (istDayBounds day).1 ≤ startOf first ∧ startOf first < (istDayBounds day).2 ∧
      Stitching.Fresh startOf endOf reach
        (ofTuple (readOn stored locationId day) (guestFirst flow)) first ∧
      Stitching.Chain startOf endOf reach
        (ofTuple (readOn stored locationId day) (guestFirst flow)) first last ∧
      startOf first ≤ startOf flow ∧ startOf flow ≤ endOf last

theorem mem_flowsOf (stored : List StoredFlow) (locationId : Uuid) (start finish : Int)
    (flow : FlowInput) (member : flow ∈ flowsOf stored locationId start finish) :
    ∃ row ∈ stored, row.locationId = some locationId ∧ row.flow = flow := by
  obtain ⟨row, inFiltered, rfl⟩ := List.mem_map.mp member
  obtain ⟨inStored, kept⟩ := List.mem_filter.mp inFiltered
  simp only [Bool.and_eq_true, decide_eq_true_eq] at kept
  exact ⟨row, inStored, kept.1, rfl⟩

theorem shows_of_recordOf (input : JoinInput) (organizationId locationId : Uuid)
    (connection : Connection) (source : NatSource) (key : ConnectionKey) (moment : Int) :
    Shows { recordOf input organizationId locationId connection with natSource := source } key
        moment ↔
      connection.key = key ∧ connection.ts.val ≤ moment ∧ moment ≤ connection.tsEnd.val := by
  constructor
  · rintro ⟨⟨router, guestIp, guestPort, remoteIp, remotePort, protocol⟩, ts, tsEnd, starts, ends,
      after, before⟩
    obtain rfl := iso_injective starts
    obtain rfl := iso_injective ends
    obtain ⟨keyRouter, keyGuestIp, keyGuestPort, keyRemoteIp, keyRemotePort, keyProtocol⟩ := key
    obtain rfl := Subtype.ext router
    refine ⟨?_, after, before⟩
    subst guestIp guestPort remoteIp remotePort protocol
    rfl
  · rintro ⟨rfl, after, before⟩
    exact ⟨⟨rfl, rfl, rfl, rfl, rfl, rfl⟩, _, _, rfl, rfl, after, before⟩

def Shown (sources : Sources) (locationId organizationId : Uuid) (flow : FlowInput) : Prop :=
  ∃ day, isDay day ∧ ∃ record ∈ build sources locationId organizationId (istDayBounds day).1
    (istDayBounds day).2, Shows record (guestFirst flow) (startOf flow)

theorem shown_iff_chained (sources : Sources) (locationId organizationId : Uuid)
    (guests : ∀ row ∈ sources.flows, row.locationId = some locationId → GuestFlow row.flow)
    (flow : FlowInput) :
    Shown sources locationId organizationId flow ↔ Chained sources.flows locationId flow := by
  have readGuests : ∀ day, ∀ flow ∈ readOn sources.flows locationId day, GuestFlow flow := by
    intro day flow member
    obtain ⟨other, inStored, same, rfl⟩ := mem_flowsOf _ _ _ _ _ member
    exact guests other inStored same
  constructor
  · rintro ⟨day, valid, record, member, shown⟩
    rw [mem_build] at member
    obtain ⟨connection, inFolded, after, before, source, rfl⟩ := buildRecords_of _ _ _ _ _ _ _ member
    obtain ⟨keyed, starts, ends⟩ := (shows_of_recordOf _ _ _ _ _ _ _).mp shown
    -- The record begins with a flow nothing reaches, and that flow began within the day.
    obtain ⟨first, inFirst, last, inLast, firstStarts, fresh, chained, lastEnds⟩ :=
      connection_chain _ (readGuests day) _ connection inFolded keyed
    rw [← firstStarts] at after before starts
    rw [← lastEnds] at ends
    exact ⟨day, valid, first, inFirst, last, inLast, after, before, fresh, chained, starts, ends⟩
  · rintro ⟨day, valid, first, inFirst, last, inLast, after, before, fresh, chained, starts, ends⟩
    obtain ⟨connection, inFolded, keyed, begins, longest⟩ :=
      chain_connection _ (readGuests day) _ first inFirst fresh
    rw [← begins] at after before starts
    obtain ⟨source, built⟩ := exists_buildRecords (readOn sources.flows locationId day)
      (sources.join ((readOn sources.flows locationId day).map (·.routerId)) locationId
        organizationId (istDayBounds day).1 (istDayBounds day).2) organizationId locationId _ _
      connection inFolded after before
    refine ⟨day, valid, _, (mem_build _ _ _ _ _ _).mpr built, ?_⟩
    exact (shows_of_recordOf _ _ _ _ _ _ _).mpr
      ⟨keyed, starts, ends.trans (longest last inLast chained)⟩

/-- No flow of the location is lost between its days exactly when, for each, some day reads a whole
chain of its five-tuple that holds its start. -/
theorem no_flow_between_days_iff (sources : Sources) (locationId organizationId : Uuid)
    (guests : ∀ row ∈ sources.flows, row.locationId = some locationId → GuestFlow row.flow) :
    (∀ row ∈ sources.flows, row.locationId = some locationId →
        Shown sources locationId organizationId row.flow) ↔
      ∀ row ∈ sources.flows, row.locationId = some locationId →
        Chained sources.flows locationId row.flow := by
  refine forall_congr' fun row => forall_congr' fun _ => forall_congr' fun _ => ?_
  exact shown_iff_chained sources locationId organizationId guests row.flow

end Days

section Midnight

def someUuid : Uuid := ⟨"6f1c".toList, isToken_of_all _ (by decide +kernel)⟩

def midnight : Moment := ⟨(istDayBounds 739798).1, by decide +kernel⟩

/-- A flow that started half a minute before midnight and was exported in the window after it. -/
def midnightFlow : FlowInput where
  routerId := someUuid
  windowStart := midnight
  flowStart := some ⟨midnight.val - 30000000, by decide +kernel⟩
  direction := .upload
  srcAddress := ⟨"10.0.0.2".toList, by decide +kernel⟩
  srcPort := some 50000
  dstAddress := ⟨"192.0.2.1".toList, by decide +kernel⟩
  dstPort := some 443
  protocol := some 6
  natSrcAddress := none
  natSrcPort := none
  flowEnd := some ⟨midnight.val + 10000000, by decide +kernel⟩
  bytes := 1000
  packets := some 10
  portsMerged := false
  natEvent := none

def midnightSources (flows : List FlowInput) : Sources where
  flows := flows.map fun flow => ⟨some someUuid, flow⟩
  sessions := []
  publicIps := []
  leaseEvents := []
  sightings := []
  infrastructure := fun _ _ => ⟨[], [], []⟩
  grace := 0

def noonFlow : FlowInput :=
  { midnightFlow with
    windowStart := ⟨midnight.val + 43200000000, by decide +kernel⟩
    flowStart := some ⟨midnight.val + 43170000000, by decide +kernel⟩
    flowEnd := some ⟨midnight.val + 43210000000, by decide +kernel⟩ }

theorem sources_guests (flow : FlowInput) (guest : GuestFlow flow) :
    ∀ row ∈ (midnightSources [flow]).flows, row.locationId = some someUuid →
      GuestFlow row.flow := by
  intro row member _
  obtain rfl : row = ⟨some someUuid, flow⟩ := by simpa [midnightSources] using member
  exact guest

theorem noonFlow_guest : GuestFlow noonFlow where
  direction := .inl rfl
  traffic := rfl
  timed := ⟨_, _, rfl, rfl, by decide +kernel, by decide +kernel⟩

theorem noonFlow_chained : Chained (midnightSources [noonFlow]).flows someUuid noonFlow := by
  have kept : inWindow (istDayBounds 739798).1 (istDayBounds 739798).2 noonFlow = true := by
    decide +kernel
  have tuple : ofTuple (readOn (midnightSources [noonFlow]).flows someUuid 739798)
      (guestFirst noonFlow) = [noonFlow] := by
    simp [ofTuple, readOn, flowsOf, midnightSources, kept]
  refine ⟨739798, by decide, ?_⟩
  rw [tuple]
  refine ⟨noonFlow, by simp, noonFlow, by simp, by decide +kernel, by decide +kernel, ?_,
    Relation.ReflTransGen.refl, le_refl _, by decide +kernel⟩
  intro other member earlier
  obtain rfl : other = noonFlow := by simpa using member
  exact absurd earlier (lt_irrefl _)

theorem no_flow_between_days_noon :
    Shown (midnightSources [noonFlow]) someUuid someUuid noonFlow := by
  refine (no_flow_between_days_iff (midnightSources [noonFlow]) someUuid someUuid
    (sources_guests noonFlow noonFlow_guest)).mpr ?_ ⟨some someUuid, noonFlow⟩
      (by simp [midnightSources]) rfl
  intro row member _
  obtain rfl : row = ⟨some someUuid, noonFlow⟩ := by simpa [midnightSources] using member
  exact noonFlow_chained

theorem midnightFlow_guest : GuestFlow midnightFlow where
  direction := .inl rfl
  traffic := rfl
  timed := ⟨_, _, rfl, rfl, by decide +kernel, by decide +kernel⟩

/-- The day before does not read the window, and the day after cuts the connection. -/
theorem midnight_flow_lost :
    (∀ row ∈ (midnightSources [midnightFlow]).flows, row.locationId = some someUuid →
      GuestFlow row.flow) ∧
    ¬ Shown (midnightSources [midnightFlow]) someUuid someUuid midnightFlow := by
  have guests := sources_guests midnightFlow midnightFlow_guest
  refine ⟨guests, ?_⟩
  rw [shown_iff_chained _ _ _ guests]
  rintro ⟨day, -, first, inFirst, -, -, after, -⟩
  obtain ⟨inRead, -⟩ := List.mem_filter.mp inFirst
  obtain ⟨row, inFiltered, rfl⟩ := List.mem_map.mp inRead
  obtain ⟨inStored, kept⟩ := List.mem_filter.mp inFiltered
  obtain rfl : row = ⟨some someUuid, midnightFlow⟩ := by simpa [midnightSources] using inStored
  -- The flow starts before the day that reads its window, and no other day reads it.
  have window : (midnightFlow.windowStart).val < (istDayBounds day).2 := by
    simp only [inWindow, Bool.and_eq_true, decide_eq_true_eq] at kept
    exact kept.2.1.2
  have started : startOf midnightFlow = 1782844170000000 := by decide +kernel
  have begun : (midnightFlow.windowStart).val = 1782844200000000 := by decide +kernel
  simp only [started, begun, istDayBounds, firstMicros, dayLength, istOffset] at after window
  omega

end Midnight

end CloudGuest.Ipdr
