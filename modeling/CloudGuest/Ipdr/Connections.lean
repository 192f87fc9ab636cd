import CloudGuest.Ipdr.Records

/-!
Facts about stitched connections. A connection keeps the five-tuple of its
pieces; two connections of one five-tuple never start at the same instant,
because pieces that do are always joined. The records built are those of the
connections that start in the range.
-/

namespace CloudGuest.Ipdr

open Texts Calendar Sorting Grouping IpAddress

theorem normalizeIp_inet (address : Inet) : normalizeIp (some address.val) = some address.val := by
  have token := inet_token address
  cases shape : address.val with
  | nil =>
      have known := address.property.1
      rw [shape] at known
      exact absurd known (by decide)
  | cons first rest =>
      simp only [normalizeIp]
      rw [← shape, strip_token _ token]
      exact address.property.1

theorem orientedEnds_inet (guest remote : Inet) (guestPort remotePort : Option Nat)
    (natIp : Option Text) (natPort : Option Nat) :
    ∃ ends, orientedEnds guest.val guestPort remote.val remotePort natIp natPort = some ends ∧
      ends.guestIp = guest.val ∧ ends.guestPort = guestPort ∧ ends.remoteIp = remote.val ∧
      ends.remotePort = remotePort := by
  simp only [orientedEnds, normalizeIp_inet, Option.bind_eq_bind, Option.bind_some]
  split
  · exact ⟨_, rfl, rfl, rfl, rfl, rfl⟩
  · exact ⟨_, rfl, rfl, rfl, rfl, rfl⟩

structure Sound (connection : Connection) : Prop where
  ordered : connection.ts ≤ connection.tsEnd
  window : connection.tsSource = .window → connection.ts = connection.windowStart

theorem pieceOf_sound (flow : FlowInput) (ends : Oriented) : Sound (pieceOf flow ends) := by
  constructor
  · exact le_max_left _ _
  · intro untimed
    cases timed : flow.flowStart with
    | none => simp [pieceOf, timed]
    | some moment => simp [pieceOf, timed] at untimed

theorem absorb_key (into piece : Connection) : (absorb into piece).key = into.key := by
  unfold absorb
  split <;> rfl

theorem absorb_ts (into piece : Connection) : (absorb into piece).ts = into.ts := by
  unfold absorb
  split <;> rfl

theorem absorb_tsEnd (into piece : Connection) :
    (absorb into piece).tsEnd = max into.tsEnd piece.tsEnd := by
  unfold absorb
  split <;> rfl

theorem absorb_windowStart (into piece : Connection) :
    (absorb into piece).windowStart = into.windowStart := by
  unfold absorb
  split <;> rfl

theorem absorb_tsSource (into piece : Connection) :
    (absorb into piece).tsSource = if piece.tsSource = .flow then .flow else into.tsSource := by
  unfold absorb
  split <;> rfl

theorem absorb_sound (into piece : Connection) (sound : Sound into) :
    Sound (absorb into piece) := by
  constructor
  · rw [absorb_ts, absorb_tsEnd]
    exact le_trans sound.ordered (le_max_left _ _)
  · rw [absorb_ts, absorb_windowStart, absorb_tsSource]
    intro untimed
    split at untimed
    · cases untimed
    · exact sound.window untimed

section Events

variable (Holds : Connection → Prop)

/-- What a longer end and another translation cannot change. -/
def Lasting : Prop :=
  ∀ (connection : Connection) (tsEnd : Moment) (natIp : Option Text) (natPort : Option Nat),
    connection.tsEnd ≤ tsEnd → Holds connection →
      Holds { connection with tsEnd := tsEnd, natIp := natIp, natPort := natPort }

variable {Holds}

theorem eventStep_all (lasting : Lasting Holds) (held : List Connection × Option Connection)
    (event : Connection × Nat) (out : ∀ connection ∈ held.1, Holds connection)
    (opened : ∀ connection ∈ held.2, Holds connection) (given : Holds event.1) :
    (∀ connection ∈ (eventStep held event).1, Holds connection) ∧
      ∀ connection ∈ (eventStep held event).2, Holds connection := by
  obtain ⟨closed, waiting⟩ := held
  obtain ⟨piece, kind⟩ := event
  have append : ∀ more : List Connection, (∀ connection ∈ more, Holds connection) →
      ∀ connection ∈ closed ++ more, Holds connection := by
    intro more all connection member
    rcases List.mem_append.mp member with inClosed | inMore
    · exact out connection inClosed
    · exact all connection inMore
  simp only [eventStep]
  split
  -- An event with a duration is an interval of its own and closes what was open.
  · refine ⟨?_, by simp⟩
    rw [List.append_assoc]
    refine append _ ?_
    intro connection member
    rcases List.mem_append.mp member with inWaiting | isPiece
    · exact opened connection (by simpa using inWaiting)
    · obtain rfl : connection = piece := by simpa using isPiece
      exact given
  · cases waiting with
    | none =>
        dsimp only
        split
        -- A delete with nothing open goes out alone.
        · exact ⟨append [piece] (by simpa using given), by simp⟩
        · exact ⟨out, by simpa using given⟩
    | some interval =>
        have kept : Holds interval := opened interval rfl
        dsimp only
        split
        -- A delete ends the open interval and may bring the translation it lacked.
        · refine ⟨append _ ?_, by simp⟩
          simp only [List.mem_singleton, forall_eq]
          split
          · exact lasting interval _ _ _ (le_max_left _ _) kept
          · exact lasting interval _ interval.natIp interval.natPort (le_max_left _ _) kept
        -- A second create sends the open interval out unended.
        · exact ⟨append [interval] (by simpa using kept), by simpa using given⟩

theorem eventIntervals_all (lasting : Lasting Holds) (events : List (Connection × Nat))
    (given : ∀ event ∈ events, Holds event.1) :
    ∀ connection ∈ eventIntervals events, Holds connection := by
  have folded : ∀ (events : List (Connection × Nat)) (held : List Connection × Option Connection),
      (∀ event ∈ events, Holds event.1) → (∀ connection ∈ held.1, Holds connection) →
      (∀ connection ∈ held.2, Holds connection) →
      (∀ connection ∈ (events.foldl eventStep held).1, Holds connection) ∧
        ∀ connection ∈ (events.foldl eventStep held).2, Holds connection := by
    intro events
    induction events with
    | nil => intro held _ out opened; exact ⟨out, opened⟩
    | cons event rest ih =>
        intro held all out opened
        obtain ⟨outNext, openedNext⟩ := eventStep_all lasting held event out opened
          (all event List.mem_cons_self)
        exact ih _ (fun other member => all other (List.mem_cons_of_mem event member)) outNext
          openedNext
  obtain ⟨out, opened⟩ := folded (sortOn (fun event => byTime event.1) events) ([], none)
    (fun event member => given event ((mem_sortOn _ _ _).mp member)) (by simp) (by simp)
  intro connection member
  simp only [eventIntervals] at member
  rcases List.mem_append.mp member with inOut | isOpen
  · exact out connection inOut
  · exact opened connection (by simpa using isOpen)

end Events

theorem sound_lasting : Lasting Sound := by
  intro connection tsEnd natIp natPort longer sound
  exact ⟨le_trans sound.ordered longer, sound.window⟩

theorem allPieces_all (Holds : Connection → Prop) (lasting : Lasting Holds)
    (flows : List FlowInput)
    (given : ∀ flow ∈ flows, ∀ ends, oriented flow = some ends → Holds (pieceOf flow ends)) :
    ∀ piece ∈ allPieces flows, Holds piece := by
  intro piece member
  rcases List.mem_append.mp member with traffic | event
  · obtain ⟨flow, inFlows, made⟩ := List.mem_filterMap.mp traffic
    split at made
    · cases made
    · obtain ⟨ends, ends_eq, rfl⟩ := Option.map_eq_some_iff.mp made
      exact given flow inFlows ends ends_eq
  · obtain ⟨group, inGroups, inIntervals⟩ := List.mem_flatMap.mp event
    refine eventIntervals_all lasting group.2 ?_ piece inIntervals
    intro item inGroup
    obtain ⟨filtered, -⟩ := (mem_groups _ _ group.1 group.2).mp inGroups
    rw [filtered] at inGroup
    obtain ⟨flow, inFlows, made⟩ := List.mem_filterMap.mp (List.mem_filter.mp inGroup).1
    obtain ⟨kind, -, made⟩ := Option.bind_eq_some_iff.mp made
    obtain ⟨ends, ends_eq, rfl⟩ := Option.map_eq_some_iff.mp made
    exact given flow inFlows ends ends_eq

theorem apart_of_not_joined (gap : Int) (nonneg : 0 ≤ gap) (current piece : Connection)
    (sound : Sound current) (pieceSound : Sound piece) (after : current.ts ≤ piece.ts)
    (separate : joins gap current piece = false) : current.ts < piece.ts := by
  -- Pieces that start together are joined: within the gap when one has a flow time, and by their
  -- window, which is then their start, when none has.
  refine lt_of_le_of_ne after ?_
  intro same
  simp only [joins, Bool.or_eq_false_iff, Bool.and_eq_false_iff, Bool.not_eq_false',
    Bool.or_eq_true, decide_eq_true_eq, decide_eq_false_iff_not] at separate
  obtain ⟨timed, untimed⟩ := separate
  have near : piece.ts.val - current.tsEnd.val ≤ gap := by
    have ordered : current.ts.val ≤ current.tsEnd.val := sound.ordered
    rw [← same]
    omega
  -- Pieces that start together are near; with no flow time their window is their start.
  rcases untimed with hasTime | otherWindow
  · rcases timed with noTime | far
    · rcases hasTime with flow | flow
      · exact noTime.1 flow
      · exact noTime.2 flow
    · exact far near
  · rcases timed with ⟨pieceWindow, currentWindow⟩ | far
    · have fromWindow : ∀ source : TsSource, source ≠ .flow → source = .window := by
        intro source; cases source <;> simp
      rw [sound.window (fromWindow _ currentWindow), pieceSound.window (fromWindow _ pieceWindow)]
        at same
      exact otherWindow same.symm
    · exact far near

theorem grouped_pieces (flows : List FlowInput) (group : ConnectionKey × List Connection)
    (member : group ∈ groups Connection.key (allPieces flows)) :
    ∀ piece ∈ sortOn byTime group.2, piece ∈ allPieces flows ∧ piece.key = group.1 := by
  intro piece inSorted
  obtain ⟨filtered, -⟩ := (mem_groups _ _ group.1 group.2).mp member
  rw [mem_sortOn, filtered] at inSorted
  exact ⟨(List.mem_filter.mp inSorted).1, by simpa using (List.mem_filter.mp inSorted).2⟩

theorem sorted_starts (pieces : List Connection) :
    (sortOn byTime pieces).Pairwise fun left right => left.ts ≤ right.ts := by
  refine (sortOn_ascending byTime pieces).imp ?_
  intro left right ordered
  rcases Prod.Lex.le_iff.mp ordered with less | ⟨same, -⟩
  · exact le_of_lt less
  · exact le_of_eq same

theorem allPieces_sound (flows : List FlowInput) : ∀ piece ∈ allPieces flows, Sound piece :=
  allPieces_all Sound sound_lasting flows fun flow _ ends _ => pieceOf_sound flow ends

theorem foldConnections_key (Holds : ConnectionKey → Prop) (flows : List FlowInput) (gap : Int)
    (given : ∀ flow ∈ flows, ∀ ends, oriented flow = some ends → Holds (pieceOf flow ends).key) :
    ∀ connection ∈ foldConnections flows gap, Holds connection.key := by
  intro connection member
  obtain ⟨group, inGroups, inStitched⟩ := List.mem_flatMap.mp member
  refine Stitching.stitch_all (fun connection : Connection => Holds connection.key) ?_ _ ?_
    connection inStitched
  · intro current piece held _
    rw [absorb_key]
    exact held
  · intro piece inSorted
    exact allPieces_all (fun connection => Holds connection.key) (fun _ _ _ _ _ held => held) flows
      given piece (grouped_pieces flows group inGroups piece inSorted).1

theorem stitched_key (flows : List FlowInput) (gap : Int)
    (group : ConnectionKey × List Connection)
    (member : group ∈ groups Connection.key (allPieces flows)) :
    ∀ connection ∈ Stitching.stitch (joins gap) absorb (sortOn byTime group.2),
      connection.key = group.1 := by
  refine Stitching.stitch_all (fun connection : Connection => connection.key = group.1) ?_ _ ?_
  · intro current piece held _
    rw [absorb_key]
    exact held
  · exact fun piece inSorted => (grouped_pieces flows group member piece inSorted).2

theorem mem_foldConnections (flows : List FlowInput) (gap : Int) (key : ConnectionKey)
    (connection : Connection) :
    connection ∈ foldConnections flows gap ∧ connection.key = key ↔
      connection ∈ Stitching.stitch (joins gap) absorb
        (sortOn byTime ((allPieces flows).filter fun piece => piece.key = key)) := by
  constructor
  · rintro ⟨member, rfl⟩
    obtain ⟨group, inGroups, inStitched⟩ := List.mem_flatMap.mp member
    have same := stitched_key flows gap group inGroups connection inStitched
    obtain ⟨filtered, -⟩ := (mem_groups _ _ group.1 group.2).mp inGroups
    rw [same, ← filtered]
    exact inStitched
  · intro inStitched
    have inGroups : (key, (allPieces flows).filter fun piece => piece.key = key) ∈
        groups Connection.key (allPieces flows) := by
      refine (mem_groups _ _ _ _).mpr ⟨rfl, ?_⟩
      intro empty
      rw [empty] at inStitched
      simp [sortOn, Stitching.stitch] at inStitched
    exact ⟨List.mem_flatMap.mpr ⟨_, inGroups, inStitched⟩,
      stitched_key flows gap _ inGroups connection inStitched⟩

theorem foldConnections_pairwise {Apart : Connection → Connection → Prop} (flows : List FlowInput)
    (gap : Int)
    (within : ∀ group ∈ groups Connection.key (allPieces flows),
      (Stitching.stitch (joins gap) absorb (sortOn byTime group.2)).Pairwise Apart)
    (between : ∀ left right : Connection, left.key ≠ right.key → Apart left right) :
    (foldConnections flows gap).Pairwise Apart := by
  refine List.pairwise_flatMap.mpr ⟨within, ?_⟩
  have distinct := keys_nodup Connection.key (allPieces flows)
  rw [List.Nodup, List.pairwise_map] at distinct
  refine List.Pairwise.imp_of_mem ?_ distinct
  intro group other inGroups inOthers different left inLeft right inRight
  apply between
  rw [stitched_key flows gap group inGroups left inLeft,
    stitched_key flows gap other inOthers right inRight]
  exact different

theorem foldConnections_distinct (flows : List FlowInput) (gap : Int) (nonneg : 0 ≤ gap) :
    (foldConnections flows gap).Pairwise fun left right =>
      left.key ≠ right.key ∨ left.ts ≠ right.ts := by
  apply foldConnections_pairwise flows gap
  · intro group inGroups
    have ascending : (Stitching.stitch (joins gap) absorb (sortOn byTime group.2)).Pairwise
        fun left right => left.ts < right.ts :=
      Stitching.stitch_ascending Sound (fun into piece sound _ => absorb_sound into piece sound)
        absorb_ts (apart_of_not_joined gap nonneg) (sortOn byTime group.2)
        (fun piece inSorted =>
          allPieces_sound flows piece (grouped_pieces flows group inGroups piece inSorted).1)
        (sorted_starts group.2)
    exact ascending.imp fun earlier => .inr (ne_of_lt earlier)
  · intro left right different
    exact .inl different

section Built

theorem markAmbiguous_source (records : List Record) (record : Record)
    (member : record ∈ markAmbiguous records) :
    ∃ made ∈ records, ∃ source, record = { made with natSource := source } := by
  obtain ⟨made, inRecords, rfl⟩ := List.mem_map.mp member
  refine ⟨made, inRecords, ?_⟩
  split
  · exact ⟨.ambiguous, rfl⟩
  · exact ⟨made.natSource, rfl⟩

theorem exists_markAmbiguous (records : List Record) (made : Record) (member : made ∈ records) :
    ∃ source, { made with natSource := source } ∈ markAmbiguous records := by
  refine ⟨if ambiguous records made then .ambiguous else made.natSource, ?_⟩
  refine List.mem_map.mpr ⟨made, member, ?_⟩
  split
  · rfl
  · rfl

theorem mem_newestFirst (records : List Record) (record : Record) :
    record ∈ newestFirst records ↔ record ∈ records :=
  mem_sortOn _ _ _

theorem buildRecords_of (flows : List FlowInput) (input : JoinInput)
    (organizationId locationId : Uuid) (start finish : Int) (record : Record)
    (member : record ∈ buildRecords flows input organizationId locationId start finish) :
    ∃ connection ∈ foldConnections flows stitchGap,
      start ≤ connection.ts.val ∧ connection.ts.val < finish ∧
      ∃ source, record =
        { recordOf input organizationId locationId connection with natSource := source } := by
  rw [buildRecords, mem_newestFirst] at member
  obtain ⟨made, inMade, source, rfl⟩ := markAmbiguous_source _ record member
  obtain ⟨connection, inKept, rfl⟩ := List.mem_map.mp inMade
  obtain ⟨inFolded, inRange⟩ := List.mem_filter.mp inKept
  simp only [Bool.and_eq_true, decide_eq_true_eq] at inRange
  exact ⟨connection, inFolded, inRange.1, inRange.2, source, rfl⟩

theorem exists_buildRecords (flows : List FlowInput) (input : JoinInput)
    (organizationId locationId : Uuid) (start finish : Int) (connection : Connection)
    (member : connection ∈ foldConnections flows stitchGap) (after : start ≤ connection.ts.val)
    (before : connection.ts.val < finish) :
    ∃ source, { recordOf input organizationId locationId connection with natSource := source } ∈
      buildRecords flows input organizationId locationId start finish := by
  have kept : recordOf input organizationId locationId connection ∈
      ((foldConnections flows stitchGap).filter fun connection =>
        start ≤ connection.ts.val && connection.ts.val < finish).map
          (recordOf input organizationId locationId) := by
    refine List.mem_map.mpr ⟨connection, List.mem_filter.mpr ⟨member, ?_⟩, rfl⟩
    simp [after, before]
  obtain ⟨source, inMarked⟩ := exists_markAmbiguous _ _ kept
  exact ⟨source, (mem_newestFirst _ _).mpr inMarked⟩

theorem mem_build (sources : Sources) (locationId organizationId : Uuid) (start finish : Int)
    (record : Record) :
    record ∈ build sources locationId organizationId start finish ↔
      record ∈ buildRecords (flowsOf sources.flows locationId start finish)
        (sources.join ((flowsOf sources.flows locationId start finish).map (·.routerId)) locationId
          organizationId start finish) organizationId locationId start finish := by
  simp only [build]
  split
  · rename_i empty
    rw [List.isEmpty_iff.mp empty]
    simp only [List.not_mem_nil, false_iff]
    intro member
    obtain ⟨connection, inFolded, -⟩ := buildRecords_of _ _ _ _ _ _ record member
    simp [foldConnections, allPieces, trafficPieces, eventPieces, groups] at inFolded
  · rfl

end Built

end CloudGuest.Ipdr
