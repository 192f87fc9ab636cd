import CloudGuest.Library.Tallies
import CloudGuest.Library.Uuids
import CloudGuest.Traffic.FlowRecords

/-!
The reduction of one window of collector rows (`ingest.py`): `reduce_window` reads
each row once and counts it in its exporter's window, and the three lists that are
stored are cut from the window with the rest folded.
-/

namespace CloudGuest.Traffic

open Texts Sorting Tallies Uuids

inductive Way where
  | up | down
  deriving DecidableEq

abbrev ServiceKey := Nat × Nat

structure TalkerTotals where
  bytesUp : Nat
  bytesDown : Nat
  flows : Nat
  deriving DecidableEq

def TalkerTotals.bytesTotal (totals : TalkerTotals) : Nat := totals.bytesUp + totals.bytesDown

structure DestinationTotals where
  bytes : Nat
  flows : Nat
  bytesUp : Nat
  bytesDown : Nat
  deriving DecidableEq

structure ServiceTotals where
  bytesUp : Nat
  bytesDown : Nat
  flows : Nat
  deriving DecidableEq

structure PacketTotals where
  packetsUp : Nat
  packetsDown : Nat
  deriving DecidableEq

structure ExporterWindow where
  exporterAddress : Text
  talkers : List (Text × TalkerTotals) := []
  destinations : List (Text × DestinationTotals) := []
  services : List (ServiceKey × ServiceTotals) := []
  /-- Under (remote address, protocol, remote port). -/
  destinationServices : List ((Text × ServiceKey) × ServiceTotals) := []
  servicePackets : List (ServiceKey × PacketTotals) := []
  destinationServicePackets : List ((Text × ServiceKey) × PacketTotals) := []
  rowsWithService : Nat := 0
  rowsWithoutService : Nat := 0
  /-- Client rows with a service whose packets are absent or unreadable. -/
  serviceRowsWithoutPackets : Nat := 0
  bytesTotal : Nat := 0
  bytesUp : Nat := 0
  bytesDown : Nat := 0
  packetsTotal : Nat := 0
  flowsTotal : Nat := 0
  bytesInternal : Nat := 0
  bytesUnclassified : Nat := 0
  rowsRejected : Nat := 0
  overheadBytesUp : Nat := 0
  overheadBytesDown : Nat := 0
  overheadRows : Nat := 0
  deriving DecidableEq

def ExporterWindow.servicesMeasured (window : ExporterWindow) : Prop :=
  0 < window.rowsWithService ∧ window.rowsWithoutService = 0

def ExporterWindow.packetsMeasured (window : ExporterWindow) : Prop :=
  window.servicesMeasured ∧ window.serviceRowsWithoutPackets = 0

instance (window : ExporterWindow) : Decidable window.servicesMeasured :=
  inferInstanceAs (Decidable (_ ∧ _))

instance (window : ExporterWindow) : Decidable window.packetsMeasured :=
  inferInstanceAs (Decidable (_ ∧ _))

/-! ### Reading a row -/

inductive RowClass where
  | overhead (way : Way)
  | internal
  | unclassified
  | client (way : Way) (talker remote : Text)
  deriving DecidableEq

structure RowReading where
  nbytes : Nat
  nflows : Nat
  npackets : Nat
  key : Option ServiceKey
  /-- The packet count where the row carries one, which `npackets` does not tell from 0. -/
  counted : Option Nat
  kind : RowClass
  deriving DecidableEq

section Reading

variable (python : Python)

def addressText (value : Cell) : Text :=
  python.strip (if python.truthy value then python.str value else [])

def isLocalAddress (value : Text) : Option Bool :=
  (python.ipAddress value).map python.isLocalAddress

def intOf (value : Cell) : Option Nat :=
  match python.int value with
  | .number number => some number.toNat
  | .refused => some 0
  | .raised => none

def serviceKey (row : CollectorRow) (remoteIsDst : Bool) : Option (Option ServiceKey) := do
  let protocol ← parseProtocol python (row .ipProto)
  let port ← port python (row (if remoteIsDst then .portDst else .portSrc))
  return protocol.bind fun protocol => port.map fun port => (protocol, port)

def rowDirection (endpoints : PlatformEndpoints) (row : CollectorRow) : Option (Option Way) :=
  let exporter := canonical python (row .peerIpSrc)
  let src := canonical python (row .ipSrc)
  let dst := canonical python (row .ipDst)
  if exporter ≠ none ∧ src = exporter then some (some .up)
  else if exporter ≠ none ∧ dst = exporter then some (some .down)
  else do
    if ← isEndpoint python endpoints dst (row .ipProto) (row .portDst) then return some .up
    if ← isEndpoint python endpoints src (row .ipProto) (row .portSrc) then return some .down
    return none

def rowClass (overhead : Option Way) (src dst : Text) (srcLocal dstLocal : Bool) : RowClass :=
  match overhead, srcLocal, dstLocal with
  -- The router talking to the platform, before every other class.
  | some way, _, _ => .overhead way
  | none, true, true => .internal
  | none, false, false => .unclassified
  | none, true, false => .client .up src dst
  | none, false, true => .client .down dst src

def readRow (endpoints : PlatformEndpoints) (row : CollectorRow) : Option (Option RowReading) :=
  -- What `reduce_window` reads from a row; inside, `none` for a row whose addresses do not parse.
  let src := addressText python (row .ipSrc)
  let dst := addressText python (row .ipDst)
  match isLocalAddress python src, isLocalAddress python dst with
  | some srcLocal, some dstLocal => do
      let nbytes ← intOf python (row .bytes)
      let nflows ← intOf python (row .flows)
      let key ← serviceKey python row srcLocal
      let npackets ← intOf python (row .packets)
      let overhead ← rowDirection python endpoints row
      -- Used for client rows only; what `int` raises here, `_int` has raised already.
      let counted ← countOf python (row .packets)
      return some
        { nbytes, nflows, npackets, key, counted
          kind := rowClass overhead src dst srcLocal dstLocal }
  | _, _ => some none

end Reading

/-! ### Counting a row -/

def TalkerTotals.add (totals : TalkerTotals) (way : Way) (nbytes nflows : Nat) : TalkerTotals :=
  match way with
  | .up => { totals with bytesUp := totals.bytesUp + nbytes, flows := totals.flows + nflows }
  | .down => { totals with bytesDown := totals.bytesDown + nbytes, flows := totals.flows + nflows }

def DestinationTotals.add (totals : DestinationTotals) (way : Way) (nbytes nflows : Nat) :
    DestinationTotals :=
  let totals := { totals with bytes := totals.bytes + nbytes, flows := totals.flows + nflows }
  match way with
  | .up => { totals with bytesUp := totals.bytesUp + nbytes }
  | .down => { totals with bytesDown := totals.bytesDown + nbytes }

def ServiceTotals.add (totals : ServiceTotals) (way : Way) (nbytes nflows : Nat) : ServiceTotals :=
  match way with
  | .up => { totals with bytesUp := totals.bytesUp + nbytes, flows := totals.flows + nflows }
  | .down => { totals with bytesDown := totals.bytesDown + nbytes, flows := totals.flows + nflows }

def PacketTotals.add (totals : PacketTotals) (way : Way) (npackets : Nat) : PacketTotals :=
  match way with
  | .up => { totals with packetsUp := totals.packetsUp + npackets }
  | .down => { totals with packetsDown := totals.packetsDown + npackets }

namespace ExporterWindow

def addClient (window : ExporterWindow) (way : Way) (talker remote : Text) (row : RowReading) :
    ExporterWindow :=
  let window :=
    { window with
      talkers := adjust talker ⟨0, 0, 0⟩ (·.add way row.nbytes row.nflows) window.talkers
      bytesUp := window.bytesUp + if way = .up then row.nbytes else 0
      bytesDown := window.bytesDown + if way = .up then 0 else row.nbytes
      destinations :=
        adjust remote ⟨0, 0, 0, 0⟩ (·.add way row.nbytes row.nflows) window.destinations }
  match row.key with
  | none => window
  | some key =>
      let window :=
        { window with
          services := adjust key ⟨0, 0, 0⟩ (·.add way row.nbytes row.nflows) window.services
          destinationServices := adjust (remote, key) ⟨0, 0, 0⟩
            (·.add way row.nbytes row.nflows) window.destinationServices }
      match row.counted with
      | none =>
          { window with serviceRowsWithoutPackets := window.serviceRowsWithoutPackets + 1 }
      | some npackets =>
          { window with
            servicePackets := adjust key ⟨0, 0⟩ (·.add way npackets) window.servicePackets
            destinationServicePackets := adjust (remote, key) ⟨0, 0⟩ (·.add way npackets)
              window.destinationServicePackets }

def add (window : ExporterWindow) : Option RowReading → ExporterWindow
  | none => { window with rowsRejected := window.rowsRejected + 1 }
  | some row =>
      let window := match row.key with
        | none => { window with rowsWithoutService := window.rowsWithoutService + 1 }
        | some _ => { window with rowsWithService := window.rowsWithService + 1 }
      let window :=
        { window with
          bytesTotal := window.bytesTotal + row.nbytes
          packetsTotal := window.packetsTotal + row.npackets
          flowsTotal := window.flowsTotal + row.nflows }
      match row.kind with
      | .overhead .up =>
          { window with
            overheadRows := window.overheadRows + 1
            overheadBytesUp := window.overheadBytesUp + row.nbytes }
      | .overhead .down =>
          { window with
            overheadRows := window.overheadRows + 1
            overheadBytesDown := window.overheadBytesDown + row.nbytes }
      | .internal => { window with bytesInternal := window.bytesInternal + row.nbytes }
      | .unclassified => { window with bytesUnclassified := window.bytesUnclassified + row.nbytes }
      | .client way talker remote => window.addClient way talker remote row

def fresh (exporter : Text) : ExporterWindow := { exporterAddress := exporter }

end ExporterWindow

section Reduction

variable (python : Python) (endpoints : PlatformEndpoints)

def exporterOf (row : CollectorRow) : Text := addressText python (row .peerIpSrc)

def reduceRow (out : List (Text × ExporterWindow)) (row : CollectorRow) :
    Option (List (Text × ExporterWindow)) :=
  let exporter := exporterOf python row
  if exporter = [] then some out
  else do
    let reading ← readRow python endpoints row
    return adjust exporter (.fresh exporter) (·.add reading) out

def reduceWindow (rows : List CollectorRow) : Option (List (Text × ExporterWindow)) :=
  rows.foldlM (reduceRow python endpoints) []

end Reduction

/-! ### The stored lists -/

def topNStored : Int := 10
def topServicesStored : Int := 50
def otherServicePort : Int := -1

def cutAt {Item : Type} (items : List Item) (limit : Int) : Nat :=
  -- Where a slice at this index cuts a list; a negative index counts from the end.
  if 0 ≤ limit then limit.toNat else (items.length + limit).toNat

inductive TalkerMatch where
  | session | ambiguous | none
  deriving DecidableEq

structure TalkerEntry where
  ip : Text
  bytesUp : Nat
  bytesDown : Nat
  flows : Nat
  talkerMatch : TalkerMatch
  guestSessionId : Option Text
  deriving DecidableEq

def talkerEntry (attribution : Text → Option (TalkerMatch × Option Uuid))
    (talker : Text × TalkerTotals) : TalkerEntry :=
  let (talkerMatch, sessionId) := (attribution talker.1).getD (.none, none)
  { ip := talker.1, bytesUp := talker.2.bytesUp, bytesDown := talker.2.bytesDown
    flows := talker.2.flows, talkerMatch, guestSessionId := sessionId.map uuidText }

def rankedTalkers (window : ExporterWindow) : List (Text × TalkerTotals) :=
  sortOn (fun talker => (toLex (OrderDual.toDual talker.2.bytesTotal, talker.1) : ℕᵒᵈ ×ₗ Text))
    window.talkers

def topTalkers (window : ExporterWindow)
    (attribution : Text → Option (TalkerMatch × Option Uuid)) (limit : Int := topNStored) :
    List TalkerEntry × Nat :=
  let ranked := rankedTalkers window
  let kept := ranked.take (cutAt ranked limit)
  let rest := ((ranked.drop (cutAt ranked limit)).map fun talker => talker.2.bytesTotal).sum
  (kept.map (talkerEntry attribution), rest)

structure DestinationEntry where
  ip : Text
  bytes : Nat
  bytesUp : Nat
  bytesDown : Nat
  flows : Nat
  deriving DecidableEq

def destinationEntry (destination : Text × DestinationTotals) : DestinationEntry :=
  { ip := destination.1, bytes := destination.2.bytes, bytesUp := destination.2.bytesUp
    bytesDown := destination.2.bytesDown, flows := destination.2.flows }

def rankedDestinations (window : ExporterWindow) : List (Text × DestinationTotals) :=
  sortOn (fun destination =>
    (toLex (OrderDual.toDual destination.2.bytes, destination.1) : ℕᵒᵈ ×ₗ Text))
    window.destinations

def topDestinations (window : ExporterWindow) (limit : Int := topNStored) :
    List DestinationEntry × Nat :=
  let ranked := rankedDestinations window
  let entries := (ranked.take (cutAt ranked limit)).map destinationEntry
  (entries, ((ranked.drop (cutAt ranked limit)).map fun destination => destination.2.bytes).sum)

structure ServiceRow where
  protocol : Nat
  remotePort : Int
  bytesUp : Nat
  bytesDown : Nat
  flows : Nat
  packetsUp : Option Nat
  packetsDown : Option Nat
  deriving DecidableEq

def packetsPair (window : ExporterWindow) (packets : Option PacketTotals) :
    Option Nat × Option Nat :=
  if window.packetsMeasured then (packets.map (·.packetsUp), packets.map (·.packetsDown))
  else (none, none)

def serviceRow (window : ExporterWindow) (protocol : Nat) (port : Int) (totals : ServiceTotals)
    (packets : PacketTotals) : ServiceRow :=
  let (packetsUp, packetsDown) := packetsPair window (some packets)
  { protocol, remotePort := port, bytesUp := totals.bytesUp, bytesDown := totals.bytesDown
    flows := totals.flows, packetsUp, packetsDown }

/-- `window.service_packets.get((protocol, port), [0, 0])` -/
def packetsOf (window : ExporterWindow) (key : ServiceKey) : PacketTotals :=
  (valueAt window.servicePackets key).getD ⟨0, 0⟩

def ServiceTotals.plus (rest totals : ServiceTotals) : ServiceTotals :=
  ⟨rest.bytesUp + totals.bytesUp, rest.bytesDown + totals.bytesDown, rest.flows + totals.flows⟩

def PacketTotals.plus (rest packets : PacketTotals) : PacketTotals :=
  ⟨rest.packetsUp + packets.packetsUp, rest.packetsDown + packets.packetsDown⟩

def foldedTotals (tail : List (ServiceKey × ServiceTotals)) : List (Nat × ServiceTotals) :=
  tally (fun service => service.1.1) (fun _ => ⟨0, 0, 0⟩)
    (fun rest service => rest.plus service.2) tail

def foldedPackets (window : ExporterWindow) (tail : List (ServiceKey × ServiceTotals)) :
    List (Nat × PacketTotals) :=
  tally (fun service => service.1.1) (fun _ => ⟨0, 0⟩)
    (fun rest service => rest.plus (packetsOf window service.1)) tail

def rankedServices (window : ExporterWindow) : List (ServiceKey × ServiceTotals) :=
  sortOn (fun service =>
    (toLex (OrderDual.toDual (service.2.bytesUp + service.2.bytesDown), toLex service.1) :
      ℕᵒᵈ ×ₗ ℕ ×ₗ ℕ))
    window.services

/-- `service_rows`, nothing where a protocol's folded packets are missing (`KeyError`). -/
def serviceRows (window : ExporterWindow) (limit : Int := topServicesStored) :
    Option (List ServiceRow) :=
  if window.servicesMeasured then do
    let ranked := rankedServices window
    let rows := (ranked.take (cutAt ranked limit)).map fun service =>
      serviceRow window service.1.1 service.1.2 service.2 (packetsOf window service.1)
    let tail := ranked.drop (cutAt ranked limit)
    let others ← (sortOn Prod.fst (foldedTotals tail)).mapM fun folded =>
      (valueAt (foldedPackets window tail) folded.1).map
        (serviceRow window folded.1 otherServicePort folded.2)
    return rows ++ others
  else some []

end CloudGuest.Traffic
