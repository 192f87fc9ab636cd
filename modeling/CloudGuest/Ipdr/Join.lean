import CloudGuest.Ipdr.Formatting
import CloudGuest.Library.Grouping
import CloudGuest.Library.Sorting
import CloudGuest.Library.Stitching
import CloudGuest.Traffic.FlowRecords

/-!
The IPDR join (`ipdr/join.py` and `ipdr/translation.py`): flow records become
connections of one five-tuple, each connection is matched with the session, lease
or device that held the guest address at its start, and the records come out
newest first.
-/

namespace CloudGuest.Ipdr

open Texts Calendar Sorting Grouping
open Traffic (Direction)

structure FlowInput where
  routerId : Uuid
  windowStart : Moment
  flowStart : Option Moment
  direction : Direction
  srcAddress : Inet
  srcPort : Option Nat
  dstAddress : Inet
  dstPort : Option Nat
  protocol : Option Nat
  natSrcAddress : Option Inet
  natSrcPort : Option Nat
  flowEnd : Option Moment
  bytes : Nat
  packets : Option Nat
  portsMerged : Bool
  /-- `none` for a traffic record, else an IPFIX NAT event (0 when its type is unknown). -/
  natEvent : Option Nat

structure LeaseEvent where
  routerId : Uuid
  ipAddress : Option Text
  macAddress : Option Text
  assigned : Bool
  moment : Moment

structure InventorySighting where
  routerId : Uuid
  ipAddress : Option Text
  macAddress : Option Text
  since : Option Moment
  untilMoment : Option Moment

structure Infrastructure where
  routerAddresses : List (Uuid × Text)
  monitoredMacs : List Text
  authorizedMacs : List Text

structure SessionInput where
  id : Uuid
  guestId : Uuid
  routerId : Uuid
  ipAddress : Option Text
  startedAt : Moment
  endedAt : Option Moment
  lastActivityAt : Option Moment
  identifier : Option Text
  displayName : Option Text
  email : Option Text
  macAddress : Option Text

structure Connection where
  routerId : Uuid
  windowStart : Moment
  ts : Moment
  tsEnd : Moment
  tsSource : TsSource
  guestIp : Text
  guestPort : Option Nat
  remoteIp : Text
  remotePort : Option Nat
  protocol : Option Nat
  natIp : Option Text
  natPort : Option Nat
  bytes : Nat
  packets : Option Nat
  portsMerged : Bool
  hasTraffic : Bool
  natFromEvent : Bool

section Orientation

/-- The two ends of a flow, the guest's first, and the translation it carries. -/
structure Oriented where
  guestIp : Text
  guestPort : Option Nat
  remoteIp : Text
  remotePort : Option Nat
  natIp : Option Text
  natPort : Option Nat
  deriving DecidableEq

def orientedEnds (guest : Text) (guestPort : Option Nat) (remote : Text) (remotePort : Option Nat)
    (natIp : Option Text) (natPort : Option Nat) : Option Oriented := do
  let guestIp ← normalizeIp (some guest)
  let remoteIp ← normalizeIp (some remote)
  -- A post-NAT source equal to the source is not a translation.
  if normalizeIp natIp = some guestIp then
    return ⟨guestIp, guestPort, remoteIp, remotePort, none, none⟩
  else return ⟨guestIp, guestPort, remoteIp, remotePort, natIp, natPort⟩

def oriented (flow : FlowInput) : Option Oriented :=
  match flow.direction with
  | .upload =>
      orientedEnds flow.srcAddress.val flow.srcPort flow.dstAddress.val flow.dstPort
        (flow.natSrcAddress.map Subtype.val) flow.natSrcPort
  | .download =>
      if flow.natEvent.isSome then none
      else orientedEnds flow.dstAddress.val flow.dstPort flow.srcAddress.val flow.srcPort none none
  | _ => none

end Orientation

section Stitching

structure ConnectionKey where
  routerId : Uuid
  guestIp : Text
  guestPort : Option Nat
  remoteIp : Text
  remotePort : Option Nat
  protocol : Option Nat
  deriving DecidableEq

def Connection.key (connection : Connection) : ConnectionKey :=
  ⟨connection.routerId, connection.guestIp, connection.guestPort, connection.remoteIp,
    connection.remotePort, connection.protocol⟩

def stitchGap : Int := 20000000

def pieceOf (flow : FlowInput) (ends : Oriented) : Connection :=
  let ts := flow.flowStart.getD flow.windowStart
  let tsEnd := if flow.flowStart.isSome then flow.flowEnd.getD ts else flow.windowStart
  { routerId := flow.routerId
    windowStart := flow.windowStart
    ts
    tsEnd := max ts tsEnd
    tsSource := if flow.flowStart.isSome then .flow else .window
    guestIp := ends.guestIp
    guestPort := ends.guestPort
    remoteIp := ends.remoteIp
    remotePort := ends.remotePort
    protocol := flow.protocol
    natIp := ends.natIp
    natPort := ends.natPort
    bytes := flow.bytes
    packets := if flow.natEvent.isSome then none else flow.packets
    portsMerged := flow.portsMerged
    hasTraffic := flow.natEvent.isNone
    natFromEvent := flow.natEvent.isSome && ends.natIp.isSome }

def byTime (connection : Connection) : Moment ×ₗ Moment := toLex (connection.ts, connection.tsEnd)

def natEventCreate : List Nat := [1, 4]

def natEventDelete : List Nat := [2, 5]

def eventStep (held : List Connection × Option Connection) (event : Connection × Nat) :
    List Connection × Option Connection :=
  -- One event of a five-tuple: closed intervals go out, a create stays open for its delete.
  let (out, opened) := held
  let (piece, kind) := event
  if piece.ts < piece.tsEnd then (out ++ opened.toList ++ [piece], none)
  else
    let closes := kind ∈ natEventDelete ∨ (kind ∉ natEventCreate ∧ opened.isSome)
    match opened with
    | some interval =>
        if closes then
          let ended := { interval with tsEnd := max interval.tsEnd piece.tsEnd }
          let closed := if interval.natIp.isNone
            then { ended with natIp := piece.natIp, natPort := piece.natPort } else ended
          (out ++ [closed], none)
        else (out ++ [interval], some piece)
    | none => if closes then (out ++ [piece], none) else (out, some piece)

def eventIntervals (events : List (Connection × Nat)) : List Connection :=
  let (out, opened) := (sortOn (fun event => byTime event.1) events).foldl eventStep ([], none)
  out ++ opened.toList

def extended (into piece : Connection) : Connection :=
  { into with
    tsEnd := max into.tsEnd piece.tsEnd
    tsSource := if piece.tsSource = .flow then .flow else into.tsSource
    bytes := into.bytes + piece.bytes
    packets := match piece.packets with
      | some packets => some (into.packets.getD 0 + packets)
      | none => into.packets
    portsMerged := into.portsMerged || piece.portsMerged
    hasTraffic := into.hasTraffic || piece.hasTraffic }

def absorb (into piece : Connection) : Connection :=
  -- `_absorb`: an observed NAT event beats whatever a traffic record carried.
  if piece.natIp.isSome ∧ (into.natIp.isNone ∨ (piece.natFromEvent ∧ ¬into.natFromEvent)) then
    { extended into piece with
      natIp := piece.natIp, natPort := piece.natPort, natFromEvent := piece.natFromEvent }
  else extended into piece

def joins (gap : Int) (current piece : Connection) : Bool :=
  let timed := piece.tsSource = .flow || current.tsSource = .flow
  (timed && piece.ts.val - current.tsEnd.val ≤ gap) ||
    (!timed && piece.windowStart = current.windowStart)

/-- The pieces of the flows that have two ends, the event ones with their kind. -/
def trafficPieces (flows : List FlowInput) : List Connection :=
  flows.filterMap fun flow =>
    if flow.natEvent.isSome then none else (oriented flow).map (pieceOf flow)

def eventPieces (flows : List FlowInput) : List (Connection × Nat) :=
  flows.filterMap fun flow =>
    flow.natEvent.bind fun kind => (oriented flow).map fun ends => (pieceOf flow ends, kind)

def allPieces (flows : List FlowInput) : List Connection :=
  -- The events of a key join its pieces as intervals, after its traffic records.
  trafficPieces flows ++
    (groups (fun event => event.1.key) (eventPieces flows)).flatMap fun group =>
      eventIntervals group.2

def foldConnections (flows : List FlowInput) (gap : Int) : List Connection :=
  (groups Connection.key (allPieces flows)).flatMap fun group =>
    Stitching.stitch (joins gap) absorb (sortOn byTime group.2)

end Stitching

section Matching

/-- The session that held the address: of those started by then and still open or within grace,
the newest. -/
def sessionMatch (sessions : List SessionInput) (grace : Int) (routerId : Uuid) (ip : Text)
    (moment : Moment) : Option SessionInput :=
  let items := sortOn (fun session => toLex (session.startedAt, session.id.val))
    (sessions.filter fun session =>
      session.routerId = routerId && normalizeIp session.ipAddress = some ip)
  (items.takeWhile fun session => session.startedAt ≤ moment).reverse.find? fun session =>
    session.endedAt.all fun ended => moment.val ≤ ended.val + grace

structure Lease where
  mac : Option Text
  macSource : Option Source
  start : Option Moment
  finish : Option Moment
  allocSource : Option Source

structure LeaseIndex where
  events : List LeaseEvent
  sightings : List InventorySighting

def LeaseIndex.dhcp (index : LeaseIndex) (routerId : Uuid) (ip : Text) (moment : Moment) :
    Option Lease :=
  -- A release before an assign at the same instant: the assign is the later state.
  let items := sortOn (fun event => toLex (event.moment, event.assigned))
    (index.events.filter fun event =>
      event.routerId = routerId && normalizeIp event.ipAddress = some ip)
  let past := items.takeWhile fun event => event.moment ≤ moment
  match past.getLast? with
  | none => none
  | some last =>
      if last.assigned then
        let mac := normalizeMac last.macAddress
        let later := (items.drop past.length).find? fun event =>
          !(event.assigned && normalizeMac event.macAddress = mac)
        some ⟨mac, mac.map fun _ => .dhcp, some last.moment, later.map (·.moment), some .dhcp⟩
      else none

def LeaseIndex.inventory (index : LeaseIndex) (routerId : Uuid) (ip : Text) (moment : Moment) :
    Option Text :=
  let held := index.sightings.filter fun sighting =>
    sighting.routerId = routerId && normalizeIp sighting.ipAddress = some ip &&
      (normalizeMac sighting.macAddress).isSome
  (held.find? fun sighting =>
    sighting.since.any (· ≤ moment) && sighting.untilMoment.all (moment ≤ ·)).bind fun sighting =>
      normalizeMac sighting.macAddress

def LeaseIndex.match (index : LeaseIndex) (routerId : Uuid) (ip : Text) (moment : Moment) :
    Option Lease :=
  let dhcp := index.dhcp routerId ip moment
  if dhcp.any fun lease => lease.mac.isSome then dhcp
  else
    match index.inventory routerId ip moment, dhcp with
    | none, dhcp => dhcp
    | some mac, some lease =>
        some ⟨some mac, some .inventory, lease.start, lease.finish, some .dhcp⟩
    | some mac, none => some ⟨some mac, some .inventory, none, none, none⟩

def deviceKind (infrastructure : Infrastructure) (routerId : Uuid) (ip : Text)
    (mac : Option Text) : Option DeviceKind :=
  if (routerId, ip) ∈ infrastructure.routerAddresses then some .router
  else if mac.any (· ∈ infrastructure.monitoredMacs) then some .monitoredHardware
  else if mac.any (· ∈ infrastructure.authorizedMacs) then some .authorizedMac
  else none

def secondsBetween (start finish : Moment) : Nat := ((finish.val - start.val) / 1000000).toNat

structure Translation where
  address : Option Text
  port : Option Nat
  source : NatSource

def translate (publicIps : List (Uuid × Option Text)) (routerId : Uuid) (srcIp : Text)
    (srcPort : Option Nat) (natIp : Option Text) (natPort : Option Nat) : Translation :=
  -- `ExactOrRouterPublicIp` over the routers' typed-in public addresses.
  match normalizeIp natIp with
  | some nat =>
      if normalizeIp (some srcIp) ≠ some nat then ⟨some nat, natPort, .natEvent⟩
      else derived
  | none => derived
where
  derived : Translation :=
    match (publicIps.find? fun entry => entry.1 = routerId).bind fun entry =>
        normalizeIp entry.2 with
    | some known => ⟨some known, srcPort, .derived⟩
    | none => ⟨none, none, .none⟩

def trimmed (value : Option Text) : Option Text :=
  let text := strip (value.getD [])
  if text = [] then none else some text

end Matching

end CloudGuest.Ipdr
