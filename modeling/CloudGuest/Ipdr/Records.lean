import CloudGuest.Ipdr.Join

/-!
IPDR records of one location (`build_records`, `mark_ambiguous`) and the builder
that reads them (`IpdrRepository`, `IpdrBuilder.build`). A stored flow carries the
location it was recorded for; the window filter is the repository's, the cut on
the connection's own start the builder's.
-/

namespace CloudGuest.Ipdr

open Texts Calendar Sorting Grouping
open Traffic (Direction)

structure Identity where
  userKnown : Bool
  userId : Text
  userClass : UserClass
  deviceKind : Option DeviceKind
  name : Option Text
  phone : Option Text
  email : Option Text
  mac : Option Text
  macSource : Option Source
  guestId : Option Text
  sessionId : Option Text
  allocStart : Option Text
  allocEnd : Option Text
  allocSource : Option Source
  onlineSeconds : Option Nat

def identity (session : Option SessionInput) (lease : Option Lease)
    (device : Option DeviceKind) : Identity :=
  let leaseMac := lease.bind (·.mac)
  let leaseMacSource := if leaseMac.isSome then lease.bind (·.macSource) else none
  match session with
  | none =>
      let allocStart := lease.bind (·.start)
      let allocEnd := lease.bind (·.finish)
      { userKnown := false
        userId := if device.isSome then deviceUser else unknownUser
        userClass := if device.isSome then .device else .unknown
        deviceKind := device
        name := none
        phone := none
        email := none
        mac := leaseMac
        macSource := leaseMacSource
        guestId := none
        sessionId := none
        allocStart := allocStart.map iso
        allocEnd := allocEnd.map iso
        allocSource := if allocStart.isSome then lease.bind (·.allocSource) else none
        onlineSeconds := do return secondsBetween (← allocStart) (← allocEnd) }
  | some session =>
      let identifier := trimmed session.identifier
      let ownMac := normalizeMac session.macAddress
      { userKnown := true
        userId := identifier.getD unknownUser
        userClass := .guest
        deviceKind := none
        name := trimmed session.displayName
        phone := if isPhone identifier then identifier else none
        email := (trimmed session.email).or (if isEmail identifier then identifier else none)
        mac := ownMac.or leaseMac
        macSource := if ownMac.isSome then some .session else leaseMacSource
        guestId := some session.guestId.val
        sessionId := some session.id.val
        allocStart := some (iso session.startedAt)
        allocEnd := session.endedAt.map iso
        allocSource := some .session
        onlineSeconds :=
          (session.endedAt.or session.lastActivityAt).map (secondsBetween session.startedAt) }

structure JoinInput where
  sessions : List SessionInput
  publicIps : List (Uuid × Option Text)
  grace : Int
  leases : LeaseIndex
  infrastructure : Infrastructure

def numberText (value : Option Nat) : Text := value.elim [] decimal

def recordKey (locationId routerId windowStart srcIp : Text) (srcPort : Option Nat) (dstIp : Text)
    (dstPort protocol : Option Nat) : Text :=
  joined '|' [locationId, routerId, windowStart, srcIp, numberText srcPort, dstIp,
    numberText dstPort, numberText protocol]

def recordOf (input : JoinInput) (organizationId locationId : Uuid) (connection : Connection) :
    Record :=
  let session := sessionMatch input.sessions input.grace connection.routerId connection.guestIp
    connection.ts
  let lease := if session.all fun session => (normalizeMac session.macAddress).isNone
    then input.leases.match connection.routerId connection.guestIp connection.ts else none
  let device := if session.isNone
    then deviceKind input.infrastructure connection.routerId connection.guestIp
      (lease.bind (·.mac)) else none
  let who := identity session lease device
  let translation := translate input.publicIps connection.routerId connection.guestIp
    connection.guestPort connection.natIp connection.natPort
  { ts := iso connection.ts
    tsEnd := iso connection.tsEnd
    tsSource := connection.tsSource
    windowStart := iso connection.windowStart
    organizationId := organizationId.val
    locationId := locationId.val
    routerId := connection.routerId.val
    userKnown := who.userKnown
    userId := who.userId
    userClass := who.userClass
    deviceKind := who.deviceKind
    name := who.name
    phone := who.phone
    altPhone := none
    email := who.email
    mac := who.mac
    macSource := who.macSource
    guestId := who.guestId
    sessionId := who.sessionId
    allocStart := who.allocStart
    allocEnd := who.allocEnd
    allocSource := who.allocSource
    onlineSeconds := who.onlineSeconds
    srcIp := connection.guestIp
    srcPort := connection.guestPort
    natIp := translation.address
    natPort := translation.port
    natSource := translation.source
    dstIp := connection.remoteIp
    dstPort := connection.remotePort
    protocol := connection.protocol
    bytes := connection.bytes
    packets := connection.packets
    portsMerged := connection.portsMerged
    natEventOnly := !connection.hasTraffic
    rk := recordKey locationId.val connection.routerId.val (iso connection.windowStart)
      connection.guestIp connection.guestPort connection.remoteIp connection.remotePort
      connection.protocol }

section Ambiguity

def fixedSourcePorts : List Nat := [3478, 4500, 5060, 5061]

def fixedPort (port : Nat) : Bool := port < 1024 || port ∈ fixedSourcePorts

def collides (record other : Record) : Bool :=
  -- Two guests of one router behind the same port and destination at once.
  other.natSource = .derived && other.srcPort.any (!fixedPort ·) &&
    record.routerId = other.routerId && record.protocol = other.protocol &&
    record.srcPort = other.srcPort && record.dstIp = other.dstIp &&
    record.dstPort = other.dstPort && record.srcIp ≠ other.srcIp &&
    match fromIso record.ts, fromIso record.tsEnd, fromIso other.ts, fromIso other.tsEnd with
    | some start, some finish, some otherStart, some otherFinish =>
        start.val ≤ otherFinish.val + stitchGap && otherStart.val ≤ finish.val + stitchGap
    | _, _, _, _ => false

def ambiguous (records : List Record) (record : Record) : Bool :=
  -- A derived translation masquerade would have had to remap.
  record.natSource = .derived && record.srcPort.any fun port =>
    fixedPort port || records.any (collides record)

def markAmbiguous (records : List Record) : List Record :=
  records.map fun record =>
    if ambiguous records record then { record with natSource := .ambiguous } else record

end Ambiguity

def sortKey (record : Record) : Text ×ₗ Text := toLex (record.ts, record.rk)

def newestFirst (records : List Record) : List Record :=
  sortOn (fun record => OrderDual.toDual (sortKey record)) records

/-- The records of one location, newest first, of the connections that start in the range. -/
def buildRecords (flows : List FlowInput) (input : JoinInput) (organizationId locationId : Uuid)
    (start finish : Int) : List Record :=
  let kept := (foldConnections flows stitchGap).filter fun connection =>
    start ≤ connection.ts.val && connection.ts.val < finish
  newestFirst (markAmbiguous (kept.map (recordOf input organizationId locationId)))

structure StoredFlow where
  locationId : Option Uuid
  flow : FlowInput

def windowSlack : Int := 600000000

def inWindow (start finish : Int) (flow : FlowInput) : Bool :=
  start - windowSlack ≤ flow.windowStart.val && flow.windowStart.val < finish &&
    (flow.direction = .upload || flow.direction = .download)

def flowsOf (stored : List StoredFlow) (locationId : Uuid) (start finish : Int) :
    List FlowInput :=
  (stored.filter fun row => row.locationId = some locationId && inWindow start finish row.flow).map
    (·.flow)

def leaseLookback : Int := 172800000000

def leaseLookahead : Int := 21600000000

structure Sources where
  flows : List StoredFlow
  sessions : List SessionInput
  publicIps : List (Uuid × Option Text)
  leaseEvents : List LeaseEvent
  sightings : List InventorySighting
  infrastructure : Uuid → Uuid → Infrastructure
  grace : Int

/-- The repository's reads for these routers and this range. -/
def Sources.join (sources : Sources) (routers : List Uuid) (locationId organizationId : Uuid)
    (start finish : Int) : JoinInput where
  sessions := sources.sessions.filter fun session =>
    session.routerId ∈ routers && session.ipAddress.isSome && session.startedAt.val < finish &&
      session.endedAt.all fun ended => start - sources.grace ≤ ended.val
  publicIps := sources.publicIps.filter fun entry => entry.1 ∈ routers
  grace := sources.grace
  leases :=
    { events := sources.leaseEvents.filter fun event =>
        event.routerId ∈ routers && start - leaseLookback ≤ event.moment.val &&
          event.moment.val < finish + leaseLookahead
      sightings := sources.sightings.filter fun sighting =>
        sighting.routerId ∈ routers && sighting.ipAddress.isSome }
  infrastructure := sources.infrastructure locationId organizationId

def build (sources : Sources) (locationId organizationId : Uuid) (start finish : Int) :
    List Record :=
  let flows := flowsOf sources.flows locationId start finish
  if flows.isEmpty then []
  else
    let routers := flows.map (·.routerId)
    buildRecords flows (sources.join routers locationId organizationId start finish)
      organizationId locationId start finish

end CloudGuest.Ipdr
