import CloudGuest.Library.FirstSeen
import CloudGuest.Library.Sorting
import CloudGuest.Library.Texts

/-!
The configuration planner of a router (provisioning_engine/planner): the ordered
rules over a discovery snapshot, the plan they build, and the script that a plan is
compiled to (compile.py, network_config/profiles).

A row of a snapshot has the text that the planner reads of it, empty where the
source finds no value. Texts that are only shown (summaries, explanations and the
reason of a risk) are left out.
-/

namespace CloudGuest.Planner
open Texts Sorting FirstSeen

structure Bridge where
  name : Text
  ports : List Text

structure Route where
  dstAddress : Text
  active : Option Bool
  gateway : Text

structure IpAddress where
  interface : Text
  address : Text

structure HotspotState where
  serverCount : Nat
  servers : List Bool

structure Snapshot where
  bridges : List Bridge
  dhcpClients : List Text
  routes : List Route
  ipAddresses : List IpAddress
  hotspotState : HotspotState

structure GuestVlanRequest where
  name : Text
  subnetCidr : Text

structure GuestNetworkRequest where
  guestInterfaces : List Text
  vlans : List GuestVlanRequest
  parentBridge : Option Text

inductive PlanStatus where
  | draft | blocked | awaitingApproval | approved | rendering | applying | applied | failed
  | superseded | rejected
  deriving DecidableEq

inductive PlanActionType where
  | create | modify | remove | noop
  deriving DecidableEq

inductive PlanRisk where
  | none | low | managementConnectivity
  deriving DecidableEq

inductive RuleId where
  | r1 | r2 | r3 | r4 | r5
  deriving DecidableEq

inductive ResourceKind where
  | bridgePort | dhcpClient | wanMapping | bridge
  deriving DecidableEq

structure ActionDetails where
  bridge : Option Text
  interface : Option Text
  currentInterface : Option Text
  name : Option Text
  deriving DecidableEq

def ActionDetails.empty : ActionDetails := ⟨none, none, none, none⟩

structure PlanAction where
  seq : Nat
  ruleId : RuleId
  actionType : PlanActionType
  resourceKind : ResourceKind
  resourceRef : Text
  risk : PlanRisk
  details : ActionDetails
  deriving DecidableEq

structure LabelledNetwork where
  label : Text
  cidr : Text
  deriving DecidableEq

inductive PlanConflict where
  | wanVerificationGate
  | noDefaultRoute
  -- `cidrs` has the two networks, `detail` their labels as well
  | subnetOverlap (left right : LabelledNetwork)
  deriving DecidableEq

inductive PlanDecision where
  | existingHotspot
  deriving DecidableEq

structure PlanBuilder where
  actions : List PlanAction
  conflicts : List PlanConflict
  decisions : List PlanDecision

def PlanBuilder.blocked (builder : PlanBuilder) : Bool := builder.conflicts ≠ []

def PlanBuilder.addAction (builder : PlanBuilder) (ruleId : RuleId) (actionType : PlanActionType)
    (resourceKind : ResourceKind) (resourceRef : Text) (risk : PlanRisk) (details : ActionDetails) :
    PlanBuilder :=
  { builder with
    actions := builder.actions ++ [{
      seq := builder.actions.length + 1, ruleId, actionType, resourceKind, resourceRef, risk
      details }] }

def PlanBuilder.addConflicts (builder : PlanBuilder) (conflicts : List PlanConflict) : PlanBuilder :=
  { builder with conflicts := builder.conflicts ++ conflicts }

def PlanBuilder.upgradeActionRisk (builder : PlanBuilder) (seq : Nat) (risk : PlanRisk) : PlanBuilder :=
  { builder with
    actions := builder.actions.map fun action =>
      if action.seq = seq then { action with risk } else action }

/-! ### Topology (topology.py) -/

def portsOf (bridges : List Bridge) (name : Text) : List Text :=
  ((bridges.filter fun bridge => bridge.name = name).getLast?.map fun bridge =>
    bridge.ports.filter (· ≠ [])).getD []

def bridgePortMap (bridges : List Bridge) : List (Text × List Text) :=
  (firstSeen ((bridges.map Bridge.name).filter (· ≠ []))).map fun name => (name, portsOf bridges name)

def wanInBridge (snapshot : Snapshot) (wan : List Text) : List (Text × List Text) :=
  ((sortOn Prod.fst (bridgePortMap snapshot.bridges)).map fun entry =>
    (entry.1, sortOn id (firstSeen (entry.2.filter (· ∈ wan))))).filter (·.2 ≠ [])

def dhcpClientsOnBridge (snapshot : Snapshot) : List Text :=
  -- The findings `dhcp_client_on_bridge`: the interface of a client that is a bridge or a port of
  -- one.
  snapshot.dhcpClients.filter fun interface => interface ≠ [] &&
    (bridgePortMap snapshot.bridges).any fun entry => interface ∈ entry.2 || entry.1 = interface

def hasExistingHotspot (snapshot : Snapshot) : Bool :=
  0 < snapshot.hotspotState.serverCount &&
    (snapshot.hotspotState.servers.any (!·) || snapshot.hotspotState.servers = [])

/-! ### Management safety (management_safety.py) -/

def isDefaultRoute (route : Route) : Bool :=
  route.dstAddress = "0.0.0.0/0".toList || route.dstAddress = "::/0".toList

def activeDefaultRoute (snapshot : Snapshot) : Option Route :=
  snapshot.routes.find? fun route => isDefaultRoute route && route.active.getD true

def activeDefaultRouteGateway (snapshot : Snapshot) : Option Text :=
  ((activeDefaultRoute snapshot).map Route.gateway).filter (· ≠ [])

def managementSensitiveInterfaces (snapshot : Snapshot) (wan : List Text) : List Text :=
  wan ++ (activeDefaultRouteGateway snapshot).toList ++
    (snapshot.ipAddresses.map IpAddress.interface).filter (· ≠ [])

def isNamed (interface : Text) (value : Option Text) : Bool :=
  value.any fun text => text ≠ [] && text = interface

def afterColon (text : Text) : Option Text :=
  match text.dropWhile (· ≠ ':') with
  | [] => none
  | _ :: rest => some rest

def actionTouchesInterface (action : PlanAction) (interface : Text) : Bool :=
  decide (interface <:+: action.resourceRef) ||
    isNamed interface action.details.interface || isNamed interface action.details.currentInterface ||
    isNamed interface action.details.bridge ||
    action.resourceKind = .bridgePort && afterColon action.resourceRef = some interface

def PlanAction.clientInterface (action : PlanAction) : Text :=
  -- `details.get("current_interface") or resource_ref`.
  (action.details.currentInterface.filter (· ≠ [])).getD action.resourceRef

def assessManagementRisk (snapshot : Snapshot) (wan : List Text) (action : PlanAction) : Bool :=
  action.actionType ≠ .noop &&
    ((managementSensitiveInterfaces snapshot wan).any (actionTouchesInterface action) ||
      action.resourceKind = .dhcpClient && action.actionType = .modify &&
        "bridge".toList.isPrefixOf action.clientInterface)

def planRequiresSafetyNet (actions : List PlanAction) : Bool :=
  actions.any fun action => action.risk = .managementConnectivity

/-! ### Subnets (subnet_conflicts.py) -/

def labelled (source : Text) (texts : List Text) : List LabelledNetwork :=
  (texts.zipIdx.filter fun entry => entry.1 ≠ []).map fun entry =>
    ⟨source ++ '[' :: decimal entry.2 ++ [']'], entry.1⟩

def collectSnapshotNetworks (snapshot : Snapshot) : List LabelledNetwork :=
  labelled "snapshot.ip_addresses".toList (snapshot.ipAddresses.map IpAddress.address) ++
    labelled "snapshot.routes".toList (snapshot.routes.map fun route =>
      if isDefaultRoute route then [] else route.dstAddress)

/-- What the rules are given. `networksOverlap` is `ipaddress`'s answer for two networks as texts,
`none` where it raises. -/
structure PlanContext where
  snapshot : Snapshot
  request : GuestNetworkRequest
  wanInterfaces : List Text
  wanGatePasses : Bool
  networksOverlap : Text → Text → Option Bool

def comparedNetworks (ctx : PlanContext) : List (LabelledNetwork × LabelledNetwork) :=
  -- The pairs of networks that are compared: two wishes in the order of their labels, and a wish
  -- with what the snapshot has.
  let desired := ctx.request.vlans.map fun vlan => LabelledNetwork.mk vlan.name vlan.subnetCidr
  (desired.flatMap fun left =>
    (desired.filter fun right => left.label < right.label).map fun right => (left, right)) ++
  desired.flatMap fun wish =>
    (collectSnapshotNetworks ctx.snapshot).map fun present => (wish, present)

def conflictKey (left right : LabelledNetwork) : List Text :=
  sortOn id [left.label, left.cidr, right.label, right.cidr]

structure SubnetScan where
  seen : List (List Text)
  conflicts : List PlanConflict

def SubnetScan.record (scan : SubnetScan) (left right : LabelledNetwork) : SubnetScan :=
  if conflictKey left right ∈ scan.seen then scan
  else ⟨scan.seen ++ [conflictKey left right], scan.conflicts ++ [.subnetOverlap left right]⟩

def scanSubnets (overlap : Text → Text → Option Bool) :
    List (LabelledNetwork × LabelledNetwork) → SubnetScan → Option SubnetScan
  -- The loop over the pairs; `none` when a network cannot be read.
  | [], scan => some scan
  | (left, right) :: rest, scan =>
      match overlap left.cidr right.cidr with
      | none => none
      | some true => scanSubnets overlap rest (scan.record left right)
      | some false => scanSubnets overlap rest scan

def detectSubnetConflicts (ctx : PlanContext) : Option (List PlanConflict) :=
  (scanSubnets ctx.networksOverlap (comparedNetworks ctx) ⟨[], []⟩).map SubnetScan.conflicts

/-! ### Rules (rules.py) -/

def hasGuests (ctx : PlanContext) : Bool := ctx.request.guestInterfaces ≠ []

def ruleR8WanVerificationGate (ctx : PlanContext) (builder : PlanBuilder) : Option PlanBuilder :=
  if hasGuests ctx && !ctx.wanGatePasses then some (builder.addConflicts [.wanVerificationGate])
  else some builder

def ruleR9DefaultRouteGate (ctx : PlanContext) (builder : PlanBuilder) : Option PlanBuilder :=
  if hasGuests ctx && (activeDefaultRoute ctx.snapshot).isNone then
    some (builder.addConflicts [.noDefaultRoute])
  else some builder

def ruleR6SubnetOverlap (ctx : PlanContext) (builder : PlanBuilder) : Option PlanBuilder :=
  (detectSubnetConflicts ctx).map builder.addConflicts

def removeWanPort (bridge port : Text) (builder : PlanBuilder) : PlanBuilder :=
  builder.addAction .r1 .remove .bridgePort (bridge ++ ':' :: port) .low
    { ActionDetails.empty with bridge := some bridge, interface := some port }

def ruleR1WanInBridge (ctx : PlanContext) (builder : PlanBuilder) : Option PlanBuilder :=
  some ((wanInBridge ctx.snapshot ctx.wanInterfaces).foldl (fun builder finding =>
    finding.2.foldl (fun builder port => removeWanPort finding.1 port builder) builder) builder)

def moveDhcpClient (interface : Text) (builder : PlanBuilder) : PlanBuilder :=
  builder.addAction .r2 .modify .dhcpClient interface .low
    { ActionDetails.empty with currentInterface := some interface }

def ruleR2DhcpClientOnBridge (ctx : PlanContext) (builder : PlanBuilder) : Option PlanBuilder :=
  some ((dhcpClientsOnBridge ctx.snapshot).foldl (fun builder interface =>
    moveDhcpClient interface builder) builder)

def ruleR3PppoeMapping (ctx : PlanContext) (builder : PlanBuilder) : Option PlanBuilder :=
  if hasGuests ctx then
    some (builder.addAction .r3 .noop .wanMapping "pppoe-routing".toList .none .empty)
  else some builder

def defaultGuestBridgeName : Text := "WYFYGUEST-bridge-guest".toList

def findSuitableParentBridge (snapshot : Snapshot) (wan : List Text) : Option Text :=
  (snapshot.bridges.map Bridge.name).find? fun name => name ≠ [] &&
    (portsOf snapshot.bridges name).all (· ∉ wan)

def GuestNetworkRequest.parent (request : GuestNetworkRequest) : Option Text :=
  request.parentBridge.filter (· ≠ [])

def ruleR4R5GuestBridge (ctx : PlanContext) (builder : PlanBuilder) : Option PlanBuilder :=
  if !hasGuests ctx || builder.blocked then some builder
  else
    match ctx.request.parent with
    | some parent => some (builder.addAction .r5 .noop .bridge parent .none .empty)
    | none =>
        match findSuitableParentBridge ctx.snapshot ctx.wanInterfaces with
        | some suitable => some (builder.addAction .r5 .noop .bridge suitable .none .empty)
        | none =>
            some (builder.addAction .r4 .create .bridge defaultGuestBridgeName .none
              { ActionDetails.empty with name := some defaultGuestBridgeName })

def ruleR7ExistingHotspot (ctx : PlanContext) (builder : PlanBuilder) : Option PlanBuilder :=
  if hasGuests ctx && hasExistingHotspot ctx.snapshot then
    some { builder with decisions := builder.decisions ++ [.existingHotspot] }
  else some builder

def ruleR10ManagementSafety (ctx : PlanContext) (builder : PlanBuilder) : Option PlanBuilder :=
  if hasGuests ctx then
    some ((builder.actions.filter (assessManagementRisk ctx.snapshot ctx.wanInterfaces)).foldl
      (fun builder action => builder.upgradeActionRisk action.seq .managementConnectivity) builder)
  else some builder

def ruleRegistry : List (PlanContext → PlanBuilder → Option PlanBuilder) :=
  [ruleR8WanVerificationGate, ruleR9DefaultRouteGate, ruleR6SubnetOverlap, ruleR1WanInBridge,
    ruleR2DhcpClientOnBridge, ruleR3PppoeMapping, ruleR4R5GuestBridge, ruleR7ExistingHotspot,
    ruleR10ManagementSafety]

/-! ### The plan (plan_engine.py) -/

structure ConfigurationPlan where
  status : PlanStatus
  requestedConfig : GuestNetworkRequest
  actions : List PlanAction
  conflicts : List PlanConflict
  decisions : List PlanDecision

def PlanBuilder.resolveStatus (builder : PlanBuilder) : PlanStatus :=
  if builder.blocked then .blocked
  else if builder.decisions ≠ [] then .awaitingApproval
  else .draft

def runRules (ctx : PlanContext) :
    List (PlanContext → PlanBuilder → Option PlanBuilder) → PlanBuilder → Option PlanBuilder
  -- The loop over the registry stops behind a rule that blocks.
  | [], builder => some builder
  | rule :: rest, builder =>
      match rule ctx builder with
      | none => none
      | some builder => if builder.blocked then some builder else runRules ctx rest builder

def buildConfigurationPlan (ctx : PlanContext) : Option ConfigurationPlan :=
  (runRules ctx ruleRegistry ⟨[], [], []⟩).map fun builder =>
    let status := builder.resolveStatus
    { status :=
        if status = .draft ∧ builder.actions ≠ [] ∧ builder.decisions = [] then .awaitingApproval
        else status
      requestedConfig := ctx.request
      actions := builder.actions, conflicts := builder.conflicts, decisions := builder.decisions }

end CloudGuest.Planner
