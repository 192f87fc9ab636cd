import CloudGuest.Library.Rows
import CloudGuest.Library.Runs
import CloudGuest.Library.Texts

/-!
Tunnels to the hub (wireguard/service.py, wireguard/repository.py): one row a
router for the identity it has, an append-only ledger of all identities handed out,
and the hub, which is asked but not trusted. This module has the tables, the calls
that the operations share, and the view of the fleet that repairs what it shows.

Everything is kept for one hub, the active server. Secrets, audit entries and display
texts (names, notes, explanations) are left out. A call that raises is rolled back:
the tables are as before, the hub is as the call left it.
-/

namespace CloudGuest.Wireguard
open Texts Rows

inductive PeerStatus where
  | pending | active | revoked
  deriving DecidableEq

inductive PeerIdentitySource where
  | platformGenerated | hubAllocated | deviceReported | adopted
  deriving DecidableEq

inductive HubPeerLifecycle where
  | live | orphaned | removed | neverRegistered
  deriving DecidableEq

inductive HubRemovalOutcome where
  | removed | notPresent | unsupported
  deriving DecidableEq

/-- An address, or what `revoke_tunnel` leaves in its place: `revoked:` and the id of the row. -/
inductive TunnelIp where
  | host (address : Text)
  | released (router : Nat)
  deriving DecidableEq

/-- `WireGuardPeer`. The row is known by its router, which is unique. Times are microseconds. -/
structure Peer where
  router : Nat
  tunnelIpAddress : TunnelIp
  publicKey : Text
  status : PeerStatus
  rotationCount : Nat
  lastHandshakeAt : Option Int
  deriving DecidableEq

def Peer.isRevoked (peer : Peer) : Bool := peer.status = .revoked

/-- `WireGuardPeerIssuance`. Whether `superseded_at` is set is all that is read of it. -/
structure Issuance where
  router : Nat
  publicKey : Text
  tunnelIpAddress : TunnelIp
  source : PeerIdentitySource
  hubLifecycle : HubPeerLifecycle
  superseded : Bool
  deriving DecidableEq

/-- One entry of `GET /wg/peers`. -/
structure HubPeer where
  publicKey : Text
  allowedIps : Text
  latestHandshakeEpoch : Int
  deriving DecidableEq

def hubAddress (peer : HubPeer) : Option Text :=
  let first := strip (peer.allowedIps.takeWhile (· ≠ ','))
  match first.takeWhile (· ≠ '/') with
  | [] => none
  | address => some address

def HubPeer.lastHandshake (peer : HubPeer) : Option Int :=
  if 0 < peer.latestHandshakeEpoch then some (peer.latestHandshakeEpoch * 1000000) else none

structure Move where
  router : Nat
  previousTunnelIpAddress : TunnelIp
  tunnelIpAddress : TunnelIp
  deriving DecidableEq

/-- The tables, oldest row first, the hub, the calls of the listener in the operation under way,
and the addresses chosen that the hub held for another router's key. -/
structure Store where
  peers : List Peer
  ledger : List Issuance
  hub : List HubPeer
  moves : List Move
  clashes : List (Nat × Text)

def Store.hubKeys (store : Store) : List Text := store.hub.map HubPeer.publicKey

/-! ### The tables -/

def getPeerByRouterId (peers : List Peer) (router : Nat) : Option Peer :=
  peers.find? fun peer => peer.router = router

def isDuplicate (peers : List Peer) (saved : Peer) : Bool :=
  peers.any fun other => other.router ≠ saved.router &&
    (other.publicKey = saved.publicKey || other.tunnelIpAddress = saved.tunnelIpAddress)

def updatePeer (peers : List Peer) (saved : Peer) : Option (List Peer) :=
  if isDuplicate peers saved then none
  else some (peers.map fun peer => if peer.router = saved.router then saved else peer)

def createPeer (peers : List Peer) (saved : Peer) : Option (List Peer) :=
  if isDuplicate peers saved then none else some (peers ++ [saved])

def listOccupiedTunnelIps (peers : List Peer) (excludeRouter : Nat) : List TunnelIp :=
  (peers.filter fun peer => !peer.isRevoked && peer.router ≠ excludeRouter).map Peer.tunnelIpAddress

def HubPeerLifecycle.isHeld (lifecycle : HubPeerLifecycle) : Bool :=
  lifecycle = .live || lifecycle = .orphaned

def listHubHeldTunnelIps (ledger : List Issuance) : List TunnelIp :=
  (ledger.filter fun issuance => issuance.hubLifecycle.isHeld).map Issuance.tunnelIpAddress

def latestIssuance (ledger : List Issuance) (publicKey : Text) : Option Nat :=
  newest Issuance.publicKey publicKey ledger

def getIssuanceByPublicKey (ledger : List Issuance) (publicKey : Text) : Option Issuance :=
  (latestIssuance ledger publicKey).bind fun place => ledger[place]?

def writeLifecycle (ledger : List Issuance) (publicKey : Text) (lifecycle : HubPeerLifecycle) :
    List Issuance :=
  changeNewest Issuance.publicKey publicKey (fun issuance => { issuance with hubLifecycle := lifecycle })
    ledger

def Issuance.supersedeFor (issuance : Issuance) (router : Nat) (replacedBy : Text) : Issuance :=
  -- `_supersede_current_issuance` passes over rows of the key that replaces them.
  if issuance.router = router ∧ issuance.publicKey ≠ replacedBy then
    { issuance with superseded := true }
  else issuance

def recordIssuance (ledger : List Issuance) (router : Nat) (publicKey : Text) (ip : TunnelIp)
    (source : PeerIdentitySource) (lifecycle : HubPeerLifecycle) : List Issuance :=
  ledger.map (·.supersedeFor router publicKey) ++
    [{ router, publicKey, tunnelIpAddress := ip, source, hubLifecycle := lifecycle, superseded := false }]

/-! ### The hub -/

inductive RemovalAnswer where
  | answered | unsupported | unreachable
  deriving DecidableEq

/-- What the hub can do, and how it answers a removal of a key in the operation under way. -/
structure Bridge where
  canRegisterPublicKey : Bool
  canRemovePeer : Bool
  answer : Text → RemovalAnswer

def Bridge.removal (bridge : Bridge) (hubKeys : List Text) (publicKey : Text) :
    Option HubRemovalOutcome :=
  -- The outcome of `hub_peer_deregistrar`; `none` when it raises.
  if bridge.canRemovePeer = false then some .unsupported
  else
    match bridge.answer publicKey with
    | .unreachable => none
    | .unsupported => some .unsupported
    | .answered => if publicKey ∈ hubKeys then some .removed else some .notPresent

def HubRemovalOutcome.lifecycle : HubRemovalOutcome → HubPeerLifecycle
  | .removed => .removed
  | .notPresent => .neverRegistered
  | .unsupported => .orphaned

def deregisterFromHub (bridge : Bridge) (store : Store) (publicKey : Text) : Option Store :=
  (bridge.removal store.hubKeys publicKey).map fun outcome =>
    { store with
      hub := if outcome = .removed then store.hub.filter (·.publicKey ≠ publicKey) else store.hub
      ledger := writeLifecycle store.ledger publicKey outcome.lifecycle }

/-! ### Adoption -/

inductive Adoption where
  | duplicate
  -- The previous key could not be removed; the row and the ledger are written.
  | unreachable (store : Store)
  | adopted (store : Store)

def settlePrevious (bridge : Bridge) (hubPeers : List HubPeer) (store : Store)
    (previous publicKey : Text) : Option Store :=
  if previous ≠ [] ∧ previous ≠ publicKey then
    if previous ∈ hubPeers.map HubPeer.publicKey then deregisterFromHub bridge store previous
    else some { store with ledger := writeLifecycle store.ledger previous .neverRegistered }
  else some store

def Store.notifyAddressChanged (store : Store) (router : Nat) (previous ip : TunnelIp) : Store :=
  if previous ≠ ip then { store with moves := store.moves ++ [⟨router, previous, ip⟩] } else store

def Peer.adopt (peer : Peer) (publicKey : Text) (ip : TunnelIp) (lastHandshakeAt : Option Int) :
    Peer :=
  { peer with publicKey, tunnelIpAddress := ip, status := .active, lastHandshakeAt }

def applyAdoption (bridge : Bridge) (hubPeers : List HubPeer) (store : Store) (peer : Peer)
    (publicKey : Text) (ip : TunnelIp) (lastHandshakeAt : Option Int)
    (source : PeerIdentitySource) : Adoption :=
  match updatePeer store.peers (peer.adopt publicKey ip lastHandshakeAt) with
  | none => .duplicate
  | some peers =>
      let recorded := { store with
        peers, ledger := recordIssuance store.ledger peer.router publicKey ip source .live }
      match settlePrevious bridge hubPeers recorded peer.publicKey publicKey with
      | none => .unreachable recorded
      | some settled =>
          .adopted (settled.notifyAddressChanged peer.router peer.tunnelIpAddress ip)

/-! ### The fleet -/

inductive FleetPeerStatus where
  | trackedConnected | trackedStale | untrackedConnected | trackedMissingFromHub
  | adoptableMismatch | knownOrphan | trackedKeyMismatch
  deriving DecidableEq

structure FleetPeerEntry where
  status : FleetPeerStatus
  publicKey : Text
  router : Option Nat
  tunnelIpAddress : Option TunnelIp
  hubTunnelIpAddress : Option Text
  lastHandshakeAt : Option Int
  deriving DecidableEq

structure Pass where
  store : Store
  entries : List FleetPeerEntry
  adopted : List Text

/-- The arguments of a pass and what it read before its loop: the rows under the keys they had. -/
structure FleetRead where
  now : Int
  handshakeStaleAfter : Int
  adopt : Bool
  before : Store

def FleetRead.isRecent (read : FleetRead) (handshake : Option Int) : Bool :=
  handshake.any fun seen => read.now - seen ≤ read.handshakeStaleAfter

def adoptedIp (hubPeer : HubPeer) (peer : Peer) : TunnelIp :=
  -- The address to adopt a hub peer under: the hub's, or the recorded one if it names none.
  match hubAddress hubPeer with
  | some address => .host address
  | none => peer.tunnelIpAddress

def canAdopt (read : FleetRead) (hubPeer : HubPeer) (current : Peer) : Bool :=
  read.isRecent hubPeer.lastHandshake && !current.isRevoked &&
    current.publicKey ≠ hubPeer.publicKey && current.lastHandshakeAt = none

def Issuance.observed (issuance : Issuance) : Issuance :=
  if issuance.hubLifecycle = .neverRegistered then { issuance with hubLifecycle := .orphaned }
  else issuance

/-- The most recent issuance of a key is corrected from what the hub holds. -/
def correctLedger (ledger : List Issuance) (publicKey : Text) : List Issuance :=
  changeNewest Issuance.publicKey publicKey Issuance.observed ledger

def Pass.add (pass : Pass) (status : FleetPeerStatus) (hubPeer : HubPeer) (router : Option Nat)
    (ip : Option TunnelIp) : Pass :=
  { pass with
    entries := pass.entries ++ [{
      status, publicKey := hubPeer.publicKey, router, tunnelIpAddress := ip
      hubTunnelIpAddress := hubAddress hubPeer, lastHandshakeAt := hubPeer.lastHandshake }] }

def fleetAttributed (bridge : Bridge) (read : FleetRead) (pass : Pass) (hubPeer : HubPeer)
    (issuance : Issuance) : Except (List HubPeer) Pass :=
  -- A key that no row has, which the ledger attributes to a router. No earlier key of the loop
  -- writes an issuance of this one, so the most recent issuance is the one read before it. A pass
  -- that raises is rolled back, and leaves the hub as it is then.
  let store := { pass.store with ledger := correctLedger pass.store.ledger hubPeer.publicKey }
  let current := getPeerByRouterId store.peers issuance.router
  let recent := read.isRecent hubPeer.lastHandshake
  match if read.adopt then current.filter (canAdopt read hubPeer) else none with
  | some peer =>
      match applyAdoption bridge read.before.hub store peer hubPeer.publicKey
          (adoptedIp hubPeer peer) hubPeer.lastHandshake .adopted with
      | .adopted store =>
          .ok ({ pass with store, adopted := pass.adopted ++ [hubPeer.publicKey] }.add
            .trackedConnected hubPeer issuance.router ((hubAddress hubPeer).map .host))
      | .unreachable store =>
          .ok ({ pass with store }.add .adoptableMismatch hubPeer issuance.router
            ((getPeerByRouterId store.peers issuance.router).map Peer.tunnelIpAddress))
      -- The flush that raised has rolled the session back, and so the issuance is expired: the
      -- handler of the failure raises where it reads it.
      | .duplicate => .error store.hub
  | none =>
      .ok ({ pass with store }.add (if recent then .adoptableMismatch else .knownOrphan) hubPeer
        issuance.router (current.map Peer.tunnelIpAddress))

def Peer.reconcile (peer : Peer) (seen : Option Int) : Peer :=
  -- The handshake that the hub saw, if it is newer; a revoked row stays revoked.
  match seen with
  | some handshake =>
      if peer.lastHandshakeAt.all (· < handshake) then
        { peer with
          lastHandshakeAt := some handshake
          status := if peer.status = .pending then .active else peer.status }
      else peer
  | none => peer

def addressMismatch (hubPeer : HubPeer) (peer : Peer) : Bool :=
  (hubAddress hubPeer).any fun address => !peer.isRevoked && .host address ≠ peer.tunnelIpAddress

def fleetTracked (read : FleetRead) (pass : Pass) (hubPeer : HubPeer) (router : Nat) : Pass :=
  -- A key that a row had when the pass began. The row may have been adopted since.
  let peers := pass.store.peers.map fun peer =>
    if peer.router = router then peer.reconcile hubPeer.lastHandshake else peer
  let pass := { pass with store := { pass.store with peers } }
  match getPeerByRouterId peers router with
  | some peer =>
      pass.add
        (if addressMismatch hubPeer peer then .trackedKeyMismatch
          else if read.isRecent hubPeer.lastHandshake then .trackedConnected
          else .trackedStale)
        hubPeer router peer.tunnelIpAddress
  | none => pass

/-- The last second of the year 9999, after which `datetime.fromtimestamp` raises. -/
def maxHandshakeEpoch : Int := 253402300799

def fleetStep (bridge : Bridge) (read : FleetRead) (pass : Pass) (hubPeer : HubPeer) :
    Except (List HubPeer) Pass :=
  if maxHandshakeEpoch < hubPeer.latestHandshakeEpoch then .error pass.store.hub
  else
    match read.before.peers.find? (·.publicKey = hubPeer.publicKey) with
    | some row => .ok (fleetTracked read pass hubPeer row.router)
    | none =>
        match getIssuanceByPublicKey pass.store.ledger hubPeer.publicKey with
        | none => .ok (pass.add .untrackedConnected hubPeer none none)
        | some issuance => fleetAttributed bridge read pass hubPeer issuance

def missingEntries (read : FleetRead) (peers : List Peer) : List FleetPeerEntry :=
  (read.before.peers.filter fun row => row.publicKey ∉ read.before.hubKeys).map fun row =>
    let peer := (getPeerByRouterId peers row.router).getD row
    { status := .trackedMissingFromHub, publicKey := row.publicKey, router := some row.router
      tunnelIpAddress := some peer.tunnelIpAddress, hubTunnelIpAddress := none
      lastHandshakeAt := peer.lastHandshakeAt }

def fleetLoop (bridge : Bridge) (read : FleetRead) :
    List HubPeer → Pass → Except (List HubPeer) Pass
  | [], pass => .ok pass
  | hubPeer :: rest, pass =>
      match fleetStep bridge read pass hubPeer with
      | .ok next => fleetLoop bridge read rest next
      | .error hub => .error hub

def getFleetStatus (bridge : Bridge) (read : FleetRead) : Except (List HubPeer) Pass :=
  (fleetLoop bridge read read.before.hub ⟨read.before, [], []⟩).map fun pass =>
    { pass with entries := pass.entries ++ missingEntries read pass.store.peers }

end CloudGuest.Wireguard
