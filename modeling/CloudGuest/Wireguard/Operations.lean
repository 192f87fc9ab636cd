import CloudGuest.Wireguard.Tunnels

/-!
The operations that change a router's tunnel, and their runs. Each is one
transaction; what the hub answers to a read or to a removal is part of the operation.
The checks that a router may have a tunnel and that the caller may see it refuse a
call before it does anything, and are left out.
-/

namespace CloudGuest.Wireguard
open Texts Rows Runs

/-- The store after a call, or the hub as a call that raised has left it. -/
abbrev Outcome := Except (List HubPeer) Store

def Store.settle (store : Store) : Outcome → Store
  | .ok after => after
  | .error hub => { store with hub }

def hubReservedHostCount : Nat := 1

def allocateTunnelIp (hosts : List Text) (occupied : List TunnelIp) : Option Text :=
  (hosts.drop hubReservedHostCount).find? fun address => .host address ∉ occupied

def isClash (store : Store) (router : Nat) (address : Text) : Bool :=
  store.hub.any fun hubPeer => hubAddress hubPeer = some address &&
    store.ledger.any fun issuance =>
      issuance.publicKey = hubPeer.publicKey && issuance.router ≠ router

def Store.choose (store : Store) (router : Nat) (address : Text) : Store :=
  { store with
    clashes := if isClash store router address then store.clashes ++ [(router, address)]
      else store.clashes }

def allocateAndPersist (bridge : Bridge) (hosts : List Text) (store : Store) (existing : Option Peer)
    (router : Nat) (externalPublicKey : Option Text) (generated : Text) : Outcome :=
  -- `_allocate_and_persist`. The tables do not change between its attempts here, so all of them
  -- end as the first one does.
  if externalPublicKey = none ∧ bridge.canRegisterPublicKey = false then .error store.hub
  else
    let occupied := listOccupiedTunnelIps store.peers router ++ listHubHeldTunnelIps store.ledger
    match allocateTunnelIp hosts occupied with
    | none => .error store.hub
    | some address =>
        let publicKey := externalPublicKey.getD generated
        let source := if externalPublicKey.isSome then .deviceReported else .platformGenerated
        let row : Peer := {
          router, tunnelIpAddress := .host address, publicKey, status := .pending
          rotationCount := (existing.map fun peer => peer.rotationCount + 1).getD 0
          lastHandshakeAt := none }
        let saved := if existing.isSome then updatePeer store.peers row else createPeer store.peers row
        match saved with
        | none => .error store.hub
        | some peers =>
            .ok { store.choose router address with
              peers
              ledger := recordIssuance store.ledger router publicKey (.host address) source
                .neverRegistered }

def createTunnel (bridge : Bridge) (hosts : List Text) (store : Store) (router : Nat)
    (externalPublicKey : Option Text) (generated : Text) : Outcome :=
  let existing := getPeerByRouterId store.peers router
  if existing.any (!·.isRevoked) then .error store.hub
  else allocateAndPersist bridge hosts store existing router externalPublicKey generated

def registerAgentAllocatedPeer (bridge : Bridge) (store : Store) (router : Nat) (address : Text)
    (publicKey : Text) : Outcome :=
  -- `register_agent_allocated_peer`. A removal that cannot be asked for is passed over. The
  -- address is compared with the row's after the row has been written.
  if .host address ∈ listOccupiedTunnelIps store.peers router then .error store.hub
  else
    let fresh : Peer := {
      router, tunnelIpAddress := .host address, publicKey, status := .pending
      rotationCount := 0, lastHandshakeAt := none }
    match getPeerByRouterId store.peers router with
    | none =>
        match createPeer store.peers fresh with
        | none => .error store.hub
        | some peers =>
            .ok { store with
              peers
              ledger := recordIssuance store.ledger router publicKey (.host address) .hubAllocated
                .live }
    | some existing =>
        let store :=
          if existing.publicKey ≠ [] ∧ existing.publicKey ≠ publicKey then
            (deregisterFromHub bridge store existing.publicKey).getD store
          else store
        let row := { fresh with rotationCount := existing.rotationCount + 1 }
        match updatePeer store.peers row with
        | none => .error store.hub
        | some peers =>
            .ok ({ store with
              peers
              ledger := recordIssuance store.ledger router publicKey (.host address) .hubAllocated
                .live }.notifyAddressChanged router row.tunnelIpAddress (.host address))

def rotateTunnel (bridge : Bridge) (store : Store) (router : Nat) (generated : Text) : Outcome :=
  match getPeerByRouterId store.peers router with
  | none => .error store.hub
  | some peer =>
      if peer.isRevoked = true ∨ bridge.canRegisterPublicKey = false then .error store.hub
      else
        let row := { peer with
          publicKey := generated, status := .pending, rotationCount := peer.rotationCount + 1
          lastHandshakeAt := none }
        match updatePeer store.peers row with
        | none => .error store.hub
        | some peers =>
            let recorded := { store with
              peers
              ledger := recordIssuance store.ledger router generated peer.tunnelIpAddress
                .platformGenerated .neverRegistered }
            .ok (if peer.publicKey ≠ [] ∧ peer.publicKey ≠ generated then
              (deregisterFromHub bridge recorded peer.publicKey).getD recorded else recorded)

def revokeTunnel (bridge : Bridge) (store : Store) (router : Nat) : Outcome :=
  match getPeerByRouterId store.peers router with
  | none => .error store.hub
  | some peer =>
      if peer.isRevoked then .error store.hub
      else
        match deregisterFromHub bridge store peer.publicKey with
        | none => .error store.hub
        | some deregistered =>
            let row := { peer with status := .revoked, tunnelIpAddress := .released router }
            match updatePeer deregistered.peers row with
            | none => .error deregistered.hub
            | some peers => .ok { deregistered with peers }

def Adoption.outcome (store : Store) : Adoption → Outcome
  | .adopted after => .ok after
  | .unreachable _ => .error store.hub
  | .duplicate => .error store.hub

def adoptHubPeer (bridge : Bridge) (store : Store) (router : Nat) (publicKey : Text)
    (readable : Bool) : Outcome :=
  if readable = false then .error store.hub
  else
    match store.hub.find? (·.publicKey = publicKey), getPeerByRouterId store.peers router with
    | some hubPeer, some peer =>
        if (store.peers.any fun other => other.publicKey = publicKey && other.router ≠ router) = true ∨
            maxHandshakeEpoch < hubPeer.latestHandshakeEpoch then .error store.hub
        else
          (applyAdoption bridge store.hub store peer publicKey (adoptedIp hubPeer peer)
            hubPeer.lastHandshake .adopted).outcome store
    | _, _ => .error store.hub

def ensureTunnelForCheckIn (bridge : Bridge) (hosts : List Text) (store : Store) (router : Nat)
    (externalPublicKey : Option Text) (generated : Text) (readable : Bool) : Outcome :=
  match getPeerByRouterId store.peers router with
  | none => createTunnel bridge hosts store router externalPublicKey generated
  | some existing =>
      if existing.isRevoked then createTunnel bridge hosts store router externalPublicKey generated
      else
        match externalPublicKey with
        | some reported =>
            if reported = existing.publicKey ∨ readable = false then .ok store
            else
              match store.hub.find? (·.publicKey = reported) with
              | none => .error store.hub
              | some hubPeer =>
                  if maxHandshakeEpoch < hubPeer.latestHandshakeEpoch then .error store.hub
                  else
                    (applyAdoption bridge store.hub store existing reported
                      (adoptedIp hubPeer existing) hubPeer.lastHandshake .deviceReported).outcome store
        | none =>
            if readable = false ∨ existing.publicKey ∈ store.hubKeys then .ok store
            else rotateTunnel bridge store router generated

/-- The keys that `resolve_live_identity_for_router` looks for. -/
def liveCandidates (store : Store) (router : Nat) : List Text :=
  ((getPeerByRouterId store.peers router).filter (!·.isRevoked)).toList.map Peer.publicKey ++
    (store.ledger.filter (·.router = router)).map Issuance.publicKey

def liveIdentities (store : Store) (router : Nat) (now handshakeStaleAfter : Int) : List HubPeer :=
  store.hub.filter fun hubPeer => hubPeer.publicKey ∈ liveCandidates store router &&
    hubPeer.lastHandshake.any fun seen => now - seen ≤ handshakeStaleAfter

def resolvesTo (store : Store) (router : Nat) (now handshakeStaleAfter : Int) :
    Option Text → Bool
  -- `resolve_live_identity_for_router` goes through a set: of several with the latest handshake it
  -- may answer any.
  | none => liveIdentities store router now handshakeStaleAfter = []
  | some live =>
      (liveIdentities store router now handshakeStaleAfter).any fun hubPeer =>
        hubPeer.publicKey = live &&
          (liveIdentities store router now handshakeStaleAfter).all fun other =>
            other.latestHandshakeEpoch ≤ hubPeer.latestHandshakeEpoch

def hasUndated (store : Store) (router : Nat) : Bool :=
  -- Of what `resolve_live_identity_for_router` goes through, one key has no date, and it raises.
  store.hub.any fun hubPeer => hubPeer.publicKey ∈ liveCandidates store router &&
    maxHandshakeEpoch < hubPeer.latestHandshakeEpoch

def isUsable (store : Store) (router : Nat) (readable : Bool) : Bool :=
  (getPeerByRouterId store.peers router).any fun peer =>
    !peer.isRevoked && (!readable || peer.publicKey ∈ store.hubKeys)

structure Reads where
  live : Bool
  adopt : Bool
  usable : Bool

def allocateTunnelViaHub (bridge : Bridge) (store : Store) (router : Nat) (rotate force : Bool)
    (reads : Reads) (live : Option Text) (minted : HubPeer) (address : Text) : Outcome :=
  -- `allocate_tunnel_via_hub`, with what `resolve_live_identity_for_router` answers and the peer
  -- the hub makes if it is asked to. What the hub made stays when the registration raises.
  if force = false ∧ reads.live = true ∧ hasUndated store router = true then .error store.hub
  else
    match if force = false ∧ reads.live = true then live else none with
    | some publicKey =>
        match getPeerByRouterId store.peers router with
        | none => .error store.hub
        | some peer =>
            if peer.publicKey = publicKey then .ok store
            else adoptHubPeer bridge store router publicKey reads.adopt
    | none =>
        if rotate = false ∧ isUsable store router reads.usable = true then .ok store
        else
          registerAgentAllocatedPeer bridge { store with hub := store.hub ++ [minted] } router address
            minted.publicKey

/-! ### Runs -/

inductive Operation where
  | createTunnel (router : Nat) (externalPublicKey : Option Text) (generated : Text)
  | ensureTunnelForCheckIn (router : Nat) (externalPublicKey : Option Text) (generated : Text)
      (readable : Bool)
  | allocateTunnelViaHub (router : Nat) (rotate force : Bool) (reads : Reads)
      (now handshakeStaleAfter : Int) (live : Option Text) (minted : HubPeer) (address : Text)
  | registerAgentAllocatedPeer (router : Nat) (address publicKey : Text)
  | rotateTunnel (router : Nat) (generated : Text)
  | revokeTunnel (router : Nat)
  | adoptHubPeer (router : Nat) (publicKey : Text) (readable : Bool)
  | getFleetStatus (now handshakeStaleAfter : Int) (adopt : Bool)
  -- `POST /wg/peer` for somebody who does not register what it made, or not now.
  | mintPeer (minted : HubPeer) (address : Text)
  -- A device puts its key on the hub under an address that the platform gave it.
  | enroll (publicKey address allowedIps : Text)
  -- The hub sees a handshake.
  | handshake (publicKey : Text) (epoch : Int)

def isFresh (store : Store) (publicKey : Text) : Bool :=
  publicKey ≠ [] && publicKey ∉ store.hubKeys &&
    publicKey ∉ store.ledger.map Issuance.publicKey && publicKey ∉ store.peers.map Peer.publicKey

def isMint (store : Store) (minted : HubPeer) (address : Text) : Bool :=
  isFresh store minted.publicKey && hubAddress minted = some address &&
    store.hub.all fun hubPeer => hubAddress hubPeer ≠ some address

def wasIssued (store : Store) (publicKey address : Text) : Bool :=
  store.ledger.any fun issuance => issuance.source = .deviceReported &&
    issuance.publicKey = publicKey && issuance.tunnelIpAddress = .host address

/-- Whether what the operation is given can be: fresh keys are fresh, a handshake is on the hub. -/
def isPossible (store : Store) : Operation → Bool
  | .createTunnel _ external generated => external.isSome || isFresh store generated
  | .ensureTunnelForCheckIn _ _ generated _ => isFresh store generated
  | .allocateTunnelViaHub router _ _ _ now handshakeStaleAfter live minted address =>
      resolvesTo store router now handshakeStaleAfter live && isMint store minted address
  | .rotateTunnel _ generated => isFresh store generated
  | .mintPeer minted address => isMint store minted address
  | .enroll publicKey address allowedIps =>
      publicKey ≠ [] && hubAddress ⟨publicKey, allowedIps, 0⟩ = some address &&
        wasIssued store publicKey address
  | _ => true

def perform (bridge : Bridge) (hosts : List Text) (store : Store) : Operation → Outcome
  | .createTunnel router external generated =>
      createTunnel bridge hosts store router external generated
  | .ensureTunnelForCheckIn router external generated readable =>
      ensureTunnelForCheckIn bridge hosts store router external generated readable
  | .allocateTunnelViaHub router rotate force reads _ _ live minted address =>
      allocateTunnelViaHub bridge store router rotate force reads live minted address
  | .registerAgentAllocatedPeer router address publicKey =>
      registerAgentAllocatedPeer bridge store router address publicKey
  | .rotateTunnel router generated => rotateTunnel bridge store router generated
  | .revokeTunnel router => revokeTunnel bridge store router
  | .adoptHubPeer router publicKey readable => adoptHubPeer bridge store router publicKey readable
  | .getFleetStatus now handshakeStaleAfter adopt =>
      (getFleetStatus bridge ⟨now, handshakeStaleAfter, adopt, store⟩).map Pass.store
  | .mintPeer minted _ => .ok { store with hub := store.hub ++ [minted] }
  | .enroll publicKey _ allowedIps =>
      let known := store.hub.find? (·.publicKey = publicKey)
      .ok { store with
        hub := store.hub.filter (·.publicKey ≠ publicKey) ++
          [⟨publicKey, allowedIps, (known.map HubPeer.latestHandshakeEpoch).getD 0⟩] }
  | .handshake publicKey epoch =>
      .ok { store with
        hub := store.hub.map fun hubPeer =>
          if hubPeer.publicKey = publicKey then { hubPeer with latestHandshakeEpoch := epoch }
          else hubPeer }

def movedPeers (before after : List Peer) : List Move :=
  -- The rows with a tunnel before and after that have another address now. What `revoke_tunnel`
  -- writes in place of an address is none.
  before.filterMap fun peer =>
    match getPeerByRouterId after peer.router with
    | none => none
    | some later =>
        if peer.isRevoked || later.isRevoked || peer.tunnelIpAddress = later.tunnelIpAddress then none
        else some ⟨peer.router, peer.tunnelIpAddress, later.tunnelIpAddress⟩

/-- The store, and the address moves that the listener was not told of. -/
structure World where
  store : Store
  silent : List Move

structure Request where
  operation : Operation
  bridge : Bridge

def step (hosts : List Text) (world : World) (request : Request) : Option World :=
  let before := { world.store with moves := [] }
  if isPossible before request.operation then
    let after := before.settle (perform request.bridge hosts before request.operation)
    some {
      store := after
      silent := world.silent ++
        (movedPeers before.peers after.peers).filter (· ∉ after.moves) }
  else none

/-- The peers that a hub may hold before the platform knows of it: each key once. -/
structure Hub where
  peers : List HubPeer
  distinct : (peers.map HubPeer.publicKey).Nodup
  named : [] ∉ peers.map HubPeer.publicKey

def World.started (hub : Hub) : World := ⟨⟨[], [], hub.peers, [], []⟩, []⟩

/-! ### A small network, for runs -/

def smallNetwork : List Text := ["10.20.0.1".toList, "10.20.0.2".toList, "10.20.0.3".toList]

def emptyHub : Hub := ⟨[], by simp, by simp⟩

def answering : Bridge := ⟨true, true, fun _ => .answered⟩

def unreachable : Bridge := ⟨true, true, fun _ => .unreachable⟩

end CloudGuest.Wireguard
