import CloudGuest.Wireguard.FleetPass

/-!
What each operation has done when it returns, and what any of them can do to the
hub. The invariants of the tunnels are derived from these and never from the
operations themselves.
-/

namespace CloudGuest.Wireguard
open Texts Rows Runs

/-! ### A row and its issuance -/

def hasTunnel (store : Store) (router : Nat) : Bool :=
  (getPeerByRouterId store.peers router).any (!·.isRevoked)

theorem hasTunnel_false {store : Store} {router : Nat} (without : hasTunnel store router = false)
    {peer : Peer} (constrained : Constrained store.peers) (member : peer ∈ store.peers)
    (own : peer.router = router) : peer.isRevoked = true := by
  subst own
  rw [hasTunnel, constrained.found member] at without
  simpa using without

/-- `create_tunnel` has chosen an address that no other router's row has and that is not held. -/
structure Created (hosts : List Text) (store : Store) (router : Nat) (key : Text) (after : Store) :
    Prop where
  without : hasTunnel store router = false
  issued : ∃ address row peers source,
    allocateTunnelIp hosts (listOccupiedTunnelIps store.peers router ++
      listHubHeldTunnelIps store.ledger) = some address ∧
    Saved store.peers row peers ∧
    row.router = router ∧ row.publicKey = key ∧ row.tunnelIpAddress = .host address ∧
    after = (store.choose router address).record peers router key (.host address) source
      .neverRegistered

theorem saved_either {peers after : List Peer} {row : Peer}
    (stored : (if (getPeerByRouterId peers row.router).isSome then updatePeer peers row
      else createPeer peers row) = some after) : Saved peers row after := by
  cases found : getPeerByRouterId peers row.router with
  | none =>
      rw [found] at stored
      exact createPeer_saved found stored
  | some existing =>
      rw [found] at stored
      obtain ⟨member, own⟩ := getPeerByRouterId_some found
      exact updatePeer_saved member own stored

theorem createTunnel_ok {bridge : Bridge} {hosts : List Text} {store after : Store} {router : Nat}
    {external : Option Text} {generated : Text}
    (returned : createTunnel bridge hosts store router external generated = .ok after) :
    Created hosts store router (external.getD generated) after := by
  unfold createTunnel at returned
  dsimp only at returned
  split at returned
  · cases returned
  · rename_i without
    unfold allocateAndPersist at returned
    split at returned
    · cases returned
    · dsimp only at returned
      split at returned
      · cases returned
      · rename_i address chosen
        split at returned
        · cases returned
        · rename_i peers stored
          cases returned
          have saved : Saved store.peers
              ⟨router, .host address, external.getD generated, .pending, _, none⟩ peers :=
            saved_either stored
          exact ⟨Bool.eq_false_iff.mpr without, address, _, peers, _, chosen, saved, rfl, rfl, rfl,
            rfl⟩

theorem createTunnel_error {bridge : Bridge} {hosts : List Text} {store : Store} {router : Nat}
    {external : Option Text} {generated : Text} {hub : List HubPeer}
    (raised : createTunnel bridge hosts store router external generated = .error hub) :
    hub = store.hub := by
  unfold createTunnel at raised
  dsimp only at raised
  split at raised
  · cases raised
    rfl
  · unfold allocateAndPersist at raised
    split at raised
    · cases raised
      rfl
    · dsimp only at raised
      split at raised
      · cases raised
        rfl
      · split at raised <;> cases raised
        rfl

/-- A removal that could not be asked for was passed over, or there was none to ask for, or it
was answered. -/
inductive Passed (bridge : Bridge) (store : Store) (previous key : Text) : Store → Prop where
  | spared (none : previous = [] ∨ previous = key) : Passed bridge store previous key store
  | swallowed (unreachable : bridge.canRemovePeer = true ∧ bridge.answer previous = .unreachable) :
      Passed bridge store previous key store
  | retired {after : Store} (other : previous ≠ key) (retired : Retired store previous after) :
      Passed bridge store previous key after

theorem passed_getD {bridge : Bridge} {store : Store} {previous key : Text} :
    Passed bridge store previous key
      (if previous ≠ [] ∧ previous ≠ key then (deregisterFromHub bridge store previous).getD store
        else store) := by
  split
  · rename_i other
    cases done : deregisterFromHub bridge store previous with
    | none =>
        exact .swallowed (Bridge.removal_none.mp (Option.map_eq_none_iff.mp done))
    | some after => exact .retired other.2 (deregisterFromHub_retired done)
  · rename_i kept
    apply Passed.spared
    by_cases named : previous = []
    · exact .inl named
    · exact .inr (by simpa [named] using kept)

theorem Passed.hub_sublist {bridge : Bridge} {store after : Store} {previous key : Text}
    (passed : Passed bridge store previous key after) : after.hub.Sublist store.hub := by
  cases passed with
  | spared => exact List.Sublist.refl _
  | swallowed => exact List.Sublist.refl _
  | retired _ retired => exact retired.hub_sublist

theorem Passed.peers {bridge : Bridge} {store after : Store} {previous key : Text}
    (passed : Passed bridge store previous key after) : after.peers = store.peers := by
  cases passed with
  | spared => rfl
  | swallowed => rfl
  | retired _ retired => exact retired.peers

theorem Passed.identities {bridge : Bridge} {store after : Store} {previous key : Text}
    (passed : Passed bridge store previous key after) :
    Wireguard.identities after.ledger = Wireguard.identities store.ledger := by
  cases passed with
  | spared => rfl
  | swallowed => rfl
  | retired _ retired => exact retired.identities

theorem Passed.clashes {bridge : Bridge} {store after : Store} {previous key : Text}
    (passed : Passed bridge store previous key after) : after.clashes = store.clashes := by
  cases passed with
  | spared => rfl
  | swallowed => rfl
  | retired _ retired => exact retired.clashes

/-- `register_agent_allocated_peer` has written the row and told nobody. -/
structure Registered (bridge : Bridge) (store : Store) (router : Nat) (address key : Text)
    (after : Store) : Prop where
  vacant : .host address ∉ listOccupiedTunnelIps store.peers router
  issued : ∃ row peers passed,
    Saved store.peers row peers ∧
    row.router = router ∧ row.publicKey = key ∧ row.tunnelIpAddress = .host address ∧
    (getPeerByRouterId store.peers router = none ∧ passed = store ∨
      ∃ existing, getPeerByRouterId store.peers router = some existing ∧
        Passed bridge store existing.publicKey key passed) ∧
    after = passed.record peers router key (.host address) .hubAllocated .live

theorem registerAgentAllocatedPeer_ok {bridge : Bridge} {store after : Store} {router : Nat}
    {address key : Text}
    (returned : registerAgentAllocatedPeer bridge store router address key = .ok after) :
    Registered bridge store router address key after := by
  unfold registerAgentAllocatedPeer at returned
  split at returned
  · cases returned
  · rename_i vacant
    refine ⟨vacant, ?_⟩
    dsimp only at returned
    split at returned
    · rename_i absent
      split at returned
      · cases returned
      · rename_i peers stored
        cases returned
        exact ⟨_, peers, store, createPeer_saved absent stored, rfl, rfl, rfl, .inl ⟨absent, rfl⟩, rfl⟩
    · rename_i existing found
      have passed : Passed bridge store existing.publicKey key _ := passed_getD
      split at returned
      · cases returned
      · rename_i peers stored
        cases returned
        obtain ⟨member, own⟩ := getPeerByRouterId_some found
        rw [passed.peers] at stored
        refine ⟨_, peers, _, updatePeer_saved member own stored, rfl, rfl, rfl,
          .inr ⟨existing, found, passed⟩, ?_⟩
        -- Both addresses that are compared are the new one.
        unfold Store.notifyAddressChanged
        rw [if_neg (by simp)]
        rfl

theorem registerAgentAllocatedPeer_error {bridge : Bridge} {store : Store} {router : Nat}
    {address key : Text} {hub : List HubPeer}
    (raised : registerAgentAllocatedPeer bridge store router address key = .error hub) :
    hub.Sublist store.hub := by
  unfold registerAgentAllocatedPeer at raised
  split at raised
  · cases raised
    exact List.Sublist.refl _
  · dsimp only at raised
    split at raised
    · split at raised
      · cases raised
        exact List.Sublist.refl _
      · cases raised
    · rename_i existing found
      have passed : Passed bridge store existing.publicKey key _ := passed_getD
      split at raised
      · cases raised
        exact passed.hub_sublist
      · cases raised

structure Rotated (bridge : Bridge) (store : Store) (router : Nat) (generated : Text)
    (after : Store) : Prop where
  issued : ∃ peer row peers, peer ∈ store.peers ∧ peer.router = router ∧ peer.isRevoked = false ∧
    Saved store.peers row peers ∧
    row.router = router ∧ row.publicKey = generated ∧ row.tunnelIpAddress = peer.tunnelIpAddress ∧
    Passed bridge
      (store.record peers router generated peer.tunnelIpAddress .platformGenerated .neverRegistered)
      peer.publicKey generated after

theorem rotateTunnel_ok {bridge : Bridge} {store after : Store} {router : Nat} {generated : Text}
    (returned : rotateTunnel bridge store router generated = .ok after) :
    Rotated bridge store router generated after := by
  unfold rotateTunnel at returned
  split at returned
  · cases returned
  · rename_i peer found
    obtain ⟨member, own⟩ := getPeerByRouterId_some found
    split at returned
    · cases returned
    · rename_i allowed
      dsimp only at returned
      split at returned
      · cases returned
      · rename_i peers stored
        cases returned
        have saved := updatePeer_saved member (by rfl) stored
        exact ⟨peer, _, peers, member, own, by simpa using fun revoked => allowed (.inl revoked), saved,
          own, rfl, rfl, passed_getD⟩

theorem rotateTunnel_error {bridge : Bridge} {store : Store} {router : Nat} {generated : Text}
    {hub : List HubPeer} (raised : rotateTunnel bridge store router generated = .error hub) :
    hub = store.hub := by
  unfold rotateTunnel at raised
  split at raised
  · cases raised
    rfl
  · split at raised
    · cases raised
      rfl
    · dsimp only at raised
      split at raised <;> cases raised
      rfl

structure Revoked (store : Store) (router : Nat) (after : Store) : Prop where
  issued : ∃ peer row peers deregistered, peer ∈ store.peers ∧ peer.router = router ∧
    peer.isRevoked = false ∧ Saved store.peers row peers ∧ row.router = router ∧
    row.publicKey = peer.publicKey ∧ row.isRevoked = true ∧
    Retired store peer.publicKey deregistered ∧ after = { deregistered with peers }

theorem revokeTunnel_ok {bridge : Bridge} {store after : Store} {router : Nat}
    (returned : revokeTunnel bridge store router = .ok after) : Revoked store router after := by
  unfold revokeTunnel at returned
  split at returned
  · cases returned
  · rename_i peer found
    obtain ⟨member, own⟩ := getPeerByRouterId_some found
    split at returned
    · cases returned
    · rename_i standing
      split at returned
      · cases returned
      · rename_i deregistered done
        have retired := deregisterFromHub_retired done
        dsimp only at returned
        split at returned
        · cases returned
        · rename_i peers stored
          cases returned
          rw [retired.peers] at stored
          have saved := updatePeer_saved member (by rfl) stored
          exact ⟨peer, _, peers, deregistered, member, own, by simpa using standing, saved, own, rfl,
            rfl, retired, rfl⟩

theorem revokeTunnel_error {bridge : Bridge} {store : Store} {router : Nat} {hub : List HubPeer}
    (raised : revokeTunnel bridge store router = .error hub) : hub.Sublist store.hub := by
  unfold revokeTunnel at raised
  split at raised
  · cases raised
    exact List.Sublist.refl _
  · split at raised
    · cases raised
      exact List.Sublist.refl _
    · split at raised
      · cases raised
        exact List.Sublist.refl _
      · rename_i deregistered done
        dsimp only at raised
        split at raised <;> cases raised
        exact (deregisterFromHub_retired done).hub_sublist

/-! ### Operations that adopt -/

structure Adopting (bridge : Bridge) (store : Store) (router : Nat) (key : Text) (after : Store) :
    Prop where
  applied : ∃ hubPeer peer source, hubPeer ∈ store.hub ∧ hubPeer.publicKey = key ∧
    peer ∈ store.peers ∧ peer.router = router ∧
    applyAdoption bridge store.hub store peer key (adoptedIp hubPeer peer) hubPeer.lastHandshake
      source = .adopted after

theorem outcome_ok {store after : Store} {adoption : Adoption}
    (returned : adoption.outcome store = .ok after) : adoption = .adopted after := by
  cases adoption with
  | duplicate => cases returned
  | unreachable => cases returned
  | adopted result =>
      cases returned
      rfl

theorem outcome_error {store : Store} {adoption : Adoption} {hub : List HubPeer}
    (raised : adoption.outcome store = .error hub) : hub = store.hub := by
  cases adoption <;> cases raised <;> rfl

theorem find_hubPeer {hub : List HubPeer} {key : Text} {hubPeer : HubPeer}
    (found : hub.find? (·.publicKey = key) = some hubPeer) :
    hubPeer ∈ hub ∧ hubPeer.publicKey = key :=
  ⟨List.mem_of_find?_eq_some found, by simpa using List.find?_some found⟩

theorem adoptHubPeer_ok {bridge : Bridge} {store after : Store} {router : Nat} {key : Text}
    {readable : Bool} (returned : adoptHubPeer bridge store router key readable = .ok after) :
    readable = true ∧ Adopting bridge store router key after := by
  unfold adoptHubPeer at returned
  split at returned
  · cases returned
  · rename_i answers
    refine ⟨by simpa using answers, ?_⟩
    split at returned
    · rename_i hubPeer peer hubFound found
      obtain ⟨held, own⟩ := find_hubPeer hubFound
      obtain ⟨member, here⟩ := getPeerByRouterId_some found
      split at returned
      · cases returned
      · exact ⟨hubPeer, peer, _, held, own, member, here, outcome_ok returned⟩
    · cases returned

theorem adoptHubPeer_error {bridge : Bridge} {store : Store} {router : Nat} {key : Text}
    {readable : Bool} {hub : List HubPeer}
    (raised : adoptHubPeer bridge store router key readable = .error hub) : hub = store.hub := by
  unfold adoptHubPeer at raised
  split at raised
  · cases raised
    rfl
  · split at raised
    · split at raised
      · cases raised
        rfl
      · exact outcome_error raised
    · cases raised
      rfl

inductive Ensured (bridge : Bridge) (hosts : List Text) (store : Store) (router : Nat)
    (external : Option Text) (generated : Text) : Store → Prop where
  | kept : Ensured bridge hosts store router external generated store
  | created {after : Store} (created : Created hosts store router (external.getD generated) after) :
      Ensured bridge hosts store router external generated after
  | adopted {after : Store} {key : Text} {existing : Peer}
      (found : getPeerByRouterId store.peers router = some existing) (other : key ≠ existing.publicKey)
      (adopting : Adopting bridge store router key after) :
      Ensured bridge hosts store router external generated after
  | rotated {after : Store} {existing : Peer}
      (found : getPeerByRouterId store.peers router = some existing)
      (absent : existing.publicKey ∉ store.hubKeys)
      (rotated : Rotated bridge store router generated after) :
      Ensured bridge hosts store router external generated after

theorem ensureTunnelForCheckIn_ok {bridge : Bridge} {hosts : List Text} {store after : Store}
    {router : Nat} {external : Option Text} {generated : Text} {readable : Bool}
    (returned : ensureTunnelForCheckIn bridge hosts store router external generated readable =
      .ok after) :
    Ensured bridge hosts store router external generated after := by
  unfold ensureTunnelForCheckIn at returned
  split at returned
  · exact .created (createTunnel_ok returned)
  · rename_i existing found
    split at returned
    · exact .created (createTunnel_ok returned)
    · split at returned
      · rename_i reported
        split at returned
        · cases returned
          exact .kept
        · rename_i other
          split at returned
          · cases returned
          · rename_i hubPeer hubFound
            split at returned
            · cases returned
            obtain ⟨held, own⟩ := find_hubPeer hubFound
            obtain ⟨member, here⟩ := getPeerByRouterId_some found
            exact .adopted found (fun same => other (.inl same))
              ⟨hubPeer, existing, _, held, own, member, here, outcome_ok returned⟩
      · split at returned
        · cases returned
          exact .kept
        · rename_i absent
          exact .rotated found (fun listed => absent (.inr listed)) (rotateTunnel_ok returned)

theorem ensureTunnelForCheckIn_error {bridge : Bridge} {hosts : List Text} {store : Store}
    {router : Nat} {external : Option Text} {generated : Text} {readable : Bool} {hub : List HubPeer}
    (raised : ensureTunnelForCheckIn bridge hosts store router external generated readable =
      .error hub) : hub = store.hub := by
  unfold ensureTunnelForCheckIn at raised
  split at raised
  · exact createTunnel_error raised
  · split at raised
    · exact createTunnel_error raised
    · split at raised
      · split at raised
        · cases raised
        · split at raised
          · cases raised
            rfl
          · split at raised
            · cases raised
              rfl
            · exact outcome_error raised
      · split at raised
        · cases raised
        · exact rotateTunnel_error raised

/-- `allocate_tunnel_via_hub` finds a live identity or a peer to use, and asks the hub for none. -/
def findsTunnel (store : Store) (router : Nat) (rotate force : Bool) (reads : Reads)
    (live : Option Text) : Bool :=
  !force && reads.live && live.isSome || !rotate && isUsable store router reads.usable

inductive Allocated (bridge : Bridge) (store : Store) (router : Nat) (rotate force : Bool)
    (reads : Reads) (live : Option Text) (minted : HubPeer) (address : Text) : Store → Prop where
  | kept : Allocated bridge store router rotate force reads live minted address store
  | adopted {after : Store} {key : Text} {existing : Peer}
      (found : getPeerByRouterId store.peers router = some existing) (other : key ≠ existing.publicKey)
      (adopting : Adopting bridge store router key after) :
      Allocated bridge store router rotate force reads live minted address after
  | registered {after : Store} (asked : findsTunnel store router rotate force reads live = false)
      (registered : Registered bridge { store with hub := store.hub ++ [minted] } router address
        minted.publicKey after) :
      Allocated bridge store router rotate force reads live minted address after

theorem allocateTunnelViaHub_ok {bridge : Bridge} {store after : Store} {router : Nat}
    {rotate force : Bool} {reads : Reads} {live : Option Text} {minted : HubPeer} {address : Text}
    (returned : allocateTunnelViaHub bridge store router rotate force reads live minted address =
      .ok after) :
    Allocated bridge store router rotate force reads live minted address after := by
  unfold allocateTunnelViaHub at returned
  split at returned
  · cases returned
  split at returned
  · rename_i key chosen
    split at returned
    · cases returned
    · rename_i peer found
      split at returned
      · cases returned
        exact .kept
      · rename_i other
        exact .adopted found (fun same => other same.symm) (adoptHubPeer_ok returned).2
  · rename_i chosen
    split at returned
    · cases returned
      exact .kept
    · rename_i unusable
      refine .registered ?_ (registerAgentAllocatedPeer_ok returned)
      have asked : (!force && reads.live && live.isSome) = false := by
        split at chosen
        · simp [chosen]
        · rename_i closed
          cases force <;> simp at closed ⊢
          simp [closed]
      rw [findsTunnel, asked]
      cases rotate <;> simp at unusable ⊢
      exact unusable

theorem allocateTunnelViaHub_error {bridge : Bridge} {store : Store} {router : Nat}
    {rotate force : Bool} {reads : Reads} {live : Option Text} {minted : HubPeer} {address : Text}
    {hub : List HubPeer}
    (raised : allocateTunnelViaHub bridge store router rotate force reads live minted address =
      .error hub) : hub.Sublist (store.hub ++ [minted]) := by
  unfold allocateTunnelViaHub at raised
  split at raised
  · cases raised
    exact List.sublist_append_left _ _
  split at raised
  · split at raised
    · cases raised
      exact List.sublist_append_left _ _
    · split at raised
      · cases raised
      · rw [adoptHubPeer_error raised]
        exact List.sublist_append_left _ _
  · split at raised
    · cases raised
    · exact registerAgentAllocatedPeer_error raised

/-! ### The hub -/

structure Distinct (hub : List HubPeer) : Prop where
  keys : (hub.map HubPeer.publicKey).Nodup
  named : [] ∉ hub.map HubPeer.publicKey

theorem Distinct.sublist {hub after : List HubPeer} (distinct : Distinct hub)
    (fewer : after.Sublist hub) : Distinct after :=
  ⟨distinct.keys.sublist (fewer.map _), fun listed => distinct.named ((fewer.map _).subset listed)⟩

theorem Distinct.concat {hub : List HubPeer} (distinct : Distinct hub) {hubPeer : HubPeer}
    (named : hubPeer.publicKey ≠ []) (fresh : hubPeer.publicKey ∉ hub.map HubPeer.publicKey) :
    Distinct (hub ++ [hubPeer]) := by
  constructor
  · rw [List.map_append, List.map_singleton, List.nodup_append]
    refine ⟨distinct.keys, List.nodup_singleton _, ?_⟩
    intro key listed other last
    obtain rfl := List.mem_singleton.mp last
    exact fun same => fresh (same ▸ listed)
  · rw [List.map_append, List.map_singleton]
    intro listed
    rcases List.mem_append.mp listed with earlier | last
    · exact distinct.named earlier
    · exact named (List.mem_singleton.mp last).symm

theorem Distinct.same_key {hub : List HubPeer} (distinct : Distinct hub) {hubPeer other : HubPeer}
    (held : hubPeer ∈ hub) (otherHeld : other ∈ hub)
    (same : hubPeer.publicKey = other.publicKey) : hubPeer = other :=
  List.inj_on_of_nodup_map distinct.keys held otherHeld same

def Operation.hub (store : Store) : Operation → List HubPeer
  | .allocateTunnelViaHub _ _ _ _ _ _ _ minted _ => store.hub ++ [minted]
  | .mintPeer minted _ => store.hub ++ [minted]
  | .enroll publicKey _ allowedIps =>
      store.hub.filter (·.publicKey ≠ publicKey) ++
        [⟨publicKey, allowedIps,
          ((store.hub.find? (·.publicKey = publicKey)).map HubPeer.latestHandshakeEpoch).getD 0⟩]
  | .handshake publicKey epoch =>
      store.hub.map fun hubPeer =>
        if hubPeer.publicKey = publicKey then { hubPeer with latestHandshakeEpoch := epoch }
        else hubPeer
  | _ => store.hub

theorem Registered.hub_sublist {bridge : Bridge} {store after : Store} {router : Nat}
    {address key : Text} (registered : Registered bridge store router address key after) :
    after.hub.Sublist store.hub := by
  obtain ⟨row, peers, passed, -, -, -, -, previous, rfl⟩ := registered.issued
  rcases previous with ⟨-, rfl⟩ | ⟨existing, -, settled⟩
  · exact List.Sublist.refl _
  · exact settled.hub_sublist

theorem Rotated.hub_sublist {bridge : Bridge} {store after : Store} {router : Nat} {generated : Text}
    (rotated : Rotated bridge store router generated after) : after.hub.Sublist store.hub := by
  obtain ⟨_, _, _, -, -, -, -, -, -, -, passed⟩ := rotated.issued
  exact passed.hub_sublist

theorem Created.hub_eq {hosts : List Text} {store after : Store} {router : Nat} {key : Text}
    (created : Created hosts store router key after) : after.hub = store.hub := by
  obtain ⟨_, _, _, _, -, -, -, -, -, rfl⟩ := created.issued
  rfl

theorem Adopting.rewritten {bridge : Bridge} {store after : Store} {router : Nat} {key : Text}
    (adopting : Adopting bridge store router key after) :
    ∃ hubPeer ∈ store.hub, hubPeer.publicKey = key ∧ ∃ peer ∈ store.peers, peer.router = router ∧
      Rewritten store (peer.adopt key (adoptedIp hubPeer peer) hubPeer.lastHandshake) after := by
  obtain ⟨hubPeer, peer, source, held, own, member, here, applied⟩ := adopting.applied
  exact ⟨hubPeer, held, own, peer, member, here,
    rewritten_adopted member (List.Subset.refl _) applied⟩

theorem Adopting.hub_sublist {bridge : Bridge} {store after : Store} {router : Nat} {key : Text}
    (adopting : Adopting bridge store router key after) : after.hub.Sublist store.hub := by
  obtain ⟨_, -, -, _, -, -, written⟩ := adopting.rewritten
  exact written.hub

theorem getFleetStatus_hub {bridge : Bridge} {read : FleetRead}
    (constrained : Constrained read.before.peers) (distinct : Distinct read.before.hub) {pass : Pass}
    (returned : getFleetStatus bridge read = .ok pass) :
    pass.store.hub.Sublist read.before.hub := by
  refine fleet_induction (fun store => store.hub.Sublist read.before.hub) constrained distinct.keys
    (List.Sublist.refl _) ?_ returned
  intro done hubPeer store after listed underway held change
  exact (underway.change change).hub

theorem getFleetStatus_ok {bridge : Bridge} {read : FleetRead} {after : Store}
    (outcome : (getFleetStatus bridge read).map Pass.store = .ok after) :
    ∃ pass, getFleetStatus bridge read = .ok pass ∧ pass.store = after := by
  cases returned : getFleetStatus bridge read with
  | ok pass =>
      rw [returned] at outcome
      cases outcome
      exact ⟨pass, rfl, rfl⟩
  | error hub =>
      rw [returned] at outcome
      cases outcome

theorem getFleetStatus_raised {bridge : Bridge} {read : FleetRead} {hub : List HubPeer}
    (outcome : (getFleetStatus bridge read).map Pass.store = .error hub) :
    getFleetStatus bridge read = .error hub := by
  cases returned : getFleetStatus bridge read with
  | ok pass =>
      rw [returned] at outcome
      cases outcome
  | error left =>
      rw [returned] at outcome
      cases outcome
      rfl

theorem perform_hub {bridge : Bridge} {hosts : List Text} {store : Store} (operation : Operation)
    (constrained : Constrained store.peers) (distinct : Distinct store.hub) :
    (store.settle (perform bridge hosts store operation)).hub.Sublist (operation.hub store) := by
  cases outcome : perform bridge hosts store operation with
  | error hub =>
      cases operation with
      | createTunnel => exact (createTunnel_error outcome) ▸ List.Sublist.refl _
      | ensureTunnelForCheckIn => exact (ensureTunnelForCheckIn_error outcome) ▸ List.Sublist.refl _
      | allocateTunnelViaHub => exact allocateTunnelViaHub_error outcome
      | registerAgentAllocatedPeer => exact registerAgentAllocatedPeer_error outcome
      | rotateTunnel => exact (rotateTunnel_error outcome) ▸ List.Sublist.refl _
      | revokeTunnel => exact revokeTunnel_error outcome
      | adoptHubPeer => exact (adoptHubPeer_error outcome) ▸ List.Sublist.refl _
      | getFleetStatus =>
          exact getFleetStatus_error constrained distinct.keys (getFleetStatus_raised outcome)
      | mintPeer => cases outcome
      | enroll => cases outcome
      | handshake => cases outcome
  | ok after =>
      cases operation with
      | createTunnel => exact (createTunnel_ok outcome).hub_eq ▸ List.Sublist.refl _
      | ensureTunnelForCheckIn =>
          cases ensureTunnelForCheckIn_ok outcome with
          | kept => exact List.Sublist.refl _
          | created created => exact created.hub_eq ▸ List.Sublist.refl _
          | adopted found other adopting => exact adopting.hub_sublist
          | rotated found absent rotated => exact rotated.hub_sublist
      | allocateTunnelViaHub =>
          cases allocateTunnelViaHub_ok outcome with
          | kept => exact List.sublist_append_left _ _
          | adopted found other adopting =>
              exact adopting.hub_sublist.trans (List.sublist_append_left _ _)
          | registered asked registered => exact registered.hub_sublist
      | registerAgentAllocatedPeer => exact (registerAgentAllocatedPeer_ok outcome).hub_sublist
      | rotateTunnel => exact (rotateTunnel_ok outcome).hub_sublist
      | revokeTunnel =>
          obtain ⟨_, _, _, _, -, -, -, -, -, -, -, retired, rfl⟩ := (revokeTunnel_ok outcome).issued
          exact retired.hub_sublist
      | adoptHubPeer => exact (adoptHubPeer_ok outcome).2.hub_sublist
      | getFleetStatus =>
          obtain ⟨pass, returned, rfl⟩ := getFleetStatus_ok outcome
          exact getFleetStatus_hub constrained distinct returned
      | mintPeer =>
          cases outcome
          exact List.Sublist.refl _
      | enroll =>
          cases outcome
          exact List.Sublist.refl _
      | handshake =>
          cases outcome
          exact List.Sublist.refl _

theorem isFresh_apart {store : Store} {key : Text} (fresh : isFresh store key = true) :
    key ≠ [] ∧ key ∉ store.hubKeys ∧ key ∉ keysOf store.ledger ∧ key ∉ store.peers.map Peer.publicKey := by
  simp only [isFresh, Bool.and_eq_true, decide_eq_true_eq] at fresh
  exact ⟨fresh.1.1.1, fresh.1.1.2, fresh.1.2, fresh.2⟩

theorem isFresh_other {store : Store} {key : Text} (fresh : isFresh store key = true) (router : Nat) :
    ∀ peer ∈ store.peers, peer.router = router → peer.publicKey ≠ key := by
  intro peer member _ same
  exact (isFresh_apart fresh).2.2.2 (List.mem_map.mpr ⟨peer, member, same⟩)

theorem isMint_apart {store : Store} {minted : HubPeer} {address : Text}
    (mint : isMint store minted address = true) :
    isFresh store minted.publicKey = true ∧ hubAddress minted = some address := by
  simp only [isMint, Bool.and_eq_true, decide_eq_true_eq] at mint
  exact mint.1

theorem Distinct.operation {store : Store} (distinct : Distinct store.hub) {operation : Operation}
    (possible : isPossible store operation = true) : Distinct (operation.hub store) := by
  cases operation with
  | allocateTunnelViaHub router rotate force reads now stale live minted address =>
      have mint : isMint store minted address = true := (Bool.and_eq_true_iff.mp possible).2
      obtain ⟨named, absent, -⟩ := isFresh_apart (isMint_apart mint).1
      exact distinct.concat named absent
  | mintPeer minted address =>
      obtain ⟨named, absent, -⟩ := isFresh_apart (isMint_apart possible).1
      exact distinct.concat named absent
  | enroll key address allowedIps =>
      simp only [isPossible, Bool.and_eq_true, decide_eq_true_eq] at possible
      exact (distinct.sublist List.filter_sublist).concat possible.1.1
        (not_mem_removed store.hub key)
  | handshake key epoch =>
      have same : (Operation.hub store (.handshake key epoch)).map HubPeer.publicKey = store.hubKeys := by
        rw [Operation.hub, List.map_map]
        apply List.map_congr_left
        intro hubPeer _
        simp only [Function.comp_apply]
        split <;> rfl
      exact ⟨same ▸ distinct.keys, same ▸ distinct.named⟩
  | _ => exact distinct

end CloudGuest.Wireguard
