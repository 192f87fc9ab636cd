import CloudGuest.Wireguard.Operations

/-!
What the operations have in common: how a row is saved, what a ledger keeps when
an issuance is recorded or its lifecycle is written, and what a removal leaves of
the hub.
-/

namespace CloudGuest.Wireguard
open Texts Rows Runs

/-! ### Rows of routers -/

structure Constrained (peers : List Peer) : Prop where
  routers : (peers.map Peer.router).Nodup
  keys : (peers.map Peer.publicKey).Nodup
  addresses : (peers.map Peer.tunnelIpAddress).Nodup

theorem Constrained.same_router {peers : List Peer} (constrained : Constrained peers)
    {peer other : Peer} (member : peer ∈ peers) (otherMember : other ∈ peers)
    (same : peer.router = other.router) : peer = other :=
  List.inj_on_of_nodup_map constrained.routers member otherMember same

theorem Constrained.same_key {peers : List Peer} (constrained : Constrained peers)
    {peer other : Peer} (member : peer ∈ peers) (otherMember : other ∈ peers)
    (same : peer.publicKey = other.publicKey) : peer = other :=
  List.inj_on_of_nodup_map constrained.keys member otherMember same

theorem getPeerByRouterId_some {peers : List Peer} {router : Nat} {peer : Peer}
    (found : getPeerByRouterId peers router = some peer) : peer ∈ peers ∧ peer.router = router :=
  ⟨List.mem_of_find?_eq_some found, by simpa using List.find?_some found⟩

theorem getPeerByRouterId_none {peers : List Peer} {router : Nat}
    (absent : getPeerByRouterId peers router = none) : ∀ peer ∈ peers, peer.router ≠ router := by
  intro peer member
  simpa using List.find?_eq_none.mp absent peer member

theorem Constrained.found {peers : List Peer} (constrained : Constrained peers) {peer : Peer}
    (member : peer ∈ peers) : getPeerByRouterId peers peer.router = some peer := by
  cases found : getPeerByRouterId peers peer.router with
  | none => exact absurd rfl (getPeerByRouterId_none found peer member)
  | some other =>
      obtain ⟨otherMember, same⟩ := getPeerByRouterId_some found
      rw [constrained.same_router otherMember member same]

structure Saved (peers : List Peer) (saved : Peer) (after : List Peer) : Prop where
  others : ∀ peer ∈ peers, peer.router ≠ saved.router → peer ∈ after
  origin : ∀ peer ∈ after, peer = saved ∨ peer ∈ peers ∧ peer.router ≠ saved.router
  stored : saved ∈ after
  apart : ∀ other ∈ peers, other.router ≠ saved.router →
    other.publicKey ≠ saved.publicKey ∧ other.tunnelIpAddress ≠ saved.tunnelIpAddress
  constrained : Constrained peers → Constrained after

theorem isDuplicate_false {peers : List Peer} {saved : Peer}
    (unique : isDuplicate peers saved = false) : ∀ other ∈ peers, other.router ≠ saved.router →
      other.publicKey ≠ saved.publicKey ∧ other.tunnelIpAddress ≠ saved.tunnelIpAddress := by
  intro other member elsewhere
  have distinct := List.any_eq_false.mp unique other member
  simp [elsewhere] at distinct
  exact distinct

theorem nodup_updated {Seen : Type} {peers : List Peer} {saved : Peer}
    (routers : (peers.map Peer.router).Nodup) (column : Peer → Seen)
    (distinct : (peers.map column).Nodup)
    (foreign : ∀ other ∈ peers, other.router ≠ saved.router → column other ≠ column saved) :
    ((peers.map fun peer => if peer.router = saved.router then saved else peer).map column).Nodup := by
  rw [List.map_map]
  refine List.Nodup.map_on ?_ (List.Nodup.of_map _ routers)
  intro peer held other otherHeld agree
  simp only [Function.comp_apply] at agree
  split at agree
  · rename_i here
    split at agree
    · rename_i there
      exact List.inj_on_of_nodup_map routers held otherHeld (here.trans there.symm)
    · rename_i elsewhere
      exact absurd agree.symm (foreign other otherHeld elsewhere)
  · rename_i elsewhere
    split at agree
    · exact absurd agree (foreign peer held elsewhere)
    · exact List.inj_on_of_nodup_map distinct held otherHeld agree

theorem updatePeer_saved {peers after : List Peer} {old saved : Peer} (member : old ∈ peers)
    (same : old.router = saved.router) (updated : updatePeer peers saved = some after) :
    Saved peers saved after := by
  unfold updatePeer at updated
  split at updated
  · cases updated
  · rename_i unique
    have apart := isDuplicate_false (Bool.eq_false_iff.mpr unique)
    cases updated
    constructor
    · intro peer stored elsewhere
      exact List.mem_map.mpr ⟨peer, stored, by simp [elsewhere]⟩
    · intro peer stored
      obtain ⟨before, held, became⟩ := List.mem_map.mp stored
      split at became
      · exact .inl became.symm
      · rename_i elsewhere
        subst became
        exact .inr ⟨held, elsewhere⟩
    · exact List.mem_map.mpr ⟨old, member, by simp [same]⟩
    · exact apart
    · intro constrained
      constructor
      · exact nodup_updated constrained.routers Peer.router constrained.routers
          fun _ _ elsewhere => elsewhere
      · exact nodup_updated constrained.routers Peer.publicKey constrained.keys
          fun other held elsewhere => (apart other held elsewhere).1
      · exact nodup_updated constrained.routers Peer.tunnelIpAddress constrained.addresses
          fun other held elsewhere => (apart other held elsewhere).2

theorem createPeer_saved {peers after : List Peer} {saved : Peer}
    (absent : getPeerByRouterId peers saved.router = none)
    (created : createPeer peers saved = some after) : Saved peers saved after := by
  have elsewhere := getPeerByRouterId_none absent
  unfold createPeer at created
  split at created
  · cases created
  · rename_i unique
    have apart := isDuplicate_false (Bool.eq_false_iff.mpr unique)
    cases created
    constructor
    · intro peer stored _
      exact List.mem_append_left _ stored
    · intro peer stored
      rcases List.mem_append.mp stored with held | last
      · exact .inr ⟨held, elsewhere peer held⟩
      · exact .inl (List.mem_singleton.mp last)
    · exact List.mem_append_right _ (List.mem_singleton_self saved)
    · exact apart
    · intro constrained
      refine ⟨?_, ?_, ?_⟩ <;> rw [List.map_append, List.map_singleton, List.nodup_append]
      · refine ⟨constrained.routers, List.nodup_singleton _, ?_⟩
        intro router listed other last
        obtain ⟨peer, held, rfl⟩ := List.mem_map.mp listed
        obtain rfl := List.mem_singleton.mp last
        exact elsewhere peer held
      · refine ⟨constrained.keys, List.nodup_singleton _, ?_⟩
        intro key listed other last
        obtain ⟨peer, held, rfl⟩ := List.mem_map.mp listed
        obtain rfl := List.mem_singleton.mp last
        exact (apart peer held (elsewhere peer held)).1
      · refine ⟨constrained.addresses, List.nodup_singleton _, ?_⟩
        intro address listed other last
        obtain ⟨peer, held, rfl⟩ := List.mem_map.mp listed
        obtain rfl := List.mem_singleton.mp last
        exact (apart peer held (elsewhere peer held)).2

/-! ### The ledger -/

def Issuance.identity (issuance : Issuance) : Nat × Text × TunnelIp :=
  (issuance.router, issuance.publicKey, issuance.tunnelIpAddress)

def identities (ledger : List Issuance) : List (Nat × Text × TunnelIp) :=
  ledger.map Issuance.identity

def keysOf (ledger : List Issuance) : List Text := ledger.map Issuance.publicKey

theorem keysOf_identities (ledger : List Issuance) :
    keysOf ledger = (identities ledger).map (·.2.1) := by
  rw [identities, List.map_map]
  rfl

@[simp] theorem supersedeFor_identity (issuance : Issuance) (router : Nat) (replacedBy : Text) :
    (issuance.supersedeFor router replacedBy).identity = issuance.identity := by
  unfold Issuance.supersedeFor
  split <;> rfl

@[simp] theorem supersedeFor_hubLifecycle (issuance : Issuance) (router : Nat) (replacedBy : Text) :
    (issuance.supersedeFor router replacedBy).hubLifecycle = issuance.hubLifecycle := by
  unfold Issuance.supersedeFor
  split <;> rfl

@[simp] theorem supersedeFor_publicKey (issuance : Issuance) (router : Nat) (replacedBy : Text) :
    (issuance.supersedeFor router replacedBy).publicKey = issuance.publicKey :=
  congrArg (·.2.1) (supersedeFor_identity issuance router replacedBy)

@[simp] theorem observed_identity (issuance : Issuance) :
    issuance.observed.identity = issuance.identity := by
  unfold Issuance.observed
  split <;> rfl

@[simp] theorem identities_writeLifecycle (ledger : List Issuance) (key : Text)
    (lifecycle : HubPeerLifecycle) :
    identities (writeLifecycle ledger key lifecycle) = identities ledger := by
  apply changeNewest_map
  intro issuance
  rfl

@[simp] theorem identities_correctLedger (ledger : List Issuance) (key : Text) :
    identities (correctLedger ledger key) = identities ledger :=
  changeNewest_map Issuance.identity observed_identity key ledger

@[simp] theorem identities_recordIssuance (ledger : List Issuance) (router : Nat) (key : Text)
    (ip : TunnelIp) (source : PeerIdentitySource) (lifecycle : HubPeerLifecycle) :
    identities (recordIssuance ledger router key ip source lifecycle) =
      identities ledger ++ [(router, key, ip)] := by
  simp only [identities, recordIssuance, List.map_append, List.map_map, Function.comp_def,
    supersedeFor_identity, List.map_singleton]
  rfl

def latestIdentity (ledger : List Issuance) (key : Text) : Option (Nat × Text × TunnelIp) :=
  (getIssuanceByPublicKey ledger key).map Issuance.identity

theorem latestIdentity_eq (ledger : List Issuance) (key : Text) :
    latestIdentity ledger key =
      (lastIndex key ((identities ledger).map (·.2.1))).bind fun place => (identities ledger)[place]? := by
  rw [← keysOf_identities]
  unfold latestIdentity getIssuanceByPublicKey latestIssuance newest keysOf
  cases lastIndex key (ledger.map Issuance.publicKey) with
  | none => rfl
  | some place => simp [identities]

theorem latestIdentity_congr {ledger after : List Issuance} (same : identities after = identities ledger)
    (key : Text) : latestIdentity after key = latestIdentity ledger key := by
  rw [latestIdentity_eq, latestIdentity_eq, same]

theorem latestIdentity_append {ledger after : List Issuance} {added : List (Nat × Text × TunnelIp)}
    (grown : identities after = identities ledger ++ added) {key : Text}
    (others : key ∉ added.map (·.2.1)) : latestIdentity after key = latestIdentity ledger key := by
  rw [latestIdentity_eq, latestIdentity_eq, grown, List.map_append, lastIndex_append _ others]
  cases found : lastIndex key ((identities ledger).map (·.2.1)) with
  | none => rfl
  | some place =>
      have inside := (List.getElem?_eq_some_iff.mp (lastIndex_some found)).1
      rw [List.length_map] at inside
      exact List.getElem?_append_left inside

theorem latestIdentity_concat {ledger after : List Issuance} {router : Nat} {key : Text} {ip : TunnelIp}
    (grown : identities after = identities ledger ++ [(router, key, ip)]) :
    latestIdentity after key = some (router, key, ip) := by
  rw [latestIdentity_eq, grown, List.map_append, List.map_singleton, lastIndex_concat]
  simp

theorem latestIdentity_some {ledger : List Issuance} {key : Text} {identity : Nat × Text × TunnelIp}
    (latest : latestIdentity ledger key = some identity) :
    ∃ place issuance, latestIssuance ledger key = some place ∧ ledger[place]? = some issuance ∧
      issuance.publicKey = key ∧ issuance.identity = identity := by
  obtain ⟨issuance, found, same⟩ := Option.map_eq_some_iff.mp latest
  obtain ⟨place, newest, stored⟩ := Option.bind_eq_some_iff.mp found
  obtain ⟨row, held, own⟩ := newest_row newest
  obtain rfl : row = issuance := Option.some.inj (held.symm.trans stored)
  exact ⟨place, row, newest, stored, own, same⟩

/-! ### A key that leaves the hub -/

/-- The key is off the hub, or its most recent issuance is held. -/
structure Retired (store : Store) (key : Text) (after : Store) : Prop where
  peers : after.peers = store.peers
  moves : after.moves = store.moves
  clashes : after.clashes = store.clashes
  hub : after.hub = store.hub ∨ after.hub = store.hub.filter (·.publicKey ≠ key)
  ledger : ∃ lifecycle, after.ledger = writeLifecycle store.ledger key lifecycle ∧
    (lifecycle.isHeld = true ∨ key ∉ after.hubKeys)

theorem Bridge.removal_none {bridge : Bridge} {hubKeys : List Text} {key : Text} :
    bridge.removal hubKeys key = none ↔
      bridge.canRemovePeer = true ∧ bridge.answer key = .unreachable := by
  unfold Bridge.removal
  cases bridge.canRemovePeer with
  | false => simp
  | true =>
      cases bridge.answer key with
      | unreachable => simp
      | unsupported => simp
      | answered => simp; split <;> simp

theorem Bridge.removal_notPresent {bridge : Bridge} {hubKeys : List Text} {key : Text}
    (absent : bridge.removal hubKeys key = some .notPresent) : key ∉ hubKeys := by
  unfold Bridge.removal at absent
  split at absent
  · cases absent
  · split at absent
    · cases absent
    · cases absent
    · split at absent
      · cases absent
      · assumption

theorem not_mem_removed (hub : List HubPeer) (key : Text) :
    key ∉ (hub.filter (·.publicKey ≠ key)).map HubPeer.publicKey := by
  simp

theorem deregisterFromHub_retired {bridge : Bridge} {store after : Store} {key : Text}
    (done : deregisterFromHub bridge store key = some after) : Retired store key after := by
  obtain ⟨outcome, answered, rfl⟩ := Option.map_eq_some_iff.mp done
  refine ⟨rfl, rfl, rfl, ?_, outcome.lifecycle, rfl, ?_⟩
  · dsimp only
    split
    · exact .inr rfl
    · exact .inl rfl
  · cases outcome with
    | removed => exact .inr (not_mem_removed store.hub key)
    | notPresent => exact .inr (Bridge.removal_notPresent answered)
    | unsupported => exact .inl rfl

theorem settlePrevious_cases {bridge : Bridge} {hubPeers : List HubPeer} {store after : Store}
    {previous key : Text} (listed : store.hubKeys ⊆ hubPeers.map HubPeer.publicKey)
    (settled : settlePrevious bridge hubPeers store previous key = some after) :
    (previous = [] ∨ previous = key) ∧ after = store ∨
      previous ≠ key ∧ Retired store previous after := by
  unfold settlePrevious at settled
  split at settled
  · rename_i other
    split at settled
    · exact .inr ⟨other.2, deregisterFromHub_retired settled⟩
    · rename_i absent
      cases settled
      exact .inr ⟨other.2, rfl, rfl, rfl, .inl rfl, .neverRegistered, rfl,
        .inr fun held => absent (listed held)⟩
  · rename_i kept
    cases settled
    refine .inl ⟨?_, rfl⟩
    by_cases named : previous = []
    · exact .inl named
    · exact .inr (by simpa [named] using kept)

theorem Retired.hub_sublist {store after : Store} {key : Text} (retired : Retired store key after) :
    after.hub.Sublist store.hub := by
  rcases retired.hub with same | removed
  · rw [same]
  · rw [removed]
    exact List.filter_sublist

theorem Retired.identities {store after : Store} {key : Text} (retired : Retired store key after) :
    Wireguard.identities after.ledger = Wireguard.identities store.ledger := by
  obtain ⟨lifecycle, written, -⟩ := retired.ledger
  rw [written, identities_writeLifecycle]

end CloudGuest.Wireguard
