import CloudGuest.Wireguard.Outcomes

/-!
The quarantine of tunnel addresses. An address that the hub still routes for a key of
another router is not to be given away: either a row has it, or an issuance of the key
with that address is believed to be on the hub.

The belief is written on the most recent issuance of a key, and only when the hub has
answered. A removal that could not be asked for is passed over and leaves the old key
on the hub under an address that nothing keeps, although "a missed promotion can only
ever be conservative" (`_supersede_current_issuance`). So does a key that is on the hub
under another address than the one it is recorded with.
-/

namespace CloudGuest.Wireguard
open Texts Rows Runs

def Issuance.isHeldAt (key address : Text) (issuance : Issuance) : Bool :=
  issuance.publicKey = key && issuance.tunnelIpAddress = .host address && issuance.hubLifecycle.isHeld

def isQuarantined (ledger : List Issuance) (key address : Text) : Bool :=
  ledger.any (·.isHeldAt key address)

def isRecorded (peers : List Peer) (key address : Text) : Bool :=
  peers.any fun peer => !peer.isRevoked && peer.publicKey = key && peer.tunnelIpAddress = .host address

/-! ### What the ledger keeps -/

theorem isQuarantined_mem {ledger : List Issuance} {key address : Text} :
    isQuarantined ledger key address = true ↔
      ∃ issuance ∈ ledger, issuance.publicKey = key ∧ issuance.tunnelIpAddress = .host address ∧
        issuance.hubLifecycle.isHeld = true := by
  simp [isQuarantined, Issuance.isHeldAt, and_assoc]

theorem isRecorded_mem {peers : List Peer} {key address : Text} :
    isRecorded peers key address = true ↔
      ∃ peer ∈ peers, peer.isRevoked = false ∧ peer.publicKey = key ∧
        peer.tunnelIpAddress = .host address := by
  simp [isRecorded, and_assoc]

theorem isQuarantined_record {ledger : List Issuance} {key address : Text}
    (held : isQuarantined ledger key address = true) (router : Nat) (other : Text) (ip : TunnelIp)
    (source : PeerIdentitySource) (lifecycle : HubPeerLifecycle) :
    isQuarantined (recordIssuance ledger router other ip source lifecycle) key address = true := by
  obtain ⟨issuance, member, own, there, live⟩ := isQuarantined_mem.mp held
  have kept := supersedeFor_identity issuance router other
  refine isQuarantined_mem.mpr ⟨issuance.supersedeFor router other, ?_, ?_, ?_, ?_⟩
  · exact List.mem_append_left _ (List.mem_map.mpr ⟨issuance, member, rfl⟩)
  · rw [supersedeFor_publicKey, own]
  · exact (congrArg (·.2.2) kept).trans there
  · rw [supersedeFor_hubLifecycle, live]

theorem isQuarantined_recorded (ledger : List Issuance) (router : Nat) (key address : Text)
    (source : PeerIdentitySource) {lifecycle : HubPeerLifecycle} (live : lifecycle.isHeld = true) :
    isQuarantined (recordIssuance ledger router key (.host address) source lifecycle) key address =
      true :=
  isQuarantined_mem.mpr ⟨_, List.mem_append_right _ (List.mem_singleton_self _), rfl, rfl, live⟩

theorem isQuarantined_correct {ledger : List Issuance} {key address : Text}
    (held : isQuarantined ledger key address = true) (seen : Text) :
    isQuarantined (correctLedger ledger seen) key address = true := by
  obtain ⟨issuance, member, own, there, live⟩ := isQuarantined_mem.mp held
  -- An issuance that is held is not changed by an observation.
  have unchanged : issuance.observed = issuance := by
    unfold Issuance.observed
    rw [if_neg]
    rintro never
    rw [never] at live
    cases live
  apply isQuarantined_mem.mpr
  rcases changeNewest_of_mem seen Issuance.observed member with stays | ⟨-, changed⟩
  · exact ⟨issuance, stays, own, there, live⟩
  · rw [unchanged] at changed
    exact ⟨issuance, changed, own, there, live⟩

theorem isQuarantined_write {ledger : List Issuance} {key address : Text}
    (held : isQuarantined ledger key address = true) {written : Text} {lifecycle : HubPeerLifecycle}
    (safe : lifecycle.isHeld = true ∨ key ≠ written) :
    isQuarantined (writeLifecycle ledger written lifecycle) key address = true := by
  obtain ⟨issuance, member, own, there, live⟩ := isQuarantined_mem.mp held
  apply isQuarantined_mem.mpr
  rcases changeNewest_of_mem written
    (fun issuance : Issuance => { issuance with hubLifecycle := lifecycle }) member with stays | ⟨same, changed⟩
  · exact ⟨issuance, stays, own, there, live⟩
  · rcases safe with safe | apart
    · exact ⟨_, changed, own, there, safe⟩
    · exact absurd (own.symm.trans same) apart

theorem isQuarantined_latest {ledger : List Issuance} {key address : Text} {router : Nat}
    (latest : latestIdentity ledger key = some (router, key, .host address))
    {lifecycle : HubPeerLifecycle} (live : lifecycle.isHeld = true) :
    isQuarantined (writeLifecycle ledger key lifecycle) key address = true := by
  obtain ⟨place, issuance, found, stored, own, identity⟩ := latestIdentity_some latest
  apply isQuarantined_mem.mpr
  refine ⟨_, changeNewest_newest (fun issuance : Issuance =>
    { issuance with hubLifecycle := lifecycle }) found stored, own, ?_, live⟩
  exact congrArg (·.2.2) identity

/-! ### The invariant -/

/-- What the hub routes for a key that was issued is quarantined, or a tunnel has it; and what was
last issued under a tunnel's key is its address. -/
structure Accounted (store : Store) : Prop where
  constrained : Constrained store.peers
  distinct : Distinct store.hub
  covered : ∀ hubPeer ∈ store.hub, ∀ address, hubAddress hubPeer = some address →
    hubPeer.publicKey ∈ keysOf store.ledger →
    isQuarantined store.ledger hubPeer.publicKey address = true ∨
      isRecorded store.peers hubPeer.publicKey address = true
  latest : ∀ peer ∈ store.peers, peer.isRevoked = false → ∃ router,
    latestIdentity store.ledger peer.publicKey = some (router, peer.publicKey, peer.tunnelIpAddress)
  unclashed : store.clashes = []

def isSheltered (store : Store) (key : Text) : Bool :=
  store.hub.all fun hubPeer => hubPeer.publicKey ≠ key ||
    (hubAddress hubPeer).all fun address => isQuarantined store.ledger key address

theorem isSheltered_iff {store : Store} {key : Text} :
    isSheltered store key = true ↔ ∀ hubPeer ∈ store.hub, hubPeer.publicKey = key →
      ∀ address, hubAddress hubPeer = some address → isQuarantined store.ledger key address = true := by
  simp only [isSheltered, List.all_eq_true, Bool.or_eq_true, decide_eq_true_eq]
  constructor
  · intro each hubPeer held own address there
    rcases each hubPeer held with other | kept
    · exact absurd own other
    · rw [there] at kept
      exact kept
  · intro each hubPeer held
    by_cases own : hubPeer.publicKey = key
    · right
      cases there : hubAddress hubPeer with
      | none => rfl
      | some address => exact each hubPeer held own address there
    · exact .inl own

/-- The hub has lost nothing else than peers, and what it has left is still quarantined. -/
structure Keeps (store after : Store) : Prop where
  hub : after.hub.Sublist store.hub
  held : ∀ hubPeer ∈ after.hub, ∀ address,
    isQuarantined store.ledger hubPeer.publicKey address = true →
      isQuarantined after.ledger hubPeer.publicKey address = true

theorem Keeps.refl (store : Store) : Keeps store store :=
  ⟨List.Sublist.refl _, fun _ _ _ held => held⟩

theorem Keeps.trans {store middle after : Store} (first : Keeps store middle)
    (second : Keeps middle after) : Keeps store after :=
  ⟨second.hub.trans first.hub, fun hubPeer member address held =>
    second.held hubPeer member address (first.held hubPeer (second.hub.subset member) address held)⟩

theorem Keeps.record (store : Store) (peers : List Peer) (router : Nat) (key : Text) (ip : TunnelIp)
    (source : PeerIdentitySource) (lifecycle : HubPeerLifecycle) :
    Keeps store (store.record peers router key ip source lifecycle) :=
  ⟨List.Sublist.refl _, fun _ _ _ held => isQuarantined_record held _ _ _ _ _⟩

theorem Retired.keeps {store after : Store} {key : Text} (retired : Retired store key after) :
    Keeps store after := by
  obtain ⟨lifecycle, written, safe⟩ := retired.ledger
  refine ⟨retired.hub_sublist, ?_⟩
  intro hubPeer member address held
  rw [written]
  apply isQuarantined_write held
  rcases safe with live | absent
  · exact .inl live
  · right
    rintro rfl
    exact absent (List.mem_map.mpr ⟨hubPeer, member, rfl⟩)

theorem Passed.keeps {bridge : Bridge} {store after : Store} {previous key : Text}
    (passed : Passed bridge store previous key after) : Keeps store after := by
  cases passed with
  | spared => exact .refl _
  | swallowed => exact .refl _
  | retired _ retired => exact retired.keeps

theorem Keeps.sheltered {store after : Store} (keeps : Keeps store after) {key : Text}
    (sheltered : isSheltered store key = true) : isSheltered after key = true := by
  rw [isSheltered_iff] at sheltered ⊢
  rintro hubPeer member rfl address there
  exact keeps.held hubPeer member address
    (sheltered hubPeer (keeps.hub.subset member) rfl address there)

theorem Retired.sheltered {store after : Store} {key : Text} (retired : Retired store key after)
    (each : ∀ hubPeer ∈ store.hub, hubPeer.publicKey = key → ∀ address,
      hubAddress hubPeer = some address → isQuarantined store.ledger key address = true ∨
        ∃ router, latestIdentity store.ledger key = some (router, key, .host address)) :
    isSheltered after key = true := by
  rw [isSheltered_iff]
  rintro hubPeer member rfl address there
  rcases each hubPeer (retired.hub_sublist.subset member) rfl address there with held | ⟨router, latest⟩
  · exact retired.keeps.held hubPeer member address held
  · obtain ⟨lifecycle, written, safe⟩ := retired.ledger
    rw [written]
    rcases safe with live | absent
    · exact isQuarantined_latest latest live
    · exact absurd (List.mem_map.mpr ⟨hubPeer, member, rfl⟩) absent

theorem Accounted.tunnel {store : Store} (accounted : Accounted store) {peer : Peer}
    (member : peer ∈ store.peers) (standing : peer.isRevoked = false) :
    ∀ hubPeer ∈ store.hub, hubPeer.publicKey = peer.publicKey → ∀ address,
      hubAddress hubPeer = some address → isQuarantined store.ledger peer.publicKey address = true ∨
        ∃ router, latestIdentity store.ledger peer.publicKey =
          some (router, peer.publicKey, .host address) := by
  intro hubPeer held own address there
  obtain ⟨router, latest⟩ := accounted.latest peer member standing
  have issued : hubPeer.publicKey ∈ keysOf store.ledger := by
    obtain ⟨place, issuance, -, stored, same, -⟩ := latestIdentity_some latest
    exact List.mem_map.mpr ⟨issuance, List.mem_of_getElem? stored, same.trans own.symm⟩
  rw [← own]
  rcases accounted.covered hubPeer held address there issued with kept | recorded
  · exact .inl kept
  · obtain ⟨other, listed, -, key, ip⟩ := isRecorded_mem.mp recorded
    have same : other = peer := accounted.constrained.same_key listed member (key.trans own)
    rw [own, latest, ← ip, same]
    exact .inr ⟨router, rfl⟩

theorem Accounted.issued {store after : Store} {row : Peer} (accounted : Accounted store)
    (saved : Saved store.peers row after.peers) (keeps : Keeps store after)
    (ledger : identities after.ledger =
      identities store.ledger ++ [(row.router, row.publicKey, row.tunnelIpAddress)])
    (clashes : after.clashes = [])
    (previous : ∀ peer ∈ store.peers, peer.router = row.router → peer.isRevoked = false →
      peer.publicKey ≠ row.publicKey → isSheltered after peer.publicKey = true)
    (own : ∀ hubPeer ∈ after.hub, hubPeer.publicKey = row.publicKey → ∀ address,
      hubAddress hubPeer = some address → isQuarantined after.ledger row.publicKey address = true ∨
        row.isRevoked = false ∧ row.tunnelIpAddress = .host address) : Accounted after := by
  -- A row is saved and its identity issued. The key that the router had is off the hub or
  -- quarantined, and so is the new one unless the row has its address.
  constructor
  · exact saved.constrained accounted.constrained
  · exact accounted.distinct.sublist keeps.hub
  · intro hubPeer member address there issued
    by_cases same : hubPeer.publicKey = row.publicKey
    · rcases own hubPeer member same address there with held | ⟨standing, ip⟩
      · exact .inl (same ▸ held)
      · exact .inr (isRecorded_mem.mpr ⟨row, saved.stored, standing, same.symm, ip⟩)
    · -- The key was issued before.
      have earlier : hubPeer.publicKey ∈ keysOf store.ledger := by
        rw [keysOf_identities, ledger, List.map_append] at issued
        rw [keysOf_identities]
        rcases List.mem_append.mp issued with listed | last
        · exact listed
        · exact absurd (List.mem_singleton.mp last) same
      rcases accounted.covered hubPeer (keeps.hub.subset member) address there earlier with
        held | recorded
      · exact .inl (keeps.held hubPeer member address held)
      · obtain ⟨peer, listed, standing, key, ip⟩ := isRecorded_mem.mp recorded
        by_cases here : peer.router = row.router
        · have sheltered := previous peer listed here standing (key ▸ same)
          exact .inl (key ▸ isSheltered_iff.mp sheltered hubPeer member key.symm address there)
        · exact .inr (isRecorded_mem.mpr ⟨peer, saved.others peer listed here, standing, key, ip⟩)
  · intro peer stored standing
    rcases saved.origin peer stored with rfl | ⟨held, elsewhere⟩
    · exact ⟨_, latestIdentity_concat ledger⟩
    · obtain ⟨router, latest⟩ := accounted.latest peer held standing
      refine ⟨router, ?_⟩
      rw [latestIdentity_append ledger, latest]
      simpa using (saved.apart peer held elsewhere).1
  · exact clashes

theorem Accounted.fewer {store after : Store} (accounted : Accounted store)
    (peers : after.peers = store.peers) (ledger : after.ledger = store.ledger)
    (clashes : after.clashes = store.clashes) (hub : after.hub.Sublist store.hub) :
    Accounted after := by
  constructor
  · rw [peers]
    exact accounted.constrained
  · exact accounted.distinct.sublist hub
  · rw [peers, ledger]
    intro hubPeer member
    exact accounted.covered hubPeer (hub.subset member)
  · rw [peers, ledger]
    exact accounted.latest
  · rw [clashes]
    exact accounted.unclashed

/-! ### Operations -/

theorem allocateTunnelIp_free {hosts : List Text} {occupied : List TunnelIp} {address : Text}
    (chosen : allocateTunnelIp hosts occupied = some address) : .host address ∉ occupied := by
  have free := List.find?_some chosen
  simpa using free

theorem Accounted.isClash_false {store : Store} (accounted : Accounted store) {router : Nat}
    {address : Text} (without : hasTunnel store router = false)
    (free : .host address ∉ listOccupiedTunnelIps store.peers router ++
      listHubHeldTunnelIps store.ledger) : isClash store router address = false := by
  rw [List.mem_append, not_or] at free
  obtain ⟨unoccupied, released⟩ := free
  by_contra clash
  simp only [isClash, Bool.not_eq_false, List.any_eq_true, Bool.and_eq_true, decide_eq_true_eq] at clash
  obtain ⟨hubPeer, held, there, issuance, listed, same, -⟩ := clash
  have issued : hubPeer.publicKey ∈ keysOf store.ledger := List.mem_map.mpr ⟨issuance, listed, same⟩
  rcases accounted.covered hubPeer held address there issued with kept | recorded
  · obtain ⟨row, member, -, ip, live⟩ := isQuarantined_mem.mp kept
    exact released (List.mem_map.mpr ⟨row, List.mem_filter.mpr ⟨member, live⟩, ip⟩)
  · obtain ⟨peer, member, standing, -, ip⟩ := isRecorded_mem.mp recorded
    by_cases here : peer.router = router
    · have gone := hasTunnel_false without accounted.constrained member here
      rw [gone] at standing
      cases standing
    · refine unoccupied (List.mem_map.mpr ⟨peer, List.mem_filter.mpr ⟨member, ?_⟩, ip⟩)
      simp [standing, here]

theorem Accounted.created {hosts : List Text} {store after : Store} {router : Nat} {key : Text}
    (accounted : Accounted store) (created : Created hosts store router key after)
    (sheltered : isSheltered store key = true) : Accounted after := by
  obtain ⟨address, row, peers, source, chosen, saved, rfl, rfl, ip, rfl⟩ := created.issued
  have clash := accounted.isClash_false created.without (allocateTunnelIp_free chosen)
  have keeps : Keeps store ((store.choose row.router address).record peers row.router row.publicKey
      (.host address) source .neverRegistered) :=
    ⟨List.Sublist.refl _, fun _ _ _ held => isQuarantined_record held _ _ _ _ _⟩
  apply accounted.issued saved keeps
  · simp [Store.record, Store.choose, ip]
  · simpa [Store.record, Store.choose, clash] using accounted.unclashed
  · intro peer member here standing
    rw [hasTunnel_false created.without accounted.constrained member here] at standing
    cases standing
  · intro hubPeer member own address there
    exact .inl (isSheltered_iff.mp (keeps.sheltered sheltered) hubPeer member own address there)

theorem not_held_unnamed {hub : List HubPeer} (distinct : Distinct hub) {hubPeer : HubPeer}
    (member : hubPeer ∈ hub) : hubPeer.publicKey ≠ [] := by
  intro unnamed
  exact distinct.named (List.mem_map.mpr ⟨hubPeer, member, unnamed⟩)

def isLost (bridge : Bridge) (key : Text) : Bool :=
  bridge.canRemovePeer && bridge.answer key = .unreachable

theorem isLost_iff {bridge : Bridge} {key : Text} :
    isLost bridge key = true ↔ bridge.canRemovePeer = true ∧ bridge.answer key = .unreachable := by
  simp [isLost]

theorem Passed.sheltered {bridge : Bridge} {store after : Store} {previous key : Text}
    (passed : Passed bridge store previous key after) (distinct : Distinct store.hub)
    (other : previous ≠ key)
    (each : ∀ hubPeer ∈ store.hub, hubPeer.publicKey = previous → ∀ address,
      hubAddress hubPeer = some address → isQuarantined store.ledger previous address = true ∨
        ∃ router, latestIdentity store.ledger previous = some (router, previous, .host address))
    (safe : isLost bridge previous = true → isSheltered store previous = true) :
    isSheltered after previous = true := by
  cases passed with
  | spared none =>
      rcases none with unnamed | same
      · rw [isSheltered_iff]
        intro hubPeer member own
        exact absurd (own.trans unnamed) (not_held_unnamed distinct member)
      · exact absurd same other
  | swallowed unreachable => exact safe (isLost_iff.mpr unreachable)
  | retired _ retired => exact retired.sheltered each

theorem Accounted.registered {bridge : Bridge} {store after : Store} {router : Nat} {address key : Text}
    (accounted : Accounted store) (registered : Registered bridge store router address key after)
    (previous : ∀ peer ∈ store.peers, peer.router = router → peer.isRevoked = false →
      peer.publicKey ≠ key → isLost bridge peer.publicKey = true →
        isSheltered store peer.publicKey = true)
    (here : ∀ hubPeer ∈ store.hub, hubPeer.publicKey = key → ∀ other, hubAddress hubPeer = some other →
      other = address ∨ isQuarantined store.ledger key other = true) : Accounted after := by
  obtain ⟨row, peers, passed, saved, rfl, rfl, ip, ending, rfl⟩ := registered.issued
  have early : Keeps store passed := by
    rcases ending with ⟨-, rfl⟩ | ⟨existing, -, settled⟩
    · exact .refl _
    · exact settled.keeps
  have keeps := early.trans (.record passed peers row.router row.publicKey (.host address) .hubAllocated .live)
  have ledger : identities passed.ledger = identities store.ledger := by
    rcases ending with ⟨-, rfl⟩ | ⟨existing, -, settled⟩
    · rfl
    · exact settled.identities
  have clashes : passed.clashes = store.clashes := by
    rcases ending with ⟨-, rfl⟩ | ⟨existing, -, settled⟩
    · rfl
    · exact settled.clashes
  apply accounted.issued saved keeps
  · simp [Store.record, ledger, ip]
  · exact clashes.trans accounted.unclashed
  · intro peer member own standing other
    rcases ending with ⟨absent, -⟩ | ⟨existing, found, settled⟩
    · exact absurd own (getPeerByRouterId_none absent peer member)
    · rw [← own, accounted.constrained.found member] at found
      cases found
      apply Keeps.sheltered (.record passed peers _ _ _ _ _)
      exact settled.sheltered accounted.distinct other (accounted.tunnel member standing)
        (previous peer member own standing other)
  · intro hubPeer member own other there
    left
    rcases here hubPeer (keeps.hub.subset member) own other there with rfl | held
    · exact isQuarantined_recorded _ _ _ _ _ rfl
    · have kept := keeps.held hubPeer member other (own.symm ▸ held)
      rwa [own] at kept

theorem Accounted.recorded_tunnel {store : Store} (accounted : Accounted store) {peer : Peer}
    (member : peer ∈ store.peers) (standing : peer.isRevoked = false) (peers : List Peer)
    {router : Nat} {key : Text} (other : peer.publicKey ≠ key) (ip : TunnelIp)
    (source : PeerIdentitySource) (lifecycle : HubPeerLifecycle) :
    ∀ hubPeer ∈ (store.record peers router key ip source lifecycle).hub,
      hubPeer.publicKey = peer.publicKey → ∀ address, hubAddress hubPeer = some address →
        isQuarantined (store.record peers router key ip source lifecycle).ledger peer.publicKey address =
            true ∨
          ∃ owner, latestIdentity (store.record peers router key ip source lifecycle).ledger
            peer.publicKey = some (owner, peer.publicKey, .host address) := by
  -- The new issuance is of another key than the one that is settled after it.
  intro hubPeer held own address there
  rcases accounted.tunnel member standing hubPeer held own address there with kept | ⟨owner, latest⟩
  · exact .inl (isQuarantined_record kept _ _ _ _ _)
  · refine .inr ⟨owner, ?_⟩
    rw [← latest]
    exact latestIdentity_append (identities_recordIssuance _ _ _ _ _ _) (by simpa using other)

theorem Accounted.rotated {bridge : Bridge} {store after : Store} {router : Nat} {generated : Text}
    (accounted : Accounted store) (rotated : Rotated bridge store router generated after)
    (fresh : isFresh store generated = true)
    (previous : ∀ peer ∈ store.peers, peer.router = router → peer.isRevoked = false →
      isLost bridge peer.publicKey = true → isSheltered store peer.publicKey = true) :
    Accounted after := by
  obtain ⟨peer, row, peers, member, own, standing, saved, here, rfl, ip, passed⟩ := rotated.issued
  have recorded : Keeps store (store.record peers router row.publicKey peer.tunnelIpAddress
      .platformGenerated .neverRegistered) := .record _ _ _ _ _ _ _
  have other : peer.publicKey ≠ row.publicKey := isFresh_other fresh router peer member own
  have stored : after.peers = peers := passed.peers
  rw [← stored] at saved
  apply accounted.issued saved (recorded.trans passed.keeps)
  · rw [passed.identities, Store.record, identities_recordIssuance, here, ip]
  · exact passed.clashes.trans accounted.unclashed
  · intro old listed same stands _
    obtain rfl : old = peer :=
      accounted.constrained.same_router listed member (same.trans (here.trans own.symm))
    apply passed.sheltered accounted.distinct other
    · exact accounted.recorded_tunnel member standing peers other _ _ _
    · exact fun lost => recorded.sheltered (previous old member own standing lost)
  · -- Nobody has the new key yet.
    intro hubPeer held same
    have listed : row.publicKey ∈ store.hubKeys :=
      List.mem_map.mpr ⟨hubPeer, passed.hub_sublist.subset held, same⟩
    exact absurd listed (isFresh_apart fresh).2.1

theorem Accounted.revoked {store after : Store} {router : Nat} (accounted : Accounted store)
    (revoked : Revoked store router after) : Accounted after := by
  obtain ⟨peer, row, peers, mid, member, own, standing, saved, here, key, gone, retired, rfl⟩ :=
    revoked.issued
  have sheltered := retired.sheltered (accounted.tunnel member standing)
  constructor
  · exact saved.constrained accounted.constrained
  · exact accounted.distinct.sublist retired.hub_sublist
  · intro hubPeer held address there issued
    have earlier : hubPeer.publicKey ∈ keysOf store.ledger := by
      rw [keysOf_identities, retired.identities] at issued
      rwa [keysOf_identities]
    rcases accounted.covered hubPeer (retired.hub_sublist.subset held) address there earlier with
      kept | recorded
    · exact .inl (retired.keeps.held hubPeer held address kept)
    · obtain ⟨other, listed, stands, same, ip⟩ := isRecorded_mem.mp recorded
      by_cases mine : other.router = row.router
      · obtain rfl : other = peer :=
          accounted.constrained.same_router listed member (mine.trans (here.trans own.symm))
        exact .inl (same ▸ isSheltered_iff.mp sheltered hubPeer held same.symm address there)
      · exact .inr (isRecorded_mem.mpr ⟨other, saved.others other listed mine, stands, same, ip⟩)
  · intro other stored stands
    rcases saved.origin other stored with rfl | ⟨held, -⟩
    · rw [gone] at stands
      cases stands
    · obtain ⟨owner, latest⟩ := accounted.latest other held stands
      exact ⟨owner, (latestIdentity_congr retired.identities _).trans latest⟩
  · exact retired.clashes.trans accounted.unclashed

theorem isQuarantined_adopted {hub : List HubPeer} (distinct : Distinct hub) {hubPeer other : HubPeer}
    (held : hubPeer ∈ hub) (otherHeld : other ∈ hub) (same : other.publicKey = hubPeer.publicKey)
    {address : Text} (there : hubAddress other = some address) (peer : Peer) (ledger : List Issuance)
    (router : Nat) (source : PeerIdentitySource) :
    isQuarantined (recordIssuance ledger router hubPeer.publicKey (adoptedIp hubPeer peer) source .live)
      hubPeer.publicKey address = true := by
  rw [distinct.same_key otherHeld held same] at there
  rw [adoptedIp, there]
  exact isQuarantined_recorded _ _ _ _ _ rfl

theorem Accounted.adopted {bridge : Bridge} {hubPeers : List HubPeer} {store after : Store}
    {hubPeer : HubPeer} {peer : Peer} {source : PeerIdentitySource} (accounted : Accounted store)
    (member : peer ∈ store.peers) (held : hubPeer ∈ hubPeers) (distinct : Distinct hubPeers)
    (listed : store.hub.Sublist hubPeers)
    (applied : applyAdoption bridge hubPeers store peer hubPeer.publicKey (adoptedIp hubPeer peer)
      hubPeer.lastHandshake source = .adopted after) : Accounted after ∧ Keeps store after := by
  have keys : store.hubKeys ⊆ hubPeers.map HubPeer.publicKey := (listed.map _).subset
  have written := rewritten_adopted member keys applied
  obtain ⟨peers, settled, -, ending, rfl⟩ := applyAdoption_adopted member keys applied
  have recorded : Keeps store (store.record peers peer.router hubPeer.publicKey
      (adoptedIp hubPeer peer) source .live) := .record _ _ _ _ _ _ _
  have keeps : Keeps (store.record peers peer.router hubPeer.publicKey (adoptedIp hubPeer peer) source
      .live) settled := by
    rcases ending with ⟨-, rfl⟩ | ⟨-, retired⟩
    · exact .refl _
    · exact retired.keeps
  have clashes : settled.clashes = store.clashes := by
    rcases ending with ⟨-, rfl⟩ | ⟨-, retired⟩
    · rfl
    · exact retired.clashes
  have told := notifyAddressChanged_tables settled peer.router peer.tunnelIpAddress
    (adoptedIp hubPeer peer)
  have whole : Keeps store (settled.notifyAddressChanged peer.router peer.tunnelIpAddress
      (adoptedIp hubPeer peer)) := by
    constructor
    · rw [told.2.2.1]
      exact (recorded.trans keeps).hub
    · rw [told.2.1, told.2.2.1]
      exact (recorded.trans keeps).held
  refine ⟨?_, whole⟩
  apply accounted.issued written.saved whole written.ledger
  · rw [told.2.2.2, clashes, accounted.unclashed]
  · intro old stored same stands other
    obtain rfl : old = peer := accounted.constrained.same_router stored member same
    have sheltered : isSheltered settled old.publicKey = true := by
      rcases ending with ⟨none, rfl⟩ | ⟨-, retired⟩
      · rcases none with unnamed | same
        · rw [isSheltered_iff]
          intro hubPeer there own
          exact absurd (own.trans unnamed) (not_held_unnamed accounted.distinct there)
        · exact absurd same other
      · exact retired.sheltered (accounted.recorded_tunnel member stands peers other _ _ _)
    rw [isSheltered, told.2.1, told.2.2.1]
    exact sheltered
  · intro other there same address address_there
    rw [told.2.2.1] at there
    rw [told.2.1]
    left
    have issued := isQuarantined_adopted distinct held
      (listed.subset ((recorded.trans keeps).hub.subset there)) same address_there peer store.ledger
      peer.router source
    have kept := keeps.held other there address (same.symm ▸ issued)
    exact same ▸ kept

theorem Accounted.adopting {bridge : Bridge} {store after : Store} {router : Nat} {key : Text}
    (accounted : Accounted store) (adopting : Adopting bridge store router key after) :
    Accounted after := by
  obtain ⟨hubPeer, peer, source, held, rfl, member, rfl, applied⟩ := adopting.applied
  exact (accounted.adopted member held accounted.distinct (List.Sublist.refl _) applied).1

/-! ### The pass over the fleet -/

/-- A row that the pass would adopt a hub peer for can be moved off its key. -/
def passShelters (bridge : Bridge) (read : FleetRead) : Bool :=
  !read.adopt || read.before.hub.all fun hubPeer =>
    read.before.peers.all fun row =>
      !read.isAdoptable hubPeer row || !isLost bridge row.publicKey ||
        isSheltered read.before row.publicKey

theorem passShelters_row {bridge : Bridge} {read : FleetRead}
    (shelters : passShelters bridge read = true) (adopting : read.adopt = true) {hubPeer : HubPeer}
    (listed : hubPeer ∈ read.before.hub) {row : Peer} (stored : row ∈ read.before.peers)
    (adoptable : read.isAdoptable hubPeer row = true) (lost : isLost bridge row.publicKey = true) :
    isSheltered read.before row.publicKey = true := by
  simp only [passShelters, adopting, Bool.not_true, Bool.false_or, List.all_eq_true] at shelters
  have each := shelters hubPeer listed row stored
  simpa [adoptable, lost] using each

/-- While a pass is under way, what sheltered a key shelters it until its row is rewritten. -/
structure Shelters (read : FleetRead) (store : Store) : Prop where
  accounted : Accounted store
  unseen : ∀ row ∈ store.peers, row.lastHandshakeAt = none →
    isSheltered read.before row.publicKey = true → isSheltered store row.publicKey = true

theorem Accounted.reconciled {store : Store} (accounted : Accounted store) (router : Nat)
    (hubPeer : HubPeer) : Accounted (store.reconciled router hubPeer) := by
  constructor
  · exact accounted.constrained.reconciled router hubPeer
  · exact accounted.distinct
  · intro other held address there issued
    rcases accounted.covered other held address there issued with kept | recorded
    · exact .inl kept
    · obtain ⟨peer, member, standing, key, ip⟩ := isRecorded_mem.mp recorded
      refine .inr (isRecorded_mem.mpr ⟨_, List.mem_map.mpr ⟨peer, member, rfl⟩, ?_⟩)
      obtain ⟨-, sameKey, sameIp, sameRevoked, -⟩ := reconcile_kept peer hubPeer.lastHandshake
      split
      · exact ⟨sameRevoked.trans standing, sameKey.trans key, sameIp.trans ip⟩
      · exact ⟨standing, key, ip⟩
  · intro peer stored standing
    obtain ⟨old, held, -, key, ip, revoked, -⟩ := reconciled_row stored
    rw [key, ip]
    exact accounted.latest old held (revoked.symm.trans standing)
  · exact accounted.unclashed

theorem Accounted.corrected {store : Store} (accounted : Accounted store) (hubPeer : HubPeer) :
    Accounted (store.corrected hubPeer) := by
  constructor
  · exact accounted.constrained
  · exact accounted.distinct
  · intro other held address there issued
    have earlier : other.publicKey ∈ keysOf store.ledger := by
      rw [keysOf_identities, Store.corrected, identities_correctLedger] at issued
      rwa [keysOf_identities]
    rcases accounted.covered other held address there earlier with kept | recorded
    · exact .inl (isQuarantined_correct kept _)
    · exact .inr recorded
  · intro peer stored standing
    obtain ⟨owner, latest⟩ := accounted.latest peer stored standing
    exact ⟨owner, (latestIdentity_congr (identities_correctLedger _ _) _).trans latest⟩
  · exact accounted.unclashed

theorem Keeps.corrected (store : Store) (hubPeer : HubPeer) : Keeps store (store.corrected hubPeer) :=
  ⟨List.Sublist.refl _, fun _ _ _ held => isQuarantined_correct held _⟩

theorem Shelters.rewritten {read : FleetRead} {store after : Store} {hubPeer : HubPeer} {peer : Peer}
    (shelters : Shelters read store) (attempt : Attempt read hubPeer store peer)
    (accounted : Accounted after) (keeps : Keeps store after)
    (saved : Saved store.peers
      (peer.adopt hubPeer.publicKey (adoptedIp hubPeer peer) hubPeer.lastHandshake) after.peers) :
    Shelters read after := by
  -- The row that an adoption rewrites has been seen: the rows that have not are as before.
  refine ⟨accounted, ?_⟩
  intro row stored unseen sheltered
  rcases saved.origin row stored with rfl | ⟨held, -⟩
  · exact absurd unseen (canAdopt_handshake (Bool.and_eq_true_iff.mp attempt.adoptable).2).2.2.2
  · exact keeps.sheltered (shelters.unseen row held unseen sheltered)

theorem fleet_accounted {bridge : Bridge} {read : FleetRead} (accounted : Accounted read.before)
    (shelters : passShelters bridge read = true) {pass : Pass}
    (returned : getFleetStatus bridge read = .ok pass) : Accounted pass.store := by
  have kept : Shelters read pass.store := by
    refine fleet_induction (Shelters read) accounted.constrained accounted.distinct.keys ?_ ?_
      returned
    · exact ⟨accounted, fun _ _ _ sheltered => sheltered⟩
    · intro done hubPeer store after listed underway kept change
      cases change with
      | seen => exact kept
      | reconciled router =>
          refine ⟨kept.accounted.reconciled router hubPeer, ?_⟩
          intro row stored unseen sheltered
          obtain ⟨old, held, -, -, -, -, same⟩ := reconciled_row stored
          obtain rfl := same unseen
          exact kept.unseen row held unseen sheltered
      | corrected =>
          refine ⟨kept.accounted.corrected hubPeer, ?_⟩
          intro row stored unseen sheltered
          exact (Keeps.corrected store hubPeer).sheltered (kept.unseen row stored unseen sheltered)
      | @adopted peer after attempt applied =>
          have member : peer ∈ (store.corrected hubPeer).peers := attempt.member
          have fewer : (store.corrected hubPeer).hub.Sublist read.before.hub := underway.hub
          have written := rewritten_adopted member ((fewer.map _).subset) applied
          obtain ⟨after, keeps⟩ := (kept.accounted.corrected hubPeer).adopted member listed
            accounted.distinct fewer applied
          exact kept.rewritten attempt after ((Keeps.corrected store hubPeer).trans keeps) written.saved
      | @interrupted peer after attempt applied =>
          have member : peer ∈ (store.corrected hubPeer).peers := attempt.member
          have written := rewritten_unreachable member applied
          obtain ⟨peers, saved, rfl, held, raises⟩ := applyAdoption_unreachable member applied
          have keeps : Keeps (store.corrected hubPeer) ((store.corrected hubPeer).record peers
              peer.router hubPeer.publicKey (adoptedIp hubPeer peer) .adopted .live) :=
            .record _ _ _ _ _ _ _
          have whole := (Keeps.corrected store hubPeer).trans keeps
          refine kept.rewritten attempt ?_ whole saved
          apply (kept.accounted.corrected hubPeer).issued saved keeps written.ledger
          · exact kept.accounted.unclashed
          · intro old stored same _ _
            obtain rfl : old = peer := kept.accounted.constrained.same_router stored member same
            have unseen := (canAdopt_handshake (Bool.and_eq_true_iff.mp attempt.adoptable).2).1
            exact whole.sheltered (kept.unseen old member unseen
              (passShelters_row shelters attempt.adopting listed attempt.before attempt.adoptable
                (isLost_iff.mpr raises)))
          · intro other there same address address_there
            exact .inl (isQuarantined_adopted accounted.distinct listed (underway.hub.subset there) same
              address_there peer _ _ _)
  exact kept.accounted

/-! ### Runs -/

/-- What the router's tunnel is moved off is sheltered, or its removal can be asked for. -/
def abandonsSafely (bridge : Bridge) (store : Store) (router : Nat) (key : Text) : Bool :=
  (getPeerByRouterId store.peers router).all fun peer =>
    peer.isRevoked || peer.publicKey = key || !isLost bridge peer.publicKey ||
      isSheltered store peer.publicKey

def isShelteredAt (store : Store) (key address : Text) : Bool :=
  store.hub.all fun hubPeer => hubPeer.publicKey ≠ key ||
    (hubAddress hubPeer).all fun other => other = address || isQuarantined store.ledger key other

/-- The request leaves no address on the hub that nothing keeps. -/
def keepsQuarantine (store : Store) (request : Request) : Bool :=
  match request.operation with
  | .createTunnel router external _ =>
      hasTunnel store router || external.all fun key => isSheltered store key
  | .ensureTunnelForCheckIn router external _ _ =>
      hasTunnel store router || external.all fun key => isSheltered store key
  | .allocateTunnelViaHub router rotate force reads _ _ live minted address =>
      findsTunnel store router rotate force reads live ||
        abandonsSafely request.bridge store router minted.publicKey ||
        .host address ∈ listOccupiedTunnelIps store.peers router
  | .registerAgentAllocatedPeer router address publicKey =>
      abandonsSafely request.bridge store router publicKey &&
          isShelteredAt store publicKey address ||
        .host address ∈ listOccupiedTunnelIps store.peers router
  | .rotateTunnel router generated => abandonsSafely request.bridge store router generated
  | .getFleetStatus now handshakeStaleAfter adopt =>
      passShelters request.bridge ⟨now, handshakeStaleAfter, adopt, store⟩
  | .enroll publicKey address _ =>
      isRecorded store.peers publicKey address || isQuarantined store.ledger publicKey address
  | _ => true

theorem abandonsSafely_row {bridge : Bridge} {store : Store} {router : Nat} {key : Text}
    (safely : abandonsSafely bridge store router key = true) (constrained : Constrained store.peers) :
    ∀ peer ∈ store.peers, peer.router = router → peer.isRevoked = false → peer.publicKey ≠ key →
      isLost bridge peer.publicKey = true → isSheltered store peer.publicKey = true := by
  rintro peer member rfl standing other lost
  rw [abandonsSafely, constrained.found member] at safely
  simpa [standing, other, lost] using safely

theorem isShelteredAt_row {store : Store} {key address : Text}
    (sheltered : isShelteredAt store key address = true) :
    ∀ hubPeer ∈ store.hub, hubPeer.publicKey = key → ∀ other, hubAddress hubPeer = some other →
      other = address ∨ isQuarantined store.ledger key other = true := by
  intro hubPeer held own other there
  have each := List.all_eq_true.mp sheltered hubPeer held
  simpa [own, there] using each

theorem isSheltered_absent {store : Store} {key : Text} (absent : key ∉ store.hubKeys) :
    isSheltered store key = true := by
  rw [isSheltered_iff]
  intro hubPeer held own
  exact absurd (List.mem_map.mpr ⟨hubPeer, held, own⟩) absent

theorem created_sheltered {hosts : List Text} {store after : Store} {router : Nat}
    {external : Option Text} {generated : Text}
    (created : Created hosts store router (external.getD generated) after)
    (fresh : external = none → isFresh store generated = true)
    (kept : (hasTunnel store router || external.all fun key => isSheltered store key) = true) :
    isSheltered store (external.getD generated) = true := by
  cases external with
  | none => exact isSheltered_absent (isFresh_apart (fresh rfl)).2.1
  | some key =>
      rw [created.without, Bool.false_or, Option.all_some] at kept
      exact kept

theorem Accounted.minted {store : Store} (accounted : Accounted store) {minted : HubPeer}
    (fresh : isFresh store minted.publicKey = true) :
    Accounted { store with hub := store.hub ++ [minted] } := by
  obtain ⟨named, absent, unissued, -⟩ := isFresh_apart fresh
  refine ⟨accounted.constrained, accounted.distinct.concat named absent, ?_, accounted.latest,
    accounted.unclashed⟩
  intro hubPeer held address there issued
  rcases List.mem_append.mp held with earlier | last
  · exact accounted.covered hubPeer earlier address there issued
  · obtain rfl := List.mem_singleton.mp last
    exact absurd issued unissued

theorem minted_sheltered {store : Store} {minted : HubPeer} {key : Text}
    (other : key ≠ minted.publicKey) (sheltered : isSheltered store key = true) :
    isSheltered { store with hub := store.hub ++ [minted] } key = true := by
  rw [isSheltered_iff] at sheltered ⊢
  intro hubPeer held own
  rcases List.mem_append.mp held with earlier | last
  · exact sheltered hubPeer earlier own
  · obtain rfl := List.mem_singleton.mp last
    exact absurd own.symm other

theorem Accounted.enrolled {store : Store} (accounted : Accounted store) {key address allowedIps : Text}
    (possible : isPossible store (.enroll key address allowedIps) = true)
    (kept : isRecorded store.peers key address = true ∨ isQuarantined store.ledger key address = true) :
    Accounted { store with hub := (Operation.enroll key address allowedIps).hub store } := by
  have distinct := accounted.distinct.operation possible
  refine ⟨accounted.constrained, distinct, ?_, accounted.latest, accounted.unclashed⟩
  intro hubPeer held other there issued
  rcases List.mem_append.mp held with earlier | last
  · exact accounted.covered hubPeer (List.mem_of_mem_filter earlier) other there issued
  · obtain rfl := List.mem_singleton.mp last
    simp only [isPossible, Bool.and_eq_true, decide_eq_true_eq] at possible
    obtain rfl : address = other := Option.some.inj (possible.1.2.symm.trans there)
    exact kept.symm

theorem Accounted.shaken {store : Store} (accounted : Accounted store) (key : Text) (epoch : Int) :
    Accounted { store with hub := (Operation.handshake key epoch).hub store } := by
  have distinct : Distinct ((Operation.handshake key epoch).hub store) :=
    accounted.distinct.operation rfl
  refine ⟨accounted.constrained, distinct, ?_, accounted.latest, accounted.unclashed⟩
  intro hubPeer held address there issued
  obtain ⟨old, earlier, became⟩ := List.mem_map.mp held
  have same : hubPeer.publicKey = old.publicKey ∧ hubAddress hubPeer = hubAddress old := by
    split at became <;> subst became <;> exact ⟨rfl, rfl⟩
  rw [same.1] at issued ⊢
  exact accounted.covered old earlier address (same.2 ▸ there) issued

theorem perform_accounted {bridge : Bridge} {hosts : List Text} {store : Store} {operation : Operation}
    (accounted : Accounted store) (possible : isPossible store operation = true)
    (kept : keepsQuarantine store ⟨operation, bridge⟩ = true) :
    Accounted (store.settle (perform bridge hosts store operation)) := by
  have fewer : (store.settle (perform bridge hosts store operation)).hub.Sublist _ :=
    perform_hub operation accounted.constrained accounted.distinct
  cases outcome : perform bridge hosts store operation with
  | error hub =>
      rw [outcome] at fewer
      cases operation with
      | allocateTunnelViaHub router rotate force reads now stale live minted address =>
          have fresh := (isMint_apart (Bool.and_eq_true_iff.mp possible).2).1
          exact (accounted.minted fresh).fewer rfl rfl rfl fewer
      | mintPeer => cases outcome
      | enroll => cases outcome
      | handshake => cases outcome
      | _ => exact accounted.fewer rfl rfl rfl fewer
  | ok after =>
      cases operation with
      | createTunnel router external generated =>
          have created := createTunnel_ok outcome
          apply accounted.created created
          apply created_sheltered created _ kept
          rintro rfl
          simpa [isPossible] using possible
      | ensureTunnelForCheckIn router external generated readable =>
          cases ensureTunnelForCheckIn_ok outcome with
          | kept => exact accounted
          | created created =>
              exact accounted.created created (created_sheltered created (fun _ => possible) kept)
          | adopted found other adopting => exact accounted.adopting adopting
          | rotated found absent rotated =>
              apply accounted.rotated rotated possible
              intro peer held own _ _
              rw [← own, accounted.constrained.found held] at found
              cases found
              exact isSheltered_absent absent
      | allocateTunnelViaHub router rotate force reads now stale live minted address =>
          cases allocateTunnelViaHub_ok outcome with
          | kept => exact accounted
          | adopted found other adopting => exact accounted.adopting adopting
          | registered asked registered =>
              obtain ⟨fresh, there⟩ := isMint_apart (Bool.and_eq_true_iff.mp possible).2
              have extended := accounted.minted fresh
              have vacant : .host address ∉ listOccupiedTunnelIps store.peers router := registered.vacant
              have safely : abandonsSafely bridge store router minted.publicKey = true := by
                simpa [keepsQuarantine, asked, vacant] using kept
              apply extended.registered registered
              · intro peer member own standing other lost
                exact minted_sheltered other
                  (abandonsSafely_row safely accounted.constrained peer member own standing other lost)
              · intro hubPeer held own other elsewhere
                have last : minted ∈ store.hub ++ [minted] := by simp
                rw [extended.distinct.same_key held last own, there] at elsewhere
                exact .inl (Option.some.inj elsewhere).symm
      | registerAgentAllocatedPeer router address key =>
          have registered := registerAgentAllocatedPeer_ok outcome
          have vacant := registered.vacant
          obtain ⟨safely, sheltered⟩ : abandonsSafely bridge store router key = true ∧
              isShelteredAt store key address = true := by
            simpa [keepsQuarantine, vacant] using kept
          exact accounted.registered registered (abandonsSafely_row safely accounted.constrained)
            (isShelteredAt_row sheltered)
      | rotateTunnel router generated =>
          apply accounted.rotated (rotateTunnel_ok outcome) possible
          intro peer member own standing
          exact abandonsSafely_row kept accounted.constrained peer member own standing
            (isFresh_other possible router peer member own)
      | revokeTunnel router => exact accounted.revoked (revokeTunnel_ok outcome)
      | adoptHubPeer router key readable => exact accounted.adopting (adoptHubPeer_ok outcome).2
      | getFleetStatus now stale adopt =>
          obtain ⟨pass, returned, rfl⟩ := getFleetStatus_ok outcome
          exact fleet_accounted accounted kept returned
      | mintPeer minted address =>
          cases outcome
          exact accounted.minted (isMint_apart possible).1
      | enroll key address allowedIps =>
          cases outcome
          exact accounted.enrolled possible (by simpa [keepsQuarantine] using kept)
      | handshake key epoch =>
          cases outcome
          exact accounted.shaken key epoch

theorem accounted_step {hosts : List Text} {world next : World} {request : Request}
    (accounted : Accounted world.store) (kept : keepsQuarantine world.store request = true)
    (stepped : step hosts world request = some next) : Accounted next.store := by
  unfold step at stepped
  dsimp only at stepped
  split at stepped
  · rename_i possible
    cases stepped
    have opening : Accounted { world.store with moves := [] } :=
      accounted.fewer rfl rfl rfl (List.Sublist.refl _)
    have keptThere : keepsQuarantine { world.store with moves := [] } request = true := by
      rw [← kept]
      unfold keepsQuarantine
      cases request.operation <;> rfl
    exact perform_accounted opening possible keptThere
  · cases stepped

/-- No address was given to a router that the hub routed for a key of another one, and no two
tunnels have one address. -/
structure Unshared (store : Store) : Prop where
  unclashed : store.clashes = []
  apart : ∀ peer ∈ store.peers, ∀ other ∈ store.peers, peer.isRevoked = false →
    other.isRevoked = false → peer.tunnelIpAddress = other.tunnelIpAddress → peer = other

/-- In every run of requests that leave no address on the hub that nothing keeps, whatever the hub
holds at first, answers or fails to answer. -/
theorem tunnel_addresses_unshared (hosts : List Text) (hub : Hub) (world : World)
    (reached : Reached (step hosts) (fun world request => keepsQuarantine world.store request = true)
      (World.started hub) world) : Unshared world.store := by
  have accounted : Accounted world.store := by
    apply reached.invariant fun world => Accounted world.store
    · refine ⟨⟨?_, ?_, ?_⟩, ⟨hub.distinct, hub.named⟩, ?_, ?_, rfl⟩ <;> simp [World.started, keysOf]
    · intro world request next earlier kept stepped
      exact accounted_step earlier kept stepped
  refine ⟨accounted.unclashed, ?_⟩
  intro peer member other otherMember _ _ same
  exact List.inj_on_of_nodup_map accounted.constrained.addresses member otherMember same

section Executed

/-- A tunnel whose device is on the hub is moved by an allocation that removes the old peer, and
another router gets the address that is free again. -/
theorem tunnel_addresses_unshared_moved :
    ∃ world, Reached (step smallNetwork)
        (fun world request => keepsQuarantine world.store request = true) (World.started emptyHub) world ∧
      world.store.peers.map Peer.tunnelIpAddress =
        [.host "10.20.0.3".toList, .host "10.20.0.2".toList] ∧
      Unshared world.store := by
  obtain ⟨world, reached, seen⟩ := run_observed (step smallNetwork) (World.started emptyHub)
    (fun world request => keepsQuarantine world.store request)
    (fun world => world.store.peers.map Peer.tunnelIpAddress =
      [.host "10.20.0.3".toList, .host "10.20.0.2".toList])
    (fun _ _ checked => checked)
    [⟨.createTunnel 0 (some "K0".toList) [], answering⟩,
      ⟨.enroll "K0".toList "10.20.0.2".toList "10.20.0.2/32".toList, answering⟩,
      ⟨.allocateTunnelViaHub 0 true true ⟨true, true, true⟩ 0 0 none
        ⟨"K1".toList, "10.20.0.3/32".toList, 0⟩ "10.20.0.3".toList, answering⟩,
      ⟨.createTunnel 1 (some "K2".toList) [], answering⟩] (by decide +kernel)
  exact ⟨world, reached, of_decide_eq_true seen, tunnel_addresses_unshared _ _ _ reached⟩

/-- The same run where the removal of the old peer cannot be asked for: the hub still routes the
address for the first router when the second one gets it. -/
theorem swallowed_removal_shares_address :
    ∃ world, Reached (step smallNetwork) (fun _ _ => True) (World.started emptyHub) world ∧
      ¬ Unshared world.store ∧ world.store.clashes = [(1, "10.20.0.2".toList)] ∧
      world.store.hub.map HubPeer.publicKey = ["K0".toList, "K1".toList] := by
  obtain ⟨world, reached, seen⟩ := run_observed (step smallNetwork) (World.started emptyHub)
    (fun _ _ => true)
    (fun world => world.store.clashes = [(1, "10.20.0.2".toList)] &&
      world.store.hub.map HubPeer.publicKey = ["K0".toList, "K1".toList])
    (fun _ _ _ => trivial)
    [⟨.createTunnel 0 (some "K0".toList) [], answering⟩,
      ⟨.enroll "K0".toList "10.20.0.2".toList "10.20.0.2/32".toList, answering⟩,
      ⟨.allocateTunnelViaHub 0 true true ⟨true, true, true⟩ 0 0 none
        ⟨"K1".toList, "10.20.0.3/32".toList, 0⟩ "10.20.0.3".toList, unreachable⟩,
      ⟨.createTunnel 1 (some "K2".toList) [], answering⟩] (by decide +kernel)
  simp only [Bool.and_eq_true, decide_eq_true_eq] at seen
  refine ⟨world, reached, ?_, seen⟩
  intro unshared
  have none := unshared.unclashed
  rw [seen.1] at none
  cases none

end Executed

end CloudGuest.Wireguard
