import CloudGuest.Wireguard.Outcomes

/-!
Address moves. When a router's tunnel changes its address, the listener that keeps
the RADIUS client in step is called, and the ledger has one issuance of the router
that is not superseded: what the row says.

This holds in every run but for three things. `register_agent_allocated_peer` compares
the addresses after the row has been written, so a move by it is never told. An
adoption in a pass over the fleet whose previous key cannot be removed keeps the new row
and skips the call. And an identity is issued again under the key that the row has
already without superseding its last issuance, which leaves two.
-/

namespace CloudGuest.Wireguard
open Texts Rows Runs

/-! ### What is current -/

def Issuance.isCurrent (router : Nat) (issuance : Issuance) : Bool :=
  issuance.router = router && !issuance.superseded

def currentIdentities (ledger : List Issuance) (router : Nat) : List (Text × TunnelIp) :=
  (ledger.filter (·.isCurrent router)).map fun issuance =>
    (issuance.publicKey, issuance.tunnelIpAddress)

def Issuance.standing (issuance : Issuance) : (Nat × Text × TunnelIp) × Bool :=
  (issuance.identity, issuance.superseded)

theorem currentIdentities_standing (ledger : List Issuance) (router : Nat) :
    currentIdentities ledger router =
      ((ledger.map Issuance.standing).filter fun standing =>
        standing.1.1 = router && !standing.2).map fun standing => standing.1.2 := by
  rw [List.filter_map, List.map_map]
  rfl

@[simp] theorem currentIdentities_writeLifecycle (ledger : List Issuance) (key : Text)
    (lifecycle : HubPeerLifecycle) (router : Nat) :
    currentIdentities (writeLifecycle ledger key lifecycle) router =
      currentIdentities ledger router := by
  have same : (writeLifecycle ledger key lifecycle).map Issuance.standing =
      ledger.map Issuance.standing := by
    apply changeNewest_map
    intro issuance
    rfl
  rw [currentIdentities_standing, currentIdentities_standing, same]

@[simp] theorem currentIdentities_correctLedger (ledger : List Issuance) (key : Text) (router : Nat) :
    currentIdentities (correctLedger ledger key) router = currentIdentities ledger router := by
  have same : (correctLedger ledger key).map Issuance.standing = ledger.map Issuance.standing := by
    apply changeNewest_map
    intro issuance
    unfold Issuance.observed
    split <;> rfl
  rw [currentIdentities_standing, currentIdentities_standing, same]

theorem currentIdentities_append (ledger added : List Issuance) (router : Nat) :
    currentIdentities (ledger ++ added) router =
      currentIdentities ledger router ++ currentIdentities added router := by
  simp [currentIdentities]

theorem supersedeFor_isCurrent (issuance : Issuance) (router : Nat) (key : Text) :
    (issuance.supersedeFor router key).isCurrent router =
      (decide (issuance.publicKey = key) && issuance.isCurrent router) := by
  unfold Issuance.supersedeFor
  split
  · rename_i replaced
    simp [Issuance.isCurrent, replaced.2]
  · rename_i kept
    by_cases own : issuance.router = router
    · have same : issuance.publicKey = key := by simpa [own] using kept
      simp [same]
    · simp [Issuance.isCurrent, own]

theorem supersedeFor_isCurrent_other (issuance : Issuance) {router other : Nat} (key : Text)
    (apart : other ≠ router) :
    (issuance.supersedeFor router key).isCurrent other = issuance.isCurrent other := by
  unfold Issuance.supersedeFor
  split
  · rename_i replaced
    simp [Issuance.isCurrent, replaced.1, apart.symm]
  · rfl

theorem currentIdentities_superseded (ledger : List Issuance) (router other : Nat) (key : Text) :
    currentIdentities (ledger.map (·.supersedeFor router key)) other =
      (ledger.filter fun issuance => (issuance.supersedeFor router key).isCurrent other).map
        fun issuance => issuance.identity.2 := by
  unfold currentIdentities
  rw [List.filter_map, List.map_map]
  apply List.map_congr_left
  intro issuance _
  exact congrArg Prod.snd (supersedeFor_identity issuance router key)

theorem currentIdentities_supersede (ledger : List Issuance) (router : Nat) (key : Text) :
    currentIdentities (ledger.map (·.supersedeFor router key)) router =
      (currentIdentities ledger router).filter (·.1 = key) := by
  rw [currentIdentities_superseded]
  simp only [supersedeFor_isCurrent]
  rw [currentIdentities, List.filter_map, List.filter_filter]
  rfl

theorem currentIdentities_supersede_other (ledger : List Issuance) {router other : Nat} (key : Text)
    (apart : other ≠ router) :
    currentIdentities (ledger.map (·.supersedeFor router key)) other =
      currentIdentities ledger other := by
  rw [currentIdentities_superseded]
  simp only [supersedeFor_isCurrent_other _ _ apart]
  rfl

theorem currentIdentities_record (ledger : List Issuance) (router : Nat) (key : Text) (ip : TunnelIp)
    (source : PeerIdentitySource) (lifecycle : HubPeerLifecycle) :
    currentIdentities (recordIssuance ledger router key ip source lifecycle) router =
      (currentIdentities ledger router).filter (·.1 = key) ++ [(key, ip)] := by
  rw [recordIssuance, currentIdentities_append, currentIdentities_supersede]
  simp [currentIdentities, Issuance.isCurrent]

theorem currentIdentities_record_other (ledger : List Issuance) {router other : Nat} (key : Text)
    (ip : TunnelIp) (source : PeerIdentitySource) (lifecycle : HubPeerLifecycle)
    (apart : other ≠ router) :
    currentIdentities (recordIssuance ledger router key ip source lifecycle) other =
      currentIdentities ledger other := by
  rw [recordIssuance, currentIdentities_append, currentIdentities_supersede_other _ _ apart]
  simp [currentIdentities, Issuance.isCurrent, apart.symm]

theorem currentIdentities_record_congr {ledger after : List Issuance}
    (same : ∀ router, currentIdentities after router = currentIdentities ledger router) (owner : Nat)
    (key : Text) (ip : TunnelIp) (source : PeerIdentitySource) (lifecycle : HubPeerLifecycle)
    (router : Nat) :
    currentIdentities (recordIssuance after owner key ip source lifecycle) router =
      currentIdentities (recordIssuance ledger owner key ip source lifecycle) router := by
  by_cases own : router = owner
  · subst own
    rw [currentIdentities_record, currentIdentities_record, same]
  · rw [currentIdentities_record_other _ _ _ _ _ own, currentIdentities_record_other _ _ _ _ _ own, same]

/-! ### The invariant -/

/-- The one current issuance of a router has the key of its row, and its address if it has a
tunnel. -/
structure Followed (store : Store) : Prop where
  constrained : Constrained store.peers
  distinct : Distinct store.hub
  recorded : ∀ peer ∈ store.peers, ∃ ip,
    currentIdentities store.ledger peer.router = [(peer.publicKey, ip)] ∧
      (peer.isRevoked = false → ip = peer.tunnelIpAddress)
  unknown : ∀ router, (∀ peer ∈ store.peers, peer.router ≠ router) →
    currentIdentities store.ledger router = []

def Told (before : List Peer) (after : Store) : Prop :=
  ∀ peer ∈ before, ∀ later ∈ after.peers, later.router = peer.router → peer.isRevoked = false →
    later.isRevoked = false → peer.tunnelIpAddress = later.tunnelIpAddress ∨
      ⟨peer.router, peer.tunnelIpAddress, later.tunnelIpAddress⟩ ∈ after.moves

theorem Followed.same {store after : Store} (followed : Followed store)
    (peers : after.peers = store.peers) (distinct : Distinct after.hub)
    (ledger : ∀ router, currentIdentities after.ledger router = currentIdentities store.ledger router) :
    Followed after := by
  constructor
  · rw [peers]
    exact followed.constrained
  · exact distinct
  · intro peer stored
    rw [peers] at stored
    rw [ledger]
    exact followed.recorded peer stored
  · intro router absent
    rw [peers] at absent
    rw [ledger]
    exact followed.unknown router absent

theorem Followed.issued {store after : Store} {row : Peer} {source : PeerIdentitySource}
    {lifecycle : HubPeerLifecycle} (followed : Followed store)
    (saved : Saved store.peers row after.peers) (distinct : Distinct after.hub)
    (ledger : ∀ router, currentIdentities after.ledger router =
      currentIdentities (recordIssuance store.ledger row.router row.publicKey row.tunnelIpAddress source
        lifecycle) router)
    (other : ∀ peer ∈ store.peers, peer.router = row.router → peer.publicKey ≠ row.publicKey) :
    Followed after := by
  -- What was current of the router is another key and is superseded.
  have replaced : (currentIdentities store.ledger row.router).filter (·.1 = row.publicKey) = [] := by
    by_cases known : ∃ peer ∈ store.peers, peer.router = row.router
    · obtain ⟨peer, stored, own⟩ := known
      obtain ⟨ip, current, -⟩ := followed.recorded peer stored
      rw [← own, current]
      simp [other peer stored own]
    · have absent : ∀ peer ∈ store.peers, peer.router ≠ row.router :=
        fun peer stored own => known ⟨peer, stored, own⟩
      rw [followed.unknown _ absent]
      rfl
  have own : currentIdentities after.ledger row.router = [(row.publicKey, row.tunnelIpAddress)] := by
    rw [ledger, currentIdentities_record, replaced]
    rfl
  constructor
  · exact saved.constrained followed.constrained
  · exact distinct
  · intro peer stored
    rcases saved.origin peer stored with rfl | ⟨held, elsewhere⟩
    · exact ⟨_, own, fun _ => rfl⟩
    · rw [ledger, currentIdentities_record_other _ _ _ _ _ elsewhere]
      exact followed.recorded peer held
  · intro router absent
    have elsewhere : router ≠ row.router := (absent row saved.stored).symm
    rw [ledger, currentIdentities_record_other _ _ _ _ _ elsewhere]
    apply followed.unknown
    intro peer held own
    exact absent peer (saved.others peer held (own ▸ elsewhere)) own

theorem Retired.currentIdentities {store after : Store} {key : Text}
    (retired : Retired store key after) (router : Nat) :
    Wireguard.currentIdentities after.ledger router = Wireguard.currentIdentities store.ledger router := by
  obtain ⟨lifecycle, written, -⟩ := retired.ledger
  rw [written, currentIdentities_writeLifecycle]

theorem Passed.currentIdentities {bridge : Bridge} {store after : Store} {previous key : Text}
    (passed : Passed bridge store previous key after) (router : Nat) :
    Wireguard.currentIdentities after.ledger router = Wireguard.currentIdentities store.ledger router := by
  cases passed with
  | spared => rfl
  | swallowed => rfl
  | retired _ retired => exact retired.currentIdentities router

/-! ### Operations -/

theorem Told.same {before : List Peer} {after : Store} (constrained : Constrained before)
    (peers : after.peers = before) : Told before after := by
  intro peer listed later stored own _ _
  rw [peers] at stored
  rw [constrained.same_router stored listed own]
  exact .inl rfl

theorem Told.saved {before : List Peer} {after : Store} {row : Peer} (constrained : Constrained before)
    (saved : Saved before row after.peers)
    (told : ∀ peer ∈ before, peer.router = row.router → peer.isRevoked = false →
      row.isRevoked = false → peer.tunnelIpAddress = row.tunnelIpAddress ∨
        ⟨peer.router, peer.tunnelIpAddress, row.tunnelIpAddress⟩ ∈ after.moves) :
    Told before after := by
  intro peer listed later stored own standing still
  rcases saved.origin later stored with rfl | ⟨held, -⟩
  · exact told peer listed own.symm standing still
  · rw [constrained.same_router held listed own]
    exact .inl rfl

def hasKey (store : Store) (router : Nat) (key : Text) : Bool :=
  (getPeerByRouterId store.peers router).any (·.publicKey = key)

theorem hasKey_false {store : Store} {router : Nat} {key : Text}
    (without : hasKey store router key = false) (constrained : Constrained store.peers) :
    ∀ peer ∈ store.peers, peer.router = router → peer.publicKey ≠ key := by
  rintro peer member rfl
  rw [hasKey, constrained.found member] at without
  simpa using without

theorem Followed.created {hosts : List Text} {store after : Store} {router : Nat} {key : Text}
    (followed : Followed store) (created : Created hosts store router key after)
    (other : ∀ peer ∈ store.peers, peer.router = router → peer.publicKey ≠ key) :
    Followed after ∧ Told store.peers after := by
  obtain ⟨address, row, peers, source, -, saved, rfl, rfl, ip, rfl⟩ := created.issued
  rw [← ip]
  constructor
  · exact followed.issued saved followed.distinct (fun _ => rfl) other
  · refine .saved followed.constrained saved ?_
    intro peer listed own standing _
    rw [hasTunnel_false created.without followed.constrained listed own] at standing
    cases standing

theorem Followed.registered {bridge : Bridge} {store after : Store} {router : Nat} {address key : Text}
    (followed : Followed store) (registered : Registered bridge store router address key after)
    (other : ∀ peer ∈ store.peers, peer.router = router → peer.publicKey ≠ key)
    (here : ∀ peer ∈ store.peers, peer.router = router → peer.isRevoked = false →
      peer.tunnelIpAddress = .host address) :
    Followed after ∧ Told store.peers after := by
  have distinct := followed.distinct.sublist registered.hub_sublist
  obtain ⟨row, peers, passed, saved, rfl, rfl, ip, previous, rfl⟩ := registered.issued
  have same : ∀ router, currentIdentities passed.ledger router =
      currentIdentities store.ledger router := by
    rcases previous with ⟨-, rfl⟩ | ⟨existing, -, settled⟩
    · exact fun _ => rfl
    · exact settled.currentIdentities
  rw [← ip]
  constructor
  · exact followed.issued saved distinct (currentIdentities_record_congr same _ _ _ _ _) other
  · refine .saved followed.constrained saved ?_
    intro peer listed own standing _
    exact .inl ((here peer listed own standing).trans ip.symm)

theorem Followed.rotated {bridge : Bridge} {store after : Store} {router : Nat} {generated : Text}
    (followed : Followed store) (rotated : Rotated bridge store router generated after)
    (fresh : isFresh store generated = true) : Followed after ∧ Told store.peers after := by
  have distinct := followed.distinct.sublist rotated.hub_sublist
  obtain ⟨peer, row, peers, member, own, standing, saved, here, rfl, ip, passed⟩ := rotated.issued
  have stored : after.peers = peers := passed.peers
  rw [← stored] at saved
  subst here
  constructor
  · rw [← ip] at passed
    exact followed.issued saved distinct passed.currentIdentities (isFresh_other fresh _)
  · refine .saved followed.constrained saved ?_
    intro other listed same _ _
    rw [followed.constrained.same_router listed member (same.trans own.symm), ip]
    exact .inl rfl

theorem Followed.revoked {store after : Store} {router : Nat} (followed : Followed store)
    (revoked : Revoked store router after) : Followed after ∧ Told store.peers after := by
  obtain ⟨peer, row, peers, mid, member, own, standing, saved, here, key, gone, retired, rfl⟩ :=
    revoked.issued
  subst here
  constructor
  · constructor
    · exact saved.constrained followed.constrained
    · exact followed.distinct.sublist retired.hub_sublist
    · intro other stored
      simp only [retired.currentIdentities]
      rcases saved.origin other stored with rfl | ⟨held, -⟩
      · obtain ⟨ip, current, -⟩ := followed.recorded peer member
        rw [own, ← key] at current
        refine ⟨ip, current, ?_⟩
        intro still
        rw [gone] at still
        cases still
      · exact followed.recorded other held
    · intro router absent
      simp only [retired.currentIdentities]
      apply followed.unknown
      intro other held same
      have elsewhere : router ≠ row.router := (absent row saved.stored).symm
      exact absent other (saved.others other held (same ▸ elsewhere)) same
  · refine .saved followed.constrained saved ?_
    intro other _ _ _ still
    rw [gone] at still
    cases still

theorem applyAdoption_told {bridge : Bridge} {hubPeers : List HubPeer} {store after : Store}
    {peer : Peer} {key : Text} {ip : TunnelIp} {handshake : Option Int} {source : PeerIdentitySource}
    (member : peer ∈ store.peers) (listed : store.hubKeys ⊆ hubPeers.map HubPeer.publicKey)
    (applied : applyAdoption bridge hubPeers store peer key ip handshake source = .adopted after) :
    (∀ router, currentIdentities after.ledger router =
      currentIdentities (recordIssuance store.ledger peer.router key ip source .live) router) ∧
    store.moves ⊆ after.moves ∧
    (peer.tunnelIpAddress = ip ∨ ⟨peer.router, peer.tunnelIpAddress, ip⟩ ∈ after.moves) := by
  obtain ⟨peers, settled, -, ending, rfl⟩ := applyAdoption_adopted member listed applied
  have ledger : ∀ router, currentIdentities settled.ledger router =
      currentIdentities (recordIssuance store.ledger peer.router key ip source .live) router := by
    rcases ending with ⟨-, rfl⟩ | ⟨-, retired⟩
    · exact fun _ => rfl
    · exact retired.currentIdentities
  have moves : settled.moves = store.moves := by
    rcases ending with ⟨-, rfl⟩ | ⟨-, retired⟩
    · rfl
    · exact retired.moves
  refine ⟨by simpa using ledger, ?_⟩
  unfold Store.notifyAddressChanged
  split
  · rw [← moves]
    exact ⟨List.subset_append_left _ _, .inr (by simp)⟩
  · rename_i same
    rw [← moves]
    exact ⟨List.Subset.refl _, .inl (by simpa using same)⟩

theorem Followed.adopting {bridge : Bridge} {store after : Store} {router : Nat} {key : Text}
    (followed : Followed store) (adopting : Adopting bridge store router key after)
    (other : ∀ peer ∈ store.peers, peer.router = router → peer.publicKey ≠ key) :
    Followed after ∧ Told store.peers after := by
  have distinct := followed.distinct.sublist adopting.hub_sublist
  obtain ⟨hubPeer, peer, source, held, own, member, rfl, applied⟩ := adopting.applied
  have written := rewritten_adopted member (List.Subset.refl _) applied
  obtain ⟨ledger, -, told⟩ := applyAdoption_told member (List.Subset.refl _) applied
  constructor
  · exact followed.issued written.saved distinct ledger other
  · refine .saved followed.constrained written.saved ?_
    intro earlier listed same _ _
    rw [followed.constrained.same_router listed member same]
    exact told

/-! ### The pass over the fleet -/

/-- Adopting the hub peer for the row moves it, and the key it had cannot be removed. -/
def movesUntold (bridge : Bridge) (read : FleetRead) (hubPeer : HubPeer) (row : Peer) : Bool :=
  read.isAdoptable hubPeer row && adoptedIp hubPeer row ≠ row.tunnelIpAddress &&
    row.publicKey ∈ read.before.hubKeys && bridge.canRemovePeer &&
    bridge.answer row.publicKey = .unreachable

def passTells (bridge : Bridge) (read : FleetRead) : Bool :=
  !read.adopt || read.before.hub.all fun hubPeer =>
    read.before.peers.all fun row => !movesUntold bridge read hubPeer row

theorem passTells_row {bridge : Bridge} {read : FleetRead} (tells : passTells bridge read = true)
    (adopting : read.adopt = true) {hubPeer : HubPeer} (listed : hubPeer ∈ read.before.hub) {row : Peer}
    (stored : row ∈ read.before.peers) (adoptable : read.isAdoptable hubPeer row = true)
    (held : row.publicKey ∈ read.before.hubKeys)
    (raises : bridge.canRemovePeer = true ∧ bridge.answer row.publicKey = .unreachable) :
    adoptedIp hubPeer row = row.tunnelIpAddress := by
  simp only [passTells, adopting, Bool.not_true, Bool.false_or, List.all_eq_true] at tells
  have silent := tells hubPeer listed row stored
  simpa [movesUntold, adoptable, held, raises] using silent

theorem Followed.reconciled {store : Store} (followed : Followed store) (router : Nat)
    (hubPeer : HubPeer) : Followed (store.reconciled router hubPeer) := by
  constructor
  · exact followed.constrained.reconciled router hubPeer
  · exact followed.distinct
  · intro peer stored
    obtain ⟨old, held, own, key, ip, revoked, -⟩ := reconciled_row stored
    obtain ⟨current, only, standing⟩ := followed.recorded old held
    exact ⟨current, by rw [own, key]; exact only, by rw [revoked, ip]; exact standing⟩
  · intro owner absent
    apply followed.unknown
    intro old held same
    -- The routers of the rows are the same.
    have listed : old.router ∈ (store.reconciled router hubPeer).peers.map Peer.router := by
      rw [reconciled_column Peer.router _ _ _ fun peer => (reconcile_kept peer _).1]
      exact List.mem_map.mpr ⟨old, held, rfl⟩
    obtain ⟨peer, stored, own⟩ := List.mem_map.mp listed
    exact absent peer stored (own.trans same)

theorem Told.rewritten {before : List Peer} {store after : Store} {peer row : Peer}
    (told : Told before store) (constrained : Constrained before)
    (saved : Saved store.peers row after.peers) (listed : peer ∈ before)
    (own : peer.router = row.router) (moves : store.moves ⊆ after.moves)
    (tells : peer.tunnelIpAddress = row.tunnelIpAddress ∨
      ⟨peer.router, peer.tunnelIpAddress, row.tunnelIpAddress⟩ ∈ after.moves) :
    Told before after := by
  intro earlier known later stored same standing still
  rcases saved.origin later stored with rfl | ⟨held, -⟩
  · rw [constrained.same_router known listed (same.symm.trans own.symm)]
    exact tells
  · rcases told earlier known later held same standing still with kept | announced
    · exact .inl kept
    · exact .inr (moves announced)

theorem fleet_follows {bridge : Bridge} {read : FleetRead} (followed : Followed read.before)
    (tells : passTells bridge read = true) {pass : Pass}
    (returned : getFleetStatus bridge read = .ok pass) :
    Followed pass.store ∧ Told read.before.peers pass.store := by
  refine fleet_induction (fun store => Followed store ∧ Told read.before.peers store)
    followed.constrained followed.distinct.keys ?_ ?_ returned
  · exact ⟨followed, .same followed.constrained rfl⟩
  · rintro done hubPeer store after listed underway ⟨kept, told⟩ change
    have distinct : Distinct after.hub :=
      followed.distinct.sublist (underway.change change).hub
    cases change with
    | seen => exact ⟨kept, told⟩
    | reconciled router =>
        refine ⟨kept.reconciled router hubPeer, ?_⟩
        intro peer known later stored own standing still
        obtain ⟨old, held, router, -, ip, revoked, -⟩ := reconciled_row stored
        rw [ip]
        exact told peer known old held (router.symm.trans own) standing (revoked ▸ still)
    | corrected =>
        exact ⟨kept.same rfl distinct (currentIdentities_correctLedger _ _), told⟩
    | @adopted peer after attempt applied =>
        have able := canAdopt_handshake (Bool.and_eq_true_iff.mp attempt.adoptable).2
        have member : peer ∈ (store.corrected hubPeer).peers := attempt.member
        have keys : (store.corrected hubPeer).hubKeys ⊆ _ := underway.listed
        have written := rewritten_adopted member keys applied
        obtain ⟨ledger, moves, tellsRow⟩ := applyAdoption_told member keys applied
        have corrected : Followed (store.corrected hubPeer) :=
          kept.same rfl kept.distinct (currentIdentities_correctLedger _ _)
        constructor
        · apply corrected.issued written.saved distinct ledger
          intro other held same
          rw [kept.constrained.same_router held attempt.member same]
          exact able.2.2.1
        · exact told.rewritten followed.constrained written.saved attempt.before rfl moves tellsRow
    | @interrupted peer after attempt applied =>
        have able := canAdopt_handshake (Bool.and_eq_true_iff.mp attempt.adoptable).2
        have member : peer ∈ (store.corrected hubPeer).peers := attempt.member
        obtain ⟨peers, saved, rfl, held, raises⟩ := applyAdoption_unreachable member applied
        have stays := passTells_row tells attempt.adopting listed attempt.before attempt.adoptable
          held raises
        have corrected : Followed (store.corrected hubPeer) :=
          kept.same rfl kept.distinct (currentIdentities_correctLedger _ _)
        constructor
        · apply corrected.issued saved distinct fun _ => rfl
          intro other stored same
          rw [kept.constrained.same_router stored attempt.member same]
          exact able.2.2.1
        · exact told.rewritten followed.constrained saved attempt.before rfl (List.Subset.refl _)
            (.inl stays.symm)

/-! ### Runs -/

def hasTunnelElsewhere (store : Store) (router : Nat) (address : Text) : Bool :=
  (getPeerByRouterId store.peers router).any fun peer =>
    !peer.isRevoked && peer.tunnelIpAddress ≠ .host address

/-- What the request makes of the router's tunnel will be told and is recorded once. -/
def isTold (store : Store) (request : Request) : Bool :=
  match request.operation with
  | .createTunnel router external _ =>
      hasTunnel store router || external.all fun key => !hasKey store router key
  | .ensureTunnelForCheckIn router external _ _ =>
      hasTunnel store router || external.all fun key => !hasKey store router key
  | .allocateTunnelViaHub router rotate force reads _ _ live _ address =>
      findsTunnel store router rotate force reads live || !hasTunnelElsewhere store router address ||
        .host address ∈ listOccupiedTunnelIps store.peers router
  | .registerAgentAllocatedPeer router address publicKey =>
      !hasTunnelElsewhere store router address && !hasKey store router publicKey ||
        .host address ∈ listOccupiedTunnelIps store.peers router
  | .adoptHubPeer router publicKey readable =>
      !readable || publicKey ∉ store.hubKeys || !hasKey store router publicKey
  | .getFleetStatus now handshakeStaleAfter adopt =>
      passTells request.bridge ⟨now, handshakeStaleAfter, adopt, store⟩
  | _ => true

theorem hasTunnelElsewhere_false {store : Store} {router : Nat} {address : Text}
    (without : hasTunnelElsewhere store router address = false) (constrained : Constrained store.peers) :
    ∀ peer ∈ store.peers, peer.router = router → peer.isRevoked = false →
      peer.tunnelIpAddress = .host address := by
  rintro peer member rfl standing
  rw [hasTunnelElsewhere, constrained.found member] at without
  simpa [standing] using without

theorem created_other {hosts : List Text} {store after : Store} {router : Nat}
    {external : Option Text} {generated : Text} (constrained : Constrained store.peers)
    (created : Created hosts store router (external.getD generated) after)
    (fresh : external = none → isFresh store generated = true)
    (told : (hasTunnel store router || external.all fun key => !hasKey store router key) = true) :
    ∀ peer ∈ store.peers, peer.router = router → peer.publicKey ≠ external.getD generated := by
  cases external with
  | none => exact isFresh_other (fresh rfl) router
  | some key =>
      rw [created.without, Bool.false_or, Option.all_some] at told
      exact hasKey_false (by simpa using told) constrained

theorem perform_follows {bridge : Bridge} {hosts : List Text} {store : Store} {operation : Operation}
    (followed : Followed store) (possible : isPossible store operation = true)
    (told : isTold store ⟨operation, bridge⟩ = true) :
    Followed (store.settle (perform bridge hosts store operation)) ∧
      Told store.peers (store.settle (perform bridge hosts store operation)) := by
  have distinct : Distinct (store.settle (perform bridge hosts store operation)).hub :=
    (followed.distinct.operation possible).sublist
      (perform_hub operation followed.constrained followed.distinct)
  cases outcome : perform bridge hosts store operation with
  | error hub =>
      rw [outcome] at distinct
      exact ⟨followed.same rfl distinct fun _ => rfl, .same followed.constrained rfl⟩
  | ok after =>
      rw [outcome] at distinct
      cases operation with
      | createTunnel router external generated =>
          have created := createTunnel_ok outcome
          apply followed.created created
          apply created_other followed.constrained created _ told
          rintro rfl
          simpa [isPossible] using possible
      | ensureTunnelForCheckIn router external generated readable =>
          cases ensureTunnelForCheckIn_ok outcome with
          | kept => exact ⟨followed, .same followed.constrained rfl⟩
          | created created =>
              exact followed.created created
                (created_other followed.constrained created (fun _ => possible) told)
          | adopted found other adopting =>
              apply followed.adopting adopting
              intro peer held own same
              rw [← own, followed.constrained.found held] at found
              cases found
              exact other same.symm
          | rotated found absent rotated => exact followed.rotated rotated possible
      | allocateTunnelViaHub router rotate force reads now stale live minted address =>
          cases allocateTunnelViaHub_ok outcome with
          | kept => exact ⟨followed, .same followed.constrained rfl⟩
          | adopted found other adopting =>
              apply followed.adopting adopting
              intro peer held own same
              rw [← own, followed.constrained.found held] at found
              cases found
              exact other same.symm
          | registered asked registered =>
              have mint := (isMint_apart (Bool.and_eq_true_iff.mp possible).2).1
              obtain ⟨named, absent, -⟩ := isFresh_apart mint
              have extended : Followed { store with hub := store.hub ++ [minted] } :=
                followed.same rfl (followed.distinct.concat named absent) fun _ => rfl
              apply extended.registered registered (isFresh_other mint router)
              apply hasTunnelElsewhere_false _ followed.constrained
              have vacant : .host address ∉ listOccupiedTunnelIps store.peers router := registered.vacant
              simpa [isTold, asked, vacant] using told
      | registerAgentAllocatedPeer router address key =>
          have registered := registerAgentAllocatedPeer_ok outcome
          have vacant := registered.vacant
          obtain ⟨here, other⟩ : hasTunnelElsewhere store router address = false ∧
              hasKey store router key = false := by
            simpa [isTold, vacant] using told
          exact followed.registered registered (hasKey_false other followed.constrained)
            (hasTunnelElsewhere_false here followed.constrained)
      | rotateTunnel router generated => exact followed.rotated (rotateTunnel_ok outcome) possible
      | revokeTunnel router => exact followed.revoked (revokeTunnel_ok outcome)
      | adoptHubPeer router key readable =>
          obtain ⟨answers, adopting⟩ := adoptHubPeer_ok outcome
          apply followed.adopting adopting
          obtain ⟨hubPeer, held, own, -⟩ := adopting.rewritten
          have listed : key ∈ store.hubKeys := List.mem_map.mpr ⟨hubPeer, held, own⟩
          apply hasKey_false _ followed.constrained
          simpa [isTold, answers, listed] using told
      | getFleetStatus now stale adopt =>
          obtain ⟨pass, returned, rfl⟩ := getFleetStatus_ok outcome
          exact fleet_follows followed told returned
      | mintPeer minted address =>
          cases outcome
          exact ⟨followed.same rfl distinct fun _ => rfl, .same followed.constrained rfl⟩
      | enroll key address allowedIps =>
          cases outcome
          exact ⟨followed.same rfl distinct fun _ => rfl, .same followed.constrained rfl⟩
      | handshake key epoch =>
          cases outcome
          exact ⟨followed.same rfl distinct fun _ => rfl, .same followed.constrained rfl⟩

theorem movedPeers_told {before : List Peer} {after : Store} (told : Told before after) :
    (movedPeers before after.peers).filter (· ∉ after.moves) = [] := by
  rw [List.filter_eq_nil_iff]
  intro move listed
  obtain ⟨peer, stored, moved⟩ := List.mem_filterMap.mp listed
  split at moved
  · cases moved
  · rename_i later found
    obtain ⟨held, own⟩ := getPeerByRouterId_some found
    split at moved
    · cases moved
    · rename_i elsewhere
      cases moved
      simp only [Bool.or_eq_true, decide_eq_true_eq, not_or, Bool.not_eq_true] at elsewhere
      rcases told peer stored later held own elsewhere.1.1 elsewhere.1.2 with kept | announced
      · exact absurd kept elsewhere.2
      · simpa using announced

structure Faithful (world : World) : Prop where
  followed : Followed world.store
  told : world.silent = []

theorem faithful_step {hosts : List Text} {world next : World} {request : Request}
    (faithful : Faithful world) (told : isTold world.store request = true)
    (stepped : step hosts world request = some next) : Faithful next := by
  unfold step at stepped
  dsimp only at stepped
  split at stepped
  · rename_i possible
    cases stepped
    have opening : Followed { world.store with moves := [] } :=
      faithful.followed.same rfl faithful.followed.distinct fun _ => rfl
    have toldThere : isTold { world.store with moves := [] } request = true := by
      rw [← told]
      unfold isTold
      cases request.operation <;> rfl
    obtain ⟨followed, announced⟩ := perform_follows opening possible toldThere
    refine ⟨followed, ?_⟩
    dsimp only
    rw [faithful.told, movedPeers_told announced]
    rfl
  · cases stepped

/-- No address of a tunnel has moved without the listener being called with both addresses, and a
router that has a tunnel has one issuance that is not superseded, which says what its row says. -/
structure Announced (world : World) : Prop where
  told : world.silent = []
  recorded : ∀ peer ∈ world.store.peers, peer.isRevoked = false →
    currentIdentities world.store.ledger peer.router = [(peer.publicKey, peer.tunnelIpAddress)]

/-- In a run of requests that are told, no tunnel has moved in silence and no router has two
issuances. -/
theorem address_moves_announced (hosts : List Text) (hub : Hub) (world : World)
    (reached : Reached (step hosts) (fun world request => isTold world.store request = true)
      (World.started hub) world) : Announced world := by
  have faithful : Faithful world := by
    apply reached.invariant Faithful
    · refine ⟨⟨⟨?_, ?_, ?_⟩, ⟨hub.distinct, hub.named⟩, ?_, ?_⟩, rfl⟩ <;> simp [World.started]
      exact fun _ => rfl
    · intro world request next earlier told stepped
      exact faithful_step earlier told stepped
  refine ⟨faithful.told, ?_⟩
  intro peer stored standing
  obtain ⟨ip, current, same⟩ := faithful.followed.recorded peer stored
  rw [current, same standing]

section Executed

/-- A tunnel is made, moved to what the hub shows, revoked and made again. -/
theorem address_moves_announced_adopted :
    ∃ world, Reached (step smallNetwork) (fun world request => isTold world.store request = true)
        (World.started emptyHub) world ∧
      currentIdentities world.store.ledger 0 = [("K2".toList, .host "10.20.0.2".toList)] ∧
      Announced world := by
  obtain ⟨world, reached, seen⟩ := run_observed (step smallNetwork) (World.started emptyHub)
    (fun world request => isTold world.store request)
    (fun world => currentIdentities world.store.ledger 0 =
      [("K2".toList, .host "10.20.0.2".toList)])
    (fun _ _ checked => checked)
    [⟨.createTunnel 0 (some "K0".toList) [], answering⟩,
      ⟨.mintPeer ⟨"K1".toList, "10.20.0.3/32".toList, 1⟩ "10.20.0.3".toList, answering⟩,
      ⟨.adoptHubPeer 0 "K1".toList true, answering⟩, ⟨.revokeTunnel 0, answering⟩,
      ⟨.ensureTunnelForCheckIn 0 (some "K2".toList) "G".toList true, answering⟩] (by decide +kernel)
  exact ⟨world, reached, of_decide_eq_true seen, address_moves_announced _ _ _ reached⟩

/-- A tunnel is moved by an allocation, of which nobody is told. An operator then adopts the key
that the row has, which leaves two issuances of it. -/
theorem allocation_moves_silently :
    ∃ world, Reached (step smallNetwork) (fun _ _ => True) (World.started emptyHub) world ∧
      ¬ Announced world ∧
      world.silent = [⟨0, .host "10.20.0.2".toList, .host "10.20.0.3".toList⟩] ∧
      currentIdentities world.store.ledger 0 =
        [("K1".toList, .host "10.20.0.3".toList), ("K1".toList, .host "10.20.0.3".toList)] := by
  obtain ⟨world, reached, seen⟩ := run_observed (step smallNetwork) (World.started emptyHub)
    (fun _ _ => true)
    (fun world => world.silent = [⟨0, .host "10.20.0.2".toList, .host "10.20.0.3".toList⟩] &&
      currentIdentities world.store.ledger 0 =
        [("K1".toList, .host "10.20.0.3".toList), ("K1".toList, .host "10.20.0.3".toList)])
    (fun _ _ _ => trivial)
    [⟨.createTunnel 0 (some "K0".toList) [], answering⟩,
      ⟨.allocateTunnelViaHub 0 true true ⟨true, true, true⟩ 0 0 none
        ⟨"K1".toList, "10.20.0.3/32".toList, 0⟩ "10.20.0.3".toList, answering⟩,
      ⟨.adoptHubPeer 0 "K1".toList true, answering⟩] (by decide +kernel)
  simp only [Bool.and_eq_true, decide_eq_true_eq] at seen
  refine ⟨world, reached, ?_, seen⟩
  intro announced
  have told := announced.told
  rw [seen.1] at told
  cases told

end Executed

end CloudGuest.Wireguard
