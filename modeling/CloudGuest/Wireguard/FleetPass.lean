import CloudGuest.Wireguard.Tables

/-!
What a pass over the fleet can do. `FleetChange` has all that one hub peer does to
the tables and the hub; a pass only ever adopts for a row as it was when the pass
began, on an attribution that the ledger had then.
-/

namespace CloudGuest.Wireguard
open Texts Rows Runs

def Store.record (store : Store) (peers : List Peer) (router : Nat) (publicKey : Text) (ip : TunnelIp)
    (source : PeerIdentitySource) (lifecycle : HubPeerLifecycle) : Store :=
  { store with peers, ledger := recordIssuance store.ledger router publicKey ip source lifecycle }

@[simp] theorem notifyAddressChanged_tables (store : Store) (router : Nat) (previous ip : TunnelIp) :
    (store.notifyAddressChanged router previous ip).peers = store.peers ∧
      (store.notifyAddressChanged router previous ip).ledger = store.ledger ∧
      (store.notifyAddressChanged router previous ip).hub = store.hub ∧
      (store.notifyAddressChanged router previous ip).clashes = store.clashes := by
  unfold Store.notifyAddressChanged
  split <;> exact ⟨rfl, rfl, rfl, rfl⟩

theorem applyAdoption_adopted {bridge : Bridge} {hubPeers : List HubPeer} {store after : Store}
    {peer : Peer} {key : Text} {ip : TunnelIp} {handshake : Option Int} {source : PeerIdentitySource}
    (member : peer ∈ store.peers) (listed : store.hubKeys ⊆ hubPeers.map HubPeer.publicKey)
    (applied : applyAdoption bridge hubPeers store peer key ip handshake source = .adopted after) :
    ∃ peers settled, Saved store.peers (peer.adopt key ip handshake) peers ∧
      ((peer.publicKey = [] ∨ peer.publicKey = key) ∧
          settled = store.record peers peer.router key ip source .live ∨
        peer.publicKey ≠ key ∧
          Retired (store.record peers peer.router key ip source .live) peer.publicKey settled) ∧
      after = settled.notifyAddressChanged peer.router peer.tunnelIpAddress ip := by
  unfold applyAdoption at applied
  split at applied
  · cases applied
  · rename_i peers updated
    dsimp only at applied
    split at applied
    · cases applied
    · rename_i settled settles
      cases applied
      exact ⟨peers, settled, updatePeer_saved member rfl updated,
        settlePrevious_cases listed settles, rfl⟩

theorem applyAdoption_unreachable {bridge : Bridge} {hubPeers : List HubPeer} {store after : Store}
    {peer : Peer} {key : Text} {ip : TunnelIp} {handshake : Option Int} {source : PeerIdentitySource}
    (member : peer ∈ store.peers)
    (applied : applyAdoption bridge hubPeers store peer key ip handshake source = .unreachable after) :
    ∃ peers, Saved store.peers (peer.adopt key ip handshake) peers ∧
      after = store.record peers peer.router key ip source .live ∧
      peer.publicKey ∈ hubPeers.map HubPeer.publicKey ∧ bridge.canRemovePeer = true ∧
      bridge.answer peer.publicKey = .unreachable := by
  unfold applyAdoption at applied
  split at applied
  · cases applied
  · rename_i peers updated
    dsimp only at applied
    split at applied
    · rename_i raised
      cases applied
      refine ⟨peers, updatePeer_saved member rfl updated, rfl, ?_⟩
      unfold settlePrevious at raised
      split at raised
      · split at raised
        · rename_i listed
          exact ⟨listed, Bridge.removal_none.mp (Option.map_eq_none_iff.mp raised)⟩
        · cases raised
      · cases raised
    · cases applied

/-! ### One hub peer -/

def FleetRead.isUntracked (read : FleetRead) (hubPeer : HubPeer) : Bool :=
  read.before.peers.all fun row => row.publicKey ≠ hubPeer.publicKey

def FleetRead.isAdoptable (read : FleetRead) (hubPeer : HubPeer) (row : Peer) : Bool :=
  read.isUntracked hubPeer &&
    (getIssuanceByPublicKey read.before.ledger hubPeer.publicKey).any (·.router = row.router) &&
    canAdopt read hubPeer row

/-- How the store is while a pass is under way, of which `done` has been gone through. -/
structure Underway (read : FleetRead) (done : List HubPeer) (store : Store) : Prop where
  constrained : Constrained store.peers
  hub : store.hub.Sublist read.before.hub
  origin : ∀ peer ∈ store.peers, ∃ row ∈ read.before.peers, row.router = peer.router ∧
    peer.isRevoked = row.isRevoked ∧ (peer.lastHandshakeAt = none → peer = row)
  ledger : ∃ added, identities store.ledger = identities read.before.ledger ++ added ∧
    ∀ identity ∈ added, identity.2.1 ∈ done.map HubPeer.publicKey

structure Attempt (read : FleetRead) (hubPeer : HubPeer) (store : Store) (peer : Peer) : Prop where
  adopting : read.adopt = true
  member : peer ∈ store.peers
  before : peer ∈ read.before.peers
  adoptable : read.isAdoptable hubPeer peer = true

def Store.corrected (store : Store) (hubPeer : HubPeer) : Store :=
  { store with ledger := correctLedger store.ledger hubPeer.publicKey }

def Store.reconciled (store : Store) (router : Nat) (hubPeer : HubPeer) : Store :=
  { store with
    peers := store.peers.map fun peer =>
      if peer.router = router then peer.reconcile hubPeer.lastHandshake else peer }

inductive FleetChange (bridge : Bridge) (read : FleetRead) (hubPeer : HubPeer) (store : Store) :
    Store → Prop where
  | seen : FleetChange bridge read hubPeer store store
  | reconciled (router : Nat) :
      FleetChange bridge read hubPeer store (store.reconciled router hubPeer)
  | corrected : FleetChange bridge read hubPeer store (store.corrected hubPeer)
  | adopted {peer : Peer} {after : Store} (attempt : Attempt read hubPeer store peer)
      (applied : applyAdoption bridge read.before.hub (store.corrected hubPeer) peer
        hubPeer.publicKey (adoptedIp hubPeer peer) hubPeer.lastHandshake .adopted = .adopted after) :
      FleetChange bridge read hubPeer store after
  | interrupted {peer : Peer} {after : Store} (attempt : Attempt read hubPeer store peer)
      (applied : applyAdoption bridge read.before.hub (store.corrected hubPeer) peer
        hubPeer.publicKey (adoptedIp hubPeer peer) hubPeer.lastHandshake .adopted =
          .unreachable after) :
      FleetChange bridge read hubPeer store after

theorem Underway.attribution {read : FleetRead} {done : List HubPeer} {store : Store}
    (underway : Underway read done store) {key : Text} (fresh : key ∉ done.map HubPeer.publicKey) :
    latestIdentity store.ledger key = latestIdentity read.before.ledger key := by
  obtain ⟨added, grown, processed⟩ := underway.ledger
  apply latestIdentity_append grown
  intro listed
  obtain ⟨identity, member, rfl⟩ := List.mem_map.mp listed
  exact fresh (processed identity member)

theorem attributes_iff (ledger : List Issuance) (key : Text) (router : Nat) :
    (getIssuanceByPublicKey ledger key).any (·.router = router) =
      (latestIdentity ledger key).any (·.1 = router) := by
  unfold latestIdentity
  cases getIssuanceByPublicKey ledger key with
  | none => rfl
  | some issuance => rfl

theorem canAdopt_handshake {read : FleetRead} {hubPeer : HubPeer} {peer : Peer}
    (able : canAdopt read hubPeer peer = true) :
    peer.lastHandshakeAt = none ∧ peer.isRevoked = false ∧ peer.publicKey ≠ hubPeer.publicKey ∧
      hubPeer.lastHandshake ≠ none := by
  simp only [canAdopt, Bool.and_eq_true, Bool.not_eq_true', decide_eq_true_eq] at able
  obtain ⟨⟨⟨recent, standing⟩, other⟩, unseen⟩ := able
  refine ⟨unseen, standing, other, ?_⟩
  intro silent
  rw [silent] at recent
  cases recent

theorem fleetAttributed_change {bridge : Bridge} {read : FleetRead} {done : List HubPeer}
    {pass next : Pass} {hubPeer : HubPeer} {issuance : Issuance}
    (underway : Underway read done pass.store)
    (fresh : hubPeer.publicKey ∉ done.map HubPeer.publicKey)
    (untracked : read.isUntracked hubPeer = true)
    (attributed : getIssuanceByPublicKey pass.store.ledger hubPeer.publicKey = some issuance)
    (advanced : fleetAttributed bridge read pass hubPeer issuance = .ok next) :
    FleetChange bridge read hubPeer pass.store next.store := by
  unfold fleetAttributed at advanced
  dsimp only at advanced
  split at advanced
  · rename_i peer chosen
    have attempt : Attempt read hubPeer pass.store peer := by
      split at chosen
      · rename_i adopting
        obtain ⟨found, able⟩ := Option.filter_eq_some_iff.mp chosen
        obtain ⟨member, own⟩ := getPeerByRouterId_some found
        obtain ⟨row, listed, -, -, same⟩ := underway.origin peer member
        have unchanged : peer = row := same (canAdopt_handshake able).1
        refine ⟨adopting, member, unchanged ▸ listed, ?_⟩
        simp only [FleetRead.isAdoptable, Bool.and_eq_true]
        refine ⟨⟨untracked, ?_⟩, able⟩
        rw [attributes_iff, ← underway.attribution fresh, ← attributes_iff, attributed]
        simp [own]
      · cases chosen
    split at advanced
    · rename_i applied
      cases advanced
      exact .adopted attempt applied
    · rename_i applied
      cases advanced
      exact .interrupted attempt applied
    · cases advanced
  · cases advanced
    exact .corrected

theorem fleetStep_change {bridge : Bridge} {read : FleetRead} {done : List HubPeer}
    {pass next : Pass} {hubPeer : HubPeer} (underway : Underway read done pass.store)
    (fresh : hubPeer.publicKey ∉ done.map HubPeer.publicKey)
    (advanced : fleetStep bridge read pass hubPeer = .ok next) :
    FleetChange bridge read hubPeer pass.store next.store := by
  unfold fleetStep at advanced
  split at advanced
  · cases advanced
  · split at advanced
    · rename_i row found
      cases advanced
      unfold fleetTracked
      dsimp only
      split
      · exact .reconciled row.router
      · exact .reconciled row.router
    · rename_i absent
      have untracked : read.isUntracked hubPeer = true := by
        simpa [FleetRead.isUntracked] using absent
      split at advanced
      · cases advanced
        exact .seen
      · rename_i issuance attributed
        exact fleetAttributed_change underway fresh untracked attributed advanced

theorem fleetStep_error {bridge : Bridge} {read : FleetRead} {pass : Pass} {hubPeer : HubPeer}
    {hub : List HubPeer} (raised : fleetStep bridge read pass hubPeer = .error hub) :
    hub = pass.store.hub := by
  unfold fleetStep at raised
  split at raised
  · cases raised
    rfl
  · split at raised
    · cases raised
    · split at raised
      · cases raised
      · unfold fleetAttributed at raised
        dsimp only at raised
        split at raised
        · split at raised <;> cases raised
          rfl
        · cases raised

/-! ### The whole pass -/

theorem reconcile_kept (peer : Peer) (seen : Option Int) :
    (peer.reconcile seen).router = peer.router ∧ (peer.reconcile seen).publicKey = peer.publicKey ∧
      (peer.reconcile seen).tunnelIpAddress = peer.tunnelIpAddress ∧
      (peer.reconcile seen).isRevoked = peer.isRevoked ∧
      ((peer.reconcile seen).lastHandshakeAt = none → peer.reconcile seen = peer) := by
  unfold Peer.reconcile
  split
  · split
    · refine ⟨rfl, rfl, rfl, ?_, fun unseen => nomatch unseen⟩
      cases status : peer.status <;> simp [Peer.isRevoked, status]
    · exact ⟨rfl, rfl, rfl, rfl, fun _ => rfl⟩
  · exact ⟨rfl, rfl, rfl, rfl, fun _ => rfl⟩

theorem reconciled_row {store : Store} {router : Nat} {hubPeer : HubPeer} {peer : Peer}
    (member : peer ∈ (store.reconciled router hubPeer).peers) :
    ∃ old ∈ store.peers, peer.router = old.router ∧ peer.publicKey = old.publicKey ∧
      peer.tunnelIpAddress = old.tunnelIpAddress ∧ peer.isRevoked = old.isRevoked ∧
      (peer.lastHandshakeAt = none → peer = old) := by
  obtain ⟨old, listed, became⟩ := List.mem_map.mp member
  refine ⟨old, listed, ?_⟩
  split at became
  · subst became
    exact reconcile_kept old hubPeer.lastHandshake
  · subst became
    exact ⟨rfl, rfl, rfl, rfl, fun _ => rfl⟩

theorem reconciled_column {Seen : Type} (column : Peer → Seen) (store : Store) (router : Nat)
    (hubPeer : HubPeer)
    (kept : ∀ peer, column (peer.reconcile hubPeer.lastHandshake) = column peer) :
    (store.reconciled router hubPeer).peers.map column = store.peers.map column := by
  rw [Store.reconciled, List.map_map]
  apply List.map_congr_left
  intro peer _
  simp only [Function.comp_apply]
  split
  · exact kept peer
  · rfl

theorem Constrained.reconciled {store : Store} (constrained : Constrained store.peers) (router : Nat)
    (hubPeer : HubPeer) : Constrained (store.reconciled router hubPeer).peers := by
  constructor
  · rw [reconciled_column Peer.router]
    · exact constrained.routers
    · exact fun peer => (reconcile_kept peer _).1
  · rw [reconciled_column Peer.publicKey]
    · exact constrained.keys
    · exact fun peer => (reconcile_kept peer _).2.1
  · rw [reconciled_column Peer.tunnelIpAddress]
    · exact constrained.addresses
    · exact fun peer => (reconcile_kept peer _).2.2.1

/-- What an adoption leaves of the rows and of the ledger, whether its previous key was settled. -/
structure Rewritten (store : Store) (row : Peer) (after : Store) : Prop where
  saved : Saved store.peers row after.peers
  hub : after.hub.Sublist store.hub
  ledger : identities after.ledger =
    identities store.ledger ++ [(row.router, row.publicKey, row.tunnelIpAddress)]

theorem rewritten_adopted {bridge : Bridge} {hubPeers : List HubPeer} {store after : Store}
    {peer : Peer} {key : Text} {ip : TunnelIp} {handshake : Option Int} {source : PeerIdentitySource}
    (member : peer ∈ store.peers) (listed : store.hubKeys ⊆ hubPeers.map HubPeer.publicKey)
    (applied : applyAdoption bridge hubPeers store peer key ip handshake source = .adopted after) :
    Rewritten store (peer.adopt key ip handshake) after := by
  obtain ⟨peers, settled, saved, ending, rfl⟩ := applyAdoption_adopted member listed applied
  rcases ending with ⟨-, rfl⟩ | ⟨-, retired⟩
  · constructor
    · simpa [Store.record] using saved
    · simp [Store.record]
    · simp [Store.record, Peer.adopt]
  · constructor
    · simpa [retired.peers, Store.record] using saved
    · simpa [Store.record] using retired.hub_sublist
    · simp [retired.identities, Store.record, Peer.adopt]

theorem rewritten_unreachable {bridge : Bridge} {hubPeers : List HubPeer} {store after : Store}
    {peer : Peer} {key : Text} {ip : TunnelIp} {handshake : Option Int} {source : PeerIdentitySource}
    (member : peer ∈ store.peers)
    (applied : applyAdoption bridge hubPeers store peer key ip handshake source = .unreachable after) :
    Rewritten store (peer.adopt key ip handshake) after := by
  obtain ⟨peers, saved, rfl, -⟩ := applyAdoption_unreachable member applied
  constructor
  · exact saved
  · exact List.Sublist.refl _
  · simp [Store.record, Peer.adopt]

theorem Underway.unchanged {read : FleetRead} {done : List HubPeer} {store : Store}
    (constrained : Constrained read.before.peers) (peers : store.peers = read.before.peers)
    (ledger : store.ledger = read.before.ledger) (hub : store.hub.Sublist read.before.hub) :
    Underway read done store := by
  refine ⟨peers ▸ constrained, hub, ?_, [], by simp [ledger], by simp⟩
  intro peer stored
  rw [peers] at stored
  exact ⟨peer, stored, rfl, rfl, fun _ => rfl⟩

theorem Underway.listed {read : FleetRead} {done : List HubPeer} {store : Store}
    (underway : Underway read done store) :
    store.hubKeys ⊆ read.before.hub.map HubPeer.publicKey :=
  (underway.hub.map _).subset

theorem Underway.rewritten {read : FleetRead} {done : List HubPeer} {store after : Store}
    {hubPeer : HubPeer} {peer : Peer} (underway : Underway read done store)
    (attempt : Attempt read hubPeer store peer)
    (written : Rewritten (store.corrected hubPeer)
      (peer.adopt hubPeer.publicKey (adoptedIp hubPeer peer) hubPeer.lastHandshake) after) :
    Underway read (done ++ [hubPeer]) after := by
  have able : canAdopt read hubPeer peer = true := (Bool.and_eq_true_iff.mp attempt.adoptable).2
  obtain ⟨unseen, standing, -, seen⟩ := canAdopt_handshake able
  constructor
  · exact written.saved.constrained underway.constrained
  · exact written.hub.trans underway.hub
  · intro row stored
    rcases written.saved.origin row stored with rfl | ⟨held, -⟩
    · -- The row that was adopted has been seen, and is not what it was.
      exact ⟨peer, attempt.before, rfl, by simp [Peer.adopt, Peer.isRevoked] at standing ⊢; exact standing,
        fun silent => absurd silent seen⟩
    · exact underway.origin row held
  · obtain ⟨added, grown, processed⟩ := underway.ledger
    refine ⟨added ++ [(peer.router, hubPeer.publicKey, adoptedIp hubPeer peer)], ?_, ?_⟩
    · rw [written.ledger, Store.corrected, identities_correctLedger, grown, List.append_assoc]
      rfl
    · intro identity listed
      rw [List.map_append]
      rcases List.mem_append.mp listed with earlier | last
      · exact List.mem_append_left _ (processed identity earlier)
      · obtain rfl := List.mem_singleton.mp last
        simp

theorem Underway.change {bridge : Bridge} {read : FleetRead} {done : List HubPeer}
    {store after : Store} {hubPeer : HubPeer} (underway : Underway read done store)
    (change : FleetChange bridge read hubPeer store after) :
    Underway read (done ++ [hubPeer]) after := by
  obtain ⟨added, grown, processed⟩ := underway.ledger
  have later : ∀ identity ∈ added, identity.2.1 ∈ (done ++ [hubPeer]).map HubPeer.publicKey := by
    intro identity listed
    rw [List.map_append]
    exact List.mem_append_left _ (processed identity listed)
  cases change with
  | seen => exact ⟨underway.constrained, underway.hub, underway.origin, added, grown, later⟩
  | reconciled router =>
      refine ⟨underway.constrained.reconciled router hubPeer, underway.hub, ?_, added, grown, later⟩
      intro peer stored
      obtain ⟨old, held, router, -, -, revoked, same⟩ := reconciled_row stored
      obtain ⟨row, listed, own, standing, unchanged⟩ := underway.origin old held
      refine ⟨row, listed, own.trans router.symm, revoked.trans standing, ?_⟩
      intro unseen
      have kept := same unseen
      rw [kept] at unseen ⊢
      exact unchanged unseen
  | corrected =>
      refine ⟨underway.constrained, underway.hub, underway.origin, added, ?_, later⟩
      rw [Store.corrected, identities_correctLedger, grown]
  | adopted attempt applied =>
      apply underway.rewritten attempt
      exact rewritten_adopted attempt.member underway.listed applied
  | interrupted attempt applied =>
      apply underway.rewritten attempt
      exact rewritten_unreachable attempt.member applied

theorem fleetLoop_induction {bridge : Bridge} {read : FleetRead} (holds : Store → Prop)
    (constrained : Constrained read.before.peers)
    (distinct : (read.before.hub.map HubPeer.publicKey).Nodup) (start : holds read.before)
    (kept : ∀ done hubPeer store after, hubPeer ∈ read.before.hub → Underway read done store →
      holds store → FleetChange bridge read hubPeer store after → holds after) :
    match fleetLoop bridge read read.before.hub ⟨read.before, [], []⟩ with
    | .ok final => holds final.store
    | .error hub => hub.Sublist read.before.hub := by
  -- What holds when a pass begins and is kept by what a hub peer can do holds after it; a pass
  -- that raises has only taken peers off the hub.
  have looped : ∀ (rest done : List HubPeer) (pass : Pass), read.before.hub = done ++ rest →
      Underway read done pass.store → holds pass.store →
      match fleetLoop bridge read rest pass with
      | .ok final => holds final.store
      | .error hub => hub.Sublist read.before.hub := by
    intro rest
    induction rest with
    | nil => exact fun _ _ _ _ held => held
    | cons hubPeer rest ih =>
        intro done pass split underway held
        have fresh : hubPeer.publicKey ∉ done.map HubPeer.publicKey := by
          rw [split, List.map_append, List.map_cons, List.nodup_append] at distinct
          exact fun listed => distinct.2.2 _ listed _ List.mem_cons_self rfl
        unfold fleetLoop
        cases advanced : fleetStep bridge read pass hubPeer with
        | ok next =>
            have change := fleetStep_change underway fresh advanced
            have listed : hubPeer ∈ read.before.hub := by simp [split]
            exact ih (done ++ [hubPeer]) next (by simp [split]) (underway.change change)
              (kept done hubPeer _ _ listed underway held change)
        | error hub =>
            dsimp only
            rw [fleetStep_error advanced]
            exact underway.hub
  apply looped read.before.hub [] ⟨read.before, [], []⟩ rfl _ start
  exact Underway.unchanged constrained rfl rfl (List.Sublist.refl _)

theorem fleet_induction {bridge : Bridge} {read : FleetRead} (holds : Store → Prop)
    (constrained : Constrained read.before.peers)
    (distinct : (read.before.hub.map HubPeer.publicKey).Nodup) (start : holds read.before)
    (kept : ∀ done hubPeer store after, hubPeer ∈ read.before.hub → Underway read done store →
      holds store → FleetChange bridge read hubPeer store after → holds after)
    {pass : Pass} (returned : getFleetStatus bridge read = .ok pass) : holds pass.store := by
  have looped := fleetLoop_induction holds constrained distinct start kept
  unfold getFleetStatus at returned
  cases ended : fleetLoop bridge read read.before.hub ⟨read.before, [], []⟩ with
  | ok final =>
      rw [ended] at looped returned
      cases returned
      exact looped
  | error hub =>
      rw [ended] at returned
      cases returned

theorem getFleetStatus_error {bridge : Bridge} {read : FleetRead}
    (constrained : Constrained read.before.peers)
    (distinct : (read.before.hub.map HubPeer.publicKey).Nodup) {hub : List HubPeer}
    (raised : getFleetStatus bridge read = .error hub) : hub.Sublist read.before.hub := by
  unfold getFleetStatus at raised
  cases ended : fleetLoop bridge read read.before.hub ⟨read.before, [], []⟩ with
  | ok final =>
      rw [ended] at raised
      cases raised
  | error left =>
      have looped := fleetLoop_induction (fun _ => True) constrained distinct trivial
        fun done hubPeer store after _ _ _ (_ : FleetChange bridge read hubPeer store after) => trivial
      rw [ended] at looped raised
      cases raised
      exact looped

end CloudGuest.Wireguard
