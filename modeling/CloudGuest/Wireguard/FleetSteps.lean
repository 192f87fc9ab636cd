import CloudGuest.Wireguard.FleetEffects

/-!
The loop of `get_fleet_status` step by step: where it raises, which rows it rewrites,
and that each of its steps has the effects of the hub peer it comes to.
-/

namespace CloudGuest.Wireguard
open Texts Rows

/-! ### The loop -/

def FleetRead.chosenRow (read : FleetRead) (store : Store) (hubPeer : HubPeer) : Option Peer :=
  if read.isUntracked hubPeer then
    (getIssuanceByPublicKey store.ledger hubPeer.publicKey).bind fun issuance =>
      if read.adopt then
        (getPeerByRouterId store.peers issuance.router).filter (canAdopt read hubPeer)
      else none
  else none

def adoptionsFrom (bridge : Bridge) (read : FleetRead) : List HubPeer → Pass → List (Nat × Text)
  | [], _ => []
  | hubPeer :: rest, pass =>
      match fleetStep bridge read pass hubPeer with
      | .ok next =>
          ((read.chosenRow pass.store hubPeer).map fun row => (row.router, hubPeer.publicKey)).toList ++
            adoptionsFrom bridge read rest next
      | .error _ => []

def isStuck (bridge : Bridge) (hubKeys : List Text) (previous : Text) : Bool :=
  previous ≠ [] && previous ∈ hubKeys && (bridge.removal hubKeys previous).isNone

def FleetRead.statusFor (bridge : Bridge) (read : FleetRead) (hubPeer : HubPeer) : FleetPeerStatus :=
  match read.before.peers.find? (·.publicKey = hubPeer.publicKey) with
  | some row =>
      if addressMismatch hubPeer row then .trackedKeyMismatch
      else if read.isRecent hubPeer.lastHandshake then .trackedConnected
      else .trackedStale
  | none =>
      match read.adoptedRow hubPeer with
      | some row =>
          if isStuck bridge read.before.hubKeys row.publicKey then .adoptableMismatch
          else .trackedConnected
      | none =>
          if (getIssuanceByPublicKey read.before.ledger hubPeer.publicKey).isNone then
            .untrackedConnected
          else if read.isRecent hubPeer.lastHandshake then .adoptableMismatch
          else .knownOrphan

/-- Where a pass is when it has gone through some of the hub. -/
structure Agrees (bridge : Bridge) (read : FleetRead) (done : List HubPeer) (pass : Pass) : Prop where
  peers : pass.store.peers = read.before.peers.map (read.rowAfter done)
  ledger : pass.store.ledger = read.ledgerAfter bridge done ++ done.filterMap read.recorded
  hub : ∀ row ∈ read.before.peers, (∀ hubPeer ∈ done, read.isAdoptable hubPeer row = false) →
    (row.publicKey ∈ pass.store.hubKeys ↔ row.publicKey ∈ read.before.hubKeys)
  entries : pass.entries.map (fun entry => (entry.publicKey, entry.status)) =
    done.map fun hubPeer => (hubPeer.publicKey, read.statusFor bridge hubPeer)

section Step

variable {bridge : Bridge} {read : FleetRead} {done : List HubPeer} {pass : Pass} {hubPeer : HubPeer}

theorem rowAfter_router (clear : Unambiguous read) {row : Peer} (member : row ∈ read.before.peers)
    (begun : Begun read done) : (read.rowAfter done row).router = row.router := by
  have became := touched clear member begun
  generalize read.rowAfter done row = current at became
  cases became with
  | adopted => rfl
  | unseen => rfl
  | reconciled => exact (reconcile_kept row _).1

theorem getPeerByRouterId_map {peers : List Peer} {change : Peer → Peer}
    (kept : ∀ peer ∈ peers, (change peer).router = peer.router) (router : Nat) :
    getPeerByRouterId (peers.map change) router = (getPeerByRouterId peers router).map change := by
  unfold getPeerByRouterId
  rw [List.find?_map]
  refine congrArg (Option.map change) (List.find?_congr ?_)
  intro peer member
  simp [kept peer member]

theorem Agrees.found (clear : Unambiguous read) (begun : Begun read done)
    (agrees : Agrees bridge read done pass) (router : Nat) :
    getPeerByRouterId pass.store.peers router =
      (getPeerByRouterId read.before.peers router).map (read.rowAfter done) := by
  rw [agrees.peers]
  exact getPeerByRouterId_map (fun row member => rowAfter_router clear member begun) router

theorem attribute_identities (ledger : List Issuance) :
    identities (read.attribute bridge hubPeer ledger) = identities ledger := by
  unfold FleetRead.attribute
  cases read.adoptedRow hubPeer with
  | some row =>
      have same : Issuance.identity ∘ (fun issuance : Issuance =>
          issuance.supersedeFor row.router hubPeer.publicKey) = Issuance.identity := by
        funext issuance
        exact supersedeFor_identity issuance row.router hubPeer.publicKey
      unfold FleetRead.supersede identities
      simp only [Function.comp_apply]
      rw [changeNewest_map Issuance.identity (retire_identity _), List.map_map, same]
      exact identities_correctLedger ledger hubPeer.publicKey
  | none =>
      dsimp only
      split
      · exact identities_correctLedger ledger hubPeer.publicKey
      · rfl

theorem ledgerAfter_identities (done : List HubPeer) :
    identities (read.ledgerAfter bridge done) = identities read.before.ledger := by
  induction done using List.reverseRecOn with
  | nil => rfl
  | append_singleton done hubPeer ih => rw [ledgerAfter_concat, attribute_identities, ih]

theorem recorded_publicKey {issuance : Issuance} (listed : issuance ∈ done.filterMap read.recorded) :
    ∃ other ∈ done, ∃ row, read.adoptedRow other = some row ∧ issuance.publicKey = other.publicKey ∧
      issuance.router = row.router := by
  obtain ⟨other, member, kept⟩ := List.mem_filterMap.mp listed
  obtain ⟨row, found, rfl⟩ := Option.map_eq_some_iff.mp kept
  exact ⟨other, member, row, found, rfl, rfl⟩

theorem recorded_keys {key : Text} (others : ∀ other ∈ done, other.publicKey ≠ key) :
    key ∉ (done.filterMap read.recorded).map Issuance.publicKey := by
  intro listed
  obtain ⟨issuance, member, rfl⟩ := List.mem_map.mp listed
  obtain ⟨other, held, row, -, same, -⟩ := recorded_publicKey member
  exact others other held same.symm

theorem Agrees.attribution (agrees : Agrees bridge read done pass) {key : Text}
    (fresh : ∀ other ∈ done, other.publicKey ≠ key) :
    latestIdentity pass.store.ledger key = latestIdentity read.before.ledger key := by
  have grown : identities pass.store.ledger =
      identities read.before.ledger ++ identities (done.filterMap read.recorded) := by
    rw [agrees.ledger, identities, List.map_append]
    exact congrArg (· ++ _) (ledgerAfter_identities done)
  apply latestIdentity_append grown
  rw [← keysOf_identities]
  exact recorded_keys fresh

theorem isAdoptable_canAdopt {row : Peer} (able : read.isAdoptable hubPeer row = true) :
    canAdopt read hubPeer row = true := by
  unfold FleetRead.isAdoptable at able
  exact (Bool.and_eq_true_iff.mp able).2

theorem rowAfter_adoptable (clear : Unambiguous read) (begun : Begun read (done ++ [hubPeer]))
    {row : Peer} (member : row ∈ read.before.peers) (able : read.isAdoptable hubPeer row = true) :
    read.rowAfter done row = row := by
  obtain ⟨earlier, here, fresh⟩ := begun.earlier
  have became := touched clear member earlier
  generalize read.rowAfter done row = current at became
  cases became with
  | @adopted other listed otherAble =>
      have one := clear.only row member hubPeer here other (earlier.listed other listed) able otherAble
      subst one
      exact absurd rfl (fresh _ listed)
  | unseen => rfl
  | @reconciled own _ listed same =>
      rw [clear.silent row member hubPeer here own (earlier.listed own listed) able same,
        reconcile_none]

theorem canAdopt_rowAfter (clear : Unambiguous read) (begun : Begun read (done ++ [hubPeer]))
    {row : Peer} (member : row ∈ read.before.peers)
    (able : canAdopt read hubPeer (read.rowAfter done row) = true) :
    canAdopt read hubPeer row = true := by
  -- Nothing that happens to a row before makes it a row to adopt the hub peer for.
  obtain ⟨earlier, -, -⟩ := begun.earlier
  have unseen := (canAdopt_handshake able).1
  have became := touched clear member earlier
  generalize read.rowAfter done row = current at able unseen became
  cases became with
  | adopted _ otherAble =>
      obtain ⟨-, -, -, seen⟩ := canAdopt_handshake (isAdoptable_canAdopt otherAble)
      exact absurd unseen seen
  | unseen => exact able
  | reconciled =>
      rw [(reconcile_kept row _).2.2.2.2 unseen] at able
      exact able

theorem adoptedRow_eq (constrained : Constrained read.before.peers) {row : Peer}
    (member : row ∈ read.before.peers) (able : read.isAdoptable hubPeer row = true) :
    read.adoptedRow hubPeer = some row := by
  cases found : read.adoptedRow hubPeer with
  | none => exact absurd able (by simpa using List.find?_eq_none.mp found row member)
  | some other =>
      obtain ⟨held, otherAble⟩ := adoptedRow_some found
      have routers : other.router = row.router := by
        simp only [FleetRead.isAdoptable, Bool.and_eq_true] at able otherAble
        obtain ⟨issuance, latest, own⟩ := (Option.any_eq_true _ _).mp able.1.2
        have other_own := otherAble.1.2
        rw [latest] at other_own
        simp only [Option.any_some, decide_eq_true_eq] at own other_own
        exact other_own.symm.trans own
      rw [constrained.same_router held member routers]

theorem adoptedRow_none (none : read.adoptedRow hubPeer = none) :
    ∀ row ∈ read.before.peers, read.isAdoptable hubPeer row = false := by
  intro row member
  simpa using List.find?_eq_none.mp none row member

theorem Agrees.chosen (clear : Unambiguous read) (constrained : Constrained read.before.peers)
    (adopting : read.adopt = true) (begun : Begun read (done ++ [hubPeer]))
    (agrees : Agrees bridge read done pass) :
    read.chosenRow pass.store hubPeer = read.adoptedRow hubPeer := by
  obtain ⟨earlier, -, fresh⟩ := begun.earlier
  have attributed := agrees.attribution fresh
  unfold FleetRead.chosenRow
  simp only [adopting, if_true]
  split
  · rename_i untracked
    cases latest : getIssuanceByPublicKey pass.store.ledger hubPeer.publicKey with
    | none =>
        cases found : read.adoptedRow hubPeer with
        | none => rfl
        | some row =>
            have able := (adoptedRow_some found).2
            simp only [latestIdentity, latest, Option.map_none] at attributed
            simp only [FleetRead.isAdoptable, Option.map_eq_none_iff.mp attributed.symm,
              Option.any_none, Bool.and_false, Bool.false_and] at able
            cases able
    | some issuance =>
        have owner : ∀ router, (getIssuanceByPublicKey read.before.ledger hubPeer.publicKey).any
            (·.router = router) = decide (issuance.router = router) := by
          intro router
          rw [attributes_iff, ← attributed, ← attributes_iff, latest]
          rfl
        rw [Option.bind_some, agrees.found clear earlier]
        cases stored : getPeerByRouterId read.before.peers issuance.router with
        | none =>
            cases found : read.adoptedRow hubPeer with
            | none => rfl
            | some row =>
                obtain ⟨member, able⟩ := adoptedRow_some found
                simp only [FleetRead.isAdoptable, owner, Bool.and_eq_true, decide_eq_true_eq] at able
                exact absurd able.1.2.symm (getPeerByRouterId_none stored row member)
        | some row =>
            obtain ⟨member, own⟩ := getPeerByRouterId_some stored
            rw [Option.map_some]
            cases able : canAdopt read hubPeer (read.rowAfter done row) with
            | true =>
                have adoptable : read.isAdoptable hubPeer row = true := by
                  simp [FleetRead.isAdoptable, untracked, owner, own,
                    canAdopt_rowAfter clear begun member able]
                rw [Option.filter_some, if_pos able, rowAfter_adoptable clear begun member adoptable,
                  adoptedRow_eq constrained member adoptable]
            | false =>
                rw [Option.filter_some, if_neg (by simp [able])]
                cases found : read.adoptedRow hubPeer with
                | none => rfl
                | some other =>
                    obtain ⟨held, otherAble⟩ := adoptedRow_some found
                    have routers : other.router = row.router := by
                      simp only [FleetRead.isAdoptable, owner, Bool.and_eq_true,
                        decide_eq_true_eq] at otherAble
                      exact otherAble.1.2.symm.trans own.symm
                    obtain rfl := constrained.same_router held member routers
                    rw [rowAfter_adoptable clear begun held otherAble,
                      isAdoptable_canAdopt otherAble] at able
                    cases able
  · rename_i tracked
    cases found : read.adoptedRow hubPeer with
    | none => rfl
    | some row =>
        have able := (adoptedRow_some found).2
        simp [FleetRead.isAdoptable, tracked] at able

theorem Agrees.unique (clear : Unambiguous read) (begun : Begun read (done ++ [hubPeer]))
    (agrees : Agrees bridge read done pass) {row : Peer}
    (found : read.adoptedRow hubPeer = some row) :
    isDuplicate pass.store.peers
      (row.adopt hubPeer.publicKey (adoptedIp hubPeer row) hubPeer.lastHandshake) = false := by
  obtain ⟨earlier, here, fresh⟩ := begun.earlier
  obtain ⟨member, able⟩ := adoptedRow_some found
  rw [isDuplicate, List.any_eq_false]
  intro current stored
  rw [agrees.peers] at stored
  obtain ⟨other, held, rfl⟩ := List.mem_map.mp stored
  have routers := rowAfter_router clear held earlier
  have became := touched clear held earlier
  generalize read.rowAfter done other = current at routers became ⊢
  rw [Bool.not_eq_true, Bool.and_eq_false_iff]
  by_cases same : other.router = row.router
  · exact .inl (by simp [routers, same, Peer.adopt])
  · refine .inr ?_
    have key := isAdoptable_untracked able other held
    have place := clear.free row member hubPeer here able other held same
    cases became with
    | @adopted earlierPeer listed otherAble =>
        have moved := clear.apart row member hubPeer here other held earlierPeer
          (earlier.listed earlierPeer listed) able otherAble same
        simp [Peer.adopt, fresh earlierPeer listed, moved]
    | unseen => simp [Peer.adopt, key, place]
    | @reconciled own =>
        obtain ⟨-, sameKey, sameIp, -, -⟩ := reconcile_kept other own.lastHandshake
        simp [Peer.adopt, sameKey, sameIp, key, place]

end Step

theorem removal_congr (bridge : Bridge) {hubKeys hubKeys' : List Text} {key : Text}
    (same : key ∈ hubKeys ↔ key ∈ hubKeys') :
    bridge.removal hubKeys key = bridge.removal hubKeys' key := by
  unfold Bridge.removal
  simp only [same]

theorem retiredTo_congr (bridge : Bridge) {hubKeys hubKeys' : List Text} {key : Text}
    (same : key ∈ hubKeys ↔ key ∈ hubKeys') :
    retiredTo bridge hubKeys key = retiredTo bridge hubKeys' key := by
  unfold retiredTo
  simp only [same, removal_congr bridge same]

theorem isStuck_congr (bridge : Bridge) {hubKeys hubKeys' : List Text} {key : Text}
    (same : key ∈ hubKeys ↔ key ∈ hubKeys') :
    isStuck bridge hubKeys key = isStuck bridge hubKeys' key := by
  unfold isStuck
  simp only [same, removal_congr bridge same]

structure Settled (bridge : Bridge) (hubKeys : List Text) (store : Store) (previous : Text)
    (after : Store) : Prop where
  peers : after.peers = store.peers
  ledger : after.ledger = changeNewest Issuance.publicKey previous
    (Issuance.retire (retiredTo bridge hubKeys previous)) store.ledger
  hub : ∀ key, key ≠ previous → (key ∈ after.hubKeys ↔ key ∈ store.hubKeys)

theorem settlePrevious_stuck (bridge : Bridge) (hubPeers : List HubPeer) (store : Store)
    {previous key : Text} (different : previous ≠ key)
    (present : previous ∈ store.hubKeys ↔ previous ∈ hubPeers.map HubPeer.publicKey) :
    settlePrevious bridge hubPeers store previous key = none ∧
        isStuck bridge (hubPeers.map HubPeer.publicKey) previous = true ∧
        retiredTo bridge (hubPeers.map HubPeer.publicKey) previous = none ∨
      isStuck bridge (hubPeers.map HubPeer.publicKey) previous = false ∧
        ∃ after, settlePrevious bridge hubPeers store previous key = some after ∧
          Settled bridge (hubPeers.map HubPeer.publicKey) store previous after := by
  unfold settlePrevious isStuck retiredTo
  by_cases named : previous = []
  · refine .inr ⟨by simp [named], store, by simp [named], rfl, ?_, fun _ _ => Iff.rfl⟩
    rw [retiredTo, if_pos named]
    exact (changeNewest_same retire_none _ _).symm
  · rw [if_pos ⟨named, different⟩, if_neg named]
    by_cases listed : previous ∈ hubPeers.map HubPeer.publicKey
    · rw [if_pos listed, if_pos listed]
      unfold deregisterFromHub
      rw [removal_congr bridge present]
      cases answered : bridge.removal (hubPeers.map HubPeer.publicKey) previous with
      | none => exact .inl ⟨rfl, by simp [named, listed], rfl⟩
      | some outcome =>
          refine .inr ⟨by simp, _, rfl, rfl, ?_, ?_⟩
          · simp only [retiredTo, if_neg named, if_pos listed, answered, Option.map_some]
            rfl
          · intro other elsewhere
            unfold Store.hubKeys
            dsimp only
            split
            · simp only [List.mem_map, List.mem_filter, decide_eq_true_eq]
              constructor
              · rintro ⟨peer, ⟨member, -⟩, own⟩
                exact ⟨peer, member, own⟩
              · rintro ⟨peer, member, rfl⟩
                exact ⟨peer, ⟨member, elsewhere⟩, rfl⟩
            · rfl
    · rw [if_neg listed]
      refine .inr ⟨by simp [listed], _, rfl, rfl, ?_, fun _ _ => Iff.rfl⟩
      rw [retiredTo, if_neg named, if_neg listed]
      rfl

section Step

variable {bridge : Bridge} {read : FleetRead} {done : List HubPeer} {pass : Pass} {hubPeer : HubPeer}

theorem add_entries (pass : Pass) (status : FleetPeerStatus) (hubPeer : HubPeer)
    (router : Option Nat) (ip : Option TunnelIp) :
    (pass.add status hubPeer router ip).entries.map (fun entry => (entry.publicKey, entry.status)) =
      pass.entries.map (fun entry => (entry.publicKey, entry.status)) ++
        [(hubPeer.publicKey, status)] := by
  simp [Pass.add]

theorem isTracked_unadoptable (tracked : read.isUntracked hubPeer = false) (row : Peer) :
    read.isAdoptable hubPeer row = false := by
  simp [FleetRead.isAdoptable, tracked]

theorem addressMismatch_rowAfter (clear : Unambiguous read)
    (begun : Begun read (done ++ [hubPeer])) {row : Peer} (member : row ∈ read.before.peers)
    (own : hubPeer.publicKey = row.publicKey) :
    addressMismatch hubPeer ((read.rowAfter done row).reconcile hubPeer.lastHandshake) =
      addressMismatch hubPeer row := by
  obtain ⟨earlier, here, fresh⟩ := begun.earlier
  have kept := reconcile_kept (read.rowAfter done row) hubPeer.lastHandshake
  obtain ⟨-, -, sameIp, sameStatus, -⟩ := kept
  have became := touched clear member earlier
  generalize read.rowAfter done row = current at sameIp sameStatus became ⊢
  simp only [addressMismatch, sameIp, sameStatus]
  cases became with
  | @adopted other listed able =>
      have standing := (canAdopt_handshake (isAdoptable_canAdopt able)).2.1
      cases named : hubAddress hubPeer with
      | none => rfl
      | some address =>
          have placed := clear.placed row member other (earlier.listed other listed) hubPeer here able
            own address named
          have active : (row.adopt other.publicKey (adoptedIp other row)
              other.lastHandshake).isRevoked = false := rfl
          have moved : (row.adopt other.publicKey (adoptedIp other row)
              other.lastHandshake).tunnelIpAddress = adoptedIp other row := rfl
          simp [standing, active, moved, placed]
  | unseen => rfl
  | @reconciled earlierOwn _ listed same => exact absurd (same.trans own.symm) (fresh _ listed)

theorem Agrees.tracked (clear : Unambiguous read) (constrained : Constrained read.before.peers)
    (begun : Begun read (done ++ [hubPeer])) (agrees : Agrees bridge read done pass) {row : Peer}
    (found : read.before.peers.find? (·.publicKey = hubPeer.publicKey) = some row) :
    Agrees bridge read (done ++ [hubPeer]) (fleetTracked read pass hubPeer row.router) := by
  obtain ⟨earlier, here, fresh⟩ := begun.earlier
  have member := List.mem_of_find?_eq_some found
  have own : row.publicKey = hubPeer.publicKey := by simpa using List.find?_some found
  have tracked : read.isUntracked hubPeer = false := by
    rw [← Bool.not_eq_true, isUntracked_iff]
    exact fun untracked => untracked row member own
  have idle : read.adoptedRow hubPeer = none :=
    List.find?_eq_none.mpr fun other _ => by simp [isTracked_unadoptable tracked other]
  have peers : (pass.store.peers.map fun peer =>
      if peer.router = row.router then peer.reconcile hubPeer.lastHandshake else peer) =
        read.before.peers.map (read.rowAfter (done ++ [hubPeer])) := by
    rw [agrees.peers, List.map_map]
    apply List.map_congr_left
    intro other held
    simp only [Function.comp_apply]
    rw [rowAfter_concat, FleetRead.touch, isTracked_unadoptable tracked, if_neg Bool.false_ne_true,
      rowAfter_router clear held earlier]
    by_cases same : other.router = row.router
    · obtain rfl := constrained.same_router held member same
      rw [if_pos rfl, if_pos own.symm]
    · rw [if_neg same, if_neg]
      intro key
      exact same (congrArg Peer.router (constrained.same_key held member (key.symm.trans own.symm)))
  have stored : getPeerByRouterId (pass.store.peers.map fun peer =>
      if peer.router = row.router then peer.reconcile hubPeer.lastHandshake else peer) row.router =
        some ((read.rowAfter done row).reconcile hubPeer.lastHandshake) := by
    rw [getPeerByRouterId_map, agrees.found clear earlier, constrained.found member, Option.map_some,
      Option.map_some, if_pos (rowAfter_router clear member earlier)]
    intro peer _
    split
    · exact (reconcile_kept peer _).1
    · rfl
  unfold fleetTracked
  dsimp only
  rw [stored]
  dsimp only
  constructor
  · exact peers
  · rw [ledgerAfter_concat, FleetRead.attribute, idle, tracked, List.filterMap_append]
    simpa [FleetRead.recorded, idle, Pass.add] using agrees.ledger
  · intro other held unable
    exact agrees.hub other held fun earlierPeer listed => unable _ (List.mem_append_left _ listed)
  · rw [add_entries, List.map_append, List.map_singleton, ← agrees.entries,
      addressMismatch_rowAfter clear begun member own.symm, FleetRead.statusFor, found]

theorem isAdoptable_iff (constrained : Constrained read.before.peers) {row other : Peer}
    (found : read.adoptedRow hubPeer = some row) (held : other ∈ read.before.peers) :
    read.isAdoptable hubPeer other = true ↔ other = row := by
  obtain ⟨-, able⟩ := adoptedRow_some found
  constructor
  · intro otherAble
    exact Option.some.inj ((adoptedRow_eq constrained held otherAble).symm.trans found)
  · rintro rfl
    exact able

theorem rowAfter_idle (untracked : read.isUntracked hubPeer = true)
    (idle : read.adoptedRow hubPeer = none) {row : Peer} (member : row ∈ read.before.peers) :
    read.rowAfter (done ++ [hubPeer]) row = read.rowAfter done row := by
  rw [rowAfter_concat, FleetRead.touch, adoptedRow_none idle row member, if_neg Bool.false_ne_true,
    if_neg (isUntracked_iff.mp untracked row member).symm]

theorem Agrees.idle (agrees : Agrees bridge read done pass)
    (untracked : read.isUntracked hubPeer = true) (idle : read.adoptedRow hubPeer = none)
    {after : Pass} (peers : after.store.peers = pass.store.peers)
    (ledger : after.store.ledger = correctLedger pass.store.ledger hubPeer.publicKey)
    (fresh : ∀ other ∈ done, other.publicKey ≠ hubPeer.publicKey)
    (hub : after.store.hub = pass.store.hub)
    (entries : after.entries.map (fun entry => (entry.publicKey, entry.status)) =
      pass.entries.map (fun entry => (entry.publicKey, entry.status)) ++
        [(hubPeer.publicKey, read.statusFor bridge hubPeer)]) :
    Agrees bridge read (done ++ [hubPeer]) after := by
  constructor
  · rw [peers, agrees.peers]
    exact List.map_congr_left fun row member => (rowAfter_idle untracked idle member).symm
  · rw [ledger, agrees.ledger, ledgerAfter_concat, FleetRead.attribute, idle, List.filterMap_append,
      correctLedger, changeNewest_append _ _ (recorded_keys fresh)]
    simp [FleetRead.recorded, idle, untracked, correctLedger]
  · intro row member unable
    rw [Store.hubKeys, hub]
    exact agrees.hub row member fun other listed => unable _ (List.mem_append_left _ listed)
  · rw [entries, agrees.entries, List.map_append, List.map_singleton]

theorem rowAfter_adopted (clear : Unambiguous read) (constrained : Constrained read.before.peers)
    (begun : Begun read (done ++ [hubPeer])) {row : Peer}
    (found : read.adoptedRow hubPeer = some row) :
    ((read.before.peers.map (read.rowAfter done)).map fun peer =>
        if peer.router = row.router then
          row.adopt hubPeer.publicKey (adoptedIp hubPeer row) hubPeer.lastHandshake
        else peer) = read.before.peers.map (read.rowAfter (done ++ [hubPeer])) := by
  obtain ⟨earlier, -, -⟩ := begun.earlier
  obtain ⟨member, able⟩ := adoptedRow_some found
  rw [List.map_map]
  apply List.map_congr_left
  intro other held
  simp only [Function.comp_apply]
  rw [rowAfter_concat, FleetRead.touch, rowAfter_router clear held earlier]
  by_cases same : other.router = row.router
  · obtain rfl := constrained.same_router held member same
    rw [if_pos rfl, if_pos able, rowAfter_adoptable clear begun member able]
  · have unable : read.isAdoptable hubPeer other = false := by
      rw [← Bool.not_eq_true, isAdoptable_iff constrained found held]
      rintro rfl
      exact same rfl
    rw [if_neg same, unable, if_neg Bool.false_ne_true,
      if_neg (isAdoptable_untracked able other held).symm]

theorem recorded_superseded (clear : Unambiguous read) (constrained : Constrained read.before.peers)
    (begun : Begun read (done ++ [hubPeer])) {row : Peer}
    (found : read.adoptedRow hubPeer = some row) :
    (done.filterMap read.recorded).map (·.supersedeFor row.router hubPeer.publicKey) =
      done.filterMap read.recorded := by
  obtain ⟨earlier, here, fresh⟩ := begun.earlier
  obtain ⟨member, able⟩ := adoptedRow_some found
  refine (List.map_congr_left ?_).trans (List.map_id _)
  intro issuance listed
  obtain ⟨other, otherListed, otherRow, otherFound, -, router⟩ := recorded_publicKey listed
  obtain ⟨held, otherAble⟩ := adoptedRow_some otherFound
  refine if_neg fun same => ?_
  obtain rfl := constrained.same_router held member (router.symm.trans same.1)
  have one := clear.only otherRow member hubPeer here other (earlier.listed other otherListed) able
    otherAble
  subst one
  exact fresh _ otherListed rfl

theorem Agrees.recorded (clear : Unambiguous read) (constrained : Constrained read.before.peers)
    (begun : Begun read (done ++ [hubPeer])) (agrees : Agrees bridge read done pass) {row : Peer}
    (found : read.adoptedRow hubPeer = some row) :
    recordIssuance (correctLedger pass.store.ledger hubPeer.publicKey) row.router hubPeer.publicKey
        (adoptedIp hubPeer row) .adopted .live =
      (correctLedger (read.ledgerAfter bridge done) hubPeer.publicKey).map
          (·.supersedeFor row.router hubPeer.publicKey) ++
        (done ++ [hubPeer]).filterMap read.recorded := by
  obtain ⟨-, -, fresh⟩ := begun.earlier
  rw [agrees.ledger, correctLedger, changeNewest_append _ _ (recorded_keys fresh), recordIssuance,
    List.map_append, recorded_superseded clear constrained begun found, List.filterMap_append,
    List.append_assoc]
  simp [FleetRead.recorded, found, correctLedger]

theorem recorded_keys_row {row : Peer} (member : row ∈ read.before.peers) :
    row.publicKey ∉ ((done ++ [hubPeer]).filterMap read.recorded).map Issuance.publicKey := by
  intro listed
  obtain ⟨issuance, kept, own⟩ := List.mem_map.mp listed
  obtain ⟨other, -, otherRow, otherFound, same, -⟩ := recorded_publicKey kept
  have foreign := isAdoptable_untracked (adoptedRow_some otherFound).2 row member
  exact foreign (own.symm.trans same)

theorem Agrees.adopt (clear : Unambiguous read) (constrained : Constrained read.before.peers)
    (begun : Begun read (done ++ [hubPeer]))
    (agrees : Agrees bridge read done pass) {row : Peer}
    (found : read.adoptedRow hubPeer = some row) :
    let store := { pass.store with ledger := correctLedger pass.store.ledger hubPeer.publicKey }
    ∃ after, Agrees bridge read (done ++ [hubPeer])
        ({ pass with store := after }.add (read.statusFor bridge hubPeer) hubPeer none none) ∧
      (isStuck bridge read.before.hubKeys row.publicKey = true ∧
          applyAdoption bridge read.before.hub store row hubPeer.publicKey (adoptedIp hubPeer row)
            hubPeer.lastHandshake .adopted = .unreachable after ∨
        isStuck bridge read.before.hubKeys row.publicKey = false ∧
          applyAdoption bridge read.before.hub store row hubPeer.publicKey (adoptedIp hubPeer row)
            hubPeer.lastHandshake .adopted = .adopted after) := by
  intro store
  obtain ⟨earlier, here, fresh⟩ := begun.earlier
  obtain ⟨member, able⟩ := adoptedRow_some found
  have different := isAdoptable_untracked able row member
  have unable : ∀ other ∈ done, read.isAdoptable other row = false := by
    intro other listed
    rw [← Bool.not_eq_true]
    intro otherAble
    have one := clear.only row member hubPeer here other (earlier.listed other listed) able otherAble
    subst one
    exact fresh _ listed rfl
  have rows := rowAfter_adopted clear constrained begun found
  rw [← agrees.peers] at rows
  have ledger := agrees.recorded clear constrained begun found
  have keys : row.publicKey ∉
      ((done ++ [hubPeer]).filterMap read.recorded).map Issuance.publicKey := recorded_keys_row member
  have hub : ∀ other ∈ read.before.peers,
      (∀ earlierPeer ∈ done ++ [hubPeer], read.isAdoptable earlierPeer other = false) →
        (other.publicKey ∈ pass.store.hubKeys ↔ other.publicKey ∈ read.before.hubKeys) ∧
          other.publicKey ≠ row.publicKey := by
    intro other held none
    refine ⟨agrees.hub other held fun _ listed => none _ (List.mem_append_left _ listed), ?_⟩
    intro same
    obtain rfl := constrained.same_key held member same
    have unadopted := none hubPeer (by simp)
    rw [able] at unadopted
    cases unadopted
  unfold applyAdoption updatePeer
  rw [agrees.unique clear begun found]
  dsimp only
  rw [if_neg Bool.false_ne_true]
  dsimp only
  rcases settlePrevious_stuck bridge read.before.hub
      { store with
        peers := pass.store.peers.map fun peer =>
          if peer.router = (row.adopt hubPeer.publicKey (adoptedIp hubPeer row)
            hubPeer.lastHandshake).router
          then row.adopt hubPeer.publicKey (adoptedIp hubPeer row) hubPeer.lastHandshake else peer
        ledger := recordIssuance store.ledger row.router hubPeer.publicKey (adoptedIp hubPeer row)
          .adopted .live }
      different (agrees.hub row member unable) with ⟨raised, stuck, kept⟩ | ⟨free, after, settles, settled⟩
  · rw [raised]
    refine ⟨_, ?_, .inl ⟨stuck, rfl⟩⟩
    constructor
    · exact rows
    · rw [ledgerAfter_concat, FleetRead.attribute, found]
      refine ledger.trans (congrArg (· ++ _) ?_)
      dsimp only [FleetRead.supersede, Function.comp_apply]
      rw [Store.hubKeys, kept, changeNewest_same retire_none]
    · exact fun other held none => (hub other held none).1
    · rw [add_entries, agrees.entries, List.map_append, List.map_singleton]
  · rw [settles]
    refine ⟨_, ?_, .inr ⟨free, rfl⟩⟩
    constructor
    · rw [Pass.add, (notifyAddressChanged_tables _ _ _ _).1, settled.peers]
      exact rows
    · rw [Pass.add, (notifyAddressChanged_tables _ _ _ _).2.1, settled.ledger, ledgerAfter_concat,
        FleetRead.attribute, found]
      dsimp only [FleetRead.supersede, Function.comp_apply]
      rw [ledger, changeNewest_append _ _ keys]
      rfl
    · intro other held none
      obtain ⟨same, foreign⟩ := hub other held none
      rw [Pass.add, Store.hubKeys, (notifyAddressChanged_tables _ _ _ _).2.2.1]
      exact (settled.hub other.publicKey foreign).trans same
    · rw [add_entries, agrees.entries, List.map_append, List.map_singleton]

theorem Agrees.shown {store : Store} {status : FleetPeerStatus} {router router' : Option Nat}
    {ip ip' : Option TunnelIp} {adopted : List Text}
    (agrees : Agrees bridge read done ({ pass with store }.add status hubPeer router ip)) :
    Agrees bridge read done
      ({ pass with store, adopted }.add status hubPeer router' ip') := by
  refine ⟨agrees.peers, agrees.ledger, agrees.hub, ?_⟩
  rw [← agrees.entries, add_entries, add_entries]

theorem Agrees.attributed (clear : Unambiguous read) (constrained : Constrained read.before.peers)
    (adopting : read.adopt = true) (begun : Begun read (done ++ [hubPeer]))
    (agrees : Agrees bridge read done pass)
    (absent : read.before.peers.find? (·.publicKey = hubPeer.publicKey) = none)
    {issuance : Issuance}
    (latest : getIssuanceByPublicKey pass.store.ledger hubPeer.publicKey = some issuance) :
    ∃ next, fleetAttributed bridge read pass hubPeer issuance = .ok next ∧
      Agrees bridge read (done ++ [hubPeer]) next := by
  obtain ⟨-, -, fresh⟩ := begun.earlier
  have untracked : read.isUntracked hubPeer = true := by
    simpa [FleetRead.isUntracked] using absent
  have known : (getIssuanceByPublicKey read.before.ledger hubPeer.publicKey).isNone = false := by
    have attributed := agrees.attribution fresh
    simp only [latestIdentity, latest, Option.map_some] at attributed
    cases before : getIssuanceByPublicKey read.before.ledger hubPeer.publicKey with
    | none => simp [before] at attributed
    | some _ => rfl
  have chosen := agrees.chosen clear constrained adopting begun
  rw [FleetRead.chosenRow, if_pos untracked, latest, Option.bind_some] at chosen
  unfold fleetAttributed
  dsimp only
  rw [chosen]
  cases found : read.adoptedRow hubPeer with
  | none =>
      refine ⟨_, rfl, agrees.idle untracked found rfl rfl fresh rfl ?_⟩
      rw [add_entries, FleetRead.statusFor, absent, found]
      simp only [known]
      rfl
  | some row =>
      obtain ⟨after, advanced, ⟨stuck, applied⟩ | ⟨free, applied⟩⟩ :=
        agrees.adopt clear constrained begun found
      · dsimp only
        rw [applied]
        have status : read.statusFor bridge hubPeer = .adoptableMismatch := by
          rw [FleetRead.statusFor, absent, found]
          simp [stuck]
        rw [status] at advanced
        exact ⟨_, rfl, advanced.shown⟩
      · dsimp only
        rw [applied]
        have status : read.statusFor bridge hubPeer = .trackedConnected := by
          rw [FleetRead.statusFor, absent, found]
          simp [free]
        rw [status] at advanced
        exact ⟨_, rfl, advanced.shown⟩

theorem Agrees.step (clear : Unambiguous read) (constrained : Constrained read.before.peers)
    (adopting : read.adopt = true) (begun : Begun read (done ++ [hubPeer]))
    (agrees : Agrees bridge read done pass) :
    ∃ next, fleetStep bridge read pass hubPeer = .ok next ∧
      Agrees bridge read (done ++ [hubPeer]) next := by
  have dated := clear.dated hubPeer begun.earlier.2.1
  unfold fleetStep
  rw [if_neg (by omega)]
  cases found : read.before.peers.find? (·.publicKey = hubPeer.publicKey) with
  | some row => exact ⟨_, rfl, agrees.tracked clear constrained begun found⟩
  | none =>
      cases latest : getIssuanceByPublicKey pass.store.ledger hubPeer.publicKey with
      | some issuance => exact agrees.attributed clear constrained adopting begun found latest
      | none =>
          obtain ⟨-, -, fresh⟩ := begun.earlier
          have untracked : read.isUntracked hubPeer = true := by
            simpa [FleetRead.isUntracked] using found
          have unknown : getIssuanceByPublicKey read.before.ledger hubPeer.publicKey = none := by
            have attributed := agrees.attribution fresh
            simp only [latestIdentity, latest, Option.map_none] at attributed
            exact Option.map_eq_none_iff.mp attributed.symm
          have idle : read.adoptedRow hubPeer = none :=
            List.find?_eq_none.mpr fun row _ => by simp [FleetRead.isAdoptable, unknown]
          refine ⟨_, rfl, agrees.idle untracked idle rfl ?_ fresh rfl ?_⟩
          · have absent : newest Issuance.publicKey hubPeer.publicKey pass.store.ledger = none := by
              cases place : newest Issuance.publicKey hubPeer.publicKey pass.store.ledger with
              | none => rfl
              | some place' =>
                  obtain ⟨row, stored, -⟩ := newest_row place
                  simp [getIssuanceByPublicKey, latestIssuance, place, stored] at latest
            rw [correctLedger, changeNewest, absent]
            rfl
          · rw [add_entries, FleetRead.statusFor, found, idle]
            simp [unknown]

end Step

end CloudGuest.Wireguard
