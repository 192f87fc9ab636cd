import CloudGuest.Wireguard.FleetOrder

/-!
What the orders of one hub tell of it: a hub peer that would be adopted is listed
first, before the row's own key and after it, and before another one to adopt.
-/

namespace CloudGuest.Wireguard
open Texts Rows

/-! ### What any order shows -/

section Orders

variable {bridge : Bridge} {read : FleetRead} {pass : Pass} {hubPeer : HubPeer}

def FleetRead.rewrite (read : FleetRead) (store : Store) (hubPeer : HubPeer) (current : Peer) : Peer :=
  match read.chosenRow store hubPeer with
  | some row =>
      if current.router = row.router then
        row.adopt hubPeer.publicKey (adoptedIp hubPeer row) hubPeer.lastHandshake
      else current
  | none =>
      match read.before.peers.find? (·.publicKey = hubPeer.publicKey) with
      | some row =>
          if current.router = row.router then current.reconcile hubPeer.lastHandshake else current
      | none => current

theorem settlePrevious_peers {hubPeers : List HubPeer} {store after : Store} {previous key : Text}
    (settled : settlePrevious bridge hubPeers store previous key = some after) :
    after.peers = store.peers := by
  unfold settlePrevious at settled
  split at settled
  · split at settled
    · obtain ⟨outcome, -, rfl⟩ := Option.map_eq_some_iff.mp settled
      rfl
    · cases settled
      rfl
  · cases settled
    rfl

theorem fleetStep_peers {next : Pass} (advanced : fleetStep bridge read pass hubPeer = .ok next) :
    next.store.peers = pass.store.peers.map (read.rewrite pass.store hubPeer) ∧
      ∀ row, read.chosenRow pass.store hubPeer = some row → isDuplicate pass.store.peers
        (row.adopt hubPeer.publicKey (adoptedIp hubPeer row) hubPeer.lastHandshake) = false := by
  unfold fleetStep at advanced
  unfold FleetRead.rewrite
  split at advanced
  · cases advanced
  · cases found : read.before.peers.find? (·.publicKey = hubPeer.publicKey) with
    | some row =>
        rw [found] at advanced
        cases advanced
        have tracked : read.isUntracked hubPeer = false := by
          rw [← Bool.not_eq_true, isUntracked_iff]
          intro untracked
          exact untracked row (List.mem_of_find?_eq_some found)
            (by simpa using List.find?_some found)
        have idle : read.chosenRow pass.store hubPeer = none := by
          rw [FleetRead.chosenRow, tracked, if_neg Bool.false_ne_true]
        rw [idle]
        refine ⟨?_, fun _ chosen => absurd chosen.symm (Option.some_ne_none _)⟩
        unfold fleetTracked
        dsimp only
        split <;> rfl
    | none =>
        rw [found] at advanced
        dsimp only at advanced
        have untracked : read.isUntracked hubPeer = true := by
          simpa [FleetRead.isUntracked] using found
        cases latest : getIssuanceByPublicKey pass.store.ledger hubPeer.publicKey with
        | none =>
            rw [latest] at advanced
            cases advanced
            have idle : read.chosenRow pass.store hubPeer = none := by
              rw [FleetRead.chosenRow, if_pos untracked, latest]
              rfl
            rw [idle]
            exact ⟨(List.map_id _).symm, fun _ chosen => absurd chosen.symm (Option.some_ne_none _)⟩
        | some issuance =>
            rw [latest] at advanced
            have chosen : read.chosenRow pass.store hubPeer =
                if read.adopt then (getPeerByRouterId pass.store.peers issuance.router).filter
                  (canAdopt read hubPeer) else none := by
              rw [FleetRead.chosenRow, if_pos untracked, latest]
              rfl
            unfold fleetAttributed at advanced
            dsimp only at advanced
            rw [← chosen] at advanced
            cases adoptable : read.chosenRow pass.store hubPeer with
            | none =>
                rw [adoptable] at advanced
                cases advanced
                exact ⟨(List.map_id _).symm, fun _ chosen => absurd chosen.symm (Option.some_ne_none _)⟩
            | some row =>
                rw [adoptable] at advanced
                dsimp only at advanced
                unfold applyAdoption updatePeer at advanced
                cases unique : isDuplicate pass.store.peers
                    (row.adopt hubPeer.publicKey (adoptedIp hubPeer row) hubPeer.lastHandshake) with
                | true =>
                    rw [unique] at advanced
                    cases advanced
                | false =>
                    rw [unique] at advanced
                    dsimp only at advanced
                    rw [if_neg Bool.false_ne_true] at advanced
                    dsimp only at advanced
                    refine ⟨?_, fun other same => by rw [← Option.some.inj same]; exact unique⟩
                    split at advanced
                    · rename_i applied
                      cases advanced
                      split at applied
                      · cases applied
                      · rename_i settled settles
                        cases applied
                        rw [Pass.add, (notifyAddressChanged_tables _ _ _ _).1,
                          settlePrevious_peers settles]
                        rfl
                    · rename_i applied
                      cases advanced
                      split at applied
                      · cases applied
                        rfl
                      · cases applied
                    · cases advanced

theorem rewrite_router (current : Peer) :
    (read.rewrite pass.store hubPeer current).router = current.router := by
  unfold FleetRead.rewrite
  split
  · rename_i row _
    split
    · rename_i same
      exact same.symm
    · rfl
  · split
    · split
      · exact (reconcile_kept current _).1
      · rfl
    · rfl

theorem step_routers {next : Pass} (advanced : fleetStep bridge read pass hubPeer = .ok next) :
    next.store.peers.map Peer.router = pass.store.peers.map Peer.router := by
  rw [(fleetStep_peers advanced).1, List.map_map]
  exact List.map_congr_left fun row _ => rewrite_router row

theorem chosenRow_some {store : Store} {row : Peer}
    (chosen : read.chosenRow store hubPeer = some row) :
    row ∈ store.peers ∧ canAdopt read hubPeer row = true := by
  unfold FleetRead.chosenRow at chosen
  split at chosen
  · obtain ⟨issuance, -, found⟩ := Option.bind_eq_some_iff.mp chosen
    split at found
    · obtain ⟨stored, able⟩ := Option.filter_eq_some_iff.mp found
      exact ⟨(getPeerByRouterId_some stored).1, able⟩
    · cases found
  · cases chosen

theorem reconcile_seen {row : Peer} (seen : row.lastHandshakeAt ≠ none) (handshake : Option Int) :
    (row.reconcile handshake).lastHandshakeAt ≠ none := by
  intro unseen
  rw [(reconcile_kept row handshake).2.2.2.2 unseen] at unseen
  exact seen unseen

theorem rewrite_seen (read : FleetRead) (hubPeer : HubPeer) (routers : (pass.store.peers.map Peer.router).Nodup) 
    {current : Peer} (stored : current ∈ pass.store.peers) (seen : current.lastHandshakeAt ≠ none) :
    (read.rewrite pass.store hubPeer current).publicKey = current.publicKey ∧
      (read.rewrite pass.store hubPeer current).lastHandshakeAt ≠ none := by
  unfold FleetRead.rewrite
  split
  · rename_i row chosen
    obtain ⟨member, able⟩ := chosenRow_some chosen
    split
    · rename_i same
      obtain rfl := List.inj_on_of_nodup_map routers stored member same
      exact absurd (canAdopt_handshake able).1 seen
    · exact ⟨rfl, seen⟩
  · split
    · split
      · exact ⟨(reconcile_kept current _).2.1, reconcile_seen seen _⟩
      · exact ⟨rfl, seen⟩
    · exact ⟨rfl, seen⟩

theorem fleetLoop_cons {rest : List HubPeer} {final : Pass}
    (passed : fleetLoop bridge read (hubPeer :: rest) pass = .ok final) :
    ∃ next, fleetStep bridge read pass hubPeer = .ok next ∧
      fleetLoop bridge read rest next = .ok final := by
  unfold fleetLoop at passed
  split at passed
  · rename_i next advanced
    exact ⟨next, advanced, passed⟩
  · cases passed

theorem fleetLoop_routers {rest : List HubPeer} {final : Pass}
    (passed : fleetLoop bridge read rest pass = .ok final) :
    final.store.peers.map Peer.router = pass.store.peers.map Peer.router := by
  induction rest generalizing pass with
  | nil =>
      cases passed
      rfl
  | cons hubPeer rest ih =>
      obtain ⟨next, advanced, further⟩ := fleetLoop_cons passed
      rw [ih further, step_routers advanced]

theorem fleetLoop_seen {rest : List HubPeer} {final : Pass}
    (passed : fleetLoop bridge read rest pass = .ok final)
    (routers : (pass.store.peers.map Peer.router).Nodup) {current : Peer}
    (stored : current ∈ pass.store.peers) (seen : current.lastHandshakeAt ≠ none) :
    ∃ later ∈ final.store.peers, later.router = current.router ∧
      later.publicKey = current.publicKey := by
  induction rest generalizing pass current with
  | nil =>
      cases passed
      exact ⟨current, stored, rfl, rfl⟩
  | cons hubPeer rest ih =>
      obtain ⟨next, advanced, further⟩ := fleetLoop_cons passed
      obtain ⟨key, still⟩ := rewrite_seen read hubPeer routers stored seen
      have held : read.rewrite pass.store hubPeer current ∈ next.store.peers := by
        rw [(fleetStep_peers advanced).1]
        exact List.mem_map_of_mem stored
      obtain ⟨later, ended, router, same⟩ :=
        ih further (by rw [step_routers advanced]; exact routers) held still
      exact ⟨later, ended, router.trans (rewrite_router current), same.trans key⟩

theorem fleetLoop_dated {rest : List HubPeer} {final : Pass}
    (passed : fleetLoop bridge read rest pass = .ok final) :
    ∀ listed ∈ rest, listed.latestHandshakeEpoch ≤ maxHandshakeEpoch := by
  induction rest generalizing pass with
  | nil => exact fun _ listed => nomatch listed
  | cons hubPeer rest ih =>
      obtain ⟨next, advanced, further⟩ := fleetLoop_cons passed
      unfold fleetStep at advanced
      split at advanced
      · cases advanced
      · rename_i dated
        intro listed member
        rcases List.mem_cons.mp member with rfl | later
        · omega
        · exact ih further listed later

theorem fleetStep_tracked {row current : Peer} {next : Pass}
    (advanced : fleetStep bridge read pass hubPeer = .ok next)
    (silent : hubPeer.lastHandshake = none)
    (found : read.before.peers.find? (·.publicKey = hubPeer.publicKey) = some row)
    (stored : getPeerByRouterId pass.store.peers row.router = some current) :
    ∃ entry ∈ next.entries, entry.publicKey = hubPeer.publicKey ∧
      entry.status =
        if addressMismatch hubPeer current then .trackedKeyMismatch else .trackedStale := by
  have recent : read.isRecent none = false := rfl
  unfold fleetStep at advanced
  split at advanced
  · cases advanced
  · rw [found] at advanced
    cases advanced
    unfold fleetTracked
    simp only [silent, reconcile_none, ite_self, List.map_id', stored, recent]
    exact ⟨_, List.mem_append_right _ (List.mem_singleton_self _), rfl, rfl⟩

theorem add_grows (pass : Pass) (status : FleetPeerStatus) (hubPeer : HubPeer) (router : Option Nat)
    (ip : Option TunnelIp) : pass.entries <+: (pass.add status hubPeer router ip).entries :=
  List.prefix_append _ _

theorem fleetStep_grows {next : Pass} (advanced : fleetStep bridge read pass hubPeer = .ok next) :
    pass.entries <+: next.entries := by
  unfold fleetStep at advanced
  split at advanced
  · cases advanced
  · split at advanced
    · cases advanced
      unfold fleetTracked
      dsimp only
      split
      · exact add_grows _ _ _ _ _
      · exact List.prefix_rfl
    · split at advanced
      · cases advanced
        exact add_grows _ _ _ _ _
      · unfold fleetAttributed at advanced
        dsimp only at advanced
        split at advanced
        · split at advanced <;> cases advanced <;> exact add_grows _ _ _ _ _
        · cases advanced
          exact add_grows _ _ _ _ _

theorem fleetLoop_grows {rest : List HubPeer} {final : Pass}
    (passed : fleetLoop bridge read rest pass = .ok final) : pass.entries <+: final.entries := by
  induction rest generalizing pass with
  | nil =>
      cases passed
      exact List.prefix_rfl
  | cons hubPeer rest ih =>
      obtain ⟨next, advanced, further⟩ := fleetLoop_cons passed
      exact (fleetStep_grows advanced).trans (ih further)

end Orders

section Converse

variable {bridge : Bridge} {read : FleetRead} {hubPeer : HubPeer}

theorem chosenRow_start (adopting : read.adopt = true) {row : Peer}
    (able : read.isAdoptable hubPeer row = true) {store : Store}
    (stored : getPeerByRouterId store.peers row.router = some row)
    (same : latestIdentity store.ledger hubPeer.publicKey =
      latestIdentity read.before.ledger hubPeer.publicKey) :
    read.chosenRow store hubPeer = some row := by
  have owner : (getIssuanceByPublicKey store.ledger hubPeer.publicKey).any
      (·.router = row.router) = true := by
    have attributed := able
    simp only [FleetRead.isAdoptable, Bool.and_eq_true] at attributed
    rw [attributes_iff, same, ← attributes_iff]
    exact attributed.1.2
  obtain ⟨issuance, latest, own⟩ := (Option.any_eq_true _ _).mp owner
  rw [decide_eq_true_eq] at own
  rw [FleetRead.chosenRow, if_pos (isUntracked_iff.mpr (isAdoptable_untracked able)), latest,
    Option.bind_some, if_pos adopting, own, stored, Option.filter_some,
    if_pos (isAdoptable_canAdopt able)]

/-- What a pass does that comes to an adoptable hub peer first, with where it is then. -/
structure First (bridge : Bridge) (read : FleetRead) (hubPeer : HubPeer) (row : Peer)
    (rest : List HubPeer) (next pass : Pass) : Prop where
  answered : Answered bridge (read.listing (hubPeer :: rest)) pass
  chosen : (read.listing (hubPeer :: rest)).chosenRow (read.listing (hubPeer :: rest)).before hubPeer =
    some row
  advanced : fleetStep bridge (read.listing (hubPeer :: rest))
    ⟨(read.listing (hubPeer :: rest)).before, [], []⟩ hubPeer = .ok next
  further : ∃ final, fleetLoop bridge (read.listing (hubPeer :: rest)) rest next = .ok final ∧
    final.entries <+: pass.entries ∧ final.store = pass.store

theorem mismatch_told {old new : Prop} [Decidable old] [Decidable new]
    (same : (if (!false && decide (¬old)) = true then FleetPeerStatus.trackedKeyMismatch
        else .trackedStale) =
      if (!false && decide (¬new)) = true then .trackedKeyMismatch else .trackedStale) :
    old ↔ new := by
  by_cases first : old
  · by_cases second : new
    · exact ⟨fun _ => second, fun _ => first⟩
    · simp [first, second] at same
  · by_cases second : new
    · simp [first, second] at same
    · exact ⟨fun held => absurd held first, fun held => absurd held second⟩

theorem two_first {hub : List HubPeer} {other : HubPeer} (here : hubPeer ∈ hub) (there : other ∈ hub)
    (different : hubPeer ≠ other) : ∃ rest, (hubPeer :: other :: rest).Perm hub := by
  have later : other ∈ hub.erase hubPeer := (List.mem_erase_of_ne different.symm).mpr there
  exact ⟨_, ((List.perm_cons_erase later).symm.cons hubPeer).trans (List.perm_cons_erase here).symm⟩

theorem Constrained.found_key {peers : List Peer} (constrained : Constrained peers) {row : Peer}
    (member : row ∈ peers) {key : Text} (own : row.publicKey = key) :
    peers.find? (·.publicKey = key) = some row := by
  cases found : peers.find? (·.publicKey = key) with
  | none => exact absurd own (by simpa using List.find?_eq_none.mp found row member)
  | some other =>
      have same : other.publicKey = key := by simpa using List.find?_some found
      rw [constrained.same_key (List.mem_of_find?_eq_some found) member (same.trans own.symm)]

theorem classification_single {pass : Pass} {key : Text} (one : (pass.classification key).length = 1)
    {entry : FleetPeerEntry} (shown : entry ∈ pass.entries) (about : entry.publicKey = key) :
    pass.classification key = [entry.status] := by
  obtain ⟨status, only⟩ := List.length_eq_one_iff.mp one
  have listed : entry.status ∈ pass.classification key :=
    List.mem_map_of_mem (List.mem_filter.mpr ⟨shown, by simpa using about⟩)
  rw [only] at listed ⊢
  rw [List.mem_singleton.mp listed]

theorem getFleetStatus_looped {pass : Pass} (returned : getFleetStatus bridge read = .ok pass) :
    ∃ final, fleetLoop bridge read read.before.hub ⟨read.before, [], []⟩ = .ok final ∧
      final.entries <+: pass.entries ∧ final.store = pass.store := by
  unfold getFleetStatus at returned
  cases passed : fleetLoop bridge read read.before.hub ⟨read.before, [], []⟩ with
  | ok final =>
      rw [passed] at returned
      cases returned
      exact ⟨final, rfl, List.prefix_append _ _, rfl⟩
  | error hub =>
      rw [passed] at returned
      cases returned

theorem OrderFree.first (order : OrderFree bridge read) (constrained : Constrained read.before.peers)
    (adopting : read.adopt = true) {row : Peer} (member : row ∈ read.before.peers)
    (able : read.isAdoptable hubPeer row = true) {rest : List HubPeer}
    (reordered : (hubPeer :: rest).Perm read.before.hub) :
    ∃ next pass, First bridge read hubPeer row rest next pass := by
  obtain ⟨pass, answered, -⟩ := order _ reordered
  obtain ⟨final, passed, entries, store⟩ := getFleetStatus_looped answered.returned
  obtain ⟨next, advanced, further⟩ := fleetLoop_cons passed
  have chosen : (read.listing (hubPeer :: rest)).chosenRow (read.listing (hubPeer :: rest)).before
      hubPeer = some row :=
    chosenRow_start adopting able (constrained.found member) rfl
  exact ⟨next, pass, answered, chosen, advanced, final, further, entries, store⟩

section First

variable {row : Peer} {rest : List HubPeer} {next pass : Pass}
  (first : First bridge read hubPeer row rest next pass)
include first

theorem First.peers : next.store.peers = read.before.peers.map fun current =>
    if current.router = row.router then
      row.adopt hubPeer.publicKey (adoptedIp hubPeer row) hubPeer.lastHandshake
    else current := by
  refine (fleetStep_peers first.advanced).1.trans (List.map_congr_left fun current _ => ?_)
  rw [FleetRead.rewrite, first.chosen]

theorem First.stored (router : Nat) : getPeerByRouterId next.store.peers router =
    (getPeerByRouterId read.before.peers router).map fun current =>
      if current.router = row.router then
        row.adopt hubPeer.publicKey (adoptedIp hubPeer row) hubPeer.lastHandshake
      else current := by
  rw [first.peers]
  refine getPeerByRouterId_map ?_ router
  intro current _
  split
  · rename_i same
    exact same.symm
  · rfl

theorem First.adopted (member : row ∈ read.before.peers) :
    row.adopt hubPeer.publicKey (adoptedIp hubPeer row) hubPeer.lastHandshake ∈
      next.store.peers := by
  rw [first.peers]
  exact List.mem_map.mpr ⟨row, member, if_pos rfl⟩

theorem First.ends (constrained : Constrained read.before.peers) (member : row ∈ read.before.peers)
    (able : read.isAdoptable hubPeer row = true) :
    ∃ later ∈ pass.store.peers, later.router = row.router ∧
      later.publicKey = hubPeer.publicKey := by
  obtain ⟨final, passed, -, store⟩ := first.further
  have seen := (canAdopt_handshake (isAdoptable_canAdopt able)).2.2.2
  have routers : (next.store.peers.map Peer.router).Nodup := by
    rw [step_routers first.advanced]
    exact constrained.routers
  obtain ⟨later, ended, router, key⟩ := fleetLoop_seen passed routers (first.adopted member) seen
  exact ⟨later, store ▸ ended, router, key⟩

theorem First.final_routers (constrained : Constrained read.before.peers) :
    (pass.store.peers.map Peer.router).Nodup := by
  obtain ⟨final, passed, -, store⟩ := first.further
  rw [← store, fleetLoop_routers passed, step_routers first.advanced]
  exact constrained.routers

theorem First.attribution (constrained : Constrained read.before.peers) {key : Text}
    (different : key ≠ hubPeer.publicKey) :
    latestIdentity next.store.ledger key = latestIdentity read.before.ledger key := by
  have start : Underway (read.listing (hubPeer :: rest)) []
      (Pass.store ⟨(read.listing (hubPeer :: rest)).before, [], []⟩) :=
    Underway.unchanged constrained rfl rfl (List.Sublist.refl _)
  have change := fleetStep_change start List.not_mem_nil first.advanced
  exact (start.change change).attribution (by simpa using different)

end First

theorem OrderFree.dated (order : OrderFree bridge read) : ∀ hubPeer ∈ read.before.hub,
    hubPeer.latestHandshakeEpoch ≤ maxHandshakeEpoch := by
  obtain ⟨pass, answered, -⟩ := order read.before.hub (List.Perm.refl _)
  obtain ⟨final, passed, -, -⟩ := getFleetStatus_looped answered.returned
  exact fleetLoop_dated passed

section Adoptable

variable (order : OrderFree bridge read) (constrained : Constrained read.before.peers)
  (adopting : read.adopt = true) {row : Peer} (member : row ∈ read.before.peers)
  (here : hubPeer ∈ read.before.hub) (able : read.isAdoptable hubPeer row = true)
include order constrained adopting member here able

theorem OrderFree.only (distinct : read.before.hubKeys.Nodup) {other : HubPeer}
    (there : other ∈ read.before.hub) (otherAble : read.isAdoptable other row = true) :
    hubPeer = other := by
  have reordered := (List.perm_cons_erase here).symm
  have reordered' := (List.perm_cons_erase there).symm
  obtain ⟨next, pass, first⟩ := order.first constrained adopting member able reordered
  obtain ⟨next', pass', first'⟩ := order.first constrained adopting member otherAble reordered'
  obtain ⟨later, ended, router, key⟩ := first.ends constrained member able
  obtain ⟨later', ended', router', key'⟩ := first'.ends constrained member otherAble
  obtain ⟨free, answered, alike⟩ := order _ reordered
  obtain rfl := Except.ok.inj (answered.returned.symm.trans first.answered.returned)
  rw [(alike _ reordered' _ first'.answered.returned).peers] at ended'
  have same := List.inj_on_of_nodup_map (first.final_routers constrained) ended ended'
    (router.trans router'.symm)
  exact List.inj_on_of_nodup_map distinct here there (by rw [← key, ← key', same])

theorem OrderFree.silent {own : HubPeer} (there : own ∈ read.before.hub)
    (key : own.publicKey = row.publicKey) : own.lastHandshake = none := by
  have reordered := (List.perm_cons_erase here).symm
  obtain ⟨next, pass, first⟩ := order.first constrained adopting member able reordered
  have adopted : (row.router, hubPeer.publicKey) ∈
      (read.listing (hubPeer :: read.before.hub.erase hubPeer)).adoptions bridge := by
    unfold FleetRead.adoptions FleetRead.listing adoptionsFrom
    have advanced := first.advanced
    have chosen := first.chosen
    unfold FleetRead.listing at advanced chosen
    rw [advanced, chosen]
    exact List.mem_append_left _ (List.mem_singleton_self _)
  exact (first.answered.proven _ adopted).silent row member rfl own
    (reordered.mem_iff.mpr there) key

theorem OrderFree.free {other : Peer} (held : other ∈ read.before.peers)
    (elsewhere : other.router ≠ row.router) : other.tunnelIpAddress ≠ adoptedIp hubPeer row := by
  have reordered := (List.perm_cons_erase here).symm
  obtain ⟨next, pass, first⟩ := order.first constrained adopting member able reordered
  have unique := (fleetStep_peers first.advanced).2 row first.chosen
  exact (isDuplicate_false unique other held elsewhere).2

theorem OrderFree.apart {other : Peer} (held : other ∈ read.before.peers) {hubPeer' : HubPeer}
    (there : hubPeer' ∈ read.before.hub) (otherAble : read.isAdoptable hubPeer' other = true)
    (elsewhere : other.router ≠ row.router) :
    adoptedIp hubPeer' other ≠ adoptedIp hubPeer row := by
  have keys : hubPeer.publicKey ≠ hubPeer'.publicKey := by
    intro same
    simp only [FleetRead.isAdoptable, Bool.and_eq_true] at able otherAble
    obtain ⟨issuance, latest, own⟩ := (Option.any_eq_true _ _).mp able.1.2
    have otherOwn := otherAble.1.2
    rw [← same, latest, Option.any_some, decide_eq_true_eq] at otherOwn
    rw [decide_eq_true_eq] at own
    exact elsewhere (otherOwn.symm.trans own)
  obtain ⟨rest, reordered⟩ := two_first here there fun same => keys (congrArg HubPeer.publicKey same)
  obtain ⟨next, pass, first⟩ := order.first constrained adopting member able reordered
  obtain ⟨final, passed, -, -⟩ := first.further
  obtain ⟨_, advanced, -⟩ := fleetLoop_cons passed
  have stored := first.stored other.router
  rw [constrained.found held, Option.map_some, if_neg elsewhere] at stored
  have chosen : (read.listing (hubPeer :: hubPeer' :: rest)).chosenRow next.store hubPeer' =
      some other := chosenRow_start adopting otherAble stored (first.attribution constrained keys.symm)
  have unique := (fleetStep_peers advanced).2 other chosen
  exact (isDuplicate_false unique _ (first.adopted member) elsewhere.symm).2.symm

theorem OrderFree.placed {own : HubPeer} (there : own ∈ read.before.hub)
    (key : own.publicKey = row.publicKey) {address : Text} (named : hubAddress own = some address) :
    .host address = row.tunnelIpAddress ↔ .host address = adoptedIp hubPeer row := by
  have silent := order.silent constrained adopting member here able there key
  have different : own.publicKey ≠ hubPeer.publicKey := by
    rw [key]
    exact isAdoptable_untracked able row member
  obtain ⟨rest, reordered⟩ :=
    two_first here there fun same => different (congrArg HubPeer.publicKey same).symm
  have reordered' : (own :: hubPeer :: rest).Perm read.before.hub :=
    (List.Perm.swap _ _ _).trans reordered
  have found : read.before.peers.find? (·.publicKey = own.publicKey) = some row :=
    constrained.found_key member key.symm
  have listed : own.publicKey ∈ read.before.hubKeys := List.mem_map_of_mem there
  -- After the adoption the entry of the row's own key is about the new address.
  obtain ⟨pass, answered, alike⟩ := order _ reordered
  obtain ⟨next, pass', first⟩ := order.first constrained adopting member able reordered
  obtain rfl := Except.ok.inj (answered.returned.symm.trans first.answered.returned)
  obtain ⟨final, passed, entries, -⟩ := first.further
  obtain ⟨_, advanced, further⟩ := fleetLoop_cons passed
  have adopted := first.stored row.router
  rw [constrained.found member, Option.map_some, if_pos rfl] at adopted
  obtain ⟨entry, shown, about, status⟩ := fleetStep_tracked advanced silent found adopted
  have after := classification_single
    (answered.entries own.publicKey (.inl ((reordered.map _).mem_iff.mpr listed)))
    (entries.subset ((fleetLoop_grows further).subset shown)) about
  -- Before it, it is about the old one.
  obtain ⟨pass', answered', -⟩ := order _ reordered'
  obtain ⟨final', passed', entries', -⟩ := getFleetStatus_looped answered'.returned
  have stored : getPeerByRouterId
      (Pass.store ⟨(read.listing (own :: hubPeer :: rest)).before, [], []⟩).peers row.router =
        some row := constrained.found member
  obtain ⟨_, advanced', further'⟩ := fleetLoop_cons passed'
  obtain ⟨entry', shown', about', status'⟩ := fleetStep_tracked advanced' silent found stored
  have before := classification_single
    (answered'.entries own.publicKey (.inl ((reordered'.map _).mem_iff.mpr listed)))
    (entries'.subset ((fleetLoop_grows further').subset shown')) about'
  have same := (alike _ reordered' _ answered'.returned).classification own.publicKey
  rw [before, after, status, status', List.cons.injEq] at same
  have standing := (canAdopt_handshake (isAdoptable_canAdopt able)).2.1
  have active : (row.adopt hubPeer.publicKey (adoptedIp hubPeer row)
      hubPeer.lastHandshake).isRevoked = false := rfl
  have moved : (row.adopt hubPeer.publicKey (adoptedIp hubPeer row)
      hubPeer.lastHandshake).tunnelIpAddress = adoptedIp hubPeer row := rfl
  simp only [addressMismatch, named, Option.any_some, standing, active, moved] at same
  exact mismatch_told same.1

end Adoptable

theorem unambiguous_of_orderFree (order : OrderFree bridge read)
    (constrained : Constrained read.before.peers) (adopting : read.adopt = true)
    (distinct : read.before.hubKeys.Nodup) : Unambiguous read where
  dated := order.dated
  only _ member _ here _ there able otherAble :=
    order.only constrained adopting member here able distinct there otherAble
  silent _ member _ here _ there able key :=
    order.silent constrained adopting member here able there key
  placed _ member _ here _ there able key _ named :=
    order.placed constrained adopting member here able there key named
  free _ member _ here able _ held elsewhere :=
    order.free constrained adopting member here able held elsewhere
  apart _ member _ here _ held _ there able otherAble elsewhere :=
    order.apart constrained adopting member here able held there otherAble elsewhere

end Converse

/-- A pass that may adopt does the same for every order in which the hub lists its peers, and adopts on
proof and once a router, just when it is unambiguous. -/
theorem fleet_order_free_iff (bridge : Bridge) (read : FleetRead) (adopting : read.adopt = true)
    (constrained : Constrained read.before.peers) (distinct : read.before.hubKeys.Nodup) :
    OrderFree bridge read ↔ Unambiguous read :=
  ⟨fun order => unambiguous_of_orderFree order constrained adopting distinct,
    fun clear => orderFree_of_unambiguous clear constrained adopting distinct⟩

section Executed

def migrating (hub : List HubPeer) : FleetRead where
  now := 1000000000
  handshakeStaleAfter := 180000000
  adopt := true
  before := {
    peers := [⟨0, .host "10.20.0.3".toList, "K1".toList, .pending, 1, none⟩]
    ledger := [⟨0, "K0".toList, .host "10.20.0.2".toList, .hubAllocated, .orphaned, true⟩,
      ⟨0, "K1".toList, .host "10.20.0.3".toList, .platformGenerated, .neverRegistered, false⟩]
    hub := hub
    moves := []
    clashes := [] }

def earlierPeer : HubPeer := ⟨"K0".toList, "10.20.0.2/32".toList, 950⟩

def recordedPeer : HubPeer := ⟨"K1".toList, "10.20.0.3/32".toList, 990⟩

theorem migrating_constrained (hub : List HubPeer) : Constrained (migrating hub).before.peers :=
  ⟨List.nodup_singleton _, List.nodup_singleton _, List.nodup_singleton _⟩

/-- The hub has only the earlier key, and it is adopted. -/
theorem fleet_order_free_migrated :
    OrderFree unreachable (migrating [earlierPeer]) ∧
      (migrating [earlierPeer]).adoptions unreachable = [(0, "K0".toList)] := by
  refine ⟨(fleet_order_free_iff unreachable (migrating [earlierPeer]) rfl (migrating_constrained _)
    (List.nodup_singleton _)).mpr ?_, by decide +kernel⟩
  constructor
  · decide
  · decide +kernel
  · decide +kernel
  · intro row member hubPeer _ own there _ same
    obtain rfl := List.mem_singleton.mp member
    obtain rfl := List.mem_singleton.mp there
    exact absurd same (by decide)
  · decide +kernel
  · decide +kernel

/-- Both keys are in use. Where the hub lists the earlier one first it is adopted, else it is not. -/
theorem half_migrated_adopted :
    (migrating [earlierPeer, recordedPeer]).adoptions answering = [(0, "K0".toList)] ∧
      (migrating [recordedPeer, earlierPeer]).adoptions answering = [] ∧
      ¬ OrderFree answering (migrating [earlierPeer, recordedPeer]) := by
  refine ⟨by decide +kernel, by decide +kernel, ?_⟩
  intro order
  obtain ⟨pass, answered, -⟩ := order [earlierPeer, recordedPeer] (List.Perm.refl _)
  have adopted : ((0, "K0".toList) : Nat × Text) ∈
      (migrating [earlierPeer, recordedPeer]).adoptions answering := by decide +kernel
  have silent := (answered.proven _ adopted).silent _ (List.mem_singleton_self _) rfl recordedPeer
    (by simp [migrating, FleetRead.listing]) rfl
  exact absurd silent (by decide)

end Executed

end CloudGuest.Wireguard
