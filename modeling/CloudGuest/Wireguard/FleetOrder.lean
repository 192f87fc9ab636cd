import CloudGuest.Wireguard.FleetSteps

/-!
A whole pass over the fleet, and what it owes in whatever order the hub lists its
peers. An unambiguous pass owes nothing more: its effects are those of all hub peers.
-/

namespace CloudGuest.Wireguard
open Texts Rows

def FleetRead.listing (read : FleetRead) (hub : List HubPeer) : FleetRead :=
  { read with before := { read.before with hub } }

def FleetRead.adoptions (bridge : Bridge) (read : FleetRead) : List (Nat × Text) :=
  adoptionsFrom bridge read read.before.hub ⟨read.before, [], []⟩

/-- What shows that a router uses a key: the ledger, the hub, and nothing that speaks for the key the
router is recorded with. -/
structure Proven (read : FleetRead) (router : Nat) (key : Text) : Prop where
  attributed : (getIssuanceByPublicKey read.before.ledger key).any (·.router = router) = true
  handshaking : ∃ hubPeer ∈ read.before.hub, hubPeer.publicKey = key ∧
    read.isRecent hubPeer.lastHandshake = true
  unseen : ∀ row ∈ read.before.peers, row.router = router → row.lastHandshakeAt = none
  silent : ∀ row ∈ read.before.peers, row.router = router → ∀ own ∈ read.before.hub,
    own.publicKey = row.publicKey → own.lastHandshake = none

def Pass.classification (pass : Pass) (key : Text) : List FleetPeerStatus :=
  (pass.entries.filter fun entry => entry.publicKey = key).map FleetPeerEntry.status

/-- One pass adopts on proof and once a router, and has one entry for each key. -/
structure Answered (bridge : Bridge) (read : FleetRead) (pass : Pass) : Prop where
  returned : getFleetStatus bridge read = .ok pass
  proven : ∀ adoption ∈ read.adoptions bridge, Proven read adoption.1 adoption.2
  once : ((read.adoptions bridge).map Prod.fst).Nodup
  entries : ∀ key, key ∈ read.before.hubKeys ∨ key ∈ pass.store.peers.map Peer.publicKey →
    (pass.classification key).length = 1

/-- Two passes leave the same rows and issuances, whatever the order the new ones were recorded in,
and classify every key alike. -/
structure Alike (pass pass' : Pass) : Prop where
  peers : pass'.store.peers = pass.store.peers
  ledger : pass'.store.ledger.Perm pass.store.ledger
  classification : ∀ key, pass'.classification key = pass.classification key

def OrderFree (bridge : Bridge) (read : FleetRead) : Prop :=
  ∀ hub, hub.Perm read.before.hub → ∃ pass, Answered bridge (read.listing hub) pass ∧
    ∀ hub', hub'.Perm read.before.hub → ∀ pass', getFleetStatus bridge (read.listing hub') = .ok pass' →
      Alike pass pass'

section Whole

variable {bridge : Bridge} {read : FleetRead}

def FleetRead.adoption (read : FleetRead) (hubPeer : HubPeer) : Option (Nat × Text) :=
  (read.adoptedRow hubPeer).map fun row => (row.router, hubPeer.publicKey)

theorem fleetLoop_agrees (clear : Unambiguous read) (constrained : Constrained read.before.peers)
    (adopting : read.adopt = true) {rest done : List HubPeer} {pass : Pass}
    (begun : Begun read (done ++ rest)) (agrees : Agrees bridge read done pass) :
    ∃ final, fleetLoop bridge read rest pass = .ok final ∧
      Agrees bridge read (done ++ rest) final ∧
      adoptionsFrom bridge read rest pass = rest.filterMap read.adoption := by
  induction rest generalizing done pass with
  | nil => exact ⟨pass, rfl, by simpa using agrees, rfl⟩
  | cons hubPeer rest ih =>
      have split : done ++ hubPeer :: rest = done ++ [hubPeer] ++ rest := by simp
      rw [split] at begun ⊢
      have next : Begun read (done ++ [hubPeer]) :=
        ⟨fun other listed => begun.listed other (List.mem_append_left _ listed), by
          have distinct := begun.distinct
          rw [List.map_append, List.nodup_append] at distinct
          exact distinct.1⟩
      obtain ⟨after, advanced, further⟩ := agrees.step clear constrained adopting next
      obtain ⟨final, passed, ended, adopted⟩ := ih begun further
      refine ⟨final, ?_, ended, ?_⟩
      · rw [fleetLoop, advanced]
        exact passed
      · rw [adoptionsFrom, advanced, agrees.chosen clear constrained adopting next,
          List.filterMap_cons]
        unfold FleetRead.adoption at adopted ⊢
        dsimp only
        rw [adopted]
        cases read.adoptedRow hubPeer <;> rfl

theorem Agrees.start : Agrees bridge read [] ⟨read.before, [], []⟩ := by
  refine ⟨?_, by simp [FleetRead.ledgerAfter], fun _ _ _ => Iff.rfl, rfl⟩
  exact (List.map_id _).symm

theorem fleetLoop_whole (bridge : Bridge) (clear : Unambiguous read) (constrained : Constrained read.before.peers)
    (adopting : read.adopt = true) (distinct : read.before.hubKeys.Nodup) :
    ∃ final, fleetLoop bridge read read.before.hub ⟨read.before, [], []⟩ = .ok final ∧
      Agrees bridge read read.before.hub final ∧
      read.adoptions bridge = read.before.hub.filterMap read.adoption := by
  have begun : Begun read ([] ++ read.before.hub) := ⟨fun _ listed => listed, distinct⟩
  exact fleetLoop_agrees clear constrained adopting begun .start

theorem adoption_proven (clear : Unambiguous read) (constrained : Constrained read.before.peers)
    {adoption : Nat × Text} (listed : adoption ∈ read.before.hub.filterMap read.adoption) :
    Proven read adoption.1 adoption.2 := by
  obtain ⟨hubPeer, here, adopted⟩ := List.mem_filterMap.mp listed
  obtain ⟨row, found, rfl⟩ := Option.map_eq_some_iff.mp adopted
  obtain ⟨member, able⟩ := adoptedRow_some found
  have adoptable := able
  simp only [FleetRead.isAdoptable, canAdopt, Bool.and_eq_true, decide_eq_true_eq] at adoptable
  constructor
  · exact adoptable.1.2
  · exact ⟨hubPeer, here, rfl, adoptable.2.1.1.1⟩
  · intro other held same
    rw [constrained.same_router held member same]
    exact adoptable.2.2
  · intro other held same own listedOwn key
    rw [constrained.same_router held member same] at key
    exact clear.silent row member hubPeer here own listedOwn able key

theorem adoptions_once (clear : Unambiguous read) (constrained : Constrained read.before.peers)
    (distinct : read.before.hubKeys.Nodup) :
    ((read.before.hub.filterMap read.adoption).map Prod.fst).Nodup := by
  rw [List.map_filterMap, List.Nodup, List.pairwise_filterMap]
  refine (List.Nodup.of_map _ distinct).imp_of_mem ?_
  intro hubPeer other here there different router adopted router' adopted' same
  simp only [FleetRead.adoption, Option.map_map] at adopted adopted'
  obtain ⟨row, found, rfl⟩ := Option.map_eq_some_iff.mp adopted
  obtain ⟨row', found', rfl⟩ := Option.map_eq_some_iff.mp adopted'
  obtain ⟨member, able⟩ := adoptedRow_some found
  obtain ⟨member', able'⟩ := adoptedRow_some found'
  obtain rfl := constrained.same_router member member' same
  exact different (clear.only row member _ here _ there able able')

/-! ### Another listing -/

theorem Unambiguous.listing (clear : Unambiguous read) {hub : List HubPeer}
    (reordered : hub.Perm read.before.hub) : Unambiguous (read.listing hub) where
  dated hubPeer here := clear.dated hubPeer (reordered.mem_iff.mp here)
  only row member hubPeer here other there :=
    clear.only row member hubPeer (reordered.mem_iff.mp here) other (reordered.mem_iff.mp there)
  silent row member hubPeer here own there :=
    clear.silent row member hubPeer (reordered.mem_iff.mp here) own (reordered.mem_iff.mp there)
  placed row member hubPeer here own there :=
    clear.placed row member hubPeer (reordered.mem_iff.mp here) own (reordered.mem_iff.mp there)
  free row member hubPeer here := clear.free row member hubPeer (reordered.mem_iff.mp here)
  apart row member hubPeer here other held hubPeer' there :=
    clear.apart row member hubPeer (reordered.mem_iff.mp here) other held hubPeer'
      (reordered.mem_iff.mp there)

theorem listing_hubKeys {hub : List HubPeer} (reordered : hub.Perm read.before.hub) (key : Text) :
    key ∈ (read.listing hub).before.hubKeys ↔ key ∈ read.before.hubKeys :=
  (reordered.map _).mem_iff

theorem attribute_listing {hub : List HubPeer} (reordered : hub.Perm read.before.hub)
    (hubPeer : HubPeer) :
    (read.listing hub).attribute bridge hubPeer = read.attribute bridge hubPeer := by
  have same : (read.listing hub).adoptedRow hubPeer = read.adoptedRow hubPeer := rfl
  unfold FleetRead.attribute
  rw [same]
  cases read.adoptedRow hubPeer with
  | none => rfl
  | some row =>
      dsimp only
      unfold FleetRead.supersede
      rw [retiredTo_congr bridge (listing_hubKeys reordered row.publicKey)]

theorem statusFor_listing {hub : List HubPeer} (reordered : hub.Perm read.before.hub)
    (hubPeer : HubPeer) :
    (read.listing hub).statusFor bridge hubPeer = read.statusFor bridge hubPeer := by
  have same : (read.listing hub).adoptedRow hubPeer = read.adoptedRow hubPeer := rfl
  unfold FleetRead.statusFor
  rw [same]
  cases read.adoptedRow hubPeer with
  | none => rfl
  | some row =>
      dsimp only
      rw [isStuck_congr bridge (listing_hubKeys reordered row.publicKey)]
      rfl

/-- What is left of the tables and shown of the keys, said without the order of the hub. -/
structure Result (bridge : Bridge) (read : FleetRead) (hub : List HubPeer) (pass : Pass) : Prop where
  peers : pass.store.peers = read.before.peers.map (read.rowAfter hub)
  ledger : pass.store.ledger = read.ledgerAfter bridge hub ++ hub.filterMap read.recorded
  entries : pass.entries.map (fun entry => (entry.publicKey, entry.status)) =
    (hub.map fun hubPeer => (hubPeer.publicKey, read.statusFor bridge hubPeer)) ++
      (read.before.peers.filter fun row => row.publicKey ∉ read.before.hubKeys).map fun row =>
        (row.publicKey, .trackedMissingFromHub)

theorem getFleetStatus_result (bridge : Bridge) (clear : Unambiguous read) (constrained : Constrained read.before.peers)
    (adopting : read.adopt = true) (distinct : read.before.hubKeys.Nodup) {hub : List HubPeer}
    (reordered : hub.Perm read.before.hub) :
    ∃ pass, getFleetStatus bridge (read.listing hub) = .ok pass ∧ Result bridge read hub pass ∧
      (read.listing hub).adoptions bridge = hub.filterMap read.adoption := by
  obtain ⟨final, passed, agrees, adopted⟩ := fleetLoop_whole bridge
    (clear.listing reordered) constrained adopting ((reordered.map _).nodup_iff.mpr distinct)
  have attributes : (read.listing hub).attribute bridge = read.attribute bridge :=
    funext fun hubPeer => attribute_listing reordered hubPeer
  have statuses : (read.listing hub).statusFor bridge = read.statusFor bridge :=
    funext fun hubPeer => statusFor_listing reordered hubPeer
  refine ⟨{ final with
      entries := final.entries ++ missingEntries (read.listing hub) final.store.peers },
    by rw [getFleetStatus, passed]; rfl, ⟨agrees.peers, ?_, ?_⟩, adopted⟩
  · refine agrees.ledger.trans (congrArg (· ++ _) ?_)
    unfold FleetRead.ledgerAfter
    rw [attributes]
    rfl
  · rw [List.map_append, agrees.entries, statuses]
    refine congrArg (_ ++ ·) ?_
    unfold missingEntries
    rw [List.map_map]
    have absent : ((read.listing hub).before.peers.filter fun row =>
        row.publicKey ∉ (read.listing hub).before.hubKeys) =
          read.before.peers.filter fun row => row.publicKey ∉ read.before.hubKeys :=
      List.filter_congr fun row _ => by simp only [listing_hubKeys reordered]
    rw [absent]
    rfl

theorem rowAfter_reordered (clear : Unambiguous read) (distinct : read.before.hubKeys.Nodup)
    {hub : List HubPeer} (reordered : hub.Perm read.before.hub) {row : Peer}
    (member : row ∈ read.before.peers) :
    read.rowAfter hub row = read.rowAfter read.before.hub row :=
  reordered.foldl_eq' (fun _ here _ there current =>
    touch_comm clear distinct member (reordered.mem_iff.mp here) (reordered.mem_iff.mp there)
      current) row

theorem ledgerAfter_reordered (clear : Unambiguous read) (constrained : Constrained read.before.peers)
    (distinct : read.before.hubKeys.Nodup) {hub : List HubPeer}
    (reordered : hub.Perm read.before.hub) :
    read.ledgerAfter bridge hub = read.ledgerAfter bridge read.before.hub := by
  refine reordered.foldl_eq' ?_ _
  intro hubPeer here other there ledger
  rw [reordered.mem_iff] at here there
  by_cases same : hubPeer.publicKey = other.publicKey
  · rw [List.inj_on_of_nodup_map distinct here there same]
  · exact attribute_commute clear constrained there here (Ne.symm same) ledger

theorem classification_pairs (pass : Pass) (key : Text) : pass.classification key =
    ((pass.entries.map fun entry => (entry.publicKey, entry.status)).filter
      fun pair => pair.1 = key).map Prod.snd := by
  rw [List.filter_map, List.map_map]
  rfl

theorem Result.keys_nodup (constrained : Constrained read.before.peers)
    (distinct : read.before.hubKeys.Nodup) {hub : List HubPeer}
    (reordered : hub.Perm read.before.hub) {pass : Pass} (result : Result bridge read hub pass) :
    (pass.entries.map FleetPeerEntry.publicKey).Nodup := by
  have pairs := congrArg (List.map Prod.fst) result.entries
  simp only [List.map_map, List.map_append] at pairs
  have keys : pass.entries.map FleetPeerEntry.publicKey = hub.map HubPeer.publicKey ++
      (read.before.peers.filter fun row => row.publicKey ∉ read.before.hubKeys).map
        Peer.publicKey := pairs
  rw [keys, List.nodup_append]
  refine ⟨(reordered.map _).nodup_iff.mpr distinct, ?_, ?_⟩
  · exact constrained.keys.sublist (List.filter_sublist.map _)
  · intro key listed other missing same
    obtain ⟨row, absent, rfl⟩ := List.mem_map.mp missing
    rw [List.mem_filter] at absent
    subst same
    simp only [decide_eq_true_eq] at absent
    exact absent.2 ((reordered.map _).mem_iff.mp listed)

theorem Result.key_listed (clear : Unambiguous read) (distinct : read.before.hubKeys.Nodup)
    {hub : List HubPeer} (reordered : hub.Perm read.before.hub) {pass : Pass}
    (result : Result bridge read hub pass) {key : Text}
    (seen : key ∈ read.before.hubKeys ∨ key ∈ pass.store.peers.map Peer.publicKey) :
    key ∈ pass.entries.map FleetPeerEntry.publicKey := by
  have pairs := congrArg (List.map Prod.fst) result.entries
  simp only [List.map_map, List.map_append] at pairs
  have keys : pass.entries.map FleetPeerEntry.publicKey = hub.map HubPeer.publicKey ++
      (read.before.peers.filter fun row => row.publicKey ∉ read.before.hubKeys).map
        Peer.publicKey := pairs
  have held : ∀ row ∈ read.before.peers, row.publicKey ∈ hub.map HubPeer.publicKey ++
      (read.before.peers.filter fun row => row.publicKey ∉ read.before.hubKeys).map
        Peer.publicKey := by
    intro row member
    by_cases listed : row.publicKey ∈ read.before.hubKeys
    · exact List.mem_append_left _ ((reordered.map _).mem_iff.mpr listed)
    · refine List.mem_append_right _ (List.mem_map_of_mem (List.mem_filter.mpr ⟨member, ?_⟩))
      simpa using listed
  rw [keys]
  rcases seen with onHub | final
  · exact List.mem_append_left _ ((reordered.map _).mem_iff.mpr onHub)
  · rw [result.peers] at final
    obtain ⟨current, stored, rfl⟩ := List.mem_map.mp final
    obtain ⟨row, member, rfl⟩ := List.mem_map.mp stored
    have begun : Begun read hub := ⟨fun _ listed => reordered.mem_iff.mp listed,
      (reordered.map _).nodup_iff.mpr distinct⟩
    have became := touched clear member begun
    generalize read.rowAfter hub row = current at became ⊢
    cases became with
    | adopted listed => exact List.mem_append_left _ (List.mem_map_of_mem listed)
    | unseen => exact held row member
    | @reconciled own =>
        rw [(reconcile_kept row own.lastHandshake).2.1]
        exact held row member

theorem classification_length (pass : Pass) (key : Text) :
    (pass.classification key).length = (pass.entries.map FleetPeerEntry.publicKey).count key := by
  rw [Pass.classification, List.length_map, List.count_eq_length_filter, List.filter_map,
    List.length_map]
  exact congrArg List.length (List.filter_congr fun entry _ => by
    rw [Function.comp_apply, Bool.beq_eq_decide_eq])

theorem Result.alike (clear : Unambiguous read) (constrained : Constrained read.before.peers)
    (distinct : read.before.hubKeys.Nodup) {hub hub' : List HubPeer}
    (reordered : hub.Perm read.before.hub) (reordered' : hub'.Perm read.before.hub)
    {pass pass' : Pass} (result : Result bridge read hub pass)
    (result' : Result bridge read hub' pass') : Alike pass pass' := by
  constructor
  · rw [result.peers, result'.peers]
    apply List.map_congr_left
    intro row member
    rw [rowAfter_reordered clear distinct reordered member,
      rowAfter_reordered clear distinct reordered' member]
  · rw [result.ledger, result'.ledger, ledgerAfter_reordered clear constrained distinct reordered,
      ledgerAfter_reordered clear constrained distinct reordered']
    exact ((reordered'.trans reordered.symm).filterMap _).append_left _
  · intro key
    have same : (pass'.classification key).Perm (pass.classification key) := by
      rw [classification_pairs, classification_pairs, result.entries, result'.entries]
      exact ((((reordered'.trans reordered.symm).map _).append_right _).filter _).map _
    have few : (pass.classification key).length ≤ 1 := by
      rw [classification_length]
      exact List.nodup_iff_count_le_one.mp (result.keys_nodup constrained distinct reordered) key
    match found : pass.classification key with
    | [] => rw [found] at same; exact same.eq_nil
    | [status] => rw [found] at same; exact same.eq_singleton
    | _ :: _ :: _ => simp [found] at few

theorem orderFree_of_unambiguous (clear : Unambiguous read)
    (constrained : Constrained read.before.peers) (adopting : read.adopt = true)
    (distinct : read.before.hubKeys.Nodup) : OrderFree bridge read := by
  intro hub reordered
  obtain ⟨pass, returned, result, adopted⟩ :=
    getFleetStatus_result bridge clear constrained adopting distinct reordered
  refine ⟨pass, ⟨returned, ?_, ?_, ?_⟩, ?_⟩
  · rw [adopted]
    exact fun adoption listed => adoption_proven (clear.listing reordered) constrained listed
  · rw [adopted]
    exact adoptions_once (clear.listing reordered) constrained
      ((reordered.map _).nodup_iff.mpr distinct)
  · intro key seen
    rw [listing_hubKeys reordered] at seen
    rw [classification_length]
    exact List.count_eq_one_of_mem (result.keys_nodup constrained distinct reordered)
      (result.key_listed clear distinct reordered seen)
  · intro hub' reordered' pass' returned'
    obtain ⟨other, otherReturned, otherResult, -⟩ :=
      getFleetStatus_result bridge clear constrained adopting distinct reordered'
    obtain rfl := Except.ok.inj (otherReturned.symm.trans returned')
    exact result.alike clear constrained distinct reordered reordered' otherResult

end Whole

end CloudGuest.Wireguard
