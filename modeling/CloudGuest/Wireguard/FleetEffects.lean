import CloudGuest.Wireguard.FleetPass

/-!
What each hub peer does to the rows and to the ledger in a pass over the fleet that
is unambiguous. Each has one effect, whatever the pass has come to before it, and
the effects of two hub peers can be exchanged.
-/

namespace CloudGuest.Wireguard
open Texts Rows

def FleetRead.adoptedRow (read : FleetRead) (hubPeer : HubPeer) : Option Peer :=
  read.before.peers.find? (read.isAdoptable hubPeer)

/-- Each row has one hub peer to adopt at most, its own key shows no handshake and disagrees with
either address alike, and no other row has or gets the address adopted. -/
structure Unambiguous (read : FleetRead) : Prop where
  dated : ∀ hubPeer ∈ read.before.hub, hubPeer.latestHandshakeEpoch ≤ maxHandshakeEpoch
  only : ∀ row ∈ read.before.peers, ∀ hubPeer ∈ read.before.hub, ∀ other ∈ read.before.hub,
    read.isAdoptable hubPeer row = true → read.isAdoptable other row = true → hubPeer = other
  silent : ∀ row ∈ read.before.peers, ∀ hubPeer ∈ read.before.hub, ∀ own ∈ read.before.hub,
    read.isAdoptable hubPeer row = true → own.publicKey = row.publicKey → own.lastHandshake = none
  placed : ∀ row ∈ read.before.peers, ∀ hubPeer ∈ read.before.hub, ∀ own ∈ read.before.hub,
    read.isAdoptable hubPeer row = true → own.publicKey = row.publicKey →
      ∀ address, hubAddress own = some address →
        (.host address = row.tunnelIpAddress ↔ .host address = adoptedIp hubPeer row)
  free : ∀ row ∈ read.before.peers, ∀ hubPeer ∈ read.before.hub,
    read.isAdoptable hubPeer row = true → ∀ other ∈ read.before.peers, other.router ≠ row.router →
      other.tunnelIpAddress ≠ adoptedIp hubPeer row
  apart : ∀ row ∈ read.before.peers, ∀ hubPeer ∈ read.before.hub, ∀ other ∈ read.before.peers,
    ∀ hubPeer' ∈ read.before.hub, read.isAdoptable hubPeer row = true →
      read.isAdoptable hubPeer' other = true → other.router ≠ row.router →
        adoptedIp hubPeer' other ≠ adoptedIp hubPeer row

/-! ### Rows -/

/-- What a hub peer does to a row, given how the row was when the pass began. -/
def FleetRead.touch (read : FleetRead) (hubPeer : HubPeer) (row current : Peer) : Peer :=
  if read.isAdoptable hubPeer row then
    current.adopt hubPeer.publicKey (adoptedIp hubPeer row) hubPeer.lastHandshake
  else if hubPeer.publicKey = row.publicKey then current.reconcile hubPeer.lastHandshake
  else current

def FleetRead.rowAfter (read : FleetRead) (done : List HubPeer) (row : Peer) : Peer :=
  done.foldl (fun current hubPeer => read.touch hubPeer row current) row

theorem rowAfter_concat (read : FleetRead) (done : List HubPeer) (hubPeer : HubPeer) (row : Peer) :
    read.rowAfter (done ++ [hubPeer]) row = read.touch hubPeer row (read.rowAfter done row) := by
  simp [FleetRead.rowAfter]

theorem isAdoptable_untracked {read : FleetRead} {hubPeer : HubPeer} {row : Peer}
    (able : read.isAdoptable hubPeer row = true) : ∀ other ∈ read.before.peers,
      other.publicKey ≠ hubPeer.publicKey := by
  intro other member
  simp only [FleetRead.isAdoptable, FleetRead.isUntracked, Bool.and_eq_true, List.all_eq_true,
    decide_eq_true_eq] at able
  exact able.1.1 other member

/-- A row that was adopted has been seen; one that was not is as it was, but for a handshake on its
own key. -/
inductive Touched (read : FleetRead) (done : List HubPeer) (row : Peer) : Peer → Prop where
  | adopted {hubPeer : HubPeer} (listed : hubPeer ∈ done)
      (able : read.isAdoptable hubPeer row = true) :
      Touched read done row
        (row.adopt hubPeer.publicKey (adoptedIp hubPeer row) hubPeer.lastHandshake)
  | unseen (unable : ∀ hubPeer ∈ done, read.isAdoptable hubPeer row = false)
      (unlisted : ∀ hubPeer ∈ done, hubPeer.publicKey ≠ row.publicKey) : Touched read done row row
  | reconciled {own : HubPeer} (unable : ∀ hubPeer ∈ done, read.isAdoptable hubPeer row = false)
      (listed : own ∈ done) (same : own.publicKey = row.publicKey) :
      Touched read done row (row.reconcile own.lastHandshake)

theorem reconcile_none (row : Peer) : row.reconcile none = row := rfl

structure Begun (read : FleetRead) (done : List HubPeer) : Prop where
  listed : ∀ hubPeer ∈ done, hubPeer ∈ read.before.hub
  distinct : (done.map HubPeer.publicKey).Nodup

theorem Begun.earlier {read : FleetRead} {done : List HubPeer} {hubPeer : HubPeer}
    (begun : Begun read (done ++ [hubPeer])) : Begun read done ∧ hubPeer ∈ read.before.hub ∧
      ∀ other ∈ done, other.publicKey ≠ hubPeer.publicKey := by
  have distinct := begun.distinct
  rw [List.map_append, List.nodup_append] at distinct
  refine ⟨⟨fun other member => begun.listed other (List.mem_append_left _ member), distinct.1⟩,
    begun.listed hubPeer (by simp), ?_⟩
  intro other member
  exact distinct.2.2 _ (List.mem_map_of_mem member) _ (by simp)

theorem touched {read : FleetRead} (clear : Unambiguous read) {row : Peer}
    (member : row ∈ read.before.peers) {done : List HubPeer} (begun : Begun read done) :
    Touched read done row (read.rowAfter done row) := by
  induction done using List.reverseRecOn with
  | nil => exact .unseen (fun _ listed => nomatch listed) (fun _ listed => nomatch listed)
  | append_singleton done hubPeer ih =>
      obtain ⟨earlier, here, fresh⟩ := begun.earlier
      have listed : hubPeer ∈ done ++ [hubPeer] := by simp
      rw [rowAfter_concat]
      unfold FleetRead.touch
      cases able : read.isAdoptable hubPeer row with
      | true =>
          -- No earlier hub peer was adopted for the row, and its own key showed nothing.
          have same : read.rowAfter done row = row := by
            have before := ih earlier
            generalize read.rowAfter done row = current at before
            cases before with
            | @adopted other listed other_able =>
                have one := clear.only row member hubPeer here other (earlier.listed other listed)
                  able other_able
                subst one
                exact absurd rfl (fresh _ listed)
            | unseen => rfl
            | @reconciled own _ listed same =>
                rw [clear.silent row member hubPeer here own (earlier.listed own listed) able same,
                  reconcile_none]
          rw [same, if_pos rfl]
          exact .adopted listed able
      | false =>
          rw [if_neg Bool.false_ne_true]
          have before := ih earlier
          generalize read.rowAfter done row = current at before
          have unable : (∀ other ∈ done, read.isAdoptable other row = false) →
              ∀ other ∈ done ++ [hubPeer], read.isAdoptable other row = false := by
            intro none other last
            rcases List.mem_append.mp last with early | new
            · exact none other early
            · rw [List.mem_singleton.mp new, able]
          split
          · rename_i own
            cases before with
            | @adopted other listedOther otherAble =>
                rw [clear.silent row member other (earlier.listed other listedOther) hubPeer here
                  otherAble own, reconcile_none]
                exact .adopted (List.mem_append_left _ listedOther) otherAble
            | unseen others => exact .reconciled (unable others) listed own
            | reconciled _ listedOwn same =>
                exact absurd (same.trans own.symm) (fresh _ listedOwn)
          · rename_i foreign
            cases before with
            | adopted listedOther otherAble =>
                exact .adopted (List.mem_append_left _ listedOther) otherAble
            | unseen others unlisted =>
                refine .unseen (unable others) ?_
                intro other last
                rcases List.mem_append.mp last with early | new
                · exact unlisted other early
                · rw [List.mem_singleton.mp new]
                  exact foreign
            | reconciled others listedOwn same =>
                exact .reconciled (unable others) (List.mem_append_left _ listedOwn) same

theorem touch_comm {read : FleetRead} (clear : Unambiguous read)
    (distinct : (read.before.hub.map HubPeer.publicKey).Nodup) {row : Peer}
    (member : row ∈ read.before.peers) {hubPeer other : HubPeer} (here : hubPeer ∈ read.before.hub)
    (there : other ∈ read.before.hub) (current : Peer) :
    read.touch other row (read.touch hubPeer row current) =
      read.touch hubPeer row (read.touch other row current) := by
  unfold FleetRead.touch
  cases able : read.isAdoptable hubPeer row with
  | true =>
      cases otherAble : read.isAdoptable other row with
      | true => rw [clear.only row member hubPeer here other there able otherAble]
      | false =>
          by_cases own : other.publicKey = row.publicKey
          · simp [own, clear.silent row member hubPeer here other there able own, reconcile_none]
          · simp [own]
  | false =>
      cases otherAble : read.isAdoptable other row with
      | true =>
          by_cases own : hubPeer.publicKey = row.publicKey
          · simp [own, clear.silent row member other there hubPeer here otherAble own,
              reconcile_none]
          · simp [own]
      | false =>
          by_cases own : hubPeer.publicKey = row.publicKey
          · by_cases otherOwn : other.publicKey = row.publicKey
            · rw [List.inj_on_of_nodup_map distinct here there (own.trans otherOwn.symm)]
            · simp [otherOwn]
          · simp [own]

/-! ### The ledger -/

def retiredTo (bridge : Bridge) (hubKeys : List Text) (previous : Text) : Option HubPeerLifecycle :=
  -- What the hub's answer to the removal of a key that a row is moved off has the ledger say of
  -- it, if anything.
  if previous = [] then none
  else if previous ∈ hubKeys then
    (bridge.removal hubKeys previous).map HubRemovalOutcome.lifecycle
  else some .neverRegistered

def Issuance.retire (lifecycle : Option HubPeerLifecycle) (issuance : Issuance) : Issuance :=
  { issuance with hubLifecycle := lifecycle.getD issuance.hubLifecycle }

/-- What an adoption does to the issuances that were there. -/
def FleetRead.supersede (bridge : Bridge) (read : FleetRead) (hubPeer : HubPeer) (row : Peer) :
    List Issuance → List Issuance :=
  changeNewest Issuance.publicKey row.publicKey
      (Issuance.retire (retiredTo bridge read.before.hubKeys row.publicKey)) ∘
    List.map (·.supersedeFor row.router hubPeer.publicKey) ∘ (correctLedger · hubPeer.publicKey)

/-- What a hub peer does to the issuances that were there when the pass began. -/
def FleetRead.attribute (bridge : Bridge) (read : FleetRead) (hubPeer : HubPeer) :
    List Issuance → List Issuance :=
  match read.adoptedRow hubPeer with
  | some row => read.supersede bridge hubPeer row
  | none => if read.isUntracked hubPeer then (correctLedger · hubPeer.publicKey) else id

def FleetRead.recorded (read : FleetRead) (hubPeer : HubPeer) : Option Issuance :=
  (read.adoptedRow hubPeer).map fun row => {
    router := row.router, publicKey := hubPeer.publicKey, tunnelIpAddress := adoptedIp hubPeer row
    source := .adopted, hubLifecycle := .live, superseded := false }

def FleetRead.ledgerAfter (bridge : Bridge) (read : FleetRead) (done : List HubPeer) :
    List Issuance :=
  done.foldl (fun ledger hubPeer => read.attribute bridge hubPeer ledger) read.before.ledger

theorem ledgerAfter_concat (bridge : Bridge) (read : FleetRead) (done : List HubPeer)
    (hubPeer : HubPeer) : read.ledgerAfter bridge (done ++ [hubPeer]) =
      read.attribute bridge hubPeer (read.ledgerAfter bridge done) := by
  simp [FleetRead.ledgerAfter]

@[simp] theorem retire_identity (lifecycle : Option HubPeerLifecycle) (issuance : Issuance) :
    (issuance.retire lifecycle).identity = issuance.identity := rfl

@[simp] theorem retire_publicKey (lifecycle : Option HubPeerLifecycle) (issuance : Issuance) :
    (issuance.retire lifecycle).publicKey = issuance.publicKey := rfl

@[simp] theorem observed_publicKey (issuance : Issuance) :
    issuance.observed.publicKey = issuance.publicKey :=
  congrArg (·.2.1) (observed_identity issuance)

theorem retire_none (issuance : Issuance) : issuance.retire none = issuance := rfl

theorem observed_superseded (issuance : Issuance) (router : Nat) (replacedBy : Text) :
    (issuance.supersedeFor router replacedBy).observed =
      issuance.observed.supersedeFor router replacedBy := by
  unfold Issuance.supersedeFor Issuance.observed
  split <;> split <;> simp_all

theorem retire_superseded (lifecycle : Option HubPeerLifecycle) (issuance : Issuance) (router : Nat)
    (replacedBy : Text) : (issuance.supersedeFor router replacedBy).retire lifecycle =
      (issuance.retire lifecycle).supersedeFor router replacedBy := by
  unfold Issuance.supersedeFor Issuance.retire
  split <;> rfl

theorem supersedeFor_eq (issuance : Issuance) (router : Nat) (replacedBy : Text) :
    issuance.supersedeFor router replacedBy =
      { issuance with
        superseded := issuance.superseded ||
          decide (issuance.router = router ∧ issuance.publicKey ≠ replacedBy) } := by
  unfold Issuance.supersedeFor
  split
  · rename_i replaced
    simp [replaced]
  · rename_i kept
    rw [decide_eq_false kept, Bool.or_false]

theorem supersedeFor_comm (issuance : Issuance) (router router' : Nat) (key key' : Text) :
    (issuance.supersedeFor router key).supersedeFor router' key' =
      (issuance.supersedeFor router' key').supersedeFor router key := by
  simp only [supersedeFor_eq, Bool.or_right_comm]

section Commute

variable (router router' : Nat) (key key' : Text)

theorem superseded_commute : Function.Commute
    (List.map fun issuance : Issuance => issuance.supersedeFor router key)
    (List.map fun issuance : Issuance => issuance.supersedeFor router' key') := by
  intro ledger
  simp only [List.map_map]
  exact List.map_congr_left fun issuance _ => supersedeFor_comm issuance router' router key' key

theorem correct_superseded : Function.Commute (correctLedger · key)
    (List.map fun issuance : Issuance => issuance.supersedeFor router' key') :=
  changeNewest_mapped (fun issuance => supersedeFor_publicKey issuance router' key')
    fun issuance => observed_superseded issuance router' key'

theorem retired_superseded (lifecycle : Option HubPeerLifecycle) : Function.Commute
    (changeNewest Issuance.publicKey key (Issuance.retire lifecycle))
    (List.map fun issuance : Issuance => issuance.supersedeFor router' key') :=
  changeNewest_mapped (fun issuance => supersedeFor_publicKey issuance router' key')
    fun issuance => retire_superseded lifecycle issuance router' key'

variable {key key'} (different : key ≠ key')
include different

theorem corrected_commute : Function.Commute (correctLedger · key) (correctLedger · key') :=
  changeNewest_comm different observed_publicKey observed_publicKey

theorem corrected_retired (lifecycle : Option HubPeerLifecycle) : Function.Commute
    (correctLedger · key) (changeNewest Issuance.publicKey key' (Issuance.retire lifecycle)) :=
  changeNewest_comm different observed_publicKey (retire_publicKey lifecycle)

theorem retired_commute (lifecycle lifecycle' : Option HubPeerLifecycle) : Function.Commute
    (changeNewest Issuance.publicKey key (Issuance.retire lifecycle))
    (changeNewest Issuance.publicKey key' (Issuance.retire lifecycle')) :=
  changeNewest_comm different (retire_publicKey lifecycle) (retire_publicKey lifecycle')

end Commute

theorem adoptedRow_some {read : FleetRead} {hubPeer : HubPeer} {row : Peer}
    (found : read.adoptedRow hubPeer = some row) :
    row ∈ read.before.peers ∧ read.isAdoptable hubPeer row = true :=
  ⟨List.mem_of_find?_eq_some found, List.find?_some found⟩

theorem isUntracked_iff {read : FleetRead} {hubPeer : HubPeer} : read.isUntracked hubPeer = true ↔
    ∀ row ∈ read.before.peers, row.publicKey ≠ hubPeer.publicKey := by
  simp [FleetRead.isUntracked]

theorem supersede_commute {bridge : Bridge} {read : FleetRead} {hubPeer other : HubPeer}
    {row row' : Peer} (different : hubPeer.publicKey ≠ other.publicKey)
    (rows : row.publicKey ≠ row'.publicKey) (own : row.publicKey ≠ other.publicKey)
    (own' : row'.publicKey ≠ hubPeer.publicKey) :
    Function.Commute (read.supersede bridge hubPeer row) (read.supersede bridge other row') := by
  have corrected : Function.Commute (correctLedger · hubPeer.publicKey)
      (read.supersede bridge other row') :=
    (corrected_retired own'.symm _).comp_right
      ((correct_superseded _ _ _).comp_right (corrected_commute different))
  have superseded : Function.Commute
      (List.map fun issuance : Issuance => issuance.supersedeFor row.router hubPeer.publicKey)
      (read.supersede bridge other row') :=
    (retired_superseded _ _ _ _).symm.comp_right
      ((superseded_commute _ _ _ _).comp_right (correct_superseded _ _ _).symm)
  have retired : Function.Commute
      (changeNewest Issuance.publicKey row.publicKey
        (Issuance.retire (retiredTo bridge read.before.hubKeys row.publicKey)))
      (read.supersede bridge other row') :=
    (retired_commute rows _ _).comp_right
      ((retired_superseded _ _ _ _).comp_right (corrected_retired own.symm _).symm)
  exact retired.comp_left (superseded.comp_left corrected)

theorem corrected_supersede {bridge : Bridge} {read : FleetRead} {hubPeer other : HubPeer} {row : Peer}
    (different : hubPeer.publicKey ≠ other.publicKey) (own : row.publicKey ≠ hubPeer.publicKey) :
    Function.Commute (correctLedger · hubPeer.publicKey) (read.supersede bridge other row) :=
  (corrected_retired own.symm _).comp_right
    ((correct_superseded _ _ _).comp_right (corrected_commute different))

theorem attribute_commute {bridge : Bridge} {read : FleetRead} (clear : Unambiguous read)
    (constrained : Constrained read.before.peers) {hubPeer other : HubPeer}
    (here : hubPeer ∈ read.before.hub) (there : other ∈ read.before.hub)
    (different : hubPeer.publicKey ≠ other.publicKey) :
    Function.Commute (read.attribute bridge hubPeer) (read.attribute bridge other) := by
  unfold FleetRead.attribute
  cases found : read.adoptedRow hubPeer with
  | some row =>
      obtain ⟨member, able⟩ := adoptedRow_some found
      cases otherFound : read.adoptedRow other with
      | some row' =>
          obtain ⟨member', able'⟩ := adoptedRow_some otherFound
          refine supersede_commute different ?_ (isAdoptable_untracked able' row member)
            (isAdoptable_untracked able row' member')
          intro same
          obtain rfl := constrained.same_key member member' same
          exact different (by rw [clear.only row member hubPeer here other there able able'])
      | none =>
          dsimp only
          split
          · rename_i untracked
            exact (corrected_supersede different.symm (isUntracked_iff.mp untracked row member)).symm
          · exact Function.Commute.id_right
  | none =>
      dsimp only
      split
      · rename_i untracked
        cases otherFound : read.adoptedRow other with
        | some row =>
            have member := (adoptedRow_some otherFound).1
            exact corrected_supersede different (isUntracked_iff.mp untracked row member)
        | none =>
            dsimp only
            split
            · exact corrected_commute different
            · exact Function.Commute.id_right
      · exact Function.Commute.id_left

end CloudGuest.Wireguard
