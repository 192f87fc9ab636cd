import CloudGuest.Marketing.CreditEffects
import CloudGuest.Marketing.Delivery

/-!
The view of one campaign: its row, how many recipients it has in each status,
and what it holds in the wallet. `Move` lists everything a step can do to the
view of the campaign it is about; invariants of a campaign are proved over
moves, once, and carried back to the machine by the refinement of every step.
-/

namespace CloudGuest.Marketing
open Texts Tables CreditLedger

/-! ### Counting recipients -/

/-- How many recipients of a campaign are in each status. `free` are the
pending ones that no sweep holds. -/
structure Tallies where
  pending : Nat
  free : Nat
  sending : Nat
  submitted : Nat
  failed : Nat
  skipped : Nat
  deriving DecidableEq

def freePending (campaignId : Uuid) (locked : List Uuid) (recipient : Recipient) : Bool :=
  inStatus campaignId .pending recipient && !locked.contains recipient.id

def talliesOf (recipients : Recipients) (campaignId : Uuid) (locked : List Uuid) : Tallies where
  pending := tally recipients campaignId .pending
  free := recipients.count (freePending campaignId locked)
  sending := tally recipients campaignId .sending
  submitted := tally recipients campaignId .submitted
  failed := tally recipients campaignId .failed
  skipped := tally recipients campaignId .skipped

theorem inStatus_iff (campaignId : Uuid) (status : RecipientStatus) (recipient : Recipient) :
    inStatus campaignId status recipient = true ↔
      recipient.campaignId = campaignId ∧ recipient.status = status := by
  simp [inStatus]

structure Moving (recipients : Recipients) (selected : Recipient → Bool)
    (change : Change Recipient.id) (campaignId : Uuid) (old new : RecipientStatus) : Prop where
  before : ∀ recipient ∈ recipients.rows, selected recipient = true →
    recipient.campaignId = campaignId ∧ recipient.status = old
  campaign : ∀ recipient, (change.apply recipient).campaignId = recipient.campaignId
  after : ∀ recipient, (change.apply recipient).status = new

theorem count_moving_old (recipients : Recipients) (selected : Recipient → Bool)
    (change : Change Recipient.id) (campaignId : Uuid) (old new : RecipientStatus)
    (moving : Moving recipients selected change campaignId old new) (other : Uuid)
    (status : RecipientStatus) :
    recipients.count (fun recipient => inStatus other status recipient && selected recipient) =
      if other = campaignId ∧ status = old then recipients.count selected else 0 := by
  split
  · rename_i here
    refine count_congr recipients _ _ ?_
    intro recipient member
    cases chosen : selected recipient with
    | false => simp
    | true =>
        obtain ⟨ofCampaign, inOld⟩ := moving.before recipient member chosen
        simp [inStatus, ofCampaign, inOld, here.1, here.2]
  · rename_i elsewhere
    refine List.countP_eq_zero.mpr ?_
    intro recipient member both
    simp only [Bool.and_eq_true, inStatus_iff] at both
    obtain ⟨ofCampaign, inOld⟩ := moving.before recipient member both.2
    exact elsewhere ⟨both.1.1.symm.trans ofCampaign, both.1.2.symm.trans inOld⟩

theorem count_moving_new (recipients : Recipients) (selected : Recipient → Bool)
    (change : Change Recipient.id) (campaignId : Uuid) (old new : RecipientStatus)
    (moving : Moving recipients selected change campaignId old new) (other : Uuid)
    (status : RecipientStatus) :
    recipients.count
        (fun recipient => selected recipient && inStatus other status (change.apply recipient)) =
      if other = campaignId ∧ status = new then recipients.count selected else 0 := by
  split
  · rename_i here
    refine count_congr recipients _ _ ?_
    intro recipient member
    cases chosen : selected recipient with
    | false => simp
    | true =>
        obtain ⟨ofCampaign, _⟩ := moving.before recipient member chosen
        simp [inStatus, moving.campaign, moving.after, ofCampaign, here.1, here.2]
  · rename_i elsewhere
    refine List.countP_eq_zero.mpr ?_
    intro recipient member both
    simp only [Bool.and_eq_true, inStatus_iff, moving.campaign, moving.after] at both
    obtain ⟨ofCampaign, _⟩ := moving.before recipient member both.1
    exact elsewhere ⟨both.2.1.symm.trans ofCampaign, both.2.2.symm⟩

theorem tally_moving (recipients : Recipients) (selected : Recipient → Bool)
    (change : Change Recipient.id) (campaignId : Uuid) (old new : RecipientStatus)
    (moving : Moving recipients selected change campaignId old new) (other : Uuid)
    (status : RecipientStatus) :
    tally (recipients.updateWhere selected change) other status +
        (if other = campaignId ∧ status = old then recipients.count selected else 0) =
      tally recipients other status +
        if other = campaignId ∧ status = new then recipients.count selected else 0 := by
  have split := count_split recipients (inStatus other status) selected
  have updated := count_updateWhere recipients selected (inStatus other status) change
  rw [count_moving_old recipients selected change campaignId old new moving] at split
  rw [count_moving_new recipients selected change campaignId old new moving] at updated
  simp only [tally]
  omega

theorem free_moving (recipients : Recipients) (selected : Recipient → Bool)
    (change : Change Recipient.id) (campaignId : Uuid) (old new : RecipientStatus)
    (moving : Moving recipients selected change campaignId old new) (left : new ≠ .pending)
    (other : Uuid) (locked : List Uuid) :
    (recipients.updateWhere selected change).count (freePending other locked) =
      recipients.count
        (fun recipient => freePending other locked recipient && !selected recipient) := by
  rw [count_updateWhere]
  have none : recipients.count (fun recipient =>
      selected recipient && freePending other locked (change.apply recipient)) = 0 := by
    refine List.countP_eq_zero.mpr ?_
    intro recipient _ both
    simp only [Bool.and_eq_true, freePending, inStatus_iff, moving.after] at both
    exact left both.2.1.2
  omega

theorem talliesOf_moving_elsewhere (recipients : Recipients) (selected : Recipient → Bool)
    (change : Change Recipient.id) (campaignId : Uuid) (old new : RecipientStatus)
    (moving : Moving recipients selected change campaignId old new) (other : Uuid)
    (elsewhere : other ≠ campaignId) (locked : List Uuid) :
    talliesOf (recipients.updateWhere selected change) other locked =
      talliesOf recipients other locked := by
  have same : ∀ status, tally (recipients.updateWhere selected change) other status =
      tally recipients other status := by
    intro status
    have moved := tally_moving recipients selected change campaignId old new moving other status
    simpa [elsewhere] using moved
  have free : (recipients.updateWhere selected change).count (freePending other locked) =
      recipients.count (freePending other locked) := by
    rw [count_updateWhere, count_split recipients (freePending other locked) selected]
    have none : ∀ counted : Recipient → Bool,
        (∀ recipient ∈ recipients.rows, selected recipient = true → counted recipient = false) →
        recipients.count (fun recipient => counted recipient && selected recipient) = 0 := by
      intro counted excluded
      refine List.countP_eq_zero.mpr ?_
      intro recipient member both
      simp only [Bool.and_eq_true] at both
      have out := excluded recipient member both.2
      rw [both.1] at out
      cases out
    have oldNone := none (freePending other locked) (by
      intro recipient member chosen
      have ofCampaign := (moving.before recipient member chosen).1
      simp [freePending, inStatus, ofCampaign, Ne.symm elsewhere])
    have newNone := none (fun recipient => freePending other locked (change.apply recipient)) (by
      intro recipient member chosen
      have ofCampaign := (moving.before recipient member chosen).1
      simp [freePending, inStatus, moving.campaign, ofCampaign, Ne.symm elsewhere])
    simp only [Bool.and_comm (freePending other locked (change.apply _))] at newNone
    omega
  simp [talliesOf, same, free]

theorem free_unlocked (recipients : Recipients) (campaignId : Uuid) :
    recipients.count (freePending campaignId []) = tally recipients campaignId .pending := by
  refine count_congr recipients _ _ ?_
  intro recipient _
  simp [freePending]

theorem free_add_swept (recipients : Recipients) (campaignId : Uuid) (locked : List Uuid) :
    recipients.count (swept campaignId locked) + recipients.count (freePending campaignId locked) =
      tally recipients campaignId .pending :=
  (count_split recipients (inStatus campaignId .pending) fun recipient =>
    locked.contains recipient.id).symm

theorem free_pendingIds (recipients : Recipients) (campaignId : Uuid) :
    recipients.count (freePending campaignId (pendingIds recipients campaignId)) = 0 := by
  refine List.countP_eq_zero.mpr ?_
  intro recipient member free
  simp only [freePending, Bool.and_eq_true, Bool.not_eq_true', List.contains_eq_mem,
    decide_eq_false_iff_not] at free
  refine free.2 (List.mem_map.mpr ⟨recipient, ?_, rfl⟩)
  exact List.mem_filter.mpr ⟨member, free.1⟩

structure Inserted (before later : Recipients) (campaignId : Uuid) (number : Nat) : Prop where
  length : later.rows.length = before.rows.length + number
  tallies : ∀ other status, tally later other status =
    tally before other status + if other = campaignId ∧ status = .pending then number else 0
  elsewhere : ∀ other locked, other ≠ campaignId →
    talliesOf later other locked = talliesOf before other locked
  kept : ∀ id recipient, before.find id = some recipient → later.find id = some recipient

theorem inserted_refl (recipients : Recipients) (campaignId : Uuid) :
    Inserted recipients recipients campaignId 0 :=
  ⟨rfl, by simp, fun _ _ _ => rfl, fun _ _ found => found⟩

theorem inserted_trans (first second third : Recipients) (campaignId : Uuid) (some more : Nat)
    (one : Inserted first second campaignId some) (two : Inserted second third campaignId more) :
    Inserted first third campaignId (some + more) where
  length := by
    rw [two.length, one.length]
    omega
  tallies := by
    intro other status
    rw [two.tallies, one.tallies]
    split <;> omega
  elsewhere := fun other locked different =>
    (two.elsewhere other locked different).trans (one.elsewhere other locked different)
  kept := fun id recipient found => two.kept id recipient (one.kept id recipient found)

theorem insertNew_inserted (recipients : Recipients) (campaignId : Uuid) (row : Uuid × Uuid)
    (fresh : row.1 ∉ recipients.rows.map Recipient.id) :
    Inserted recipients
      (recipients.insertNew { id := row.1, campaignId, guestId := row.2 }) campaignId 1 := by
  have counts : ∀ counted : Recipient → Bool,
      (recipients.insertNew { id := row.1, campaignId, guestId := row.2 }).count counted =
        recipients.count counted +
          if counted { id := row.1, campaignId, guestId := row.2 } then 1 else 0 :=
    fun counted => count_insertNew recipients _ counted fresh
  refine ⟨?_, ?_, ?_, fun id stored found => find_insertNew recipients _ id stored found⟩
  · have all := counts fun _ => true
    simpa [Table.count] using all
  · intro other status
    simp only [tally, counts, inStatus_iff]
    congr 2
    exact propext ⟨fun same => ⟨same.1.symm, same.2.symm⟩, fun same => ⟨same.1.symm, same.2.symm⟩⟩
  · intro other locked different
    simp [talliesOf, tally, counts, inStatus, freePending, Ne.symm different]

theorem insertRecipient_inserted (recipients : Recipients) (campaignId : Uuid) (row : Uuid × Uuid) :
    ∃ number, number ≤ 1 ∧
      Inserted recipients (insertRecipient campaignId recipients row) campaignId number := by
  unfold insertRecipient
  split
  · exact ⟨0, by omega, inserted_refl recipients campaignId⟩
  · by_cases fresh : row.1 ∈ recipients.rows.map Recipient.id
    · refine ⟨0, by omega, ?_⟩
      rw [Table.insertNew, dif_pos fresh]
      exact inserted_refl recipients campaignId
    · exact ⟨1, by omega, insertNew_inserted recipients campaignId row fresh⟩

theorem insertRecipients_inserted (campaignId : Uuid) (rows : List (Uuid × Uuid))
    (recipients : Recipients) :
    ∃ number, number ≤ rows.length ∧
      Inserted recipients (insertRecipients campaignId recipients rows) campaignId number := by
  induction rows generalizing recipients with
  | nil => exact ⟨0, by simp, inserted_refl recipients campaignId⟩
  | cons row rest ih =>
      obtain ⟨one, atMost, first⟩ := insertRecipient_inserted recipients campaignId row
      obtain ⟨more, bound, following⟩ := ih (insertRecipient campaignId recipients row)
      refine ⟨one + more, by simp only [List.length_cons]; omega, ?_⟩
      exact inserted_trans recipients _ _ campaignId one more first following

/-! ### Views and moves -/

structure Closing where
  target : CampaignStatus
  sweeps : Bool
  inFlight : Option Nat
  deriving DecidableEq

structure View where
  status : CampaignStatus
  isDeleted : Bool
  per : Nat
  out : Int
  rows : Tallies
  recipientCount : Int
  countPending : Int
  countSubmitted : Int
  countFailed : Int
  countSkipped : Int
  closing : Option Closing
  deriving DecidableEq

def closingOf (ending : Ending) : Closing := ⟨ending.target, ending.skipReason.isSome, ending.inFlight⟩

def view (state : State) (campaignId : Uuid) : View :=
  let campaign := state.campaigns campaignId
  { status := campaign.status
    isDeleted := campaign.isDeleted
    per := campaign.billed.per
    out := campaignReservedOutstanding state.ledger campaignId
    rows := talliesOf state.recipients campaignId (lockedRows campaign)
    recipientCount := campaign.recipientCount
    countPending := campaign.countPending
    countSubmitted := campaign.countSubmitted
    countFailed := campaign.countFailed
    countSkipped := campaign.countSkipped
    closing := campaign.ending.map closingOf }

inductive Label where
  | fill | claim | write | retry | reap | failDispatch | finish | other
  deriving DecidableEq

def noRows : Tallies := ⟨0, 0, 0, 0, 0, 0⟩

/-- Everything a step does to the campaign it is about. -/
inductive Move (v : View) : Label → View → Prop where
  | schedule (target : CampaignStatus) (per : Nat) (reserved : Int) (draft : v.status = .draft)
      (free : v.closing = none) (live : target = .scheduled ∨ target = .sending)
      (nonneg : 0 ≤ reserved) (unpriced : per = 0 → reserved = 0) :
      Move v .other { v with status := target, per := per, out := v.out + reserved }
  | unschedule (scheduled : v.status = .scheduled) (free : v.closing = none) :
      Move v .other { v with status := .draft, per := 0, out := min v.out 0 }
  | delete :
      Move v .other { v with isDeleted := true }
  | launch (scheduled : v.status = .scheduled) (free : v.closing = none) :
      Move v .other { v with status := .sending }
  | materialize (number : Nat) (out : Int) (sending : v.status = .sending) (free : v.closing = none)
      (empty : v.rows = noRows) (covered : 0 ≤ v.out → number * v.per ≤ out)
      (unpriced : v.per = 0 → out = v.out) :
      Move v .fill { v with
        out := out
        rows := { noRows with pending := number, free := number }
        recipientCount := v.recipientCount + number
        countPending := v.countPending + number }
  | refuse (out : Int) (scheduled : v.status = .scheduled) (free : v.closing = none)
      (nonneg : 0 ≤ v.out → 0 ≤ out) (unpriced : v.per = 0 → out = v.out) :
      Move v .other { v with
        status := .failed, out := settledAmount .failed v.per v.rows.sending out }
  | finalize (target : CampaignStatus) (sending : v.status = .sending) (free : v.closing = none)
      (drained : v.rows.pending = 0) (ended : target = .sent ∨ target = .failed) :
      Move v .other { v with
        status := target, out := settledAmount target v.per v.rows.sending v.out }
  | settle :
      Move v .other { v with out := settledAmount v.status v.per v.rows.sending v.out }
  | begin (label : Label) (target : CampaignStatus) (sweeps : Bool) (free : v.closing = none)
      (ended : target.terminal = true)
      (unswept : sweeps = false → v.status = .scheduled ∨ label = .failDispatch ∨ label = .finish)
      (open' : label = .finish → v.status = .sending) :
      Move v label { v with
        rows := { v.rows with free := if sweeps then 0 else v.rows.pending }
        closing := some ⟨target, sweeps, none⟩ }
  | count (closing : Closing) (opened : v.closing = some closing) (uncounted : closing.inFlight = none) :
      Move v .other { v with
        closing := some { closing with inFlight := some v.rows.sending } }
  | abort :
      Move v .other { v with rows := { v.rows with free := v.rows.pending }, closing := none }
  | commit (closing : Closing) (inFlight swept : Nat) (opened : v.closing = some closing)
      (counted : closing.inFlight = some inFlight) (ended : closing.target.terminal = true)
      (split : swept + v.rows.free = v.rows.pending) :
      Move v .other { v with
        status := closing.target
        out := settledAmount closing.target v.per inFlight v.out
        rows := { v.rows with pending := v.rows.free, skipped := v.rows.skipped + swept }
        countPending := v.countPending - swept
        countSkipped := v.countSkipped + swept
        closing := none }
  | claim (number pending free : Nat) (enough : v.rows.pending = number + pending)
      (unlocked : v.rows.free = number + free) :
      Move v .claim { v with
        rows := { v.rows with
          pending := pending, free := free, sending := v.rows.sending + number } }
  | skip (sending : Nat) (held : v.rows.sending = sending + 1) (free : v.closing = none) :
      Move v .write { v with
        rows := { v.rows with sending := sending, skipped := v.rows.skipped + 1 }
        countPending := v.countPending - 1
        countSkipped := v.countSkipped + 1 }
  | fail (sending : Nat) (held : v.rows.sending = sending + 1) (free : v.closing = none) :
      Move v .write { v with
        rows := { v.rows with sending := sending, failed := v.rows.failed + 1 }
        countPending := v.countPending - 1
        countFailed := v.countFailed + 1 }
  | submit (sending : Nat) (amount : Int) (held : v.rows.sending = sending + 1)
      (free : v.closing = none) (nonneg : 0 ≤ amount) (bounded : amount ≤ v.per) :
      Move v .write { v with
        out := v.out - amount
        rows := { v.rows with sending := sending, submitted := v.rows.submitted + 1 }
        countPending := v.countPending - 1
        countSubmitted := v.countSubmitted + 1 }
  | retry (sending free : Nat) (held : v.rows.sending = sending + 1)
      (unlocked : v.closing = none → free = v.rows.pending + 1) :
      Move v .retry { v with
        rows := { v.rows with sending := sending, pending := v.rows.pending + 1, free := free } }
  | failUnsent (sending claimed : Nat) (own : v.per = 0) (free : v.closing = none)
      (held : v.rows.sending = sending + claimed) :
      Move v .other { v with
        rows := { v.rows with
          pending := 0, free := 0, sending := sending
          failed := v.rows.failed + (v.rows.pending + claimed) }
        countPending := v.countPending - (v.rows.pending + claimed : Nat)
        countFailed := v.countFailed + (v.rows.pending + claimed : Nat) }
  | reapDeleted (number sending : Nat) (positive : 0 < number)
      (held : v.rows.sending = sending + number) (free : v.closing = none)
      (deleted : v.isDeleted = true) :
      Move v .reap { v with
        rows := { v.rows with sending := sending, failed := v.rows.failed + number }
        countFailed := v.countFailed + number }
  | reap (number sending : Nat) (status : CampaignStatus) (positive : 0 < number)
      (held : v.rows.sending = sending + number) (free : v.closing = none)
      (kept : v.isDeleted = false)
      (ends : status = v.status ∨
        (v.status = .sending ∧ v.rows.pending = 0 ∧ (status = .sent ∨ status = .failed))) :
      Move v .reap { v with
        status := status
        out := settledAmount status v.per sending v.out
        rows := { v.rows with sending := sending, failed := v.rows.failed + number }
        countFailed := v.countFailed + number }

def Moves (permit : Label → View → Prop) : View → View → Prop :=
  Relation.ReflTransGen fun before later => ∃ label, permit label before ∧ Move before label later

theorem Moves.invariant {permit : Label → View → Prop} {Holds : View → Prop}
    (preserved : ∀ label before later, permit label before → Holds before →
      Move before label later → Holds later)
    {before later : View} (moves : Moves permit before later) (holds : Holds before) :
    Holds later := by
  induction moves with
  | refl => exact holds
  | tail _ move ih =>
      obtain ⟨label, permitted, made⟩ := move
      exact preserved label _ _ permitted ih made

end CloudGuest.Marketing
