import CloudGuest.Billing.CreditSoundness
import CloudGuest.Billing.MasterCredits
import CloudGuest.Marketing.CampaignCredits

/-!
The idempotency keys the campaign flow writes. A reserve is numbered by the
campaign's earlier reserves and a release by its earlier releases of the same
reason, so the next number is always unused; every other key has a text of its
own. Campaign ids have one width, which is what keeps the texts apart.
-/

namespace CloudGuest.Marketing
open Texts CreditLedger RunningTotals

inductive ReleaseReason where
  | dispatch | final | unschedule
  deriving DecidableEq

def releaseBase (campaignId : Uuid) : ReleaseReason → Text
  | .dispatch => dispatchKey campaignId
  | .final => finalKey campaignId
  | .unschedule => unscheduleKey campaignId

theorem uuid_ext (left right : Uuid) (same : left.text = right.text) : left = right := by
  cases left
  cases right
  cases same
  rfl

theorem uuid_append_inj (left right : Uuid) (back front : Text)
    (same : left.text ++ back = right.text ++ front) : left = right ∧ back = front := by
  obtain ⟨texts, rest⟩ := List.append_inj same (left.width.trans right.width.symm)
  exact ⟨uuid_ext left right texts, rest⟩

theorem reserveKey_injective (left right : Uuid) (first second : Nat)
    (same : reserveKey left first = reserveKey right second) : left = right ∧ first = second := by
  unfold reserveKey at same
  simp only [List.append_assoc, List.append_cancel_left_eq] at same
  obtain ⟨ids, numbers⟩ := uuid_append_inj left right _ _ same
  exact ⟨ids, decimal_injective (List.append_cancel_left numbers)⟩

def numberSuffix (number : Nat) : Text :=
  if number = 0 then [] else ":".toList ++ decimal number

theorem numberedKey_eq (keyBase : Text) (number : Nat) :
    numberedKey keyBase number = keyBase ++ numberSuffix number := by
  unfold numberedKey numberSuffix
  split <;> simp

theorem numberSuffix_injective : Function.Injective numberSuffix := by
  intro first second same
  unfold numberSuffix at same
  split at same
  · split at same
    · omega
    · simp at same
  · split at same
    · simp at same
    · exact decimal_injective (List.append_cancel_left same)

def reasonText : ReleaseReason → Text
  | .dispatch => ":dispatch".toList
  | .final => ":final".toList
  | .unschedule => ":unschedule".toList

theorem releaseBase_eq (campaignId : Uuid) (reason : ReleaseReason) :
    releaseBase campaignId reason = "release:".toList ++ campaignId.text ++ reasonText reason := by
  cases reason <;> rfl

theorem releaseKey_injective (left right : Uuid) (one other : ReleaseReason) (first second : Nat)
    (same : numberedKey (releaseBase left one) first = numberedKey (releaseBase right other) second) :
    left = right ∧ one = other ∧ first = second := by
  simp only [numberedKey_eq, releaseBase_eq, List.append_assoc, List.append_cancel_left_eq] at same
  obtain ⟨ids, rest⟩ := uuid_append_inj left right _ _ same
  have reasons : one = other := by
    cases one <;> cases other <;> unfold reasonText at rest <;> simp at rest <;> rfl
  subst reasons
  exact ⟨ids, rfl, numberSuffix_injective (List.append_cancel_left rest)⟩

inductive Written (ledger : Ledger) : Text → Prop where
  | reserve (campaignId : Uuid) (number : Nat)
      (earlier : number < countCampaignEntries ledger campaignId .reserve []) :
      Written ledger (reserveKey campaignId number)
  | release (campaignId : Uuid) (reason : ReleaseReason) (number : Nat)
      (earlier : number < countCampaignEntries ledger campaignId .release
        (releaseBase campaignId reason)) :
      Written ledger (numberedKey (releaseBase campaignId reason) number)
  | debit (recipientId : Uuid) : Written ledger (debitKey recipientId)
  | test (campaignId : Uuid) (requestId digest : Text) :
      Written ledger (chargeTestKey campaignId requestId digest)
  | master (request : MasterCredits.AdjustmentRequest) :
      Written ledger (MasterCredits.masterKey request)

def Numbered (ledger : Ledger) : Prop :=
  ∀ entry ∈ ledger.entries, Written ledger entry.idempotencyKey

theorem empty_numbered : Numbered .empty := by
  intro entry member
  cases member

theorem countCampaignEntries_posted (before later : Ledger) (entry : CreditLedgerEntry)
    (posted : Posted before entry later) (campaignId : Uuid) (entryType : CreditEntryType)
    (keyBase : Text) :
    countCampaignEntries later campaignId entryType keyBase =
      countCampaignEntries before campaignId entryType keyBase +
        if entry.campaignId = some campaignId ∧ entry.entryType = entryType ∧
          keyBase <+: entry.idempotencyKey then 1 else 0 := by
  simp [countCampaignEntries, posted.entries, List.countP_append, List.countP_cons, and_assoc]

theorem written_posted (before later : Ledger) (entry : CreditLedgerEntry) (key : Text)
    (posted : Posted before entry later) (written : Written before key) : Written later key := by
  cases written with
  | reserve campaignId number earlier =>
      have grows := countCampaignEntries_posted before later entry posted campaignId .reserve []
      exact .reserve campaignId number (by omega)
  | release campaignId reason number earlier =>
      have grows := countCampaignEntries_posted before later entry posted campaignId .release
        (releaseBase campaignId reason)
      exact .release campaignId reason number (by omega)
  | debit recipientId => exact .debit recipientId
  | test campaignId requestId digest => exact .test campaignId requestId digest
  | master request => exact .master request

theorem posted_numbered (before later : Ledger) (entry : CreditLedgerEntry)
    (numbered : Numbered before) (posted : Posted before entry later)
    (written : Written later entry.idempotencyKey) : Numbered later := by
  intro stored member
  rw [posted.entries, List.mem_append, List.mem_singleton] at member
  rcases member with old | rfl
  · exact written_posted before later entry _ posted (numbered stored old)
  · exact written

theorem fresh_of_not_written (ledger : Ledger) (key : Text) (numbered : Numbered ledger)
    (unwritten : ¬ Written ledger key) : getEntryByKey ledger key = none := by
  rw [getEntryByKey_none_iff]
  intro member
  obtain ⟨entry, stored, same⟩ := List.mem_map.mp member
  exact unwritten (same ▸ numbered entry stored)

theorem reserveKey_fresh (ledger : Ledger) (campaignId : Uuid) (numbered : Numbered ledger) :
    getEntryByKey ledger
      (reserveKey campaignId (countCampaignEntries ledger campaignId .reserve [])) = none := by
  refine fresh_of_not_written ledger _ numbered ?_
  intro written
  generalize sought : reserveKey campaignId (countCampaignEntries ledger campaignId .reserve []) = key
    at written
  cases written with
  | reserve other number earlier =>
      obtain ⟨rfl, same⟩ := reserveKey_injective _ _ _ _ sought
      omega
  | release other reason number earlier =>
      rw [numberedKey_eq, releaseBase_eq] at sought
      unfold reserveKey at sought
      simp at sought
  | debit recipientId =>
      unfold reserveKey debitKey at sought
      simp at sought
  | test other requestId digest =>
      unfold reserveKey chargeTestKey at sought
      simp at sought
  | master request =>
      unfold reserveKey MasterCredits.masterKey MasterCredits.masterIdempotencyPrefix at sought
      simp at sought

theorem releaseKey_fresh (ledger : Ledger) (campaignId : Uuid) (reason : ReleaseReason)
    (numbered : Numbered ledger) :
    getEntryByKey ledger (numberedKey (releaseBase campaignId reason)
      (countCampaignEntries ledger campaignId .release (releaseBase campaignId reason))) = none := by
  refine fresh_of_not_written ledger _ numbered ?_
  intro written
  generalize sought : numberedKey (releaseBase campaignId reason)
    (countCampaignEntries ledger campaignId .release (releaseBase campaignId reason)) = key at written
  cases written with
  | reserve other number earlier =>
      rw [numberedKey_eq, releaseBase_eq] at sought
      unfold reserveKey at sought
      simp at sought
  | release other another number earlier =>
      obtain ⟨rfl, rfl, same⟩ := releaseKey_injective _ _ _ _ _ _ sought
      omega
  | debit recipientId =>
      rw [numberedKey_eq, releaseBase_eq] at sought
      unfold debitKey at sought
      simp at sought
  | test other requestId digest =>
      rw [numberedKey_eq, releaseBase_eq] at sought
      unfold chargeTestKey at sought
      simp at sought
  | master request =>
      rw [numberedKey_eq, releaseBase_eq] at sought
      unfold MasterCredits.masterKey MasterCredits.masterIdempotencyPrefix at sought
      simp at sought

end CloudGuest.Marketing
