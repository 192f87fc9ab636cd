import CloudGuest.Billing.CreditLedger

/-!
What one call can do to a wallet, and what therefore holds after any sequence
of calls. `Posted` is the only way a ledger changes: one entry under an unused
key, its balances those of the wallet row written with it. Every entry point
either refuses, answers a stored entry, or posts.
-/

namespace CloudGuest.CreditLedger
open Texts RunningTotals

/-- One entry was appended and the wallet row moved with it. -/
structure Posted (before : Ledger) (entry : CreditLedgerEntry) (later : Ledger) : Prop where
  entries : later.entries = before.entries ++ [entry]
  available :
    later.wallet.availableMinor = before.wallet.availableMinor + entry.deltaAvailableMinor
  reserved :
    later.wallet.reservedMinor = before.wallet.reservedMinor + entry.deltaReservedMinor
  availableAfter : entry.balanceAvailableAfterMinor = later.wallet.availableMinor
  reservedAfter : entry.balanceReservedAfterMinor = later.wallet.reservedMinor
  availableNonneg : 0 ≤ later.wallet.availableMinor
  reservedNonneg : 0 ≤ later.wallet.reservedMinor
  fresh : getEntryByKey before entry.idempotencyKey = none
  undebited : recipientDebited before entry = false

theorem maybeAlertLowBalance_balances (session : Session) (entryType : CreditEntryType)
    (wallet alerted : CreditWallet)
    (answered : maybeAlertLowBalance session entryType wallet = .ok alerted) :
    alerted.availableMinor = wallet.availableMinor ∧
      alerted.reservedMinor = wallet.reservedMinor := by
  unfold maybeAlertLowBalance at answered
  split at answered
  · cases answered
    exact ⟨rfl, rfl⟩
  · split at answered
    · cases answered
      exact ⟨rfl, rfl⟩
    · split at answered
      · cases answered
      · cases answered
        exact ⟨rfl, rfl⟩

theorem maybeAlertLowBalance_error (session : Session) (entryType : CreditEntryType)
    (wallet : CreditWallet) (refusal : Refusal)
    (answered : maybeAlertLowBalance session entryType wallet = .error refusal) :
    ∃ reason, refusal = .raised reason := by
  unfold maybeAlertLowBalance at answered
  split at answered
  · cases answered
  · split at answered
    · cases answered
    · split at answered
      · cases answered
        exact ⟨_, rfl⟩
      · cases answered

theorem insertEntry_ok (session : Session) (ledger : Ledger) (entry : CreditLedgerEntry)
    (entries : List CreditLedgerEntry) (inserted : insertEntry session ledger entry = .ok entries) :
    entries = ledger.entries ++ [entry] ∧ 0 ≤ entry.balanceAvailableAfterMinor ∧
      0 ≤ entry.balanceReservedAfterMinor ∧ getEntryByKey ledger entry.idempotencyKey = none ∧
      recipientDebited ledger entry = false := by
  unfold insertEntry at inserted
  split at inserted
  · cases inserted
  · split at inserted
    · cases inserted
    · rename_i nonneg
      split at inserted
      · cases inserted
      · rename_i absent
        split at inserted
        · cases inserted
        · rename_i undebited
          cases inserted
          refine ⟨rfl, ?_, ?_, by simpa using absent, by simpa using undebited⟩ <;> omega

theorem writeEntry_cases (session : Session) (ledger : Ledger) (entry : CreditLedgerEntry)
    (available : entry.balanceAvailableAfterMinor =
      ledger.wallet.availableMinor + entry.deltaAvailableMinor)
    (reserved : entry.balanceReservedAfterMinor =
      ledger.wallet.reservedMinor + entry.deltaReservedMinor) :
    (∃ refusal, writeEntry session ledger entry = (.error refusal, ledger)) ∨
      ∃ later, writeEntry session ledger entry = (.ok ⟨entry, later.wallet, true⟩, later) ∧
        Posted ledger entry later := by
  unfold writeEntry
  cases inserted : insertEntry session ledger entry with
  | error failure => cases failure <;> exact .inl ⟨_, rfl⟩
  | ok entries =>
      obtain ⟨appended, availableNonneg, reservedNonneg, fresh, undebited⟩ :=
        insertEntry_ok session ledger entry entries inserted
      simp only
      split
      · exact .inl ⟨_, rfl⟩
      · rename_i alerted answered
        obtain ⟨sameAvailable, sameReserved⟩ :=
          maybeAlertLowBalance_balances session entry.entryType _ alerted answered
        simp only [updatedWallet] at sameAvailable sameReserved
        refine .inr ⟨⟨alerted, entries⟩, rfl, ?_⟩
        exact {
          entries := appended
          available := sameAvailable.trans available
          reserved := sameReserved.trans reserved
          availableAfter := sameAvailable.symm
          reservedAfter := sameReserved.symm
          availableNonneg := by rw [sameAvailable]; exact availableNonneg
          reservedNonneg := by rw [sameReserved]; exact reservedNonneg
          fresh := fresh
          undebited := undebited }

inductive Applied (ledger : Ledger) (wanted : Movement) (key : Text) :
    Except Refusal LedgerWrite × Ledger → Prop where
  | refused (refusal : Refusal) : Applied ledger wanted key (.error refusal, ledger)
  | replayed (existing : CreditLedgerEntry) (stored : getEntryByKey ledger key = some existing)
      (same : existing.movement = wanted) :
      Applied ledger wanted key (.ok ⟨existing, ledger.wallet, false⟩, ledger)
  | posted (entry : CreditLedgerEntry) (later : Ledger) (keyed : entry.idempotencyKey = key)
      (moved : entry.movement = wanted) (posted : Posted ledger entry later) :
      Applied ledger wanted key (.ok ⟨entry, later.wallet, true⟩, later)

theorem writeEntry_applied (session : Session) (ledger : Ledger) (entry : CreditLedgerEntry)
    (available : entry.balanceAvailableAfterMinor =
      ledger.wallet.availableMinor + entry.deltaAvailableMinor)
    (reserved : entry.balanceReservedAfterMinor =
      ledger.wallet.reservedMinor + entry.deltaReservedMinor) :
    Applied ledger entry.movement entry.idempotencyKey (writeEntry session ledger entry) := by
  rcases writeEntry_cases session ledger entry available reserved with
    ⟨refusal, answer⟩ | ⟨later, answer, posted⟩
  · rw [answer]
    exact .refused refusal
  · rw [answer]
    exact .posted entry later rfl rfl posted

theorem apply_applied (session : Session) (ledger : Ledger) (entryType : CreditEntryType)
    (deltaAvailable deltaReserved : Int) (key : Text) (fields : Fields)
    (beforeWrite : Option (Except String Uuid)) :
    Applied ledger ⟨entryType, deltaAvailable, deltaReserved, fields.campaignId, fields.recipientId⟩
      key (apply session ledger entryType deltaAvailable deltaReserved key fields beforeWrite) := by
  unfold apply
  split
  · exact .refused _
  · split
    · rename_i existing stored
      split
      · exact .refused _
      · rename_i same
        refine .replayed existing stored ?_
        simp only [not_or, not_not] at same
        obtain ⟨sameType, sameAvailable, sameReserved, sameCampaign, sameRecipient⟩ := same
        simp [CreditLedgerEntry.movement, *]
    · dsimp only
      split
      · split
        · exact .refused _
        · exact .refused _
      · split
        · exact .refused _
        · split
          · exact writeEntry_applied session ledger ⟨_, _, _, _, _, key, fields, none⟩ rfl rfl
          · exact .refused _
          · rename_i invoice
            exact writeEntry_applied session ledger ⟨_, _, _, _, _, key, fields, some invoice⟩
              rfl rfl

def Request.movement (request : Request) (minor : Int) : Movement :=
  ⟨request.entryType, request.deltaAvailable minor, request.deltaReserved minor,
    request.fields.campaignId, request.fields.recipientId⟩

theorem post_unchecked (session : Session) (ledger : Ledger) (request : Request)
    (refusal : Refusal) (checked : request.checked = .error refusal) :
    post session ledger request = (.error refusal, ledger) := by
  simp [post, checked]

theorem post_applied (session : Session) (ledger : Ledger) (request : Request) (minor : Int)
    (checked : request.checked = .ok minor) :
    Applied ledger (request.movement minor) request.key (post session ledger request) := by
  simp only [post, checked]
  exact apply_applied session ledger _ _ _ _ _ _

/-! ### Soundness -/

/-- The wallet row caches the ledger's totals, no balance is negative, every
entry states the balances after it, and no key is used twice. -/
structure Sound (ledger : Ledger) : Prop where
  available : ledger.wallet.availableMinor = total (·.deltaAvailableMinor) ledger.entries
  reserved : ledger.wallet.reservedMinor = total (·.deltaReservedMinor) ledger.entries
  availableNonneg : 0 ≤ ledger.wallet.availableMinor
  reservedNonneg : 0 ≤ ledger.wallet.reservedMinor
  availableAfter :
    Running (·.deltaAvailableMinor) (·.balanceAvailableAfterMinor) ledger.entries
  reservedAfter :
    Running (·.deltaReservedMinor) (·.balanceReservedAfterMinor) ledger.entries
  keys : (ledger.entries.map (·.idempotencyKey)).Nodup

theorem empty_sound : Sound .empty where
  available := rfl
  reserved := rfl
  availableNonneg := Int.le_refl 0
  reservedNonneg := Int.le_refl 0
  availableAfter := running_nil _ _
  reservedAfter := running_nil _ _
  keys := List.nodup_nil

theorem getEntryByKey_none_iff (ledger : Ledger) (key : Text) :
    getEntryByKey ledger key = none ↔ key ∉ ledger.entries.map (·.idempotencyKey) := by
  simp [getEntryByKey]

theorem posted_sound (before later : Ledger) (entry : CreditLedgerEntry) (sound : Sound before)
    (posted : Posted before entry later) : Sound later where
  available := by
    rw [posted.available, posted.entries, total_append, total_singleton, sound.available]
  reserved := by
    rw [posted.reserved, posted.entries, total_append, total_singleton, sound.reserved]
  availableNonneg := posted.availableNonneg
  reservedNonneg := posted.reservedNonneg
  availableAfter := by
    rw [posted.entries]
    refine running_concat _ _ _ _ sound.availableAfter ?_
    rw [posted.availableAfter, posted.available, sound.available]
  reservedAfter := by
    rw [posted.entries]
    refine running_concat _ _ _ _ sound.reservedAfter ?_
    rw [posted.reservedAfter, posted.reserved, sound.reserved]
  keys := by
    have unused := (getEntryByKey_none_iff before entry.idempotencyKey).mp posted.fresh
    rw [posted.entries, List.map_append, List.nodup_append]
    refine ⟨sound.keys, List.nodup_singleton _, ?_⟩
    intro key stored other added same
    obtain rfl : other = entry.idempotencyKey := by simpa using added
    exact unused (same ▸ stored)

/-! ### Every call refuses in place, answers, or posts -/

/-- The ledger a call leaves: its own, unless it answered and posted. -/
inductive Settled {Answer : Type} (before : Ledger) : Except Refusal Answer × Ledger → Prop where
  | refused (refusal : Refusal) : Settled before (.error refusal, before)
  | unchanged (answer : Answer) : Settled before (.ok answer, before)
  | posted (answer : Answer) (entry : CreditLedgerEntry) (later : Ledger)
      (posted : Posted before entry later) : Settled before (.ok answer, later)

theorem settled_map {Answer Reply : Type} (read : Answer → Reply) (before : Ledger)
    (result : Except Refusal Answer × Ledger) (settled : Settled before result) :
    Settled before (result.1.map read, result.2) := by
  cases settled with
  | refused refusal => exact .refused refusal
  | unchanged answer => exact .unchanged (read answer)
  | posted answer entry later posted => exact .posted (read answer) entry later posted

theorem post_cases (session : Session) (ledger : Ledger) (request : Request) :
    (∃ refusal, post session ledger request = (.error refusal, ledger)) ∨
      (∃ existing, post session ledger request = (.ok ⟨existing, ledger.wallet, false⟩, ledger)) ∨
      ∃ entry later, post session ledger request = (.ok ⟨entry, later.wallet, true⟩, later) ∧
        Posted ledger entry later := by
  cases checked : request.checked with
  | error refusal => exact .inl ⟨refusal, post_unchecked session ledger request refusal checked⟩
  | ok minor =>
      have applied := post_applied session ledger request minor checked
      generalize post session ledger request = result at applied
      cases applied with
      | refused refusal => exact .inl ⟨refusal, rfl⟩
      | replayed existing stored same => exact .inr (.inl ⟨existing, rfl⟩)
      | posted entry later keyed moved posted => exact .inr (.inr ⟨entry, later, rfl, posted⟩)

theorem post_settled (session : Session) (ledger : Ledger) (request : Request) :
    Settled ledger (post session ledger request) := by
  rcases post_cases session ledger request with
    ⟨refusal, answer⟩ | ⟨existing, answer⟩ | ⟨entry, later, answer, posted⟩
  · rw [answer]
    exact .refused refusal
  · rw [answer]
    exact .unchanged _
  · rw [answer]
    exact .posted _ entry later posted

theorem answered_settled (session : Session) (ledger : Ledger) (request : Request) (minor : Int) :
    Settled ledger (match post session ledger request with
      | (.error refusal, later) => (.error refusal, later)
      | (.ok _, later) => ((.ok minor : Except Refusal Int), later)) := by
  have settled := post_settled session ledger request
  generalize post session ledger request = result at settled
  cases settled with
  | refused refusal => exact .refused refusal
  | unchanged answer => exact .unchanged minor
  | posted answer entry later posted => exact .posted minor entry later posted

theorem fitUnits_settled (session : Session) (ledger : Ledger) (campaignId : Uuid)
    (amount : Amount) (value : Int) (unitMinor : Option Int) :
    Settled ledger (fitUnits session ledger campaignId amount value unitMinor) := by
  cases unitMinor with
  | none => exact answered_settled session ledger _ value
  | some unit =>
      simp only [fitUnits]
      split
      · exact .unchanged 0
      · split
        · exact .unchanged 0
        · exact answered_settled session ledger _ _

theorem reserveForCampaign_settled (session : Session) (ledger : Ledger) (campaignId : Uuid)
    (amount : Amount) (unitMinor : Option Int) :
    Settled ledger (reserveForCampaign session ledger campaignId amount unitMinor) := by
  unfold reserveForCampaign
  split
  · exact .refused _
  · exact .unchanged 0
  · exact fitUnits_settled session ledger campaignId _ _ unitMinor
  · split
    · exact .unchanged 0
    · exact fitUnits_settled session ledger campaignId _ _ unitMinor

theorem releaseCampaignRemainder_settled (session : Session) (ledger : Ledger) (campaignId : Uuid)
    (keyBase : Text) (holdMinor : Int) :
    Settled ledger (releaseCampaignRemainder session ledger campaignId keyBase holdMinor) := by
  unfold releaseCampaignRemainder
  dsimp only
  split
  · exact .unchanged 0
  · exact answered_settled session ledger _ _

theorem perform_settled (ledger : Ledger) (call : Call) : Settled ledger (perform ledger call) := by
  unfold perform
  split
  · exact settled_map _ _ _ (post_settled call.session ledger _)
  · exact settled_map _ _ _ (reserveForCampaign_settled call.session ledger _ _ _)
  · exact settled_map _ _ _ (releaseCampaignRemainder_settled call.session ledger _ _ _)

theorem settled_sound {Answer : Type} (before : Ledger) (result : Except Refusal Answer × Ledger)
    (settled : Settled before result) (sound : Sound before) : Sound result.2 := by
  cases settled with
  | refused refusal => exact sound
  | unchanged answer => exact sound
  | posted answer entry later posted => exact posted_sound before later entry sound posted

theorem after_sound (ledger : Ledger) (calls : List Call) (sound : Sound ledger) :
    Sound (after ledger calls) := by
  induction calls generalizing ledger with
  | nil => exact sound
  | cons call rest ih =>
      exact ih (perform ledger call).2 (settled_sound _ _ (perform_settled ledger call) sound)

theorem perform_refused_unchanged (ledger : Ledger) (call : Call) (refusal : Refusal)
    (refused : (perform ledger call).1 = .error refusal) : (perform ledger call).2 = ledger := by
  have settled := perform_settled ledger call
  generalize perform ledger call = result at settled refused
  cases settled with
  | refused _ => rfl
  | unchanged answer => rfl
  | posted answer entry later posted => cases refused

/-- Every ledger a run of calls reaches from the zero wallet is sound, and the
next call, if it raises, leaves wallet and ledger as they were. -/
theorem credit_ledger_sound_over_runs (calls : List Call) :
    Sound (after .empty calls) ∧
      ∀ call refusal, (perform (after .empty calls) call).1 = .error refusal →
        (perform (after .empty calls) call).2 = after .empty calls := by
  constructor
  · exact after_sound .empty calls empty_sound
  · intro call refusal refused
    exact perform_refused_unchanged _ call refusal refused

/-- A deduction beyond the balance raises and the top-up before it stands. -/
theorem credit_ledger_sound_after_topup :
    let calls : List Call := [⟨{}, .keyed (.topup (.int 10) "t".toList none none none none)⟩]
    let call : Call := ⟨{}, .keyed (.adjust (.int (-20)) "a".toList none none none)⟩
    Sound (after .empty calls) ∧ (perform (after .empty calls) call).2 = after .empty calls := by
  intro calls call
  have sound := credit_ledger_sound_over_runs calls
  exact ⟨sound.1, sound.2 call (.adjustmentExceedsAvailable (-20) 10) (by decide)⟩

end CloudGuest.CreditLedger
