import CloudGuest.Billing.CreditLedger
import CloudGuest.Library.Latches

/-!
The low-balance alert of a wallet (billing/credits_service.py, `_maybe_alert_low_balance`,
`_apply` and `update_settings`). `low_balance_notified_at` is a latch: the alert sets it,
and an entry or a new threshold that brings the balance back clears it.

A call of the hook counts when the call it rides on stands. The hook of the source
(`LowBalanceNotifier`) never raises and writes its row in the caller's transaction, so a
call that is rolled back takes its alert with it. The audit row of `update_settings` is
left out.
-/

namespace CloudGuest.CreditLedger
open Runs Latches

structure SettingsUpdate where
  lowBalanceThresholdMinor : Int
  organizationExists : Bool := true
  database : Option String := none
  deriving DecidableEq

def withThreshold (wallet : CreditWallet) (lowBalanceThresholdMinor : Int) : CreditWallet :=
  { wallet with
    lowBalanceThresholdMinor
    lowBalanceNotifiedAt :=
      if wallet.availableMinor ≥ lowBalanceThresholdMinor then none
      else wallet.lowBalanceNotifiedAt }

def updateSettings (ledger : Ledger) (update : SettingsUpdate) :
    Except Refusal CreditWallet × Ledger :=
  if update.organizationExists = false then (.error (.raised "Organization not found"), ledger)
  else match update.database with
  | some reason => (.error (.raised reason), ledger)
  | none =>
      if update.lowBalanceThresholdMinor < 0 then
        (.error (.integrityError "threshold_nonneg"), ledger)
      else
        let wallet := withThreshold ledger.wallet update.lowBalanceThresholdMinor
        (.ok wallet, { ledger with wallet })

inductive WalletAction where
  | call (call : Call)
  | updateSettings (update : SettingsUpdate)

def walletStep (ledger : Ledger) : WalletAction → Option Ledger
  | .call call => some (perform ledger call).2
  | .updateSettings update => some (updateSettings ledger update).2

def hookInstalled (_ : Ledger) : WalletAction → Prop
  | .call call => call.session.lowBalanceHook.isSome = true
  | .updateSettings _ => True

/-- The condition under which `_maybe_alert_low_balance` does not return early, the hook apart. -/
def alertDue (entryType : CreditEntryType) (wallet : CreditWallet) : Bool :=
  lowBalanceEntryType entryType && wallet.lowBalanceNotifiedAt.isNone &&
    wallet.availableMinor < wallet.lowBalanceThresholdMinor

def createdEntry (before after : Ledger) : Option CreditLedgerEntry :=
  after.entries[before.entries.length]?

/-- The wallet row as `_apply` flushes it with an entry, before the alert. -/
def flushedWallet (before : Ledger) (entry : CreditLedgerEntry) : CreditWallet :=
  updatedWallet before.wallet entry.balanceAvailableAfterMinor entry.balanceReservedAfterMinor

def hookCalled (taken : Taken Ledger WalletAction) : Bool :=
  match taken.action with
  | .updateSettings _ => false
  | .call call =>
      call.session.lowBalanceHook.isSome && (createdEntry taken.before taken.after).any fun entry =>
        alertDue entry.entryType (flushedWallet taken.before entry)

def isNotified (ledger : Ledger) : Prop := ledger.wallet.lowBalanceNotifiedAt.isSome = true

def isCovered (ledger : Ledger) : Prop :=
  ledger.wallet.lowBalanceThresholdMinor ≤ ledger.wallet.availableMinor

/-! ### What a call leaves of the alert -/

theorem maybeAlertLowBalance_due (session : Session) (entryType : CreditEntryType)
    (wallet : CreditWallet) : maybeAlertLowBalance session entryType wallet =
      match session.lowBalanceHook with
      | none => .ok wallet
      | some answer =>
          if alertDue entryType wallet = false then .ok wallet
          else match answer with
            | some reason => .error (.raised reason)
            | none => .ok { wallet with lowBalanceNotifiedAt := some session.now } := by
  unfold maybeAlertLowBalance
  have early : (¬ lowBalanceEntryType entryType = true ∨ wallet.lowBalanceNotifiedAt.isSome = true ∨
      wallet.availableMinor ≥ wallet.lowBalanceThresholdMinor) ↔
        alertDue entryType wallet = false := by
    cases noted : wallet.lowBalanceNotifiedAt <;>
      cases considered : lowBalanceEntryType entryType <;> simp [alertDue, noted, considered]
  cases session.lowBalanceHook with
  | none => rfl
  | some answer => exact if_congr early rfl (by cases answer <;> rfl)

/-- One entry was created, and the wallet is what the alert made of the row flushed with it. -/
structure Alerted (session : Session) (before : Ledger) (entry : CreditLedgerEntry)
    (later : Ledger) : Prop where
  entries : later.entries = before.entries ++ [entry]
  wallet :
    maybeAlertLowBalance session entry.entryType (flushedWallet before entry) = .ok later.wallet

def Written (session : Session) (before later : Ledger) : Prop :=
  later = before ∨ ∃ entry, Alerted session before entry later

theorem writeEntry_written (session : Session) (ledger : Ledger) (entry : CreditLedgerEntry) :
    Written session ledger (writeEntry session ledger entry).2 := by
  unfold writeEntry
  split
  · exact .inl rfl
  · exact .inl rfl
  · exact .inl rfl
  · rename_i entries inserted
    have appended : entries = ledger.entries ++ [entry] := by
      unfold insertEntry at inserted
      split at inserted
      · cases inserted
      · split at inserted
        · cases inserted
        · split at inserted
          · cases inserted
          · split at inserted <;> cases inserted
            rfl
    dsimp only
    split
    · exact .inl rfl
    · rename_i alerted answered
      exact .inr ⟨entry, appended, answered⟩

theorem apply_written (session : Session) (ledger : Ledger) (entryType : CreditEntryType)
    (deltaAvailable deltaReserved : Int) (key : Texts.Text) (fields : Fields)
    (beforeWrite : Option (Except String Uuid)) :
    Written session ledger
      (apply session ledger entryType deltaAvailable deltaReserved key fields beforeWrite).2 := by
  unfold apply
  split
  · exact .inl rfl
  · split
    · split <;> exact .inl rfl
    · dsimp only
      split
      · split <;> exact .inl rfl
      · split
        · exact .inl rfl
        · split
          · exact writeEntry_written session ledger _
          · exact .inl rfl
          · exact writeEntry_written session ledger _

theorem post_written (session : Session) (ledger : Ledger) (request : Request) :
    Written session ledger (post session ledger request).2 := by
  unfold post
  split
  · exact .inl rfl
  · exact apply_written session ledger _ _ _ _ _ _

theorem answered_written (session : Session) (ledger : Ledger) (request : Request) (minor : Int) :
    Written session ledger (match post session ledger request with
      | (.error refusal, later) => ((.error refusal : Except Refusal Int), later)
      | (.ok _, later) => (.ok minor, later)).2 := by
  have written := post_written session ledger request
  split <;> rename_i answered <;> rw [answered] at written <;> exact written

theorem fitUnits_written (session : Session) (ledger : Ledger) (campaignId : Uuid)
    (amount : Amount) (value : Int) (unitMinor : Option Int) :
    Written session ledger (fitUnits session ledger campaignId amount value unitMinor).2 := by
  unfold fitUnits
  split
  · exact answered_written session ledger _ _
  · split
    · exact .inl rfl
    · dsimp only
      split
      · exact .inl rfl
      · exact answered_written session ledger _ _

theorem perform_written (ledger : Ledger) (call : Call) :
    Written call.session ledger (perform ledger call).2 := by
  unfold perform
  split
  · exact post_written call.session ledger _
  · unfold reserveForCampaign
    split
    · exact .inl rfl
    · exact .inl rfl
    · exact fitUnits_written call.session ledger _ _ _ _
    · split
      · exact .inl rfl
      · exact fitUnits_written call.session ledger _ _ _ _
  · unfold releaseCampaignRemainder
    dsimp only
    split
    · exact .inl rfl
    · exact answered_written call.session ledger _ _

theorem createdEntry_self (ledger : Ledger) : createdEntry ledger ledger = none := by
  simp [createdEntry]

variable {session : Session} {before later : Ledger} {entry : CreditLedgerEntry}

theorem Alerted.created (alerted : Alerted session before entry later) :
    createdEntry before later = some entry := by
  simp [createdEntry, alerted.entries]

theorem Alerted.cases (alerted : Alerted session before entry later)
    (installed : session.lowBalanceHook.isSome = true) :
    later.wallet.availableMinor = entry.balanceAvailableAfterMinor ∧
      later.wallet.lowBalanceThresholdMinor = before.wallet.lowBalanceThresholdMinor ∧
      (alertDue entry.entryType (flushedWallet before entry) = true ∧ isNotified later ∨
        alertDue entry.entryType (flushedWallet before entry) = false ∧
          later.wallet = flushedWallet before entry) := by
  have answered := alerted.wallet
  rw [maybeAlertLowBalance_due] at answered
  split at answered
  · rename_i missing
    rw [missing] at installed
    cases installed
  · split at answered
    · rename_i early
      have same := Except.ok.inj answered
      refine ⟨?_, ?_, .inr ⟨early, same.symm⟩⟩
      · rw [← same]
        rfl
      · rw [← same]
        rfl
    · rename_i due
      split at answered
      · cases answered
      · have same := Except.ok.inj answered
        refine ⟨?_, ?_, .inl ⟨by simpa using due, ?_⟩⟩
        · rw [← same]
          rfl
        · rw [← same]
          rfl
        · rw [isNotified, ← same]
          rfl

theorem updateSettings_cases (ledger : Ledger) (update : SettingsUpdate) :
    (updateSettings ledger update).2 = ledger ∨
      (updateSettings ledger update).2 =
        { ledger with wallet := withThreshold ledger.wallet update.lowBalanceThresholdMinor } := by
  unfold updateSettings
  split
  · exact .inl rfl
  · split
    · exact .inl rfl
    · split
      · exact .inl rfl
      · exact .inr rfl

theorem walletStep_cases {action : WalletAction} (installed : hookInstalled before action)
    (stepped : walletStep before action = some later) :
    later = before ∨
      (∃ update, action = .updateSettings update ∧
        later = { before with
          wallet := withThreshold before.wallet update.lowBalanceThresholdMinor }) ∨
      ∃ call entry, action = .call call ∧ Alerted call.session before entry later ∧
        call.session.lowBalanceHook.isSome = true := by
  cases action with
  | call call =>
      obtain rfl := Option.some.inj stepped
      rcases perform_written before call with same | ⟨entry, alerted⟩
      · exact .inl same
      · exact .inr (.inr ⟨call, entry, rfl, alerted, installed⟩)
  | updateSettings update =>
      obtain rfl := Option.some.inj stepped
      rcases updateSettings_cases before update with same | updated
      · exact .inl same
      · exact .inr (.inl ⟨update, rfl, updated⟩)

/-! ### The latch -/

theorem notified_step {action : WalletAction} (installed : hookInstalled before action)
    (stepped : walletStep before action = some later)
    (held : isNotified before → ¬ isCovered before) : isNotified later → ¬ isCovered later := by
  rcases walletStep_cases installed stepped with
    rfl | ⟨update, rfl, rfl⟩ | ⟨call, entry, rfl, alerted, hook⟩
  · exact held
  · intro notified
    simp only [isNotified, isCovered, withThreshold] at notified ⊢
    split at notified
    · cases notified
    · assumption
  · intro notified
    obtain ⟨available, threshold, ⟨due, -⟩ | ⟨-, same⟩⟩ := alerted.cases hook
    · rw [isCovered, available, threshold]
      simp only [alertDue, Bool.and_eq_true, decide_eq_true_eq] at due
      exact not_le.mpr due.2
    · rw [isNotified, same] at notified
      simp only [flushedWallet, updatedWallet] at notified
      split at notified
      · cases notified
      · rw [isCovered, available, threshold]
        assumption

theorem hookCalled_sets {action : WalletAction} (installed : hookInstalled before action)
    (stepped : walletStep before action = some later)
    (called : hookCalled ⟨before, action, later⟩ = true) :
    ¬ isNotified before ∧ isNotified later := by
  rcases walletStep_cases installed stepped with
    rfl | ⟨update, rfl, rfl⟩ | ⟨call, entry, rfl, alerted, hook⟩
  · cases action <;> simp [hookCalled, createdEntry_self] at called
  · simp [hookCalled] at called
  · simp only [hookCalled, alerted.created, hook, Bool.true_and, Option.any_some] at called
    obtain ⟨-, -, ⟨-, notified⟩ | ⟨early, -⟩⟩ := alerted.cases hook
    · refine ⟨?_, notified⟩
      -- The flag of the flushed row is empty, below the threshold: it was empty before.
      simp only [alertDue, flushedWallet, updatedWallet, Bool.and_eq_true] at called
      obtain ⟨⟨-, silent⟩, below⟩ := called
      rw [if_neg (not_le.mpr (of_decide_eq_true below))] at silent
      rw [isNotified, Option.isSome_iff_ne_none]
      simpa using silent
    · rw [early] at called
      cases called

/-- The flag is cleared only where the balance is back at the threshold then in force. -/
theorem notified_rearmed {action : WalletAction} (installed : hookInstalled before action)
    (stepped : walletStep before action = some later) (notified : isNotified before)
    (cleared : ¬ isNotified later) : isCovered later := by
  rcases walletStep_cases installed stepped with
    rfl | ⟨update, rfl, rfl⟩ | ⟨call, entry, rfl, alerted, hook⟩
  · exact absurd notified cleared
  · by_contra uncovered
    refine cleared ?_
    simp only [isCovered, withThreshold] at uncovered
    simpa [isNotified, withThreshold, uncovered] using notified
  · obtain ⟨available, threshold, ⟨-, set⟩ | ⟨-, same⟩⟩ := alerted.cases hook
    · exact absurd set cleared
    · by_contra uncovered
      refine cleared ?_
      rw [isCovered, available, threshold] at uncovered
      simpa [isNotified, same, flushedWallet, updatedWallet, uncovered] using notified

/-- The alert fires once per crossing: a notified wallet is below its threshold, between two
calls of the hook the balance was back at it, and an entry that may alert leaves no wallet below
its threshold without the flag. -/
theorem low_balance_alerts_once :
    (∀ ledger, Reached walletStep hookInstalled .empty ledger → isNotified ledger →
      ledger.wallet.availableMinor < ledger.wallet.lowBalanceThresholdMinor) ∧
    (∀ front middle back first second ledger,
      Traced walletStep hookInstalled .empty
        (front ++ first :: (middle ++ second :: back)) ledger →
      hookCalled first = true → hookCalled second = true →
      ∃ taken ∈ middle,
        taken.after.wallet.lowBalanceThresholdMinor ≤ taken.after.wallet.availableMinor) ∧
    ∀ ledger call, Reached walletStep hookInstalled .empty ledger →
      hookInstalled ledger (.call call) → ∀ reply later, perform ledger call = (.ok reply, later) →
      ∀ entry, createdEntry ledger later = some entry → lowBalanceEntryType entry.entryType = true →
        later.wallet.availableMinor < later.wallet.lowBalanceThresholdMinor → isNotified later := by
  refine ⟨?_, ?_, ?_⟩
  · intro ledger reached notified
    have below : isNotified ledger → ¬ isCovered ledger := by
      refine Reached.invariant (fun state => isNotified state → ¬ isCovered state) ?_ ?_ reached
      · simp [isNotified, Ledger.empty]
      · intro state action next held installed stepped
        exact notified_step installed stepped held
    exact not_le.mp (below notified)
  · intro front middle back first second ledger traced called calledAgain
    refine calm_between isNotified isCovered (fun taken => hookCalled taken = true) ?_ ?_ traced
      called calledAgain
    · intro state action next installed stepped
      exact hookCalled_sets installed stepped
    · intro state action next installed stepped
      exact notified_rearmed installed stepped
  · intro ledger call _ installed reply later performed entry created considered below
    have written := perform_written ledger call
    rw [performed] at written
    rcases written with rfl | ⟨other, alerted⟩
    · rw [createdEntry_self] at created
      cases created
    · obtain rfl := Option.some.inj (alerted.created.symm.trans created)
      obtain ⟨available, threshold, ⟨-, set⟩ | ⟨early, same⟩⟩ := alerted.cases installed
      · exact set
      · -- The alert was not due although the balance is below: the flag stood already.
        rw [available, threshold] at below
        by_contra silent
        rw [isNotified, same] at silent
        have unset : (flushedWallet ledger other).lowBalanceNotifiedAt = none := by simpa using silent
        have due : alertDue other.entryType (flushedWallet ledger other) = true := by
          simp only [alertDue, considered, unset, Option.isNone_none, Bool.and_self, Bool.true_and]
          exact decide_eq_true below
        rw [due] at early
        cases early

section Executed

def adjusted (amount : Int) (key : String) : WalletAction :=
  .call ⟨{ lowBalanceHook := some none }, .keyed (.adjust (.int amount) key.toList none none none)⟩

def granted : WalletAction := adjusted 20000 "a"
def taken15000 : WalletAction := adjusted (-15000) "b"
def returned8000 : WalletAction := adjusted 8000 "c"
def taken9000 : WalletAction := adjusted (-9000) "d"

def ledgerAfter (actions : List WalletAction) : Ledger :=
  actions.foldl (fun ledger action => (walletStep ledger action).getD ledger) .empty

/-- 200 credits, 150 of them taken, 80 returned and 90 taken: two alerts, and 130 between them. -/
theorem low_balance_alerts_once_adjusted :
    let first := ledgerAfter [granted]
    let low := ledgerAfter [granted, taken15000]
    let back := ledgerAfter [granted, taken15000, returned8000]
    let again := ledgerAfter [granted, taken15000, returned8000, taken9000]
    hookCalled ⟨first, taken15000, low⟩ = true ∧ hookCalled ⟨back, taken9000, again⟩ = true ∧
      again.wallet.availableMinor < again.wallet.lowBalanceThresholdMinor ∧
      ∃ taken ∈ [(⟨low, returned8000, back⟩ : Taken Ledger WalletAction)],
        taken.after.wallet.lowBalanceThresholdMinor ≤ taken.after.wallet.availableMinor := by
  intro first low back again
  have one : Traced walletStep hookInstalled .empty [⟨.empty, granted, first⟩] first :=
    .next .start rfl rfl
  have two : Traced walletStep hookInstalled .empty
      [⟨.empty, granted, first⟩, ⟨first, taken15000, low⟩] low := .next one rfl rfl
  have three : Traced walletStep hookInstalled .empty
      [⟨.empty, granted, first⟩, ⟨first, taken15000, low⟩, ⟨low, returned8000, back⟩] back :=
    .next two rfl rfl
  have traced : Traced walletStep hookInstalled .empty
      [⟨.empty, granted, first⟩, ⟨first, taken15000, low⟩, ⟨low, returned8000, back⟩,
        ⟨back, taken9000, again⟩] again := .next three rfl rfl
  have called : hookCalled ⟨first, taken15000, low⟩ = true := by decide +kernel
  have calledAgain : hookCalled ⟨back, taken9000, again⟩ = true := by decide +kernel
  have notified : isNotified again := by
    change again.wallet.lowBalanceNotifiedAt.isSome = true
    decide +kernel
  exact ⟨called, calledAgain, low_balance_alerts_once.1 again traced.reached notified,
    low_balance_alerts_once.2.1 [⟨.empty, granted, first⟩] [⟨low, returned8000, back⟩] []
      ⟨first, taken15000, low⟩ ⟨back, taken9000, again⟩ again traced called calledAgain⟩

end Executed

end CloudGuest.CreditLedger
