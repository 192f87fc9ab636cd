import CloudGuest.Library.RunningTotals
import CloudGuest.Library.Texts

/-!
`CreditWalletService` (billing/credits_service.py) over one wallet, i.e. one
organization and bucket. The state is the wallet row and its append-only
ledger, oldest entry first; `lock_wallet` serialises the calls, so each call
is one function of the state. A call answers with a result and the state it
leaves. Every refusal before the first write leaves the state it found; a
refusal after a write is the caller's rollback to the state it found.

What lies outside this code is an argument of the call: the clock, whether
the low-balance hook is installed and raises, what `before_write` answers and
whether the database itself fails a flush (lost connection, value too long for
its column). The two unique indexes and the CHECK constraints are modelled.
-/

namespace CloudGuest.CreditLedger
open Texts RunningTotals

def maxEntryAmountMinor : Int := 1000000000
def defaultLowBalanceThresholdMinor : Int := 10000

structure Uuid where
  text : Text
  width : text.length = 36
  deriving DecidableEq

inductive CreditEntryType where
  | topup | reserve | release | debit | refund | adjustment
  deriving DecidableEq

structure CreditWallet where
  availableMinor : Int
  reservedMinor : Int
  lowBalanceThresholdMinor : Int
  lowBalanceNotifiedAt : Option Int
  deriving DecidableEq

structure Fields where
  campaignId : Option Uuid := none
  recipientId : Option Uuid := none
  actorUserId : Option Uuid := none
  reference : Option Text := none
  note : Option Text := none
  unitPriceMinor : Option Int := none
  units : Option Int := none
  isTestSend : Bool := false
  deriving DecidableEq

structure CreditLedgerEntry where
  entryType : CreditEntryType
  deltaAvailableMinor : Int
  deltaReservedMinor : Int
  balanceAvailableAfterMinor : Int
  balanceReservedAfterMinor : Int
  idempotencyKey : Text
  fields : Fields
  invoiceId : Option Uuid
  deriving DecidableEq

def CreditLedgerEntry.campaignId (entry : CreditLedgerEntry) : Option Uuid := entry.fields.campaignId
def CreditLedgerEntry.recipientId (entry : CreditLedgerEntry) : Option Uuid := entry.fields.recipientId

structure Ledger where
  wallet : CreditWallet
  entries : List CreditLedgerEntry
  deriving DecidableEq

def Ledger.empty : Ledger := ⟨⟨0, 0, defaultLowBalanceThresholdMinor, none⟩, []⟩

inductive Refusal where
  | typeError (message : String)
  | valueError (message : String)
  | insufficientCredits (neededMinor availableMinor : Int)
  | adjustmentExceedsAvailable (amountMinor availableMinor : Int)
  | creditReservationExceeded (amountMinor reservedMinor : Int)
  | idempotencyKeyReused (key : Text)
  | integrityError (constraint : String)
  | raised (reason : String)
  deriving DecidableEq

/-- A value passed as an amount: an `int`, a `bool` (an `int` by subclassing)
or something that is no number. -/
inductive Amount where
  | int (value : Int)
  | bool (value : Bool)
  | other
  deriving DecidableEq

structure LedgerWrite where
  entry : CreditLedgerEntry
  wallet : CreditWallet
  created : Bool
  deriving DecidableEq

/-- What one call meets outside this code. `lowBalanceHook` is `none` when no
hook is installed, `some none` when it returns, `some (some reason)` when it
raises; `database` is the reason a flush fails, if it does. -/
structure Session where
  now : Int := 0
  lowBalanceHook : Option (Option String) := none
  database : Option String := none
  deriving DecidableEq

/-! ### CreditRepository -/

def getEntryByKey (ledger : Ledger) (key : Text) : Option CreditLedgerEntry :=
  ledger.entries.find? fun entry => entry.idempotencyKey == key

def countCampaignEntries (ledger : Ledger) (campaignId : Uuid) (entryType : CreditEntryType)
    (keyPrefix : Text) : Nat :=
  ledger.entries.countP fun entry => entry.campaignId == some campaignId &&
    entry.entryType == entryType && keyPrefix.isPrefixOf entry.idempotencyKey

def campaignEntries (ledger : Ledger) (campaignId : Uuid) : List CreditLedgerEntry :=
  ledger.entries.filter fun entry => entry.campaignId == some campaignId

def campaignReservedOutstanding (ledger : Ledger) (campaignId : Uuid) : Int :=
  total (·.deltaReservedMinor) (campaignEntries ledger campaignId)

inductive InsertFailure where
  | checkViolation
  | uniqueViolation (constraint : String)
  | failed (reason : String)
  deriving DecidableEq

def recipientDebited (ledger : Ledger) (entry : CreditLedgerEntry) : Bool :=
  entry.entryType == .debit && entry.recipientId.isSome &&
    ledger.entries.any fun other => other.entryType == .debit && other.recipientId == entry.recipientId

def insertEntry (session : Session) (ledger : Ledger) (entry : CreditLedgerEntry) :
    Except InsertFailure (List CreditLedgerEntry) :=
  match session.database with
  | some reason => .error (.failed reason)
  | none =>
      if entry.balanceAvailableAfterMinor < 0 ∨ entry.balanceReservedAfterMinor < 0 then
        .error .checkViolation
      else if (getEntryByKey ledger entry.idempotencyKey).isSome then
        .error (.uniqueViolation "uq_credit_ledger_entries_idempotency")
      else if recipientDebited ledger entry then
        .error (.uniqueViolation "uq_credit_ledger_entries_recipient_debit")
      else .ok (ledger.entries ++ [entry])

/-! ### The one write path -/

def lowBalanceEntryType : CreditEntryType → Bool
  -- §13.5: reserves, debits and adjustments alone are considered for an alert.
  | .reserve | .debit | .adjustment => true
  | _ => false

def maybeAlertLowBalance (session : Session) (entryType : CreditEntryType)
    (wallet : CreditWallet) : Except Refusal CreditWallet :=
  match session.lowBalanceHook with
  | none => .ok wallet
  | some answer =>
      if ¬ lowBalanceEntryType entryType ∨ wallet.lowBalanceNotifiedAt.isSome ∨
          wallet.availableMinor ≥ wallet.lowBalanceThresholdMinor then .ok wallet
      else match answer with
        | some reason => .error (.raised reason)
        | none => .ok { wallet with lowBalanceNotifiedAt := some session.now }

def updatedWallet (wallet : CreditWallet) (newAvailable newReserved : Int) : CreditWallet :=
  -- The wallet row after the entry, with the alert re-armed once the balance is back at or above
  -- the threshold.
  { wallet with
    availableMinor := newAvailable
    reservedMinor := newReserved
    lowBalanceNotifiedAt :=
      if newAvailable ≥ wallet.lowBalanceThresholdMinor then none else wallet.lowBalanceNotifiedAt }

def writeEntry (session : Session) (ledger : Ledger) (entry : CreditLedgerEntry) :
    Except Refusal LedgerWrite × Ledger :=
  -- Insert, update the wallet, alert (the `try` block of `_apply`).
  match insertEntry session ledger entry with
  | .error .checkViolation =>
      (.error (.insufficientCredits (max 0 (-entry.deltaAvailableMinor)) ledger.wallet.availableMinor),
        ledger)
  | .error (.uniqueViolation constraint) => (.error (.integrityError constraint), ledger)
  | .error (.failed reason) => (.error (.raised reason), ledger)
  | .ok entries =>
      let wallet := updatedWallet ledger.wallet entry.balanceAvailableAfterMinor
        entry.balanceReservedAfterMinor
      match maybeAlertLowBalance session entry.entryType wallet with
      -- The row and the balances are already flushed here: the transaction rolls back.
      | .error refusal => (.error refusal, ledger)
      | .ok alerted => (.ok ⟨entry, alerted, true⟩, ⟨alerted, entries⟩)

/-- What a request moves, as far as `_apply` compares it with a stored entry. -/
structure Movement where
  entryType : CreditEntryType
  deltaAvailable : Int
  deltaReserved : Int
  campaignId : Option Uuid
  recipientId : Option Uuid
  deriving DecidableEq

def CreditLedgerEntry.movement (entry : CreditLedgerEntry) : Movement :=
  ⟨entry.entryType, entry.deltaAvailableMinor, entry.deltaReservedMinor, entry.campaignId,
    entry.recipientId⟩

def apply (session : Session) (ledger : Ledger) (entryType : CreditEntryType)
    (deltaAvailable deltaReserved : Int) (key : Text) (fields : Fields)
    (beforeWrite : Option (Except String Uuid)) : Except Refusal LedgerWrite × Ledger :=
  if key = [] then (.error (.valueError "idempotency_key is required"), ledger)
  else match getEntryByKey ledger key with
  | some existing =>
      if existing.entryType ≠ entryType ∨ existing.deltaAvailableMinor ≠ deltaAvailable ∨
          existing.deltaReservedMinor ≠ deltaReserved ∨
          existing.campaignId ≠ fields.campaignId ∨ existing.recipientId ≠ fields.recipientId then
        (.error (.idempotencyKeyReused key), ledger)
      else (.ok ⟨existing, ledger.wallet, false⟩, ledger)
  | none =>
      let newAvailable := ledger.wallet.availableMinor + deltaAvailable
      let newReserved := ledger.wallet.reservedMinor + deltaReserved
      if newAvailable < 0 then
        if entryType = .adjustment then
          (.error (.adjustmentExceedsAvailable deltaAvailable ledger.wallet.availableMinor), ledger)
        else (.error (.insufficientCredits (-deltaAvailable) ledger.wallet.availableMinor), ledger)
      else if newReserved < 0 then
        (.error (.creditReservationExceeded (-deltaReserved) ledger.wallet.reservedMinor), ledger)
      else
        let entry (invoiceId : Option Uuid) : CreditLedgerEntry :=
          ⟨entryType, deltaAvailable, deltaReserved, newAvailable, newReserved, key, fields, invoiceId⟩
        match beforeWrite with
        | none => writeEntry session ledger (entry none)
        | some (.error reason) => (.error (.raised reason), ledger)
        | some (.ok invoice) => writeEntry session ledger (entry (some invoice))

/-! ### The entry points

`topup`, `reserve`, `release`, `debit`, `refund` and `adjust` check their
amount and hand one movement to `_apply`. A `Request` is that hand-over; the
six differ in the check, the sign convention and the fields alone. -/

structure Request where
  /-- The amount after the entry point's own check. -/
  checked : Except Refusal Int
  entryType : CreditEntryType
  deltaAvailable : Int → Int
  deltaReserved : Int → Int
  key : Text
  fields : Fields
  beforeWrite : Option (Except String Uuid) := none

def post (session : Session) (ledger : Ledger) (request : Request) :
    Except Refusal LedgerWrite × Ledger :=
  match request.checked with
  | .error refusal => (.error refusal, ledger)
  | .ok minor =>
      apply session ledger request.entryType (request.deltaAvailable minor)
        (request.deltaReserved minor) request.key request.fields request.beforeWrite

def requirePositive : Amount → Except Refusal Int
  | .int value =>
      if value ≤ 0 ∨ value > maxEntryAmountMinor then
        .error (.valueError "credit amount must be positive and in range")
      else .ok value
  | .bool _ | .other => .error (.typeError "credit amounts are integer minor units")

def topup (amount : Amount) (key : Text) (actorUserId : Option Uuid)
    (reference note : Option Text) (beforeWrite : Option (Except String Uuid)) : Request where
  checked := requirePositive amount
  entryType := .topup
  deltaAvailable minor := minor
  deltaReserved _ := 0
  key := key
  fields := { actorUserId, reference, note }
  beforeWrite := beforeWrite

def reserve (amount : Amount) (key : Text) (campaignId : Uuid) : Request where
  checked := requirePositive amount
  entryType := .reserve
  deltaAvailable minor := -minor
  deltaReserved minor := minor
  key := key
  fields := { campaignId := some campaignId }

def release (amount : Amount) (key : Text) (campaignId : Uuid) : Request where
  checked := requirePositive amount
  entryType := .release
  deltaAvailable minor := minor
  deltaReserved minor := -minor
  key := key
  fields := { campaignId := some campaignId }

def debit (amount : Amount) (key : Text) (campaignId recipientId : Option Uuid)
    (unitPriceMinor units : Option Int) (isTestSend : Bool) : Request where
  -- A campaign debit comes out of reserved, a test send out of available.
  checked := requirePositive amount
  entryType := .debit
  deltaAvailable minor := if isTestSend then -minor else 0
  deltaReserved minor := if isTestSend then 0 else -minor
  key := key
  fields := { campaignId, recipientId, unitPriceMinor, units, isTestSend }

def refund (amount : Amount) (key : Text) (campaignId actorUserId : Option Uuid)
    (reference note : Option Text) : Request where
  checked := requirePositive amount
  entryType := .refund
  deltaAvailable minor := minor
  deltaReserved _ := 0
  key := key
  fields := { campaignId, actorUserId, reference, note }

def requireAdjustment : Amount → Except Refusal Int
  -- `amount_minor == 0 or abs(amount_minor) > MAX`: a `bool` counts as 0 or 1 here, and `abs` of
  -- what is no number is the `TypeError`.
  | .int value =>
      if value = 0 ∨ value.natAbs > maxEntryAmountMinor then
        .error (.valueError "adjustment amount must be non-zero and in range")
      else .ok value
  | .bool true => .ok 1
  | .bool false => .error (.valueError "adjustment amount must be non-zero and in range")
  | .other => .error (.typeError "bad operand type for abs()")

def adjust (amount : Amount) (key : Text) (actorUserId : Option Uuid)
    (reference note : Option Text) : Request where
  checked := requireAdjustment amount
  entryType := .adjustment
  deltaAvailable minor := minor
  deltaReserved _ := 0
  key := key
  fields := { actorUserId, reference, note }

/-! ### Campaign helpers -/

def reserveKey (campaignId : Uuid) (number : Nat) : Text :=
  "reserve:".toList ++ campaignId.text ++ ":".toList ++ decimal number

def reserveNext (session : Session) (ledger : Ledger) (campaignId : Uuid) (amount : Amount)
    (minor : Int) : Except Refusal Int × Ledger :=
  let number := countCampaignEntries ledger campaignId .reserve []
  match post session ledger (reserve amount (reserveKey campaignId number) campaignId) with
  | (.error refusal, after) => (.error refusal, after)
  | (.ok _, after) => (.ok minor, after)

def fitUnits (session : Session) (ledger : Ledger) (campaignId : Uuid) (amount : Amount)
    (value : Int) : Option Int → Except Refusal Int × Ledger
  -- With `unitMinor` a shortfall is not an error: as many whole units as the available balance
  -- covers are reserved.
  | none => reserveNext session ledger campaignId amount value
  | some unit =>
      if unit ≤ 0 then (.ok 0, ledger)
      else
        let fitted := min (value / unit) (ledger.wallet.availableMinor / unit) * unit
        if fitted ≤ 0 then (.ok 0, ledger)
        else reserveNext session ledger campaignId (.int fitted) fitted

def reserveForCampaign (session : Session) (ledger : Ledger) (campaignId : Uuid) (amount : Amount)
    (unitMinor : Option Int) : Except Refusal Int × Ledger :=
  match amount with
  | .other => (.error (.typeError "'<=' not supported"), ledger)
  | .bool false => (.ok 0, ledger)
  | .bool true => fitUnits session ledger campaignId amount 1 unitMinor
  | .int value =>
      if value ≤ 0 then (.ok 0, ledger)
      else fitUnits session ledger campaignId amount value unitMinor

def numberedKey (keyBase : Text) (prior : Nat) : Text :=
  -- The first release uses the base key itself, later ones append a number.
  if prior = 0 then keyBase else keyBase ++ ":".toList ++ decimal prior

def releaseCampaignRemainder (session : Session) (ledger : Ledger) (campaignId : Uuid)
    (keyBase : Text) (holdMinor : Int) : Except Refusal Int × Ledger :=
  let amount := campaignReservedOutstanding ledger campaignId - max 0 holdMinor
  if amount ≤ 0 then (.ok 0, ledger)
  else
    let prior := countCampaignEntries ledger campaignId .release keyBase
    match post session ledger (release (.int amount) (numberedKey keyBase prior) campaignId) with
    | (.error refusal, after) => (.error refusal, after)
    | (.ok _, after) => (.ok amount, after)

/-! ### Calls -/

inductive KeyedOperation where
  | topup (amount : Amount) (key : Text) (actorUserId : Option Uuid) (reference note : Option Text)
      (beforeWrite : Option (Except String Uuid))
  | reserve (amount : Amount) (key : Text) (campaignId : Uuid)
  | release (amount : Amount) (key : Text) (campaignId : Uuid)
  | debit (amount : Amount) (key : Text) (campaignId recipientId : Option Uuid)
      (unitPriceMinor units : Option Int) (isTestSend : Bool)
  | refund (amount : Amount) (key : Text) (campaignId actorUserId : Option Uuid)
      (reference note : Option Text)
  | adjust (amount : Amount) (key : Text) (actorUserId : Option Uuid) (reference note : Option Text)

def KeyedOperation.request : KeyedOperation → Request
  | .topup amount key actor reference note before =>
      CreditLedger.topup amount key actor reference note before
  | .reserve amount key campaignId => CreditLedger.reserve amount key campaignId
  | .release amount key campaignId => CreditLedger.release amount key campaignId
  | .debit amount key campaignId recipientId price units test =>
      CreditLedger.debit amount key campaignId recipientId price units test
  | .refund amount key campaignId actor reference note =>
      CreditLedger.refund amount key campaignId actor reference note
  | .adjust amount key actor reference note => CreditLedger.adjust amount key actor reference note

inductive Operation where
  | keyed (operation : KeyedOperation)
  | reserveForCampaign (campaignId : Uuid) (amount : Amount) (unitMinor : Option Int)
  | releaseCampaignRemainder (campaignId : Uuid) (keyBase : Text) (holdMinor : Int)

structure Call where
  session : Session
  operation : Operation

inductive Reply where
  | write (write : LedgerWrite)
  | amount (minor : Int)
  deriving DecidableEq

def perform (ledger : Ledger) (call : Call) : Except Refusal Reply × Ledger :=
  match call.operation with
  | .keyed operation =>
      let result := post call.session ledger operation.request
      (result.1.map .write, result.2)
  | .reserveForCampaign campaignId amount unitMinor =>
      let result := reserveForCampaign call.session ledger campaignId amount unitMinor
      (result.1.map .amount, result.2)
  | .releaseCampaignRemainder campaignId keyBase holdMinor =>
      let result := releaseCampaignRemainder call.session ledger campaignId keyBase holdMinor
      (result.1.map .amount, result.2)

def after (ledger : Ledger) (calls : List Call) : Ledger :=
  calls.foldl (fun current call => (perform current call).2) ledger

end CloudGuest.CreditLedger
