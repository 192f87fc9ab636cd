import CloudGuest.Billing.CreditLedger

/-!
`CreditsService.post_adjustment`: the Master route over the wallet. One request
checks the organization and the campaign, makes one wallet write under a
`master:` key, and for a new entry writes the audit row and commits. The
invoice is issued inside the wallet write, after the key lookup. Whatever
raises before the commit leaves the tables as they were.

The organization and campaign lookups, the invoice service and the audit
writer are answers of the `Office` the call runs in.
-/

namespace CloudGuest.MasterCredits
open Texts CreditLedger

def masterIdempotencyPrefix : Text := "master:".toList
def minorPerCredit : Nat := 100

structure AdjustmentRequest where
  entryType : CreditEntryType
  amountMinor : Int
  note : Text
  reference : Option Text
  campaignId : Option Uuid
  issueInvoice : Bool
  amountPaidMinorInr : Option Int
  idempotencyKey : Text
  deriving DecidableEq

structure TopupInvoice where
  id : Uuid
  amountPaidMinorInr : Option Int
  creditsMinor : Int
  reference : Option Text
  actorUserId : Uuid
  deriving DecidableEq

inductive AuditAction where
  | creditsTopup | creditsAdjusted | creditsRefunded
  deriving DecidableEq

def auditByType : CreditEntryType → Option AuditAction
  | .topup => some .creditsTopup
  | .adjustment => some .creditsAdjusted
  | .refund => some .creditsRefunded
  | _ => none

structure AuditLogEntry where
  actorUserId : Uuid
  action : AuditAction
  description : Text
  entryType : CreditEntryType
  deltaAvailableMinor : Int
  balanceAvailableAfterMinor : Int
  reference : Option Text
  note : Option Text
  campaignId : Option Uuid
  invoiceId : Option Uuid
  deriving DecidableEq

structure Books where
  ledger : Ledger
  invoices : List TopupInvoice
  auditLog : List AuditLogEntry
  deriving DecidableEq

def Books.empty : Books := ⟨.empty, [], []⟩

structure Office where
  organizationFound : Bool := true
  campaignBelongs : Bool := true
  invoice : Except String Uuid := .error "billing_profile_missing"
  auditFailure : Option String := none

inductive MasterRefusal where
  | organizationNotFound
  | campaignNotFound (campaignId : Uuid)
  | wallet (refusal : Refusal)
  | raised (reason : String)
  deriving DecidableEq

def entryTypeValue : CreditEntryType → Text
  | .topup => "topup".toList
  | .reserve => "reserve".toList
  | .release => "release".toList
  | .debit => "debit".toList
  | .refund => "refund".toList
  | .adjustment => "adjustment".toList

def groupThousands : Text → Text
  | a :: b :: c :: d :: rest => a :: b :: c :: ',' :: groupThousands (d :: rest)
  | short => short

def creditsLabel (minor : Int) : Text :=
  let sign : Text := if minor < 0 then ['-'] else []
  let whole := (groupThousands (decimal (minor.natAbs / minorPerCredit)).reverse).reverse
  let cents := decimal (minor.natAbs % minorPerCredit)
  sign ++ whole ++ ['.'] ++ List.replicate (2 - cents.length) '0' ++ cents

def issueInvoice (office : Office) (request : AdjustmentRequest) : Except String Uuid :=
  match request.amountPaidMinorInr with
  | none => .error "amount_paid_minor_inr is required"
  | some _ => office.invoice

def masterKey (request : AdjustmentRequest) : Text :=
  masterIdempotencyPrefix ++ request.idempotencyKey

def walletRequest (office : Office) (request : AdjustmentRequest) (actorUserId : Uuid) : Request :=
  match request.entryType with
  | .topup =>
      topup (.int request.amountMinor) (masterKey request) (some actorUserId) request.reference
        (some request.note)
        (if request.issueInvoice then some (issueInvoice office request) else none)
  | .refund =>
      refund (.int request.amountMinor) (masterKey request) request.campaignId (some actorUserId)
        request.reference (some request.note)
  | _ =>
      adjust (.int request.amountMinor) (masterKey request) (some actorUserId) request.reference
        (some request.note)

def auditEntry (request : AdjustmentRequest) (actorUserId : Uuid) (action : AuditAction)
    (entry : CreditLedgerEntry) : AuditLogEntry where
  actorUserId := actorUserId
  action := action
  description := "Marketing credits ".toList ++ entryTypeValue request.entryType ++ ": ".toList ++
    creditsLabel entry.deltaAvailableMinor ++ " credits".toList
  entryType := entry.entryType
  deltaAvailableMinor := entry.deltaAvailableMinor
  balanceAvailableAfterMinor := entry.balanceAvailableAfterMinor
  reference := entry.fields.reference
  note := entry.fields.note
  campaignId := entry.campaignId
  invoiceId := entry.invoiceId

def issuedInvoices (request : AdjustmentRequest) (actorUserId : Uuid) (entry : CreditLedgerEntry) :
    List TopupInvoice :=
  entry.invoiceId.toList.map fun id =>
    ⟨id, request.amountPaidMinorInr, request.amountMinor, request.reference, actorUserId⟩

def recordCreated (office : Office) (books : Books) (request : AdjustmentRequest)
    (actorUserId : Uuid) (write : LedgerWrite) (ledger : Ledger) :
    Except MasterRefusal LedgerWrite × Books :=
  match auditByType request.entryType, office.auditFailure with
  | none, _ => (.error (.raised "KeyError"), books)
  | _, some reason => (.error (.raised reason), books)
  | some action, none =>
      (.ok write,
        ⟨ledger, books.invoices ++ issuedInvoices request actorUserId write.entry,
          books.auditLog ++ [auditEntry request actorUserId action write.entry]⟩)

def requireCampaign (office : Office) (request : AdjustmentRequest) : Option MasterRefusal :=
  match request.campaignId with
  | none => none
  | some campaignId => if office.campaignBelongs then none else some (.campaignNotFound campaignId)

def postAdjustment (session : Session) (office : Office) (books : Books)
    (request : AdjustmentRequest) (actorUserId : Uuid) :
    Except MasterRefusal LedgerWrite × Books :=
  if ¬ office.organizationFound then (.error .organizationNotFound, books)
  else match requireCampaign office request with
  | some refusal => (.error refusal, books)
  | none =>
      match post session books.ledger (walletRequest office request actorUserId) with
      | (.error refusal, _) => (.error (.wallet refusal), books)
      | (.ok write, ledger) =>
          if write.created then recordCreated office books request actorUserId write ledger
          else (.ok write, books)

/-! ### Deliveries -/

inductive Delivery where
  | wallet (call : Call)
  | master (session : Session) (office : Office) (request : AdjustmentRequest) (actorUserId : Uuid)

def deliver (books : Books) : Delivery → Except MasterRefusal Reply × Books
  | .wallet call =>
      match perform books.ledger call with
      | (.error refusal, ledger) => (.error (.wallet refusal), { books with ledger })
      | (.ok reply, ledger) => (.ok reply, { books with ledger })
  | .master session office request actorUserId =>
      let result := postAdjustment session office books request actorUserId
      (result.1.map .write, result.2)

def delivered (books : Books) (delivery : Delivery) : Books := (deliver books delivery).2

def afterDeliveries (books : Books) (deliveries : List Delivery) : Books :=
  deliveries.foldl delivered books

end CloudGuest.MasterCredits
