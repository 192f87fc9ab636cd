import CloudGuest.Billing.Invoices
import CloudGuest.Billing.RenewalCharges

/-!
Provider events and payment rows (billing/webhooks.py, and the paths of
billing/service.py and billing/payment_gateways.py that write the same rows).
Requests run at once, each in a transaction of its own: a request reads a row,
works on what it read, and its writes reach the table when it commits, if it
does not raise before. A write sets the columns whose value it changed from what
it had read, and no others: rows are neither locked on reading nor versioned.
The dedup mark of a delivery is in Redis. It is set before the transaction's
work and stays when that work is rolled back.

Failure reasons, signatures, currencies and audit rows are left out.
-/

namespace CloudGuest.Webhooks
open Calendar Sessions Subscriptions Payments Invoices RenewalCharges

variable {Id : Type} [DecidableEq Id]

inductive Provider where
  | stripe | razorpay
  deriving DecidableEq

/-- `payment_intent.succeeded` or `payment.captured`, `payment_intent.payment_failed` or
`payment.failed`, and every type the handlers do not know. -/
inductive EventType where
  | captured | failed | unhandled
  deriving DecidableEq

/-- A signature-verified event. A text that is missing or empty is `none`; only Razorpay's event
id, a request header, can be. -/
structure Event (Id : Type) where
  provider : Provider
  eventId : Option Id
  type : EventType
  providerPaymentId : Option Id
  orderId : Option Id
  deriving DecidableEq

def Event.key (event : Event Id) : Provider × Option Id := (event.provider, event.eventId)

structure Payment (Id : Type) where
  organization : Nat
  subscription : Option Nat
  amount : Int
  status : PaymentStatus
  providerPaymentId : Option Id
  razorpayOrderId : Option Id
  refundedAmount : Int
  deriving DecidableEq

/-! ### Rows read and written -/

def net {Value : Type} [DecidableEq Value] (found assigned held : Value) : Value :=
  -- A column after a flush: it is written if the session changed it from what it had read.
  if assigned = found then held else assigned

def Payment.flush (found assigned held : Payment Id) : Payment Id :=
  { held with
    status := net found.status assigned.status held.status
    providerPaymentId := net found.providerPaymentId assigned.providerPaymentId
      held.providerPaymentId
    razorpayOrderId := net found.razorpayOrderId assigned.razorpayOrderId held.razorpayOrderId
    refundedAmount := net found.refundedAmount assigned.refundedAmount held.refundedAmount }

structure Snapshot (Id : Type) where
  row : Nat
  found : Payment Id
  deriving DecidableEq

/-- The row an event is about, as the handler read it: by the provider's payment id, or at
Razorpay by the order's id where that finds none. -/
structure Target (Id : Type) extends Snapshot Id where
  byOrder : Bool
  deriving DecidableEq

def findPayment (payments : List (Payment Id)) (selected : Payment Id → Bool) (byOrder : Bool) :
    Option (Target Id) :=
  (payments.findIdx? selected).bind fun row =>
    (payments[row]?).map fun found => ⟨⟨row, found⟩, byOrder⟩

def getByProviderPaymentId (payments : List (Payment Id)) (id : Id) : Option (Target Id) :=
  findPayment payments (fun payment => payment.providerPaymentId = some id) false

def getByRazorpayOrderId (payments : List (Payment Id)) (id : Id) : Option (Target Id) :=
  findPayment payments (fun payment => payment.razorpayOrderId = some id) true

def lookUp (payments : List (Payment Id)) (event : Event Id) : Option (Target Id) :=
  if event.type = .unhandled then none
  else
    match event.providerPaymentId.bind (getByProviderPaymentId payments) with
    | some target => some target
    | none =>
        match event.provider with
        | .stripe => none
        | .razorpay => event.orderId.bind (getByRazorpayOrderId payments)

def resolvePayment (event : Event Id) (target : Target Id) (succeeded : Bool) : Payment Id :=
  -- `_resolve_and_update_payment` and `_resolve_checkout_payment_by_order_id` on the row they
  -- found.
  if alreadyResolved target.found.status then target.found
  else
    { target.found with
      status := if succeeded then .succeeded else .failed
      providerPaymentId :=
        if target.byOrder then event.providerPaymentId else target.found.providerPaymentId }

/-! ### The books -/

/-- A renewal of a subscription's period that a payment row caused: by its own renewal charge, or
by an event, with the status the handler had read and the one the row had at the commit. -/
structure Renewed where
  row : Nat
  event : Option (PaymentStatus × PaymentStatus)
  deriving DecidableEq

structure MovedPastDue where
  row : Nat
  found : PaymentStatus
  held : PaymentStatus
  deriving DecidableEq

structure Settlement where
  row : Nat
  invoice : Nat
  deriving DecidableEq

/-- The tables, and beside them what the payment rows caused. -/
structure Books (Id : Type) where
  payments : List (Payment Id)
  accounts : List Account
  invoices : List Invoice
  renewals : List Renewed
  pastDues : List MovedPastDue
  settlements : List Settlement
  deriving DecidableEq

def confirmAccount (now : Moment) (accounts : List Account) (subscription : Nat)
    (request : Request) : Option (List Account) :=
  (accounts[subscription]?).bind fun account =>
    if raised (request.call now) account then none
    else some (accounts.set subscription (committed (request.call now) account))

def settleInvoice (invoices : List Invoice) (row : Nat) : Option Nat → List Invoice
  | some invoice => invoices.modify invoice fun stored => stored.markPaid row
  | none => invoices

def applyCaptured (now : Moment) (plan : Option Plan) (event : Event Id) (target : Target Id)
    (candidate : Option Nat) (books : Books Id) : Option (Books Id) :=
  -- A success event, past the lookup. None if it raises.
  (books.payments[target.row]?).bind fun held =>
    let payments := books.payments.set target.row
      (Payment.flush target.found (resolvePayment event target true) held)
    match target.found.subscription with
    | some subscription =>
        (confirmAccount now books.accounts subscription (.confirmSucceeded plan)).map fun accounts =>
          { books with
            payments, accounts
            invoices := settleInvoice books.invoices target.row candidate
            renewals := books.renewals ++ [⟨target.row, some (target.found.status, held.status)⟩]
            settlements := books.settlements ++
              (candidate.map fun invoice => ⟨target.row, invoice⟩).toList }
    | none =>
        some
          { books with
            payments
            accounts := match event.provider with
              | .stripe => books.accounts
              | .razorpay => books.accounts.modify target.found.organization
                  (committed (Request.capturedWithoutSubscription.call now)) }

def applyFailed (now : Moment) (event : Event Id) (target : Target Id) (books : Books Id) :
    Option (Books Id) :=
  (books.payments[target.row]?).bind fun held =>
    let payments := books.payments.set target.row
      (Payment.flush target.found (resolvePayment event target false) held)
    match target.found.subscription with
    | some subscription =>
        (confirmAccount now books.accounts subscription .confirmFailed).map fun accounts =>
          { books with
            payments, accounts
            pastDues := books.pastDues ++ [⟨target.row, target.found.status, held.status⟩] }
    | none => some { books with payments }

/-- A delivery that has set its mark. `candidate` is what `list_unpaid_for_subscription` gave it. -/
structure Handling (Id : Type) where
  event : Event Id
  target : Option (Target Id)
  candidate : Option (Option Nat)
  deriving DecidableEq

def Handling.awaitsInvoices (handling : Handling Id) : Bool :=
  handling.event.type = .captured && handling.candidate.isNone &&
    handling.target.any fun target => target.found.subscription.isSome

def Handling.apply (now : Moment) (plan : Option Plan) (handling : Handling Id)
    (books : Books Id) : Option (Books Id) :=
  match handling.target with
  | none => some books
  | some target =>
      match handling.event.type with
      | .captured => applyCaptured now plan handling.event target handling.candidate.join books
      | .failed => applyFailed now handling.event target books
      | .unhandled => some books

/-! ### The other writers of payment rows -/

def refundable (status : PaymentStatus) : Bool :=
  status = .succeeded || status = .partiallyRefunded

def refundPayment (found : Payment Id) (amount : Option Int) : Option (Payment Id) :=
  let left := found.amount - found.refundedAmount
  let refunded := amount.getD left
  if refunded ≤ 0 ∨ left < refunded then none
  else
    some { found with
      refundedAmount := found.refundedAmount + refunded
      status := if found.amount ≤ found.refundedAmount + refunded then .refunded
        else .partiallyRefunded }

def retryPayment (found : Payment Id) (answer : ProviderAnswer) (paymentId : Option Id) :
    Option (Payment Id) :=
  let attempted := attemptCharge found.status answer
  if attempted.raises then none
  else
    some { found with
      status := attempted.status
      providerPaymentId := if attempted.identified then paymentId else found.providerPaymentId }

def newPayment (organization : Nat) (subscription : Option Nat) (amount : Int)
    (attempted : PaymentStatus × Bool) (paymentId : Option Id) : Payment Id where
  organization
  subscription
  amount
  status := attempted.1
  providerPaymentId := if attempted.2 then paymentId else none
  razorpayOrderId := none
  refundedAmount := 0

def renewAccount (now : Moment) (organization : Nat) (attempt : Attempt) (paymentId : Option Id)
    (account : Account) (books : Books Id) : Books Id :=
  -- One item of `process_due_renewals`: the account it leaves, the row its charge left, and the
  -- renewal if that charge went through.
  let row := books.payments.length
  let made := chargeMade now attempt account
  let renewed := made.any fun charge => charge.status = .succeeded &&
    (addBillingCycle attempt.written account.subscription.billingCycle).isSome
  { books with
    accounts := books.accounts.set organization (left (processRenewal now attempt.renewal) account)
    payments := books.payments ++ (made.map fun charge =>
      newPayment organization (some organization)
        ((attempt.plan.map computeRenewalChargeAmount).getD 0) (charge.status, charge.identified)
        paymentId).toList
    renewals := if renewed then books.renewals ++ [⟨row, none⟩] else books.renewals }

/-! ### Requests side by side -/

/-- A dedup key that is set, the event whose delivery set it, and whether that delivery was rolled
back since. -/
structure Mark (Id : Type) where
  setBy : Event Id
  rolledBack : Bool
  deriving DecidableEq

/-- What a delivery was answered: a 200 where it was applied or taken for a redelivery of the
event that had set the mark, a 5xx where it raised. -/
inductive Answer (Id : Type) where
  | applied
  | duplicate (original : Event Id)
  | error
  deriving DecidableEq

structure Answered (Id : Type) where
  event : Event Id
  answer : Answer Id
  deriving DecidableEq

structure System (Id : Type) where
  books : Books Id
  marks : List (Mark Id)
  deliveries : List (Handling Id)
  refunds : List (Snapshot Id)
  retries : List (Snapshot Id)
  answers : List (Answered Id)
  deriving DecidableEq

def System.started (accounts : List Account) : System Id :=
  ⟨⟨[], accounts, [], [], [], []⟩, [], [], [], [], []⟩

inductive Action (Id : Type) where
  /-- A delivery comes in: the dedup mark, and the lookup if it is new. -/
  | deliver (event : Event Id)
  /-- A mark's time to live is over. -/
  | expireMark (place : Nat)
  /-- A success event reads the unpaid invoices of its subscription. -/
  | listUnpaid (delivery : Nat)
  /-- A delivery comes to its commit. -/
  | finish (delivery : Nat) (now : Moment) (plan : Option Plan)
  /-- An exception strikes a delivery after its mark. -/
  | fail (delivery : Nat)
  | startRefund (row : Nat)
  | commitRefund (refund : Nat) (amount : Option Int)
  | abortRefund (refund : Nat)
  | startRetry (row : Nat)
  | commitRetry (retry : Nat) (answer : ProviderAnswer) (paymentId : Option Id)
  | abortRetry (retry : Nat)
  | initiatePayment (organization : Nat) (subscription : Option Nat) (amount : Int)
      (answer : ProviderAnswer) (paymentId : Option Id)
  | createCheckoutOrder (organization : Nat) (subscription : Option Nat) (amount : Int)
      (orderId : Option Id)
  | renew (now : Moment) (organization : Nat) (attempt : Attempt) (paymentId : Option Id)
  /-- Whatever else writes invoices or accounts. -/
  | changeInvoices (invoices : List Invoice)
  | changeAccounts (accounts : List Account)

def marked (marks : List (Mark Id)) (event : Event Id) : Option (Mark Id) :=
  marks.find? fun mark => mark.setBy.key = event.key

def rollBack (system : System Id) (delivery : Nat) (handling : Handling Id) : System Id :=
  { system with
    deliveries := system.deliveries.eraseIdx delivery
    marks := system.marks.map fun mark =>
      if mark.setBy.key = handling.event.key then { mark with rolledBack := true } else mark
    answers := system.answers ++ [⟨handling.event, .error⟩] }

def deliver (system : System Id) (event : Event Id) : System Id :=
  match marked system.marks event with
  | some mark => { system with answers := system.answers ++ [⟨event, .duplicate mark.setBy⟩] }
  | none =>
      { system with
        marks := system.marks ++ [⟨event, false⟩]
        deliveries := system.deliveries ++ [⟨event, lookUp system.books.payments event, none⟩] }

def chooseInvoice (invoices : List Invoice) (handling : Handling Id) : Handling Id :=
  { handling with
    candidate := (handling.target.bind fun target => target.found.subscription).map
      fun subscription => (listUnpaidForSubscription invoices subscription).head? }

def finish (system : System Id) (delivery : Nat) (now : Moment) (plan : Option Plan)
    (handling : Handling Id) : System Id :=
  match handling.apply now plan system.books with
  | some books =>
      { system with
        books
        deliveries := system.deliveries.eraseIdx delivery
        answers := system.answers ++ [⟨handling.event, .applied⟩] }
  | none => rollBack system delivery handling

def writePayment (books : Books Id) (snapshot : Snapshot Id) (assigned : Payment Id) : Books Id :=
  { books with payments := books.payments.modify snapshot.row (snapshot.found.flush assigned) }

def addPayment (books : Books Id) (payment : Payment Id) : Books Id :=
  { books with payments := books.payments ++ [payment] }

def step (system : System Id) : Action Id → Option (System Id)
  | .deliver event => some (deliver system event)
  | .expireMark place => some { system with marks := system.marks.eraseIdx place }
  | .listUnpaid delivery =>
      (system.deliveries[delivery]?).bind fun handling =>
        if handling.awaitsInvoices then
          some { system with
            deliveries := system.deliveries.set delivery
              (chooseInvoice system.books.invoices handling) }
        else none
  | .finish delivery now plan =>
      (system.deliveries[delivery]?).bind fun handling =>
        if handling.awaitsInvoices then none
        else some (finish system delivery now plan handling)
  | .fail delivery => (system.deliveries[delivery]?).map (rollBack system delivery)
  | .startRefund row =>
      (system.books.payments[row]?).bind fun found =>
        if refundable found.status then
          some { system with refunds := system.refunds ++ [⟨row, found⟩] }
        else none
  | .commitRefund refund amount =>
      (system.refunds[refund]?).bind fun snapshot =>
        (refundPayment snapshot.found amount).map fun assigned =>
          { system with
            books := writePayment system.books snapshot assigned
            refunds := system.refunds.eraseIdx refund }
  | .abortRefund refund => some { system with refunds := system.refunds.eraseIdx refund }
  | .startRetry row =>
      (system.books.payments[row]?).bind fun found =>
        if found.status = .failed then
          some { system with retries := system.retries ++ [⟨row, found⟩] }
        else none
  | .commitRetry retry answer paymentId =>
      (system.retries[retry]?).bind fun snapshot =>
        (retryPayment snapshot.found answer paymentId).map fun assigned =>
          { system with
            books := writePayment system.books snapshot assigned
            retries := system.retries.eraseIdx retry }
  | .abortRetry retry => some { system with retries := system.retries.eraseIdx retry }
  | .initiatePayment organization subscription amount answer paymentId =>
      let attempted := attemptCharge .pending answer
      if attempted.raises then none
      else
        some { system with
          books := addPayment system.books (newPayment organization subscription amount
            (attempted.status, attempted.identified) paymentId) }
  | .createCheckoutOrder organization subscription amount orderId =>
      some { system with
        books := addPayment system.books
          { newPayment organization subscription amount (.pending, false) none with
            razorpayOrderId := orderId } }
  | .renew now organization attempt paymentId =>
      (system.books.accounts[organization]?).bind fun account =>
        if dueForRenewal now account then
          some { system with
            books := renewAccount now organization attempt paymentId account system.books }
        else none
  | .changeInvoices invoices => some { system with books := { system.books with invoices } }
  | .changeAccounts accounts => some { system with books := { system.books with accounts } }

end CloudGuest.Webhooks
