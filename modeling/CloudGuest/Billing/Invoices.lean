import CloudGuest.Library.Calendar
import CloudGuest.Library.Sorting

/-!
Invoice rows (billing/models.py, `InvoiceService` and `InvoiceRepository`): the
statuses and their graph, the unpaid invoices of a subscription newest first,
and what voiding makes of a status. Amounts are in hundredths. Tax, numbering,
line items and notes are left out: nothing here reads them.
-/

namespace CloudGuest.Invoices
open Calendar Sorting

inductive InvoiceStatus where
  | draft | issued | paid | overdue | cancelled | void
  deriving DecidableEq

def invoiceTransitions : InvoiceStatus → List InvoiceStatus
  | .draft => [.issued, .cancelled]
  | .issued => [.paid, .overdue, .void]
  | .overdue => [.paid, .void]
  | .paid => []
  | .cancelled => []
  | .void => []

structure Invoice where
  subscription : Option Nat
  status : InvoiceStatus
  issueDate : Moment
  discountAmount : Nat
  payment : Option Nat
  deriving DecidableEq

def Invoice.unpaid (invoice : Invoice) (subscription : Nat) : Bool :=
  invoice.subscription = some subscription &&
    (invoice.status = .issued || invoice.status = .overdue)

def listUnpaidForSubscription (invoices : List Invoice) (subscription : Nat) : List Nat :=
  (sortOn (fun entry : Invoice × Nat => OrderDual.toDual entry.1.issueDate)
    (invoices.zipIdx.filter fun entry => entry.1.unpaid subscription)).map Prod.snd

def Invoice.markPaid (invoice : Invoice) (payment : Nat) : Invoice :=
  { invoice with status := .paid, payment := some payment }

def voidTarget : InvoiceStatus → Option InvoiceStatus
  | .draft => some .cancelled
  | .issued => some .void
  | .overdue => some .void
  | .paid => none
  | .cancelled => none
  | .void => none

theorem voidTarget_allowed (current target : InvoiceStatus)
    (voided : voidTarget current = some target) : target ∈ invoiceTransitions current := by
  -- The check `void_invoice` makes of its own target never fails.
  cases current <;> simp [voidTarget] at voided <;> subst voided <;> decide

end CloudGuest.Invoices
