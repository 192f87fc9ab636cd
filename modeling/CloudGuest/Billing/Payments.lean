import CloudGuest.Billing.SubscriptionEffects

/-!
Payment rows: what one charge attempt makes of a row
(billing/payment_gateways.py, `_BaseGateway.charge` and the two gateways'
`_attempt_charge`) and what a webhook makes of the row it finds
(billing/webhooks.py, `_resolve_and_update_payment`). The providers are outside
this code: their answer is an argument.
-/

namespace CloudGuest.Payments
open Subscriptions

inductive PaymentStatus where
  | pending | succeeded | failed | refunded | partiallyRefunded
  deriving DecidableEq

/-- What a charge attempt meets: no default payment method, or the provider's answer. A decline
comes as an exception of the SDK or, at Razorpay, as a result that carries the payment's id. -/
inductive ProviderAnswer where
  | noDefaultPaymentMethod
  | succeeded
  | declined
  | failedResult
  | pending
  | error
  deriving DecidableEq

/-- What an attempt writes: the new status, whether the provider's payment id is stored, and
whether it raises. A provider error raises and writes nothing. -/
structure Attempted where
  status : PaymentStatus
  identified : Bool
  raises : Bool
  deriving DecidableEq

def attemptCharge (status : PaymentStatus) : ProviderAnswer → Attempted
  -- `_attempt_charge` on a row of the given status: a first attempt finds PENDING, a retry FAILED.
  | .noDefaultPaymentMethod => ⟨.failed, false, true⟩
  | .succeeded => ⟨.succeeded, true, false⟩
  | .declined => ⟨.failed, false, false⟩
  | .failedResult => ⟨.failed, true, false⟩
  | .pending => ⟨status, true, false⟩
  | .error => ⟨status, false, true⟩

def charge (configured : Bool) (answer : ProviderAnswer) (amount : Int) :
    ChargeAnswer × Option Attempted :=
  -- `_BaseGateway.charge`: its answer, and the row it leaves if it made one.
  if amount ≤ 0 then (.success, none)
  else if !configured then (.notConfigured, none)
  else
    let attempted := attemptCharge .pending answer
    if attempted.raises then (.raised, some attempted)
    else if attempted.status = .succeeded then (.success, some attempted)
    else (.failure, some attempted)

def alreadyResolved (status : PaymentStatus) : Bool := status = .succeeded || status = .failed

def resolvedStatus (status : PaymentStatus) (succeeded : Bool) : PaymentStatus :=
  if alreadyResolved status then status else if succeeded then .succeeded else .failed

theorem charge_some (configured : Bool) (answer : ProviderAnswer) (amount : Int)
    (attempted : Attempted) (made : (charge configured answer amount).2 = some attempted) :
    attempted = attemptCharge .pending answer ∧
      ((charge configured answer amount).1 = .success ↔ answer = .succeeded) := by
  by_cases free : amount ≤ 0
  · simp [charge, free] at made
  cases configured with
  | false => simp [charge, free] at made
  | true =>
      have unfree : ¬ amount ≤ 0 := free
      cases answer <;> simp only [charge, unfree, attemptCharge] at made ⊢ <;> simp at made ⊢ <;>
        exact made.symm

end CloudGuest.Payments
