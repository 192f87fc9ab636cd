import CloudGuest.Billing.Invoices
import CloudGuest.Library.Runs

/-!
One coupon, the `create_subscription` calls that redeem it and the invoices that
grant its discount (`CouponService`, `InvoiceService._resolve_coupon_discount`
and their repositories). The calls interleave statement by statement under READ
COMMITTED: a call reads the coupon, and later inserts its usage row and adds one
to `current_uses` in the database, which locks the coupon's row until the call
commits or rolls back. The second validation looks at the row the session has
loaded before, not at the database, but for the coupon's deletion and its plans.
Invoices are generated and voided one call after the other.

Amounts and percentages are in hundredths; the request schemas refuse negative
ones. Codes and the audit rows are left out.
-/

namespace CloudGuest.Coupons
open Calendar Sorting Invoices Runs

inductive DiscountType where
  | percentage | flat
  deriving DecidableEq

structure Coupon where
  maxUses : Option Nat
  currentUses : Nat
  isActive : Bool
  isDeleted : Bool
  validFrom : Moment
  validUntil : Option Moment
  organization : Option Nat
  applicablePlans : List Nat
  discountType : DiscountType
  discountValue : Nat
  deriving DecidableEq

inductive CouponFault where
  | notFound | inactive | notYetValid | expired | exhausted
  | notApplicableToOrganization | notApplicableToPlan
  deriving DecidableEq

def validateCoupon (now : Moment) (organization plan : Nat) (applicablePlans : List Nat)
    (coupon : Coupon) : Except CouponFault Unit :=
  if !coupon.isActive then .error .inactive
  else if now < coupon.validFrom then .error .notYetValid
  else if coupon.validUntil.any fun validUntil => validUntil ≤ now then .error .expired
  else if coupon.maxUses.any fun maxUses => maxUses ≤ coupon.currentUses then .error .exhausted
  else if coupon.organization.any fun owner => owner ≠ organization then
    .error .notApplicableToOrganization
  else if applicablePlans ≠ [] ∧ plan ∉ applicablePlans then .error .notApplicableToPlan
  else .ok ()

def quantize (numerator denominator : Nat) : Nat :=
  let quotient := numerator / denominator
  let twice := 2 * (numerator % denominator)
  if twice < denominator then quotient
  else if denominator < twice then quotient + 1
  else quotient + quotient % 2

def computeDiscountAmount (discountType : DiscountType) (discountValue baseAmount : Nat) : Nat :=
  match discountType with
  | .percentage => quantize (baseAmount * discountValue) 10000
  | .flat => min discountValue baseAmount

def discountAllowed (discountType : DiscountType) (discountValue : Nat) : Bool :=
  discountType = .flat || discountValue ≤ 10000

/-! ### Redemptions -/

structure CouponUsage where
  subscription : Nat
  usedAt : Moment
  discountAmountApplied : Nat
  deriving DecidableEq

/-- How far `create_subscription` has come with its coupon. -/
inductive Phase where
  | validated
  | revalidated
  | inserted (usedAt : Moment) (discount : Nat)
  | counted (usedAt : Moment) (discount : Nat) (uses : Nat)
  deriving DecidableEq

/-- A call under way; `found` is the coupon as its session has loaded it. -/
structure Redemption where
  organization : Nat
  plan : Nat
  basePrice : Nat
  found : Coupon
  phase : Phase
  deriving DecidableEq

def Redemption.holdsLock (redemption : Redemption) : Bool :=
  match redemption.phase with
  | .counted _ _ _ => true
  | _ => false

structure Subscriber where
  subscription : Nat
  appliedCoupon : Bool
  deriving DecidableEq

structure Store where
  coupon : Coupon
  usages : List CouponUsage
  redemptions : List Redemption
  subscribers : List Subscriber
  invoices : List Invoice
  deriving DecidableEq

def Store.started (coupon : Coupon) : Store := ⟨{ coupon with currentUses := 0 }, [], [], [], []⟩

def Store.locked (store : Store) : Bool := store.redemptions.any Redemption.holdsLock

def Store.known (store : Store) (subscription : Nat) : Bool :=
  store.subscribers.any fun subscriber => subscriber.subscription = subscription

structure CouponEdit where
  maxUses : Option (Option Nat) := none
  isActive : Option Bool := none
  validFrom : Option Moment := none
  validUntil : Option (Option Moment) := none
  discountType : Option DiscountType := none
  discountValue : Option Nat := none
  applicablePlans : Option (List Nat) := none

def Coupon.edited (coupon : Coupon) (edit : CouponEdit) : Coupon :=
  { coupon with
    maxUses := edit.maxUses.getD coupon.maxUses
    isActive := edit.isActive.getD coupon.isActive
    validFrom := edit.validFrom.getD coupon.validFrom
    validUntil := edit.validUntil.getD coupon.validUntil
    discountType := edit.discountType.getD coupon.discountType
    discountValue := edit.discountValue.getD coupon.discountValue
    applicablePlans := edit.applicablePlans.getD coupon.applicablePlans }

/-! ### Invoices -/

def live (status : InvoiceStatus) : Bool := status ≠ .void && status ≠ .cancelled

def hasDiscountedInvoice (invoices : List Invoice) (subscription : Nat) : Bool :=
  invoices.any fun invoice => invoice.subscription = some subscription && live invoice.status &&
    0 < invoice.discountAmount

def getUsageForSubscription (usages : List CouponUsage) (subscription : Nat) :
    Option CouponUsage :=
  (sortOn CouponUsage.usedAt (usages.filter fun usage => usage.subscription = subscription)).head?

def resolveCouponDiscount (store : Store) (subscriber : Subscriber) : Nat :=
  if !subscriber.appliedCoupon then 0
  else if hasDiscountedInvoice store.invoices subscriber.subscription then 0
  else
    match getUsageForSubscription store.usages subscriber.subscription with
    | some usage => usage.discountAmountApplied
    | none => 0

def generateInvoice (store : Store) (now : Moment) (subscriber : Subscriber) : Invoice where
  subscription := some subscriber.subscription
  status := .issued
  issueDate := now
  discountAmount := resolveCouponDiscount store subscriber
  payment := none

/-! ### Steps -/

inductive Action where
  /-- `create_subscription` loads and validates the coupon. -/
  | validate (now : Moment) (organization plan basePrice : Nat)
  /-- `apply_coupon` validates again. -/
  | revalidate (now : Moment) (redemption : Nat)
  | insertUsage (now : Moment) (redemption : Nat)
  | incrementCurrentUses (redemption : Nat)
  | commit (redemption subscription : Nat)
  | abort (redemption : Nat)
  | updateCoupon (edit : CouponEdit)
  | deactivateCoupon
  | subscribeWithoutCoupon (subscription : Nat)
  | generateInvoice (now : Moment) (subscription : Nat)
  | voidInvoice (invoice : Nat)
  /-- A payment or the overdue sweep moves an invoice along its graph. -/
  | moveInvoice (invoice : Nat) (target : InvoiceStatus)

def Store.inPhase (store : Store) (redemption : Nat) (phase : Phase) : Store :=
  { store with redemptions := store.redemptions.modify redemption fun call => { call with phase } }

def Store.without (store : Store) (redemption : Nat) : Store :=
  { store with redemptions := store.redemptions.eraseIdx redemption }

def setStatus (invoices : List Invoice) (invoice : Nat) (status : InvoiceStatus) : List Invoice :=
  invoices.modify invoice fun stored => { stored with status }

def step (store : Store) : Action → Option Store
  | .validate now organization plan basePrice =>
      if store.coupon.isDeleted then none
      else
        match validateCoupon now organization plan store.coupon.applicablePlans store.coupon with
        | .ok _ =>
            some { store with
              redemptions := store.redemptions ++
                [⟨organization, plan, basePrice, store.coupon, .validated⟩] }
        | .error _ => none
  | .revalidate now redemption =>
      match store.redemptions[redemption]? with
      | some ⟨organization, plan, _, found, .validated⟩ =>
          match validateCoupon now organization plan store.coupon.applicablePlans found with
          | .ok _ =>
              if store.coupon.isDeleted then some (store.without redemption)
              else some (store.inPhase redemption .revalidated)
          | .error _ => some (store.without redemption)
      | _ => none
  | .insertUsage now redemption =>
      match store.redemptions[redemption]? with
      | some ⟨_, _, basePrice, found, .revalidated⟩ =>
          some (store.inPhase redemption (.inserted now
            (computeDiscountAmount found.discountType found.discountValue basePrice)))
      | _ => none
  | .incrementCurrentUses redemption =>
      match store.redemptions[redemption]? with
      | some ⟨_, _, _, _, .inserted usedAt discount⟩ =>
          if store.locked then none
          else some (store.inPhase redemption (.counted usedAt discount (store.coupon.currentUses + 1)))
      | _ => none
  | .commit redemption subscription =>
      match store.redemptions[redemption]? with
      | some ⟨_, _, _, _, .counted usedAt discount uses⟩ =>
          if store.known subscription then none
          else
            some { store.without redemption with
              coupon := { store.coupon with currentUses := uses }
              usages := store.usages ++ [⟨subscription, usedAt, discount⟩]
              subscribers := store.subscribers ++ [⟨subscription, true⟩] }
      | _ => none
  | .abort redemption => some (store.without redemption)
  | .updateCoupon edit =>
      let edited := store.coupon.edited edit
      if store.locked then none
      else if discountAllowed edited.discountType edited.discountValue &&
          edited.maxUses.all fun maxUses => edited.currentUses ≤ maxUses then
        some { store with coupon := edited }
      else none
  | .deactivateCoupon =>
      if store.locked then none
      else some { store with coupon := { store.coupon with isActive := false, isDeleted := true } }
  | .subscribeWithoutCoupon subscription =>
      if store.known subscription then none
      else some { store with subscribers := store.subscribers ++ [⟨subscription, false⟩] }
  | .generateInvoice now subscription =>
      (store.subscribers.find? fun subscriber => subscriber.subscription = subscription).map
        fun subscriber =>
          { store with invoices := store.invoices ++ [generateInvoice store now subscriber] }
  | .voidInvoice invoice =>
      (store.invoices[invoice]?).bind fun stored =>
        (voidTarget stored.status).map fun target =>
          { store with invoices := setStatus store.invoices invoice target }
  | .moveInvoice invoice target =>
      (store.invoices[invoice]?).bind fun stored =>
        if target ∈ invoiceTransitions stored.status then
          some { store with invoices := setStatus store.invoices invoice target }
        else none

end CloudGuest.Coupons
