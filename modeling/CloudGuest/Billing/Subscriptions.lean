import CloudGuest.Library.Calendar
import CloudGuest.Library.Sessions

/-!
`SubscriptionService` (billing/service.py), the `LicenseService` calls it makes
and `RenewalService` (billing/renewal_service.py) over one organization's
account: its subscription row and its license row, which `create_subscription`
makes together. A call runs in a database session, so it is an `EStateM`: an
exception keeps what was written before it, and the caller decides whether that
is rolled back (a request) or kept (an item of the hourly sweep).

What lies outside this code is an argument: the clock, the plan a lookup finds,
what the payment gateway answers and the exceptions that an item of the sweep meets.
These are exceptions that leave the session as it is: of the provider, of a lookup,
of the audit log's own code. An exception of the database at a flush is not among
them. It rolls the session back (`_flush_or_raise`), and with it what the items before
it wrote, since the sweep commits once, at its end; and a task that reaches its time
limit commits nothing. In the tables such items have not been, and a run leaves them out.

Audit rows, log events and reminders are left out.
-/

namespace CloudGuest.Subscriptions
open Calendar Sessions

inductive SubscriptionStatus where
  | trialing | active | pastDue | paused | cancelled
  deriving DecidableEq

inductive LicenseStatus where
  | pendingActivation | active | suspended | expired | cancelled
  deriving DecidableEq

inductive BillingCycle where
  | monthly | yearly | none
  deriving DecidableEq

inductive PlanType where
  | freeTrial | starter | professional | business | enterprise | msp | custom
  deriving DecidableEq

structure Plan where
  planType : PlanType
  billingCycle : BillingCycle
  basePrice : Int
  isActive : Bool
  deriving DecidableEq

structure Subscription where
  status : SubscriptionStatus
  billingCycle : BillingCycle
  currentPeriodStart : Moment
  currentPeriodEnd : Moment
  trialEnd : Option Moment
  autoRenew : Bool
  cancelAtPeriodEnd : Bool
  startedAt : Moment
  cancelledAt : Option Moment
  pastDueAt : Option Moment
  deriving DecidableEq

structure License where
  status : LicenseStatus
  activatedAt : Option Moment
  suspendedAt : Option Moment
  suspendedReason : Option String
  deriving DecidableEq

structure Account where
  subscription : Subscription
  license : License
  deriving DecidableEq

inductive Fault where
  | planNotFound
  | planInactive
  | dateOutOfRange
  | invalidSubscriptionStatusTransition (current target : SubscriptionStatus)
  | invalidLicenseStatusTransition (current target : LicenseStatus)
  | subscriptionReactivationNotAllowed
  | invalidSubscriptionStatusForRenewal (status : SubscriptionStatus)
  | gatewayRaised
  | interrupted
  deriving DecidableEq

abbrev Call := EStateM Fault Account

/-! ### Status graphs -/

def subscriptionTransitions : SubscriptionStatus → List SubscriptionStatus
  | .trialing => [.active, .pastDue, .cancelled]
  | .active => [.pastDue, .paused, .cancelled]
  | .pastDue => [.active, .cancelled]
  | .paused => [.active, .cancelled]
  | .cancelled => [.active]

def licenseTransitions : LicenseStatus → List LicenseStatus
  | .pendingActivation => [.active, .cancelled]
  | .active => [.suspended, .expired, .cancelled]
  | .suspended => [.active, .expired, .cancelled]
  | .expired => []
  | .cancelled => []

def renewableSubscriptionStatuses : List SubscriptionStatus := [.trialing, .active, .pastDue]

def cyclicBillingCycles : List BillingCycle := [.monthly, .yearly]

def assertSubscriptionTransition (current target : SubscriptionStatus) : Call Unit :=
  if target ∈ subscriptionTransitions current then pure ()
  else throw (.invalidSubscriptionStatusTransition current target)

def assertTransition (current target : LicenseStatus) : Call Unit :=
  if target ∈ licenseTransitions current then pure ()
  else throw (.invalidLicenseStatusTransition current target)

/-! ### Billing periods -/

def addBillingCycle (start : Moment) : BillingCycle → Option Moment
  -- `none` is the `ValueError` past year 9999.
  | .monthly => addMonths start 1
  | .yearly => addMonths start 12
  | .none => some start

theorem addBillingCycle_lt (start periodEnd : Moment) (cycle : BillingCycle)
    (cyclic : cycle ∈ cyclicBillingCycles) (added : addBillingCycle start cycle = some periodEnd) :
    start < periodEnd := by
  cases cycle with
  | monthly => exact addMonths_lt start periodEnd 1 (by decide) added
  | yearly => exact addMonths_lt start periodEnd 12 (by decide) added
  | none => simp [cyclicBillingCycles] at cyclic

def computeRenewalChargeAmount (plan : Plan) : Int := plan.basePrice

/-! ### Writes -/

def updateSubscription (data : Subscription → Subscription) : Call Unit :=
  modify fun account => { account with subscription := data account.subscription }

def updateLicense (data : License → License) : Call Unit :=
  modify fun account => { account with license := data account.license }

def dated (date : Option Moment) : Call Moment :=
  match date with
  | some moment => pure moment
  | none => throw .dateOutOfRange

/-- An exception from outside this code, if there is one here. -/
def strike (struck : Bool) : Call Unit := if struck then throw .interrupted else pure ()

/-! ### LicenseService -/

def License.activated (license : License) (now : Moment) : License :=
  { status := .active
    activatedAt := license.activatedAt.or (some now)
    suspendedAt := if license.status = .suspended then none else license.suspendedAt
    suspendedReason := if license.status = .suspended then none else license.suspendedReason }

def License.suspended (license : License) (now : Moment) (reason : String) : License :=
  { license with status := .suspended, suspendedAt := some now, suspendedReason := some reason }

def activateLicense (now : Moment) : Call Unit := do
  let account ← get
  assertTransition account.license.status .active
  updateLicense fun license => license.activated now

def suspendLicense (now : Moment) (reason : String) : Call Unit := do
  let account ← get
  assertTransition account.license.status .suspended
  updateLicense fun license => license.suspended now reason

def expireLicense : Call Unit := do
  let account ← get
  assertTransition account.license.status .expired
  updateLicense fun license => { license with status := .expired }

/-! ### SubscriptionService -/

def newAccount (now : Moment) (plan : Plan) (status : SubscriptionStatus) (periodEnd : Moment)
    (trialEnd : Option Moment) : Account :=
  -- The rows written by `create_subscription`: the license is assigned and then activated.
  { subscription :=
      { status := status
        billingCycle := plan.billingCycle
        currentPeriodStart := now
        currentPeriodEnd := periodEnd
        trialEnd := trialEnd
        autoRenew := true
        cancelAtPeriodEnd := false
        startedAt := now
        cancelledAt := none
        pastDueAt := none }
    license := License.activated ⟨.pendingActivation, none, none, none⟩ now }

def createSubscription (now : Moment) (trialPeriodDays : Nat) (plan : Option Plan) :
    Except Fault Account :=
  -- For an organization that has neither row; a duplicate of either is refused first.
  match plan with
  | none => .error .planNotFound
  | some plan =>
      if !plan.isActive then .error .planInactive
      else if plan.planType = .freeTrial then
        match addDays now trialPeriodDays with
        | none => .error .dateOutOfRange
        | some trialEnd => .ok (newAccount now plan .trialing trialEnd (some trialEnd))
      else
        match addBillingCycle now plan.billingCycle with
        | none => .error .dateOutOfRange
        | some periodEnd => .ok (newAccount now plan .active periodEnd none)

def cancellableStatuses : List SubscriptionStatus := [.trialing, .active, .pastDue, .paused]

def cancelSubscription (now : Moment) (immediate : Bool) : Call Unit := do
  let account ← get
  if account.subscription.status ∉ cancellableStatuses then
    throw (.invalidSubscriptionStatusTransition account.subscription.status .cancelled)
  if immediate then
    assertSubscriptionTransition account.subscription.status .cancelled
    updateSubscription fun subscription =>
      { subscription with
        status := .cancelled
        cancelledAt := some now
        autoRenew := false
        cancelAtPeriodEnd := false
        pastDueAt := none }
    suspendLicense now "Subscription cancelled"
  else
    updateSubscription fun subscription => { subscription with cancelAtPeriodEnd := true }

def reactivateSubscription (now : Moment) : Call Unit := do
  let account ← get
  assertSubscriptionTransition account.subscription.status .active
  if account.license.status = .expired then throw .subscriptionReactivationNotAllowed
  if account.license.status = .suspended then activateLicense now
  let periodEnd ← dated (addBillingCycle now account.subscription.billingCycle)
  updateSubscription fun subscription =>
    { subscription with
      status := .active
      cancelledAt := none
      cancelAtPeriodEnd := false
      autoRenew := true
      currentPeriodStart := now
      currentPeriodEnd := periodEnd }

def pauseSubscription : Call Unit := do
  let account ← get
  assertSubscriptionTransition account.subscription.status .paused
  updateSubscription fun subscription => { subscription with status := .paused }

def resumeSubscription (now : Moment) : Call Unit := do
  let account ← get
  assertSubscriptionTransition account.subscription.status .active
  if account.subscription.currentPeriodEnd ≤ now then
    let periodEnd ← dated (addBillingCycle now account.subscription.billingCycle)
    updateSubscription fun subscription =>
      { subscription with
        status := .active
        currentPeriodStart := now
        currentPeriodEnd := periodEnd }
  else
    updateSubscription fun subscription => { subscription with status := .active }

def updateRenewalSettings (autoRenew : Bool) : Call Unit :=
  updateSubscription fun subscription => { subscription with autoRenew := autoRenew }

/-! ### RenewalService -/

inductive ChargeAnswer where
  | success
  | failure
  | notConfigured
  | raised
  deriving DecidableEq

/-- The exceptions one item of a sweep meets from outside this code: before its
first write, between its two writes, after its last one. -/
structure Weather where
  early : Bool := false
  between : Bool := false
  late : Bool := false
  deriving DecidableEq

/-- What one renewal meets. `written` is the clock when the gateway has answered. -/
structure Renewal where
  plan : Option Plan
  charge : Int → ChargeAnswer
  written : Moment
  weather : Weather := {}

def markRenewed (now : Moment) : Call Unit := do
  let account ← get
  let periodEnd ← dated (addBillingCycle now account.subscription.billingCycle)
  updateSubscription fun subscription =>
    { subscription with
      status := .active
      currentPeriodStart := now
      currentPeriodEnd := periodEnd
      pastDueAt := none }

def markPastDue (now : Moment) : Call Unit :=
  updateSubscription fun subscription =>
    { subscription with
      status := .pastDue
      pastDueAt := subscription.pastDueAt.or (some now) }

def finalizeScheduledCancellation (now : Moment) (weather : Weather) : Call Unit := do
  updateSubscription fun subscription =>
    { subscription with
      status := .cancelled
      cancelledAt := some now
      autoRenew := false
      pastDueAt := none }
  strike weather.between
  suspendLicense now "Subscription's scheduled (cancel-at-period-end) cancellation took effect"

def settleCharge (now : Moment) : ChargeAnswer → Call Unit
  | .success => markRenewed now
  | .failure => markPastDue now
  | .notConfigured => markPastDue now
  | .raised => throw .gatewayRaised

def chargePlan (renewal : Renewal) : Call Unit :=
  match renewal.plan with
  | none => throw .planNotFound
  | some plan => settleCharge renewal.written (renewal.charge (computeRenewalChargeAmount plan))

def Subscription.endsNow (subscription : Subscription) (now : Moment) : Bool :=
  subscription.cancelAtPeriodEnd && subscription.currentPeriodEnd ≤ now

def finalizeOrCharge (now : Moment) (renewal : Renewal) : Call Unit := do
  let account ← get
  if account.subscription.endsNow now then
    finalizeScheduledCancellation renewal.written renewal.weather
  else
    chargePlan renewal

def processRenewal (now : Moment) (renewal : Renewal) : Call Unit := do
  strike renewal.weather.early
  let account ← get
  if account.subscription.status ∉ renewableSubscriptionStatuses then
    throw (.invalidSubscriptionStatusForRenewal account.subscription.status)
  finalizeOrCharge now renewal
  strike renewal.weather.late

def confirmRenewalPaymentSucceeded (now : Moment) (plan : Option Plan) : Call Unit :=
  match plan with
  | none => throw .planNotFound
  | some _ => markRenewed now

def confirmRenewalPaymentFailed (now : Moment) : Call Unit := markPastDue now

def activateLicenseIfNeeded (now : Moment) : Call Unit := do
  let account ← get
  if account.license.status = .active then pure ()
  else tryCatch (activateLicense now) fun fault =>
    match fault with
    | .invalidLicenseStatusTransition _ _ => pure ()
    | other => throw other

def dueForRenewal (now : Moment) (account : Account) : Bool :=
  account.subscription.autoRenew && account.subscription.billingCycle ∈ cyclicBillingCycles &&
    account.subscription.status ∈ renewableSubscriptionStatuses &&
    account.subscription.currentPeriodEnd ≤ now

def lapsedNonRenewing (now : Moment) (account : Account) : Bool :=
  !account.subscription.autoRenew && account.subscription.billingCycle ∈ cyclicBillingCycles &&
    account.subscription.status ∈ [SubscriptionStatus.active, .trialing] &&
    account.subscription.currentPeriodEnd ≤ now

def lapseItem (now : Moment) (weather : Weather) : Call Unit := do
  strike weather.early
  updateSubscription fun subscription =>
    { subscription with
      status := .cancelled
      cancelledAt := some now
      pastDueAt := none }
  strike weather.between
  suspendLicense now "Subscription's billing period ended with auto-renewal turned off"

def graceOver (now : Moment) (gracePeriodDays : Nat) (subscription : Subscription) : Bool :=
  -- `past_due_at + timedelta(days=grace_period_days)`, when there is one.
  (subscription.pastDueAt.bind fun since => addDays since gracePeriodDays).any
    fun deadline => deadline ≤ now

def expireItem (now : Moment) (gracePeriodDays : Nat) (weather : Weather) : Call Unit := do
  let account ← get
  if graceOver now gracePeriodDays account.subscription then
    strike weather.early
    expireLicense
    strike weather.between
    updateSubscription fun subscription =>
      { subscription with
        status := .cancelled
        cancelledAt := some now
        autoRenew := false
        pastDueAt := none }

end CloudGuest.Subscriptions
