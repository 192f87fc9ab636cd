import CloudGuest.Billing.Subscriptions

/-!
What one operation can do to one account, said once. `Effect` lists every way
a request, a webhook or an item of the renewal sweep changes an account,
together with what the code has checked by then; `perform_effect` is the only
proof that looks into the calls.
-/

namespace CloudGuest.Subscriptions
open Calendar Sessions

/-- The operations on one account that are committed as a whole. The last three
are the webhooks: a success or failure event of a subscription's payment, and a
captured payment that belongs to no subscription. -/
inductive Request where
  | cancel (immediate : Bool)
  | reactivate
  | pause
  | resume
  | updateRenewalSettings (autoRenew : Bool)
  | processRenewal (renewal : Renewal)
  | confirmSucceeded (plan : Option Plan)
  | confirmFailed
  | capturedWithoutSubscription

/-- The items of the three phases of the sweep, whose exceptions are caught. -/
inductive Item where
  | renew (renewal : Renewal)
  | lapse (weather : Weather)
  | expire (weather : Weather)

inductive Deed where
  | request (request : Request)
  | item (item : Item)

def Request.call (now : Moment) : Request → Call Unit
  | .cancel immediate => cancelSubscription now immediate
  | .reactivate => reactivateSubscription now
  | .pause => pauseSubscription
  | .resume => resumeSubscription now
  | .updateRenewalSettings autoRenew => Subscriptions.updateRenewalSettings autoRenew
  | .processRenewal renewal => Subscriptions.processRenewal now renewal
  | .confirmSucceeded plan => confirmRenewalPaymentSucceeded now plan
  | .confirmFailed => confirmRenewalPaymentFailed now
  | .capturedWithoutSubscription => activateLicenseIfNeeded now

def Item.call (now : Moment) (gracePeriodDays : Nat) : Item → Call Unit
  | .renew renewal => Subscriptions.processRenewal now renewal
  | .lapse weather => lapseItem now weather
  | .expire weather => expireItem now gracePeriodDays weather

def perform (now : Moment) (gracePeriodDays : Nat) (deed : Deed) (account : Account) : Account :=
  match deed with
  | .request request => committed (request.call now) account
  | .item item => left (item.call now gracePeriodDays) account

def Deed.renews (deed : Deed) (renewal : Renewal) : Prop :=
  deed = .request (.processRenewal renewal) ∨ deed = .item (.renew renewal)

/-! ### The writes -/

def Subscription.cancelledNow (subscription : Subscription) (now : Moment) : Subscription :=
  { subscription with
    status := .cancelled, cancelledAt := some now, autoRenew := false,
    cancelAtPeriodEnd := false, pastDueAt := none }

def Subscription.ended (subscription : Subscription) (now : Moment) (autoRenew : Bool) :
    Subscription :=
  { subscription with
    status := .cancelled, cancelledAt := some now, autoRenew := autoRenew, pastDueAt := none }

def Subscription.reactivated (subscription : Subscription) (now periodEnd : Moment) :
    Subscription :=
  { subscription with
    status := .active, cancelledAt := none, cancelAtPeriodEnd := false, autoRenew := true,
    currentPeriodStart := now, currentPeriodEnd := periodEnd }

def Subscription.renewed (subscription : Subscription) (now periodEnd : Moment) : Subscription :=
  { subscription with
    status := .active, currentPeriodStart := now, currentPeriodEnd := periodEnd,
    pastDueAt := none }

def Subscription.unpaid (subscription : Subscription) (now : Moment) : Subscription :=
  { subscription with status := .pastDue, pastDueAt := subscription.pastDueAt.or (some now) }

inductive Effect (now : Moment) (gracePeriodDays : Nat) (account : Account) :
    Deed → Account → Prop where
  | cancelled (live : account.subscription.status ≠ .cancelled)
      (licensed : account.license.status = .active) :
      Effect now gracePeriodDays account (.request (.cancel true))
        ⟨account.subscription.cancelledNow now,
          account.license.suspended now "Subscription cancelled"⟩
  | scheduled (live : account.subscription.status ≠ .cancelled) :
      Effect now gracePeriodDays account (.request (.cancel false))
        { account with subscription := { account.subscription with cancelAtPeriodEnd := true } }
  | reactivated (periodEnd : Moment) (license : License)
      (idle : account.subscription.status ≠ .active)
      (unexpired : account.license.status ≠ .expired)
      (added : addBillingCycle now account.subscription.billingCycle = some periodEnd)
      (restored : license = if account.license.status = .suspended then account.license.activated now
        else account.license) :
      Effect now gracePeriodDays account (.request .reactivate)
        ⟨account.subscription.reactivated now periodEnd, license⟩
  | paused (running : account.subscription.status = .active) :
      Effect now gracePeriodDays account (.request .pause)
        { account with subscription := { account.subscription with status := .paused } }
  | resumed (idle : account.subscription.status ≠ .active)
      (unfinished : now < account.subscription.currentPeriodEnd) :
      Effect now gracePeriodDays account (.request .resume)
        { account with subscription := { account.subscription with status := .active } }
  | resumedAfresh (periodEnd : Moment) (idle : account.subscription.status ≠ .active)
      (elapsed : account.subscription.currentPeriodEnd ≤ now)
      (added : addBillingCycle now account.subscription.billingCycle = some periodEnd) :
      Effect now gracePeriodDays account (.request .resume)
        { account with subscription :=
          { account.subscription with
            status := .active, currentPeriodStart := now, currentPeriodEnd := periodEnd } }
  | settings (autoRenew : Bool) :
      Effect now gracePeriodDays account (.request (.updateRenewalSettings autoRenew))
        { account with subscription := { account.subscription with autoRenew := autoRenew } }
  | finalized (deed : Deed) (renewal : Renewal) (asked : deed.renews renewal)
      (renewable : account.subscription.status ∈ renewableSubscriptionStatuses)
      (ends : account.subscription.endsNow now = true)
      (calm : renewal.weather.between = false)
      (licensed : account.license.status = .active) :
      Effect now gracePeriodDays account deed
        ⟨account.subscription.ended renewal.written false, account.license.suspended renewal.written
          "Subscription's scheduled (cancel-at-period-end) cancellation took effect"⟩
  | halfFinalized (renewal : Renewal)
      (renewable : account.subscription.status ∈ renewableSubscriptionStatuses)
      (ends : account.subscription.endsNow now = true)
      (struck : renewal.weather.between = true ∨ account.license.status ≠ .active) :
      Effect now gracePeriodDays account (.item (.renew renewal))
        { account with subscription := account.subscription.ended renewal.written false }
  | renewed (deed : Deed) (renewal : Renewal) (plan : Plan) (periodEnd : Moment)
      (asked : deed.renews renewal)
      (renewable : account.subscription.status ∈ renewableSubscriptionStatuses)
      (goesOn : account.subscription.endsNow now = false) (found : renewal.plan = some plan)
      (charged : renewal.charge (computeRenewalChargeAmount plan) = .success)
      (added : addBillingCycle renewal.written account.subscription.billingCycle = some periodEnd) :
      Effect now gracePeriodDays account deed
        { account with subscription := account.subscription.renewed renewal.written periodEnd }
  | unpaid (deed : Deed) (renewal : Renewal) (plan : Plan) (asked : deed.renews renewal)
      (renewable : account.subscription.status ∈ renewableSubscriptionStatuses)
      (goesOn : account.subscription.endsNow now = false) (found : renewal.plan = some plan)
      (declined : renewal.charge (computeRenewalChargeAmount plan) ∈
        [ChargeAnswer.failure, .notConfigured]) :
      Effect now gracePeriodDays account deed
        { account with subscription := account.subscription.unpaid renewal.written }
  | confirmed (plan : Plan) (periodEnd : Moment)
      (added : addBillingCycle now account.subscription.billingCycle = some periodEnd) :
      Effect now gracePeriodDays account (.request (.confirmSucceeded (some plan)))
        { account with subscription := account.subscription.renewed now periodEnd }
  | refused :
      Effect now gracePeriodDays account (.request .confirmFailed)
        { account with subscription := account.subscription.unpaid now }
  | licenseActivated (idle : account.license.status = .pendingActivation ∨
        account.license.status = .suspended) :
      Effect now gracePeriodDays account (.request .capturedWithoutSubscription)
        { account with license := account.license.activated now }
  | lapsed (weather : Weather) (calm : weather.between = false)
      (licensed : account.license.status = .active) :
      Effect now gracePeriodDays account (.item (.lapse weather))
        ⟨account.subscription.ended now account.subscription.autoRenew, account.license.suspended now
          "Subscription's billing period ended with auto-renewal turned off"⟩
  | halfLapsed (weather : Weather)
      (struck : weather.between = true ∨ account.license.status ≠ .active) :
      Effect now gracePeriodDays account (.item (.lapse weather))
        { account with
          subscription := account.subscription.ended now account.subscription.autoRenew }
  | expired (weather : Weather) (calm : weather.between = false)
      (finished : graceOver now gracePeriodDays account.subscription = true)
      (usable : account.license.status = .active ∨ account.license.status = .suspended) :
      Effect now gracePeriodDays account (.item (.expire weather))
        ⟨account.subscription.ended now false, { account.license with status := .expired }⟩
  | halfExpired (weather : Weather) (struck : weather.between = true)
      (finished : graceOver now gracePeriodDays account.subscription = true)
      (usable : account.license.status = .active ∨ account.license.status = .suspended) :
      Effect now gracePeriodDays account (.item (.expire weather))
        { account with license := { account.license with status := .expired } }

/-! ### The calls, run -/

theorem transition_active (status : SubscriptionStatus) :
    SubscriptionStatus.active ∈ subscriptionTransitions status ↔ status ≠ .active := by
  cases status <;> decide

theorem transition_paused (status : SubscriptionStatus) :
    SubscriptionStatus.paused ∈ subscriptionTransitions status ↔ status = .active := by
  cases status <;> decide

theorem transition_cancelled (status : SubscriptionStatus) :
    SubscriptionStatus.cancelled ∈ subscriptionTransitions status ↔ status ≠ .cancelled := by
  cases status <;> decide

theorem live_statuses (status : SubscriptionStatus) :
    status ∈ cancellableStatuses ↔ status ≠ .cancelled := by
  cases status <;> decide

theorem license_active (status : LicenseStatus) :
    LicenseStatus.active ∈ licenseTransitions status ↔
      status = .pendingActivation ∨ status = .suspended := by
  cases status <;> decide

theorem license_suspended (status : LicenseStatus) :
    LicenseStatus.suspended ∈ licenseTransitions status ↔ status = .active := by
  cases status <;> decide

theorem license_expired (status : LicenseStatus) :
    LicenseStatus.expired ∈ licenseTransitions status ↔ status = .active ∨ status = .suspended := by
  cases status <;> decide

@[simp] theorem run_updateSubscription (data : Subscription → Subscription) (account : Account) :
    (updateSubscription data).run account =
      .ok () { account with subscription := data account.subscription } := rfl

@[simp] theorem run_updateLicense (data : License → License) (account : Account) :
    (updateLicense data).run account = .ok () { account with license := data account.license } := rfl

@[simp] theorem run_strike (struck : Bool) (account : Account) :
    (strike struck).run account = if struck then .error .interrupted account else .ok () account := by
  cases struck <;> rfl

@[simp] theorem run_assertSubscriptionTransition (current target : SubscriptionStatus)
    (account : Account) :
    (assertSubscriptionTransition current target).run account =
      if target ∈ subscriptionTransitions current then .ok () account
      else .error (.invalidSubscriptionStatusTransition current target) account := by
  unfold assertSubscriptionTransition
  split <;> rfl

@[simp] theorem run_assertTransition (current target : LicenseStatus) (account : Account) :
    (assertTransition current target).run account =
      if target ∈ licenseTransitions current then .ok () account
      else .error (.invalidLicenseStatusTransition current target) account := by
  unfold assertTransition
  split <;> rfl

theorem run_licenseCall (target : LicenseStatus) (data : License → License) (account : Account) :
    (EStateM.run (do
      let account ← get
      assertTransition account.license.status target
      updateLicense data : Call Unit) account) =
      if target ∈ licenseTransitions account.license.status then
        .ok () { account with license := data account.license }
      else .error (.invalidLicenseStatusTransition account.license.status target) account := by
  by_cases allowed : target ∈ licenseTransitions account.license.status
  · simp [allowed]
  · simp [allowed]

theorem run_suspendLicense (now : Moment) (reason : String) (account : Account) :
    (suspendLicense now reason).run account =
      if account.license.status = .active then
        .ok () { account with license := account.license.suspended now reason }
      else .error (.invalidLicenseStatusTransition account.license.status .suspended) account := by
  unfold suspendLicense
  rw [run_licenseCall]
  simp only [license_suspended]

theorem run_activateLicense (now : Moment) (account : Account) :
    (activateLicense now).run account =
      if account.license.status = .pendingActivation ∨ account.license.status = .suspended then
        .ok () { account with license := account.license.activated now }
      else .error (.invalidLicenseStatusTransition account.license.status .active) account := by
  unfold activateLicense
  rw [run_licenseCall]
  simp only [license_active]

theorem run_expireLicense (account : Account) :
    expireLicense.run account =
      if account.license.status = .active ∨ account.license.status = .suspended then
        .ok () { account with license := { account.license with status := .expired } }
      else .error (.invalidLicenseStatusTransition account.license.status .expired) account := by
  unfold expireLicense
  rw [run_licenseCall]
  simp only [license_expired]

variable (now : Moment) (gracePeriodDays : Nat) (account : Account)

theorem cancel_effect (immediate : Bool) :
    perform now gracePeriodDays (.request (.cancel immediate)) account = account ∨
      Effect now gracePeriodDays account (.request (.cancel immediate))
        (perform now gracePeriodDays (.request (.cancel immediate)) account) := by
  by_cases live : account.subscription.status = .cancelled
  · left
    simp [perform, committed, Request.call, cancelSubscription, live_statuses, live]
  · cases immediate with
    | false =>
        right
        have done : perform now gracePeriodDays (.request (.cancel false)) account =
            { account with
              subscription := { account.subscription with cancelAtPeriodEnd := true } } := by
          simp [perform, committed, Request.call, cancelSubscription, live_statuses, live]
        rw [done]
        exact .scheduled live
    | true =>
        by_cases licensed : account.license.status = .active
        · right
          have done : perform now gracePeriodDays (.request (.cancel true)) account =
              ⟨account.subscription.cancelledNow now,
                account.license.suspended now "Subscription cancelled"⟩ := by
            simp [perform, committed, Request.call, cancelSubscription, live_statuses, live,
              transition_cancelled, run_suspendLicense, licensed, Subscription.cancelledNow]
          rw [done]
          exact .cancelled live licensed
        · left
          simp [perform, committed, Request.call, cancelSubscription, live_statuses, live,
            transition_cancelled, run_suspendLicense, licensed]

theorem dated_run (date : Option Moment) :
    (dated date).run account = match date with
      | some moment => .ok moment account
      | none => .error .dateOutOfRange account := by
  cases date <;> rfl

theorem reactivate_effect :
    perform now gracePeriodDays (.request .reactivate) account = account ∨
      Effect now gracePeriodDays account (.request .reactivate)
        (perform now gracePeriodDays (.request .reactivate) account) := by
  by_cases idle : account.subscription.status = .active
  · left
    simp [perform, committed, Request.call, reactivateSubscription, transition_active, idle]
  by_cases unexpired : account.license.status = .expired
  · left
    simp [perform, committed, Request.call, reactivateSubscription, transition_active, idle,
      unexpired]
  cases added : addBillingCycle now account.subscription.billingCycle with
  | none =>
      left
      by_cases suspended : account.license.status = .suspended
      · simp [perform, committed, Request.call, reactivateSubscription, transition_active, idle,
          suspended, run_activateLicense, dated_run, added]
      · simp [perform, committed, Request.call, reactivateSubscription, transition_active, idle,
          unexpired, suspended, dated_run, added]
  | some periodEnd =>
      right
      have done : perform now gracePeriodDays (.request .reactivate) account =
          ⟨account.subscription.reactivated now periodEnd,
            if account.license.status = .suspended then account.license.activated now
            else account.license⟩ := by
        by_cases suspended : account.license.status = .suspended
        · simp [perform, committed, Request.call, reactivateSubscription, transition_active, idle,
            suspended, run_activateLicense, dated_run, added, Subscription.reactivated]
        · simp [perform, committed, Request.call, reactivateSubscription, transition_active, idle,
            unexpired, suspended, dated_run, added, Subscription.reactivated]
      rw [done]
      exact .reactivated periodEnd _ idle unexpired added rfl

theorem pause_effect :
    perform now gracePeriodDays (.request .pause) account = account ∨
      Effect now gracePeriodDays account (.request .pause)
        (perform now gracePeriodDays (.request .pause) account) := by
  by_cases running : account.subscription.status = .active
  · right
    have done : perform now gracePeriodDays (.request .pause) account =
        { account with subscription := { account.subscription with status := .paused } } := by
      simp [perform, committed, Request.call, pauseSubscription, transition_paused, running]
    rw [done]
    exact .paused running
  · left
    simp [perform, committed, Request.call, pauseSubscription, transition_paused, running]

theorem resume_effect :
    perform now gracePeriodDays (.request .resume) account = account ∨
      Effect now gracePeriodDays account (.request .resume)
        (perform now gracePeriodDays (.request .resume) account) := by
  by_cases idle : account.subscription.status = .active
  · left
    simp [perform, committed, Request.call, resumeSubscription, transition_active, idle]
  by_cases elapsed : account.subscription.currentPeriodEnd ≤ now
  · cases added : addBillingCycle now account.subscription.billingCycle with
    | none =>
        left
        simp [perform, committed, Request.call, resumeSubscription, transition_active, idle,
          elapsed, dated_run, added]
    | some periodEnd =>
        right
        have done : perform now gracePeriodDays (.request .resume) account =
            { account with subscription :=
              { account.subscription with
                status := .active, currentPeriodStart := now, currentPeriodEnd := periodEnd } } := by
          simp [perform, committed, Request.call, resumeSubscription, transition_active, idle,
            elapsed, dated_run, added]
        rw [done]
        exact .resumedAfresh periodEnd idle elapsed added
  · right
    have done : perform now gracePeriodDays (.request .resume) account =
        { account with subscription := { account.subscription with status := .active } } := by
      simp [perform, committed, Request.call, resumeSubscription, transition_active, idle, elapsed]
    rw [done]
    exact .resumed idle (lt_of_not_ge elapsed)

theorem settings_effect (autoRenew : Bool) :
    Effect now gracePeriodDays account (.request (.updateRenewalSettings autoRenew))
      (perform now gracePeriodDays (.request (.updateRenewalSettings autoRenew)) account) :=
  .settings autoRenew

theorem run_markRenewed :
    (markRenewed now).run account =
      match addBillingCycle now account.subscription.billingCycle with
      | some periodEnd =>
          .ok () { account with subscription := account.subscription.renewed now periodEnd }
      | none => .error .dateOutOfRange account := by
  cases added : addBillingCycle now account.subscription.billingCycle with
  | none => simp [markRenewed, dated_run, added]
  | some periodEnd => simp [markRenewed, dated_run, added, Subscription.renewed]

/-- Past the checks of `process_renewal` the two writes of a finalization are
made, or the first alone. -/
theorem run_finalize (weather : Weather) :
    (finalizeScheduledCancellation now weather).run account =
      if weather.between = true then
        .error .interrupted { account with subscription := account.subscription.ended now false }
      else if account.license.status = .active then
        .ok () ⟨account.subscription.ended now false, account.license.suspended now
          "Subscription's scheduled (cancel-at-period-end) cancellation took effect"⟩
      else
        .error (.invalidLicenseStatusTransition account.license.status .suspended)
          { account with subscription := account.subscription.ended now false } := by
  by_cases struck : weather.between = true
  · simp [finalizeScheduledCancellation, struck, Subscription.ended]
  · by_cases licensed : account.license.status = .active
    · simp [finalizeScheduledCancellation, struck, run_suspendLicense, licensed, Subscription.ended]
    · simp [finalizeScheduledCancellation, struck, run_suspendLicense, licensed, Subscription.ended]

theorem finalizeOrCharge_effect (renewal : Renewal)
    (renewable : account.subscription.status ∈ renewableSubscriptionStatuses) :
    match (finalizeOrCharge now renewal).run account with
    | .ok _ after => ∀ deed : Deed, deed.renews renewal → Effect now gracePeriodDays account deed after
    | .error _ after => after = account ∨
        Effect now gracePeriodDays account (.item (.renew renewal)) after := by
  -- A renewal past its check finalizes or charges. What returned is an effect of a request and of
  -- an item alike; what raised is at most one of an item.
  simp only [finalizeOrCharge, EStateM.run_bind, EStateM.run_get]
  cases ends : account.subscription.endsNow now with
  | true =>
      simp only [↓reduceIte, run_finalize]
      by_cases struck : renewal.weather.between = true
      · simp only [struck, ↓reduceIte]
        exact .inr (.halfFinalized renewal renewable ends (.inl struck))
      by_cases licensed : account.license.status = .active
      · simp only [struck, licensed, ↓reduceIte]
        intro deed asked
        exact .finalized deed renewal asked renewable ends (by simpa using struck) licensed
      · simp only [struck, licensed, ↓reduceIte]
        exact .inr (.halfFinalized renewal renewable ends (.inr licensed))
  | false =>
      simp only [Bool.false_eq_true, ↓reduceIte, chargePlan]
      cases found : renewal.plan with
      | none => exact .inl rfl
      | some plan =>
          simp only
          cases answer : renewal.charge (computeRenewalChargeAmount plan) with
          | success =>
              simp only [settleCharge, run_markRenewed]
              cases added : addBillingCycle renewal.written account.subscription.billingCycle with
              | none => exact .inl rfl
              | some periodEnd =>
                  intro deed asked
                  exact .renewed deed renewal plan periodEnd asked renewable ends found answer added
          | failure =>
              intro deed asked
              exact .unpaid deed renewal plan asked renewable ends found (by simp [answer])
          | notConfigured =>
              intro deed asked
              exact .unpaid deed renewal plan asked renewable ends found (by simp [answer])
          | raised => exact .inl rfl

theorem renewItem_effect (renewal : Renewal) :
    perform now gracePeriodDays (.item (.renew renewal)) account = account ∨
      Effect now gracePeriodDays account (.item (.renew renewal))
        (perform now gracePeriodDays (.item (.renew renewal)) account) := by
  by_cases early : renewal.weather.early = true
  · simp [perform, Item.call, left, processRenewal, early]
  by_cases renewable : account.subscription.status ∈ renewableSubscriptionStatuses
  · have effect := finalizeOrCharge_effect now gracePeriodDays account renewal renewable
    cases ran : (finalizeOrCharge now renewal).run account with
    | ok value after =>
        rw [ran] at effect
        have kept : perform now gracePeriodDays (.item (.renew renewal)) account = after := by
          cases late : renewal.weather.late <;>
            simp [perform, Item.call, left, processRenewal, early, renewable, ran, late]
        rw [kept]
        exact .inr (effect _ (.inr rfl))
    | error fault after =>
        rw [ran] at effect
        have kept : perform now gracePeriodDays (.item (.renew renewal)) account = after := by
          simp [perform, Item.call, left, processRenewal, early, renewable, ran]
        rw [kept]
        exact effect
  · simp [perform, Item.call, left, processRenewal, early, renewable]

theorem processRenewal_effect (renewal : Renewal) :
    perform now gracePeriodDays (.request (.processRenewal renewal)) account = account ∨
      Effect now gracePeriodDays account (.request (.processRenewal renewal))
        (perform now gracePeriodDays (.request (.processRenewal renewal)) account) := by
  by_cases early : renewal.weather.early = true
  · simp [perform, Request.call, committed, processRenewal, early]
  by_cases renewable : account.subscription.status ∈ renewableSubscriptionStatuses
  · have effect := finalizeOrCharge_effect now gracePeriodDays account renewal renewable
    cases ran : (finalizeOrCharge now renewal).run account with
    | ok value after =>
        rw [ran] at effect
        cases late : renewal.weather.late with
        | true => simp [perform, Request.call, committed, processRenewal, early, renewable, ran, late]
        | false =>
            have kept : perform now gracePeriodDays (.request (.processRenewal renewal)) account =
                after := by
              simp [perform, Request.call, committed, processRenewal, early, renewable, ran, late]
            rw [kept]
            exact .inr (effect _ (.inl rfl))
    | error fault after =>
        simp [perform, Request.call, committed, processRenewal, early, renewable, ran]
  · simp [perform, Request.call, committed, processRenewal, early, renewable]

theorem confirmSucceeded_effect (plan : Option Plan) :
    perform now gracePeriodDays (.request (.confirmSucceeded plan)) account = account ∨
      Effect now gracePeriodDays account (.request (.confirmSucceeded plan))
        (perform now gracePeriodDays (.request (.confirmSucceeded plan)) account) := by
  cases plan with
  | none => exact .inl rfl
  | some plan =>
      simp only [perform, Request.call, committed, confirmRenewalPaymentSucceeded, run_markRenewed]
      cases added : addBillingCycle now account.subscription.billingCycle with
      | none => exact .inl rfl
      | some periodEnd => exact .inr (.confirmed plan periodEnd added)

theorem captured_effect :
    perform now gracePeriodDays (.request .capturedWithoutSubscription) account = account ∨
      Effect now gracePeriodDays account (.request .capturedWithoutSubscription)
        (perform now gracePeriodDays (.request .capturedWithoutSubscription) account) := by
  by_cases idle : account.license.status = .pendingActivation ∨ account.license.status = .suspended
  · right
    have done : perform now gracePeriodDays (.request .capturedWithoutSubscription) account =
        { account with license := account.license.activated now } := by
      have inactive : account.license.status ≠ .active := by
        rcases idle with pending | suspended
        · simp [pending]
        · simp [suspended]
      have ran := run_activateLicense now account
      simp only [idle, ↓reduceIte] at ran
      simp only [perform, Request.call, committed, activateLicenseIfNeeded, EStateM.run_bind,
        EStateM.run_get, inactive, ↓reduceIte]
      simp only [EStateM.run, tryCatch, tryCatchThe, MonadExceptOf.tryCatch, EStateM.tryCatch] at ran ⊢
      rw [ran]
    rw [done]
    exact .licenseActivated idle
  · left
    by_cases active : account.license.status = .active
    · simp [perform, Request.call, committed, activateLicenseIfNeeded, active]
    · have ran := run_activateLicense now account
      simp only [idle, ↓reduceIte] at ran
      simp only [perform, Request.call, committed, activateLicenseIfNeeded, EStateM.run_bind,
        EStateM.run_get, active, ↓reduceIte]
      simp only [EStateM.run, tryCatch, tryCatchThe, MonadExceptOf.tryCatch, EStateM.tryCatch] at ran ⊢
      rw [ran]
      rfl

theorem lapse_effect (weather : Weather) :
    perform now gracePeriodDays (.item (.lapse weather)) account = account ∨
      Effect now gracePeriodDays account (.item (.lapse weather))
        (perform now gracePeriodDays (.item (.lapse weather)) account) := by
  by_cases early : weather.early = true
  · left
    simp [perform, Item.call, left, lapseItem, early]
  right
  by_cases whole : weather.between = false ∧ account.license.status = .active
  · have done : perform now gracePeriodDays (.item (.lapse weather)) account =
        ⟨account.subscription.ended now account.subscription.autoRenew, account.license.suspended now
          "Subscription's billing period ended with auto-renewal turned off"⟩ := by
      simp [perform, Item.call, left, lapseItem, early, whole, run_suspendLicense,
        Subscription.ended]
    rw [done]
    exact .lapsed weather whole.1 whole.2
  · have done : perform now gracePeriodDays (.item (.lapse weather)) account =
        { account with
          subscription := account.subscription.ended now account.subscription.autoRenew } := by
      by_cases struck : weather.between = true
      · simp [perform, Item.call, left, lapseItem, early, struck, Subscription.ended]
      · have unlicensed : account.license.status ≠ .active := fun licensed =>
          whole ⟨by simpa using struck, licensed⟩
        simp [perform, Item.call, left, lapseItem, early, struck, unlicensed, run_suspendLicense,
          Subscription.ended]
    rw [done]
    refine .halfLapsed weather ?_
    by_cases struck : weather.between = true
    · exact .inl struck
    · exact .inr fun licensed => whole ⟨by simpa using struck, licensed⟩

theorem expire_effect (weather : Weather) :
    perform now gracePeriodDays (.item (.expire weather)) account = account ∨
      Effect now gracePeriodDays account (.item (.expire weather))
        (perform now gracePeriodDays (.item (.expire weather)) account) := by
  by_cases finished : graceOver now gracePeriodDays account.subscription = true
  · by_cases early : weather.early = true
    · left
      simp [perform, Item.call, left, expireItem, finished, early]
    by_cases usable : account.license.status = .active ∨ account.license.status = .suspended
    · right
      by_cases struck : weather.between = true
      · have done : perform now gracePeriodDays (.item (.expire weather)) account =
            { account with license := { account.license with status := .expired } } := by
          simp [perform, Item.call, left, expireItem, finished, early, run_expireLicense, usable, struck]
        rw [done]
        exact .halfExpired weather struck finished usable
      · have done : perform now gracePeriodDays (.item (.expire weather)) account =
            ⟨account.subscription.ended now false, { account.license with status := .expired }⟩ := by
          simp [perform, Item.call, left, expireItem, finished, early, run_expireLicense, usable, struck,
            Subscription.ended]
        rw [done]
        exact .expired weather (by simpa using struck) finished usable
    · left
      simp [perform, Item.call, left, expireItem, finished, early, run_expireLicense, usable]
  · left
    simp [perform, Item.call, left, expireItem, finished]

theorem perform_effect (deed : Deed) :
    perform now gracePeriodDays deed account = account ∨
      Effect now gracePeriodDays account deed (perform now gracePeriodDays deed account) := by
  match deed with
  | .request (.cancel immediate) => exact cancel_effect now gracePeriodDays account immediate
  | .request .reactivate => exact reactivate_effect now gracePeriodDays account
  | .request .pause => exact pause_effect now gracePeriodDays account
  | .request .resume => exact resume_effect now gracePeriodDays account
  | .request (.updateRenewalSettings autoRenew) =>
      exact .inr (settings_effect now gracePeriodDays account autoRenew)
  | .request (.processRenewal renewal) =>
      exact processRenewal_effect now gracePeriodDays account renewal
  | .request (.confirmSucceeded plan) =>
      exact confirmSucceeded_effect now gracePeriodDays account plan
  | .request .confirmFailed => exact .inr .refused
  | .request .capturedWithoutSubscription => exact captured_effect now gracePeriodDays account
  | .item (.renew renewal) => exact renewItem_effect now gracePeriodDays account renewal
  | .item (.lapse weather) => exact lapse_effect now gracePeriodDays account weather
  | .item (.expire weather) => exact expire_effect now gracePeriodDays account weather

end CloudGuest.Subscriptions
