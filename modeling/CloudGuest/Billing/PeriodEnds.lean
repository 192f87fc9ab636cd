import CloudGuest.Billing.SubscriptionEffects
import CloudGuest.Library.Months

/-!
What a renewal does to the end of the paid period (`_mark_renewed` of
`renewal_service.py`) and the month arithmetic under it (`add_billing_cycle`).
-/

namespace CloudGuest.Subscriptions

open Calendar Sessions

section Cycles

def cycleMonths : BillingCycle → Nat
  | .monthly => 1
  | .yearly => 12
  | .none => 0

theorem addBillingCycle_months (start : Moment) (cycle : BillingCycle)
    (cyclic : cycle ∈ cyclicBillingCycles) :
    addBillingCycle start cycle = addMonths start (cycleMonths cycle) := by
  cases cycle with
  | monthly => rfl
  | yearly => rfl
  | none => simp [cyclicBillingCycles] at cyclic

/-- Two starts cut to one last day, the earlier one at the later time of day. -/
def Overtaken (cycle : BillingCycle) (earlier later : Moment) : Prop :=
  Civil.CutTogether (cycleMonths cycle) (dateOf earlier) (dateOf later) ∧
    clockOf later < clockOf earlier

structure CycleLaw (cycle : BillingCycle) : Prop where
  /-- There is an end unless the year reached is past 9999. -/
  ends : ∀ start, (addBillingCycle start cycle).isSome = true ↔
    ((dateOf start).addMonths (cycleMonths cycle)).year ≤ 9999
  later : ∀ start periodEnd, addBillingCycle start cycle = some periodEnd → start < periodEnd
  /-- The end is on a date of the calendar, its day the start's or the last day of that month. -/
  dated : ∀ start periodEnd, addBillingCycle start cycle = some periodEnd →
    let index := (dateOf start).month - 1 + cycleMonths cycle
    (dateOf periodEnd).Valid ∧ clockOf periodEnd = clockOf start ∧
      (dateOf periodEnd).year = (dateOf start).year + index / 12 ∧
      (dateOf periodEnd).month = index % 12 + 1 ∧
      (dateOf periodEnd).day = min (dateOf start).day
        ((monthLengths (isLeap (dateOf periodEnd).year)).getD ((dateOf periodEnd).month - 1) 0)
  /-- The date never goes back, and the instant only where one start is overtaken. -/
  monotone : ∀ earlier later periodEnd laterEnd, earlier ≤ later →
    addBillingCycle earlier cycle = some periodEnd → addBillingCycle later cycle = some laterEnd →
      ordinalOf periodEnd ≤ ordinalOf laterEnd ∧
        (periodEnd ≤ laterEnd ↔ ¬ Overtaken cycle earlier later)

theorem cycle_law (cycle : BillingCycle) (cyclic : cycle ∈ cyclicBillingCycles) :
    CycleLaw cycle where
  ends := by
    intro start
    rw [addBillingCycle_months start cycle cyclic]
    exact (addMonths_dated start (cycleMonths cycle)).2
  later := fun start periodEnd added => addBillingCycle_lt start periodEnd cycle cyclic added
  dated := by
    intro start periodEnd added
    rw [addBillingCycle_months start cycle cyclic] at added
    obtain ⟨date, clock⟩ := (addMonths_dated start (cycleMonths cycle)).1 periodEnd added
    have valid := (dateOf_spec periodEnd).1
    rw [date] at valid ⊢
    exact ⟨valid, clock, rfl, rfl, rfl⟩
  monotone := by
    intro earlier later periodEnd laterEnd before added laterAdded
    rw [addBillingCycle_months _ cycle cyclic] at added laterAdded
    exact addMonths_le_iff _ earlier later periodEnd laterEnd before added laterAdded

end Cycles

section Renewals

/-- A renewal that went through at an instant, by the charge's answer or by a webhook's word. -/
inductive RenewedAt (now : Moment) (before after : Account) : Prop where
  | processed (clock : Moment) (renewal : Renewal) (written : renewal.written = now)
      (returned : (processRenewal clock renewal).run before = .ok () after)
      (active : after.subscription.status = .active)
  | confirmed (plan : Option Plan)
      (returned : (confirmRenewalPaymentSucceeded now plan).run before = .ok () after)

theorem processRenewal_returned (clock : Moment) (renewal : Renewal) (before after : Account)
    (returned : (processRenewal clock renewal).run before = .ok () after) :
    before.subscription.status ∈ renewableSubscriptionStatuses ∧
      (finalizeOrCharge clock renewal).run before = .ok () after := by
  by_cases early : renewal.weather.early = true
  · simp [processRenewal, early] at returned
  by_cases renewable : before.subscription.status ∈ renewableSubscriptionStatuses
  · refine ⟨renewable, ?_⟩
    cases ran : (finalizeOrCharge clock renewal).run before with
    | ok value left =>
        cases late : renewal.weather.late <;>
          simp [processRenewal, early, renewable, ran, late] at returned
        rw [returned]
    | error fault left => simp [processRenewal, early, renewable, ran] at returned
  · simp [processRenewal, early, renewable] at returned

theorem RenewedAt.periodEnd {now : Moment} {before after : Account}
    (renewed : RenewedAt now before after) :
    ∃ periodEnd, addBillingCycle now before.subscription.billingCycle = some periodEnd ∧
      after.subscription = before.subscription.renewed now periodEnd := by
  cases renewed with
  | processed clock renewal written returned active =>
      obtain ⟨renewable, ran⟩ := processRenewal_returned clock renewal before after returned
      have effect := finalizeOrCharge_effect clock 0 before renewal renewable
      rw [ran] at effect
      -- Of the ways a renewal may go, one leaves the subscription ACTIVE.
      cases effect (.request (.processRenewal renewal)) (.inl rfl) with
      | finalized _ given asked =>
          simp [Subscription.ended] at active
      | renewed _ given plan periodEnd asked _ _ _ _ added =>
          obtain rfl : given = renewal := by
            rcases asked with same | same <;> cases same
            rfl
          rw [written] at added ⊢
          exact ⟨periodEnd, added, rfl⟩
      | unpaid _ given => simp [Subscription.unpaid] at active
  | confirmed plan returned =>
      cases plan with
      | none => simp [confirmRenewalPaymentSucceeded] at returned
      | some plan =>
          rw [confirmRenewalPaymentSucceeded, run_markRenewed] at returned
          cases added : addBillingCycle now before.subscription.billingCycle with
          | none => simp [added] at returned
          | some periodEnd =>
              rw [added] at returned
              cases returned
              exact ⟨periodEnd, rfl, rfl⟩

/-- Before the paid period has ended, a renewal gives all that was paid for only where the instant
and the old end are cut to one last day at the same time of day. -/
theorem early_renewal_iff {now : Moment} {before after : Account}
    (renewed : RenewedAt now before after)
    (cyclic : before.subscription.billingCycle ∈ cyclicBillingCycles)
    (early : now < before.subscription.currentPeriodEnd) (owed : Moment)
    (added : addBillingCycle before.subscription.currentPeriodEnd
      before.subscription.billingCycle = some owed) :
    owed ≤ after.subscription.currentPeriodEnd ↔
      Civil.CutTogether (cycleMonths before.subscription.billingCycle) (dateOf now)
          (dateOf before.subscription.currentPeriodEnd) ∧
        clockOf before.subscription.currentPeriodEnd ≤ clockOf now := by
  obtain ⟨periodEnd, renewedEnd, subscription⟩ := renewed.periodEnd
  rw [addBillingCycle_months _ _ cyclic] at added renewedEnd
  rw [subscription]
  exact addMonths_ge_iff _ now _ periodEnd owed early renewedEnd added

/-- A renewal after the end of the period gives a whole cycle from its instant, and a cycle ends on
the date the calendar has for it, later than it starts and in the order of the starts' dates. -/
theorem renewal_period :
    (∀ now before after, RenewedAt now before after →
      before.subscription.billingCycle ∈ cyclicBillingCycles →
      before.subscription.currentPeriodEnd ≤ now →
        ∃ owed, addBillingCycle now before.subscription.billingCycle = some owed ∧
          owed ≤ after.subscription.currentPeriodEnd) ∧
    ∀ cycle ∈ cyclicBillingCycles, CycleLaw cycle := by
  refine ⟨?_, cycle_law⟩
  intro now before after renewed cyclic ended
  obtain ⟨periodEnd, added, subscription⟩ := renewed.periodEnd
  refine ⟨periodEnd, added, ?_⟩
  rw [subscription]
  exact le_refl periodEnd

end Renewals

section January

def instant (micros : Int) (inRange : firstMicros ≤ micros ∧ micros ≤ lastMicros) : Moment :=
  ⟨micros, inRange⟩

def paidMonth : Account where
  subscription :=
    { status := .active
      billingCycle := .monthly
      currentPeriodStart := instant 1766188800000000 (by decide)
      currentPeriodEnd := instant 1768867200000000 (by decide)
      trialEnd := none
      autoRenew := true
      cancelAtPeriodEnd := false
      startedAt := instant 1766188800000000 (by decide)
      cancelledAt := none
      pastDueAt := none }
  license := ⟨.active, none, none, none⟩

def monthlyPlan : Plan := ⟨.starter, .monthly, 99900, true⟩

theorem paidMonth_renewed (now periodEnd : Moment)
    (added : addBillingCycle now .monthly = some periodEnd) :
    RenewedAt now paidMonth
      { paidMonth with subscription := paidMonth.subscription.renewed now periodEnd } := by
  refine .confirmed (some monthlyPlan) ?_
  have cycle : paidMonth.subscription.billingCycle = .monthly := rfl
  rw [confirmRenewalPaymentSucceeded, run_markRenewed, cycle, added]

/-- The payment is confirmed on 31 January, eleven days after the month ended. -/
theorem renewal_period_late :
    ∃ owed, addBillingCycle (instant 1769821200000000 (by decide)) .monthly = some owed ∧
      owed ≤ instant 1772240400000000 (by decide) := by
  have added : addBillingCycle (instant 1769821200000000 (by decide)) .monthly =
      some (instant 1772240400000000 (by decide)) := by decide +kernel
  exact renewal_period.1 _ paidMonth _ (paidMonth_renewed _ _ added) (by decide) (by decide)

def tenthOfJanuary : Moment := instant 1768003200000000 (by decide)

def confirmedEarly : Account :=
  { paidMonth with
    subscription := paidMonth.subscription.renewed tenthOfJanuary
      (instant 1770681600000000 (by decide)) }

theorem confirmedEarly_renewed : RenewedAt tenthOfJanuary paidMonth confirmedEarly :=
  paidMonth_renewed _ _ (by decide +kernel)

/-- A payment confirmed ten days early ends the month after on 10 February and not on the 20th; and
a month from 11 at night on 30 January ends after one from 1 in the morning on the 31st. -/
theorem renewal_shortens :
    (RenewedAt tenthOfJanuary paidMonth confirmedEarly ∧
      tenthOfJanuary < paidMonth.subscription.currentPeriodEnd ∧
      ∃ owed, addBillingCycle paidMonth.subscription.currentPeriodEnd .monthly = some owed ∧
        confirmedEarly.subscription.currentPeriodEnd < owed) ∧
    ∃ earlier later periodEnd laterEnd, earlier ≤ later ∧
      addBillingCycle earlier .monthly = some periodEnd ∧
      addBillingCycle later .monthly = some laterEnd ∧ laterEnd < periodEnd := by
  refine ⟨⟨confirmedEarly_renewed, by decide, instant 1771545600000000 (by decide), ?_, by decide⟩,
    instant 1769814000000000 (by decide), instant 1769821200000000 (by decide),
    instant 1772319600000000 (by decide), instant 1772240400000000 (by decide), by decide, ?_, ?_,
    by decide⟩
  · decide +kernel
  · decide +kernel
  · decide +kernel

end January

end CloudGuest.Subscriptions
