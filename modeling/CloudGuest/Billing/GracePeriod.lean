import CloudGuest.Billing.SubscriptionRuns

/-!
The grace period. `_mark_past_due` stamps `past_due_at` only when it is empty,
so the stamp tells when the current episode began as long as every way out of
PAST_DUE clears it. Renewal, cancellation, lapse and expiry do;
`reactivate_subscription` and `resume_subscription` accept a PAST_DUE
subscription and leave the stamp behind, and the next failed charge then finds
a grace period that is already over. Runs in which neither is applied to a
PAST_DUE subscription honour the grace period.
-/

namespace CloudGuest.Subscriptions
open Calendar Runs

universe u
variable {Org : Type u} [DecidableEq Org]

def Deed.writtenAt (now : Moment) (deed : Deed) : Moment :=
  match deed with
  | .request (.processRenewal renewal) => renewal.written
  | .item (.renew renewal) => renewal.written
  | _ => now

def Billing.pastDue (billing : Billing Org) (org : Org) : Prop :=
  ∃ account, billing.account org = some account ∧ account.subscription.status = .pastDue

/-- A step of the run made the subscription PAST_DUE at that instant, and it has been so since. -/
def PastDueSince (trace : List (Taken (Billing Org) (Event Org))) (org : Org) (instant : Moment) :
    Prop :=
  ∃ earlier first later, trace = earlier ++ first :: later ∧
    (∃ deed, first.action.action.deedOn org = some deed ∧
      deed.writtenAt first.action.now = instant) ∧
    ¬ first.before.pastDue org ∧ ∀ taken ∈ first :: later, taken.after.pastDue org

/-- A license that this step expired belongs to a subscription whose grace period,
counted from the start of its current PAST_DUE episode, is over. -/
def GraceHonoured (settings : Settings) (trace : List (Taken (Billing Org) (Event Org)))
    (taken : Taken (Billing Org) (Event Org)) : Prop :=
  ∀ org before after, taken.before.account org = some before →
    taken.after.account org = some after → before.license.status ≠ .expired →
    after.license.status = .expired →
    ∃ instant deadline, PastDueSince trace org instant ∧
      addDays instant settings.gracePeriodDays = some deadline ∧ deadline ≤ taken.action.now

/-- `past_due_at` is set exactly while the subscription is PAST_DUE. -/
def Stamped (account : Account) : Prop :=
  account.subscription.pastDueAt.isSome = true ↔ account.subscription.status = .pastDue

/-- The condition on one operation under which the stamp stays honest. -/
def KeepsGrace (_ : Moment) (account : Account) : Deed → Prop
  | .request .reactivate => account.subscription.status ≠ .pastDue
  | .request .resume => account.subscription.status ≠ .pastDue
  | _ => True

instance (now : Moment) (account : Account) :
    (deed : Deed) → Decidable (KeepsGrace now account deed)
  | .request .reactivate => inferInstanceAs (Decidable (account.subscription.status ≠ .pastDue))
  | .request .resume => inferInstanceAs (Decidable (account.subscription.status ≠ .pastDue))
  | .request (.cancel _) => isTrue trivial
  | .request .pause => isTrue trivial
  | .request (.updateRenewalSettings _) => isTrue trivial
  | .request (.processRenewal _) => isTrue trivial
  | .request (.confirmSucceeded _) => isTrue trivial
  | .request .confirmFailed => isTrue trivial
  | .request .capturedWithoutSubscription => isTrue trivial
  | .item _ => isTrue trivial

theorem stamped_none (account : Account) (stamped : Stamped account)
    (status : account.subscription.status ≠ .pastDue) : account.subscription.pastDueAt = none := by
  cases since : account.subscription.pastDueAt with
  | none => rfl
  | some instant => exact absurd (stamped.mp (by simp [since])) status

theorem effect_stamp (now : Moment) (gracePeriodDays : Nat) (before after : Account) (deed : Deed)
    (stamped : Stamped before) (allowed : KeepsGrace now before deed)
    (effect : Effect now gracePeriodDays before deed after) :
    (after.subscription.pastDueAt = none ∧ after.subscription.status ≠ .pastDue) ∨
      (after.subscription.pastDueAt = before.subscription.pastDueAt ∧
        after.subscription.status = before.subscription.status) ∨
      (after.subscription.status = .pastDue ∧
        after.subscription.pastDueAt =
          before.subscription.pastDueAt.or (some (deed.writtenAt now))) := by
  -- An operation clears the stamp with the status, keeps both, or makes the subscription PAST_DUE
  -- and stamps it if it is not stamped yet.
  cases effect with
  | cancelled => exact .inl ⟨rfl, by simp [Subscription.cancelledNow]⟩
  | scheduled => exact .inr (.inl ⟨rfl, rfl⟩)
  | reactivated =>
      exact .inl ⟨stamped_none before stamped allowed, by simp [Subscription.reactivated]⟩
  | paused running =>
      refine .inl ⟨stamped_none before stamped ?_, by simp⟩
      simp [running]
  | resumed => exact .inl ⟨stamped_none before stamped allowed, by simp⟩
  | resumedAfresh => exact .inl ⟨stamped_none before stamped allowed, by simp⟩
  | settings => exact .inr (.inl ⟨rfl, rfl⟩)
  | finalized => exact .inl ⟨rfl, by simp [Subscription.ended]⟩
  | halfFinalized => exact .inl ⟨rfl, by simp [Subscription.ended]⟩
  | renewed => exact .inl ⟨rfl, by simp [Subscription.renewed]⟩
  | unpaid _ renewal plan asked =>
      rcases asked with rfl | rfl
      · exact .inr (.inr ⟨rfl, rfl⟩)
      · exact .inr (.inr ⟨rfl, rfl⟩)
  | confirmed => exact .inl ⟨rfl, by simp [Subscription.renewed]⟩
  | refused => exact .inr (.inr ⟨rfl, rfl⟩)
  | licenseActivated => exact .inr (.inl ⟨rfl, rfl⟩)
  | lapsed => exact .inl ⟨rfl, by simp [Subscription.ended]⟩
  | halfLapsed => exact .inl ⟨rfl, by simp [Subscription.ended]⟩
  | expired => exact .inl ⟨rfl, by simp [Subscription.ended]⟩
  | halfExpired => exact .inr (.inl ⟨rfl, rfl⟩)

theorem pastDueSince_goes_on (trace : List (Taken (Billing Org) (Event Org)))
    (taken : Taken (Billing Org) (Event Org)) (org : Org) (instant : Moment)
    (since : PastDueSince trace org instant) (still : taken.after.pastDue org) :
    PastDueSince (trace ++ [taken]) org instant := by
  obtain ⟨earlier, first, later, rfl, wrote, fresh, kept⟩ := since
  refine ⟨earlier, first, later ++ [taken], by simp, wrote, fresh, ?_⟩
  intro step member
  rw [← List.cons_append, List.mem_append, List.mem_singleton] at member
  rcases member with past | rfl
  · exact kept step past
  · exact still

theorem pastDueSince_begins (trace : List (Taken (Billing Org) (Event Org)))
    (taken : Taken (Billing Org) (Event Org)) (org : Org) (deed : Deed)
    (performs : taken.action.action.deedOn org = some deed) (fresh : ¬ taken.before.pastDue org)
    (begun : taken.after.pastDue org) :
    PastDueSince (trace ++ [taken]) org (deed.writtenAt taken.action.now) := by
  refine ⟨trace, taken, [], rfl, ⟨deed, performs, rfl⟩, fresh, ?_⟩
  intro step member
  obtain rfl := List.mem_singleton.mp member
  exact begun

/-- Every stamp is set while PAST_DUE and tells when that began. -/
def Honest (trace : List (Taken (Billing Org) (Event Org))) (billing : Billing Org) : Prop :=
  ∀ org account, billing.account org = some account →
    Stamped account ∧
    ∀ instant, account.subscription.pastDueAt = some instant → PastDueSince trace org instant

theorem honest_step (settings : Settings) (trace : List (Taken (Billing Org) (Event Org)))
    (billing next : Billing Org) (event : Event Org) (honest : Honest trace billing)
    (meets : event.Meets KeepsGrace billing) (stepped : step settings billing event = some next) :
    Honest (trace ++ [⟨billing, event, next⟩]) next := by
  intro org after left
  rcases step_account settings billing next event stepped org with same | worked | created
  · -- Untouched: an episode under way goes on.
    obtain ⟨stamped, since⟩ := honest org after (same.symm.trans left)
    refine ⟨stamped, fun instant stamp => pastDueSince_goes_on _ _ org instant (since instant stamp) ?_⟩
    exact ⟨after, left, stamped.mp (by simp [stamp])⟩
  · obtain ⟨before, deed, result, found, performs, due, effect, kept⟩ := worked
    obtain rfl : result = after := Option.some.inj (kept.symm.trans left)
    obtain ⟨stamped, since⟩ := honest org before found
    have allowed := meets org before deed found performs due
    rcases effect_stamp event.now _ before result deed stamped allowed effect with
      ⟨cleared, status⟩ | ⟨stamp, status⟩ | ⟨status, stamp⟩
    · constructor
      · simp [Stamped, cleared, status]
      · intro instant stamped'
        rw [cleared] at stamped'
        cases stamped'
    · have stamped' : Stamped result := by
        unfold Stamped at stamped ⊢
        rw [stamp, status]
        exact stamped
      refine ⟨stamped', fun instant stampedAt => pastDueSince_goes_on _ _ org instant ?_ ?_⟩
      · exact since instant (stamp.symm.trans stampedAt)
      · exact ⟨result, left, stamped'.mp (by simp [stampedAt])⟩
    · refine ⟨by simp [Stamped, stamp, status], ?_⟩
      intro instant stampedAt
      cases earlier : before.subscription.pastDueAt with
      | some first =>
          rw [stamp, earlier] at stampedAt
          obtain rfl : first = instant := Option.some.inj stampedAt
          exact pastDueSince_goes_on _ _ org first (since first earlier) ⟨result, left, status⟩
      | none =>
          rw [stamp, earlier] at stampedAt
          obtain rfl : deed.writtenAt event.now = instant := Option.some.inj stampedAt
          refine pastDueSince_begins trace ⟨billing, event, next⟩ org deed performs ?_
            ⟨result, left, status⟩
          rintro ⟨other, stored, overdue⟩
          obtain rfl : other = before := Option.some.inj (stored.symm.trans found)
          have stampSet := stamped.mpr overdue
          rw [earlier] at stampSet
          cases stampSet
  · obtain ⟨plan, account, -, made, kept⟩ := created
    obtain rfl : account = after := Option.some.inj (kept.symm.trans left)
    obtain ⟨found, periodEnd, -, ⟨-, rfl⟩ | ⟨-, rfl⟩⟩ := createSubscription_ok _ _ _ _ made
    · exact ⟨by simp [Stamped, newAccount], fun instant stamp => by cases stamp⟩
    · exact ⟨by simp [Stamped, newAccount], fun instant stamp => by cases stamp⟩

theorem effect_expires (now : Moment) (gracePeriodDays : Nat) (before after : Account) (deed : Deed)
    (effect : Effect now gracePeriodDays before deed after)
    (usable : before.license.status ≠ .expired) (gone : after.license.status = .expired) :
    graceOver now gracePeriodDays before.subscription = true := by
  cases effect with
  | expired weather calm finished => exact finished
  | halfExpired weather struck finished => exact finished
  | reactivated periodEnd license idle unexpired added restored =>
      subst restored
      by_cases suspended : before.license.status = .suspended
      · simp [suspended, License.activated] at gone
      · simp only [suspended, ↓reduceIte] at gone
        exact absurd gone usable
  | cancelled => cases gone
  | finalized => cases gone
  | lapsed => cases gone
  | licenseActivated => cases gone
  | scheduled => exact absurd gone usable
  | paused => exact absurd gone usable
  | resumed => exact absurd gone usable
  | resumedAfresh => exact absurd gone usable
  | settings => exact absurd gone usable
  | halfFinalized => exact absurd gone usable
  | renewed => exact absurd gone usable
  | unpaid => exact absurd gone usable
  | confirmed => exact absurd gone usable
  | refused => exact absurd gone usable
  | halfLapsed => exact absurd gone usable

theorem graceOver_deadline (now : Moment) (gracePeriodDays : Nat) (subscription : Subscription)
    (finished : graceOver now gracePeriodDays subscription = true) :
    ∃ instant deadline, subscription.pastDueAt = some instant ∧
      addDays instant gracePeriodDays = some deadline ∧ deadline ≤ now := by
  unfold graceOver at finished
  cases stamp : subscription.pastDueAt with
  | none => simp [stamp] at finished
  | some instant =>
      cases added : addDays instant gracePeriodDays with
      | none => simp [stamp, added] at finished
      | some deadline => exact ⟨instant, deadline, rfl, added, by simpa [stamp, added] using finished⟩

theorem grace_step (settings : Settings) (trace : List (Taken (Billing Org) (Event Org)))
    (billing next : Billing Org) (event : Event Org) (honest : Honest trace billing)
    (stepped : step settings billing event = some next) :
    GraceHonoured settings trace ⟨billing, event, next⟩ := by
  intro org before after found left usable gone
  rcases step_account settings billing next event stepped org with same | worked | created
  · obtain rfl : after = before := Option.some.inj (left.symm.trans (same.trans found))
    exact absurd gone usable
  · obtain ⟨account, deed, result, stored, -, -, effect, kept⟩ := worked
    obtain rfl : account = before := Option.some.inj (stored.symm.trans found)
    obtain rfl : result = after := Option.some.inj (kept.symm.trans left)
    obtain ⟨instant, deadline, stamp, added, passed⟩ := graceOver_deadline _ _ _
      (effect_expires event.now _ account result deed effect usable gone)
    exact ⟨instant, deadline, (honest org account found).2 instant stamp, added, passed⟩
  · obtain ⟨plan, account, absent, -, -⟩ := created
    exact absurd (absent.symm.trans found) (by simp)

theorem history_honest (settings : Settings) (clock : Moment)
    (trace : List (Taken (Billing Org) (Event Org))) (billing : Billing Org)
    (history : History settings KeepsGrace clock trace billing) :
    Honest trace billing ∧ ∀ earlier taken later, trace = earlier ++ taken :: later →
      GraceHonoured settings earlier taken := by
  induction history with
  | start =>
      constructor
      · intro org account found
        cases found
      · intro earlier taken later split
        simp at split
  | @next trace state next event _ meets stepped ih =>
      obtain ⟨honest, honoured⟩ := ih
      refine ⟨honest_step settings trace state next event honest meets stepped, ?_⟩
      intro earlier taken later split
      rcases List.eq_nil_or_concat later with rfl | ⟨front, last, rfl⟩
      · obtain ⟨rfl, same⟩ := List.append_inj' split rfl
        obtain rfl : (⟨state, event, next⟩ : Taken _ _) = taken := List.singleton_inj.mp same
        exact grace_step settings trace state next event honest stepped
      · refine honoured earlier taken front ?_
        have shape : trace ++ [⟨state, event, next⟩] = (earlier ++ taken :: front) ++ [last] := by
          simpa using split
        exact (List.append_inj' shape rfl).1

/-- In every run in which no PAST_DUE subscription is reactivated or resumed, `past_due_at` is set
exactly while PAST_DUE, and a license expires only when its subscription has been PAST_DUE
for at least the grace period without a break. -/
theorem grace_period_honoured (settings : Settings) (clock : Moment)
    (trace : List (Taken (Billing Org) (Event Org))) (billing : Billing Org)
    (history : History settings KeepsGrace clock trace billing) :
    (∀ org account, billing.account org = some account → Stamped account) ∧
      ∀ earlier taken later, trace = earlier ++ taken :: later →
        GraceHonoured settings earlier taken := by
  obtain ⟨honest, honoured⟩ := history_honest settings clock trace billing history
  exact ⟨fun org account found => (honest org account found).1, honoured⟩

def declined (now : Moment) : Renewal := ⟨some starterPlan, fun _ => .failure, now, {}⟩

/-- The charge of day 31 is declined and the license expires a week later. -/
theorem grace_period_honoured_after_decline :
    ∃ (trace : List (Taken (Billing Unit) (Event Unit))) (before after : Billing Unit)
      (event : Event Unit),
      History defaultSettings KeepsGrace (day 0) (trace ++ [⟨before, event, after⟩]) after ∧
      (after.account ()).map (fun account => account.license.status) = some .expired ∧
      (∀ org account, after.account org = some account → Stamped account) ∧
      GraceHonoured defaultSettings trace ⟨before, event, after⟩ := by
  obtain ⟨trace, before, after, history, seen⟩ := executed_step defaultSettings KeepsGrace (day 0)
    [⟨day 0, .createSubscription () (some starterPlan)⟩,
      ⟨day 31, .processDueRenewals [()] fun _ => declined (day 31)⟩]
    ⟨day 38, .expireLapsedSubscriptions [()] fun _ => {}⟩
    (fun _ after => (after.account ()).map (fun account => account.license.status) = some .expired)
    (by decide +kernel)
  obtain ⟨stamped, honoured⟩ := grace_period_honoured _ _ _ _ history
  exact ⟨trace, before, after, _, history, by simpa using seen, stamped, honoured _ _ [] rfl⟩

/-- The charge of day 31 is declined, the subscription is reactivated the same day, and its
stamp stays behind. -/
theorem reactivation_keeps_stamp :
    ∃ (trace : List (Taken (Billing Unit) (Event Unit))) (before after : Billing Unit)
      (event : Event Unit) (account : Account),
      History defaultSettings (fun _ _ _ => True) (day 0) (trace ++ [⟨before, event, after⟩])
        after ∧
      after.account () = some account ∧ account.subscription.status = .active ∧
      ¬ Stamped account := by
  obtain ⟨trace, before, after, history, seen⟩ := executed_step defaultSettings
    (fun _ _ _ => True) (day 0)
    [⟨day 0, .createSubscription () (some starterPlan)⟩,
      ⟨day 31, .processDueRenewals [()] fun _ => declined (day 31)⟩]
    ⟨day 31, .request () none .reactivate⟩
    (fun _ after => (after.account ()).any fun account =>
      account.subscription.status = .active && account.subscription.pastDueAt.isSome)
    (by decide +kernel)
  obtain ⟨account, found, shown⟩ := (Option.any_eq_true _ _).mp seen
  simp only [Bool.and_eq_true, decide_eq_true_eq] at shown
  refine ⟨trace, before, after, _, account, history, found, shown.1, ?_⟩
  intro stamped
  have overdue := stamped.mp shown.2
  rw [shown.1] at overdue
  cases overdue

end CloudGuest.Subscriptions
