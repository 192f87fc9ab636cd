import CloudGuest.Billing.SubscriptionRuns

/-!
Whether an account's two rows agree: a live subscription has an ACTIVE license
and a cancelled one a SUSPENDED or EXPIRED license. `reactivate_subscription`
restores the license of a cancelled subscription; `resume_subscription` and the
webhook confirmations move such a subscription and leave its license, and a
captured payment that belongs to no subscription restores the license and
leaves the subscription. A sweep item that raises between its two writes keeps
the first. Every run without these keeps all rows in agreement.
-/

namespace CloudGuest.Subscriptions
open Calendar Runs

universe u
variable {Org : Type u} [DecidableEq Org]

def Agree (account : Account) : Prop :=
  (account.subscription.status ≠ .cancelled → account.license.status = .active) ∧
    (account.subscription.status = .cancelled →
      account.license.status = .suspended ∨ account.license.status = .expired)

def KeepsAgreement (now : Moment) (account : Account) : Deed → Prop
  | .request .resume => account.subscription.status ≠ .cancelled
  | .request (.confirmSucceeded _) => account.subscription.status ≠ .cancelled
  | .request .confirmFailed => account.subscription.status ≠ .cancelled
  | .request .capturedWithoutSubscription =>
      account.subscription.status = .cancelled → account.license.status ≠ .suspended
  | .item (.renew renewal) =>
      account.subscription.endsNow now = true → renewal.weather.between = false
  | .item (.lapse weather) => weather.between = false
  | .item (.expire weather) => weather.between = false
  | _ => True

instance (now : Moment) (account : Account) :
    (deed : Deed) → Decidable (KeepsAgreement now account deed)
  | .request .resume => inferInstanceAs (Decidable (account.subscription.status ≠ .cancelled))
  | .request (.confirmSucceeded _) =>
      inferInstanceAs (Decidable (account.subscription.status ≠ .cancelled))
  | .request .confirmFailed =>
      inferInstanceAs (Decidable (account.subscription.status ≠ .cancelled))
  | .request .capturedWithoutSubscription =>
      inferInstanceAs (Decidable (account.subscription.status = .cancelled →
        account.license.status ≠ .suspended))
  | .item (.renew renewal) =>
      inferInstanceAs (Decidable (account.subscription.endsNow now = true →
        renewal.weather.between = false))
  | .item (.lapse weather) => inferInstanceAs (Decidable (weather.between = false))
  | .item (.expire weather) => inferInstanceAs (Decidable (weather.between = false))
  | .request (.cancel _) => isTrue trivial
  | .request .reactivate => isTrue trivial
  | .request .pause => isTrue trivial
  | .request (.updateRenewalSettings _) => isTrue trivial
  | .request (.processRenewal _) => isTrue trivial

theorem agree_live (account : Account) (live : account.subscription.status ≠ .cancelled)
    (licensed : account.license.status = .active) : Agree account :=
  ⟨fun _ => licensed, fun ended => absurd ended live⟩

theorem agree_ended (account : Account) (ended : account.subscription.status = .cancelled)
    (withdrawn : account.license.status = .suspended ∨ account.license.status = .expired) :
    Agree account :=
  ⟨fun live => absurd ended live, fun _ => withdrawn⟩

theorem agree_same (before after : Account) (agree : Agree before)
    (status : after.subscription.status = before.subscription.status)
    (license : after.license.status = before.license.status) : Agree after := by
  unfold Agree
  rw [status, license]
  exact agree

theorem agree_renewable (account : Account) (agree : Agree account)
    (renewable : account.subscription.status ∈ renewableSubscriptionStatuses) :
    account.license.status = .active := by
  refine agree.1 ?_
  intro ended
  rw [ended] at renewable
  simp [renewableSubscriptionStatuses] at renewable

theorem lapsed_live (now : Moment) (account : Account)
    (due : lapsedNonRenewing now account = true) : account.subscription.status ≠ .cancelled := by
  intro ended
  simp [lapsedNonRenewing, ended] at due

theorem effect_agree (now : Moment) (gracePeriodDays : Nat) (before after : Account) (deed : Deed)
    (agree : Agree before) (due : deed.due now before = true)
    (allowed : KeepsAgreement now before deed)
    (effect : Effect now gracePeriodDays before deed after) : Agree after := by
  cases effect with
  | cancelled => exact agree_ended _ rfl (.inl rfl)
  | scheduled => exact agree_same before _ agree rfl rfl
  | reactivated periodEnd license idle unexpired added restored =>
      subst restored
      refine agree_live _ (by simp [Subscription.reactivated]) ?_
      by_cases ended : before.subscription.status = .cancelled
      · rcases agree.2 ended with suspended | expired
        · simp [suspended, License.activated]
        · exact absurd expired unexpired
      · simp [agree.1 ended]
  | paused running =>
      refine agree_live _ (by simp) (agree.1 ?_)
      simp [running]
  | resumed => exact agree_live _ (by simp) (agree.1 allowed)
  | resumedAfresh => exact agree_live _ (by simp) (agree.1 allowed)
  | settings => exact agree_same before _ agree rfl rfl
  | finalized => exact agree_ended _ rfl (.inl rfl)
  | halfFinalized renewal renewable ends struck =>
      have licensed := agree_renewable before agree renewable
      rcases struck with struck | unlicensed
      · rw [allowed ends] at struck
        cases struck
      · exact absurd licensed unlicensed
  | renewed _ renewal plan periodEnd asked renewable =>
      exact agree_live _ (by simp [Subscription.renewed]) (agree_renewable before agree renewable)
  | unpaid _ renewal plan asked renewable =>
      exact agree_live _ (by simp [Subscription.unpaid]) (agree_renewable before agree renewable)
  | confirmed => exact agree_live _ (by simp [Subscription.renewed]) (agree.1 allowed)
  | refused => exact agree_live _ (by simp [Subscription.unpaid]) (agree.1 allowed)
  | licenseActivated idle =>
      refine agree_live _ ?_ rfl
      intro ended
      rcases agree.2 ended with suspended | expired
      · exact allowed ended suspended
      · simp [expired] at idle
  | lapsed => exact agree_ended _ rfl (.inl rfl)
  | halfLapsed weather struck =>
      have licensed := agree.1 (lapsed_live now before due)
      rcases struck with struck | unlicensed
      · rw [show weather.between = false from allowed] at struck
        cases struck
      · exact absurd licensed unlicensed
  | expired => exact agree_ended _ rfl (.inr rfl)
  | halfExpired weather struck =>
      rw [show weather.between = false from allowed] at struck
      cases struck

theorem created_agree (now : Moment) (trialPeriodDays : Nat) (plan : Option Plan)
    (account : Account) (made : createSubscription now trialPeriodDays plan = .ok account) :
    Agree account := by
  obtain ⟨found, periodEnd, -, ⟨-, rfl⟩ | ⟨-, rfl⟩⟩ := createSubscription_ok _ _ _ _ made
  · exact agree_live _ (by simp [newAccount]) rfl
  · exact agree_live _ (by simp [newAccount]) rfl

/-- In every state of a run whose operations meet the condition, subscription and license agree. -/
theorem license_agrees (settings : Settings) (clock : Moment) (billing : Billing Org)
    (run : Run settings KeepsAgreement clock billing) :
    ∀ org account, billing.account org = some account → Agree account := by
  intro org account found
  refine accounts_invariant settings KeepsAgreement Agree ?_ ?_ clock billing run org account found
  · intro now plan account made
    exact created_agree now _ plan account made
  · intro now account deed after agree due allowed effect
    exact effect_agree now _ account after deed agree due allowed effect

/-- Auto-renewal is switched off and the subscription lapses at the end of its month. -/
theorem license_agrees_after_lapse :
    ∃ billing : Billing Unit, Run defaultSettings KeepsAgreement (day 0) billing ∧
      (billing.account ()).map (fun account => account.subscription.status) = some .cancelled ∧
      ∀ org account, billing.account org = some account → Agree account := by
  obtain ⟨trace, before, after, history, seen⟩ := executed_step defaultSettings KeepsAgreement (day 0)
    [⟨day 0, .createSubscription () (some starterPlan)⟩,
      ⟨day 5, .request () (some ()) (.updateRenewalSettings false)⟩]
    ⟨day 31, .lapseNonRenewingSubscriptions [()] fun _ => {}⟩
    (fun _ after =>
      (after.account ()).map (fun account => account.subscription.status) = some .cancelled)
    (by decide +kernel)
  exact ⟨after, history.reached, by simpa using seen,
    license_agrees _ _ _ history.reached⟩

/-- A cancelled subscription is resumed: it is ACTIVE again and its license still SUSPENDED. -/
theorem resume_leaves_license :
    ∃ (billing : Billing Unit) (account : Account),
      Run defaultSettings (fun _ _ _ => True) (day 0) billing ∧
      billing.account () = some account ∧ account.subscription.status = .active ∧
      account.license.status = .suspended ∧ ¬ Agree account := by
  obtain ⟨trace, before, after, history, seen⟩ := executed_step defaultSettings
    (fun _ _ _ => True) (day 0)
    [⟨day 0, .createSubscription () (some starterPlan)⟩, ⟨day 1, .request () none (.cancel true)⟩]
    ⟨day 2, .request () (some ()) .resume⟩
    (fun _ after => (after.account ()).any fun account =>
      account.subscription.status = .active && account.license.status = .suspended)
    (by decide +kernel)
  obtain ⟨account, found, shown⟩ := (Option.any_eq_true _ _).mp seen
  simp only [Bool.and_eq_true, decide_eq_true_eq] at shown
  refine ⟨after, account, history.reached, found, shown.1, shown.2, ?_⟩
  intro agree
  have licensed := agree.1 (by simp [shown.1])
  rw [shown.2] at licensed
  cases licensed

end CloudGuest.Subscriptions
