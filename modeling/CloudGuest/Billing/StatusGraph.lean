import CloudGuest.Billing.SubscriptionRuns

/-!
Which operations follow `_SUBSCRIPTION_TRANSITIONS`. The requests of
`SubscriptionService` assert the graph and the sweep's queries imply it; the
webhook confirmations do neither, and only `reactivate_subscription` asks for
the license. So a failure event takes a paused or cancelled subscription to
PAST_DUE, and a resume, a success event or a paid renewal takes one whose
license has expired to ACTIVE. Runs without these follow the graph.
-/

namespace CloudGuest.Subscriptions
open Calendar Runs

universe u
variable {Org : Type u} [DecidableEq Org]

/-- A change of status is an edge of the graph, and an expired license keeps its
subscription from becoming ACTIVE. -/
def Respects (before after : Account) : Prop :=
  (after.subscription.status = before.subscription.status ∨
    after.subscription.status ∈ subscriptionTransitions before.subscription.status) ∧
  (before.license.status = .expired → before.subscription.status ≠ .active →
    after.subscription.status ≠ .active)

def GraphRespected (taken : Taken (Billing Org) (Event Org)) : Prop :=
  ∀ org before after, taken.before.account org = some before →
    taken.after.account org = some after → Respects before after

def Renewal.paid (renewal : Renewal) : Bool :=
  renewal.plan.any fun plan => renewal.charge (computeRenewalChargeAmount plan) = .success

def MayBecomeActive (account : Account) : Prop :=
  account.license.status = .expired → account.subscription.status = .active

instance (account : Account) : Decidable (MayBecomeActive account) := by
  unfold MayBecomeActive
  infer_instance

def KeepsGraph (now : Moment) (account : Account) : Deed → Prop
  | .request .confirmFailed => account.subscription.status ∈ renewableSubscriptionStatuses
  | .request .resume => MayBecomeActive account
  | .request (.confirmSucceeded _) => MayBecomeActive account
  | .request (.processRenewal renewal) =>
      MayBecomeActive account ∨ account.subscription.endsNow now = true ∨ renewal.paid = false
  | .item (.renew renewal) =>
      MayBecomeActive account ∨ account.subscription.endsNow now = true ∨ renewal.paid = false
  | _ => True

instance (now : Moment) (account : Account) :
    (deed : Deed) → Decidable (KeepsGraph now account deed)
  | .request .confirmFailed =>
      inferInstanceAs (Decidable (account.subscription.status ∈ renewableSubscriptionStatuses))
  | .request .resume => inferInstanceAs (Decidable (MayBecomeActive account))
  | .request (.confirmSucceeded _) => inferInstanceAs (Decidable (MayBecomeActive account))
  | .request (.processRenewal renewal) =>
      inferInstanceAs (Decidable (MayBecomeActive account ∨
        account.subscription.endsNow now = true ∨ renewal.paid = false))
  | .item (.renew renewal) =>
      inferInstanceAs (Decidable (MayBecomeActive account ∨
        account.subscription.endsNow now = true ∨ renewal.paid = false))
  | .request (.cancel _) => isTrue trivial
  | .request .reactivate => isTrue trivial
  | .request .pause => isTrue trivial
  | .request (.updateRenewalSettings _) => isTrue trivial
  | .request .capturedWithoutSubscription => isTrue trivial
  | .item (.lapse _) => isTrue trivial
  | .item (.expire _) => isTrue trivial

theorem unpaid_edge (status : SubscriptionStatus)
    (renewable : status ∈ renewableSubscriptionStatuses) :
    SubscriptionStatus.pastDue = status ∨ SubscriptionStatus.pastDue ∈ subscriptionTransitions status := by
  cases status <;> revert renewable <;> decide

theorem active_edge (status : SubscriptionStatus) :
    SubscriptionStatus.active = status ∨ SubscriptionStatus.active ∈ subscriptionTransitions status := by
  cases status <;> decide

theorem cancelled_edge (status : SubscriptionStatus) :
    SubscriptionStatus.cancelled = status ∨
      SubscriptionStatus.cancelled ∈ subscriptionTransitions status := by
  cases status <;> decide

theorem respects_cancelled (before after : Account)
    (ended : after.subscription.status = .cancelled) : Respects before after := by
  constructor
  · rw [ended]
    exact cancelled_edge _
  · intro _ _
    simp [ended]

theorem respects_active (before after : Account) (running : after.subscription.status = .active)
    (may : MayBecomeActive before) : Respects before after := by
  constructor
  · rw [running]
    exact active_edge _
  · intro expired inactive
    exact absurd (may expired) inactive

theorem respects_unpaid (before after : Account) (unpaid : after.subscription.status = .pastDue)
    (renewable : before.subscription.status ∈ renewableSubscriptionStatuses) :
    Respects before after := by
  constructor
  · rw [unpaid]
    exact unpaid_edge _ renewable
  · intro _ _
    simp [unpaid]

theorem respects_same (before after : Account)
    (same : after.subscription.status = before.subscription.status) : Respects before after := by
  constructor
  · exact .inl same
  · intro _ inactive
    rw [same]
    exact inactive

theorem keepsGraph_renewed (now : Moment) (account : Account) (deed : Deed) (renewal : Renewal)
    (plan : Plan) (asked : deed.renews renewal) (allowed : KeepsGraph now account deed)
    (goesOn : account.subscription.endsNow now = false) (found : renewal.plan = some plan)
    (charged : renewal.charge (computeRenewalChargeAmount plan) = .success) :
    MayBecomeActive account := by
  have kept : MayBecomeActive account ∨ account.subscription.endsNow now = true ∨
      renewal.paid = false := by
    rcases asked with rfl | rfl
    · exact allowed
    · exact allowed
  rcases kept with may | ends | unpaid
  · exact may
  · rw [goesOn] at ends
    cases ends
  · simp [Renewal.paid, found, charged] at unpaid

theorem effect_respects (now : Moment) (gracePeriodDays : Nat) (before after : Account)
    (deed : Deed) (allowed : KeepsGraph now before deed)
    (effect : Effect now gracePeriodDays before deed after) : Respects before after := by
  cases effect with
  | cancelled => exact respects_cancelled _ _ rfl
  | scheduled => exact respects_same _ _ rfl
  | reactivated periodEnd license idle unexpired =>
      exact respects_active _ _ rfl fun expired => absurd expired unexpired
  | paused running =>
      constructor
      · exact .inr ((transition_paused _).mpr running)
      · intro _ _ active
        cases active
  | resumed => exact respects_active _ _ rfl allowed
  | resumedAfresh => exact respects_active _ _ rfl allowed
  | settings => exact respects_same _ _ rfl
  | finalized => exact respects_cancelled _ _ rfl
  | halfFinalized => exact respects_cancelled _ _ rfl
  | renewed _ renewal plan periodEnd asked renewable goesOn found charged =>
      exact respects_active _ _ rfl
        (keepsGraph_renewed now before deed renewal plan asked allowed goesOn found charged)
  | unpaid _ renewal plan asked renewable => exact respects_unpaid _ _ rfl renewable
  | confirmed => exact respects_active _ _ rfl allowed
  | refused => exact respects_unpaid _ _ rfl allowed
  | licenseActivated => exact respects_same _ _ rfl
  | lapsed => exact respects_cancelled _ _ rfl
  | halfLapsed => exact respects_cancelled _ _ rfl
  | expired => exact respects_cancelled _ _ rfl
  | halfExpired => exact respects_same _ _ rfl

theorem step_respects (settings : Settings) (billing next : Billing Org) (event : Event Org)
    (meets : event.Meets KeepsGraph billing) (stepped : step settings billing event = some next) :
    GraphRespected ⟨billing, event, next⟩ := by
  intro org before after found left
  rcases step_account settings billing next event stepped org with same | worked | created
  · obtain rfl : after = before := Option.some.inj (left.symm.trans (same.trans found))
    exact respects_same _ _ rfl
  · obtain ⟨account, deed, result, stored, performs, due, effect, kept⟩ := worked
    obtain rfl : account = before := Option.some.inj (stored.symm.trans found)
    obtain rfl : result = after := Option.some.inj (kept.symm.trans left)
    exact effect_respects event.now _ _ _ deed (meets org account deed stored performs due) effect
  · obtain ⟨plan, account, absent, -, -⟩ := created
    exact absurd (absent.symm.trans found) (by simp)

/-- In every run whose operations meet the condition, every change of a status follows
the graph and no expired license gets its subscription back. -/
theorem status_graph_respected (settings : Settings) (clock : Moment)
    (trace : List (Taken (Billing Org) (Event Org))) (billing : Billing Org)
    (history : History settings KeepsGraph clock trace billing) :
    ∀ taken ∈ trace, GraphRespected taken :=
  history.always GraphRespected fun billing event next _ meets stepped =>
    step_respects settings billing next event meets stepped

def Billing.statusAlone (billing : Billing Unit) : Option SubscriptionStatus :=
  (billing.account ()).map fun account => account.subscription.status

/-- A subscription is created, cancelled at once and reactivated a day later. -/
theorem status_graph_respected_reactivation :
    ∃ (trace : List (Taken (Billing Unit) (Event Unit))) (before after : Billing Unit)
      (event : Event Unit),
      History defaultSettings KeepsGraph (day 0) (trace ++ [⟨before, event, after⟩]) after ∧
      before.statusAlone = some .cancelled ∧ after.statusAlone = some .active ∧
      ∀ taken ∈ trace ++ [⟨before, event, after⟩], GraphRespected taken := by
  obtain ⟨trace, before, after, history, seen⟩ := executed_step defaultSettings KeepsGraph (day 0)
    [⟨day 0, .createSubscription () (some starterPlan)⟩, ⟨day 0, .request () none (.cancel true)⟩]
    ⟨day 1, .request () (some ()) .reactivate⟩
    (fun before after => before.statusAlone = some .cancelled && after.statusAlone = some .active)
    (by decide +kernel)
  simp only [Bool.and_eq_true, decide_eq_true_eq] at seen
  exact ⟨trace, before, after, _, history, seen.1, seen.2,
    status_graph_respected _ _ _ _ history⟩

/-- A failure event for a payment of a cancelled subscription arrives: CANCELLED becomes PAST_DUE. -/
theorem failure_event_leaves_graph :
    ∃ (trace : List (Taken (Billing Unit) (Event Unit))) (before after : Billing Unit)
      (event : Event Unit),
      History defaultSettings (fun _ _ _ => True) (day 0) (trace ++ [⟨before, event, after⟩])
        after ∧
      before.statusAlone = some .cancelled ∧ after.statusAlone = some .pastDue ∧
      ¬ GraphRespected ⟨before, event, after⟩ := by
  obtain ⟨trace, before, after, history, seen⟩ := executed_step defaultSettings
    (fun _ _ _ => True) (day 0)
    [⟨day 0, .createSubscription () (some starterPlan)⟩, ⟨day 0, .request () none (.cancel true)⟩]
    ⟨day 1, .request () none .confirmFailed⟩
    (fun before after => before.statusAlone = some .cancelled && after.statusAlone = some .pastDue)
    (by decide +kernel)
  simp only [Bool.and_eq_true, decide_eq_true_eq] at seen
  refine ⟨trace, before, after, _, history, seen.1, seen.2, ?_⟩
  intro respected
  obtain ⟨cancelled, found, status⟩ := Option.map_eq_some_iff.mp seen.1
  obtain ⟨unpaid, left, overdue⟩ := Option.map_eq_some_iff.mp seen.2
  have edge := (respected () cancelled unpaid found left).1
  rw [status, overdue] at edge
  simp [subscriptionTransitions] at edge

end CloudGuest.Subscriptions
