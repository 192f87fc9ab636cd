import CloudGuest.Billing.SubscriptionRuns

/-!
`run_renewal_sweep`: the renewal, lapse and expiry phases one after the other,
each over its own query. The queries look at cyclic billing cycles only, by
design, so a trial on a cycle-less plan is never swept; and a PAST_DUE
subscription is retried by the first phase and, if its grace period is over,
ended by the last. For cyclic subscriptions a sweep in which no item raised
leaves none running past its period, and each period that is over is handled
by exactly one of the first two phases.
-/

namespace CloudGuest.Subscriptions
open Calendar Sessions Runs

universe u
variable {Org : Type u} [DecidableEq Org]

/-- What one sweep meets: the answers to its three queries, what its items meet,
and a clock that does not go back while it runs. -/
structure Sweep (Org : Type u) where
  now : Moment
  due : List Org
  lapsed : List Org
  overdue : List Org
  renewals : Org → Renewal
  lapseWeather : Org → Weather
  expireWeather : Org → Weather
  onward : ∀ org, now ≤ (renewals org).written

structure SweepResult (Org : Type u) where
  renewed : Accounts Org
  lapsed : Accounts Org
  expired : Accounts Org

def runRenewalSweep (settings : Settings) (sweep : Sweep Org) (accounts : Accounts Org) :
    Option (SweepResult Org) := do
  let renewed ← stepAction settings sweep.now accounts
    (.processDueRenewals sweep.due sweep.renewals)
  let lapsed ← stepAction settings sweep.now renewed
    (.lapseNonRenewingSubscriptions sweep.lapsed sweep.lapseWeather)
  let expired ← stepAction settings sweep.now lapsed
    (.expireLapsedSubscriptions sweep.overdue sweep.expireWeather)
  pure ⟨renewed, lapsed, expired⟩

structure Undisturbed (settings : Settings) (sweep : Sweep Org) (accounts : Accounts Org)
    (result : SweepResult Org) : Prop where
  renewals : ∀ org ∈ sweep.due, ∀ account, accountOf accounts org = some account →
    raised (processRenewal sweep.now (sweep.renewals org)) account = false
  lapses : ∀ org ∈ sweep.lapsed, ∀ account, accountOf result.renewed org = some account →
    raised (lapseItem sweep.now (sweep.lapseWeather org)) account = false ∧
      lapseStops sweep.now (sweep.lapseWeather org) account = false
  expiries : ∀ org ∈ sweep.overdue, ∀ account, accountOf result.lapsed org = some account →
    raised (expireItem sweep.now settings.gracePeriodDays (sweep.expireWeather org)) account =
        false ∧
      expireStops sweep.now settings.gracePeriodDays (sweep.expireWeather org) account = false

def Overrun (now : Moment) (account : Account) : Prop :=
  account.subscription.billingCycle ∈ cyclicBillingCycles ∧
    account.subscription.status ∈ [SubscriptionStatus.active, .trialing] ∧
    account.subscription.currentPeriodEnd ≤ now

/-! ### One item that did not raise -/

theorem renewal_returned (now : Moment) (gracePeriodDays : Nat) (account : Account)
    (renewal : Renewal) (returned : raised (processRenewal now renewal) account = false) :
    Effect now gracePeriodDays account (.request (.processRenewal renewal))
      (left (processRenewal now renewal) account) := by
  by_cases early : renewal.weather.early = true
  · simp [raised, processRenewal, early] at returned
  by_cases renewable : account.subscription.status ∈ renewableSubscriptionStatuses
  · have effect := finalizeOrCharge_effect now gracePeriodDays account renewal renewable
    cases ran : (finalizeOrCharge now renewal).run account with
    | error fault after => simp [raised, processRenewal, early, renewable, ran] at returned
    | ok value after =>
        rw [ran] at effect
        have kept : left (processRenewal now renewal) account = after := by
          cases late : renewal.weather.late <;>
            simp [left, processRenewal, early, renewable, ran, late]
        rw [kept]
        exact effect _ (.inl rfl)
  · simp [raised, processRenewal, early, renewable] at returned

def Renewed (now : Moment) (before after : Account) : Prop :=
  (before.subscription.endsNow now = true ∧ after.subscription.status = .cancelled) ∨
    (after.subscription.status = .active ∧ after.subscription.autoRenew = before.subscription.autoRenew ∧
      now < after.subscription.currentPeriodEnd) ∨
    after.subscription.status = .pastDue

theorem renewal_outcome (now : Moment) (account : Account) (renewal : Renewal)
    (onward : now ≤ renewal.written)
    (cyclic : account.subscription.billingCycle ∈ cyclicBillingCycles)
    (returned : raised (processRenewal now renewal) account = false) :
    Renewed now account (left (processRenewal now renewal) account) := by
  have effect := renewal_returned now 0 account renewal returned
  generalize left (processRenewal now renewal) account = after at effect
  generalize asked : Deed.request (.processRenewal renewal) = deed at effect
  cases effect with
  | finalized _ _ _ _ ends => exact .inl ⟨ends, rfl⟩
  | renewed _ other plan periodEnd renews _ _ _ _ added =>
      obtain rfl : renewal = other := by
        rcases renews with same | same
        · rw [← asked] at same
          cases same
          rfl
        · rw [← asked] at same
          cases same
      exact .inr (.inl ⟨rfl, rfl, lt_of_le_of_lt onward (addBillingCycle_lt _ _ _ cyclic added)⟩)
  | unpaid => exact .inr (.inr rfl)
  | _ => cases asked

theorem lapse_outcome (now : Moment) (account : Account) (weather : Weather)
    (returned : raised (lapseItem now weather) account = false) :
    (left (lapseItem now weather) account).subscription.status = .cancelled ∧
      (left (lapseItem now weather) account).license.status = .suspended := by
  by_cases early : weather.early = true
  · simp [raised, lapseItem, early] at returned
  by_cases struck : weather.between = true
  · simp [raised, lapseItem, early, struck] at returned
  by_cases licensed : account.license.status = .active
  · simp [left, lapseItem, early, struck, run_suspendLicense, licensed, License.suspended]
  · simp [raised, lapseItem, early, struck, run_suspendLicense, licensed] at returned

theorem expire_outcome (now : Moment) (gracePeriodDays : Nat) (account : Account)
    (weather : Weather)
    (returned : raised (expireItem now gracePeriodDays weather) account = false) :
    if graceOver now gracePeriodDays account.subscription = true then
      (left (expireItem now gracePeriodDays weather) account).subscription.status = .cancelled ∧
        (left (expireItem now gracePeriodDays weather) account).license.status = .expired
    else left (expireItem now gracePeriodDays weather) account = account := by
  by_cases finished : graceOver now gracePeriodDays account.subscription = true
  · rw [if_pos finished]
    by_cases early : weather.early = true
    · simp [raised, expireItem, finished, early] at returned
    by_cases usable : account.license.status = .active ∨ account.license.status = .suspended
    · by_cases struck : weather.between = true
      · simp [raised, expireItem, finished, early, run_expireLicense, usable, struck] at returned
      · simp [left, expireItem, finished, early, run_expireLicense, usable, struck]
    · simp [raised, expireItem, finished, early, run_expireLicense, usable] at returned
  · rw [if_neg finished]
    simp [left, expireItem, finished]

/-! ### The phases on one account -/

theorem phase_whole (accounts : Accounts Org) (query : Account → Bool) (listed : List Org)
    (work : Org → Account → Account) (stops : Org → Org × Account → Bool)
    (answered : listed.Perm (listRows query accounts))
    (unstopped : ∀ org ∈ listed, ∀ account, accountOf accounts org = some account →
      stops org (org, account) = false) (org : Org) (account : Account)
    (found : accountOf accounts org = some account) :
    (org ∈ listed ↔ query account = true) ∧
      accountOf (sweep (fun org => accountChange (work org)) stops listed accounts) org =
        some (if query account = true then work org account else account) := by
  obtain ⟨visited, -, effect, whole⟩ := accountOf_sweep accounts query listed work stops answered
  obtain rfl := whole unstopped
  have selected : org ∈ visited ↔ query account = true := by
    rw [answered.mem_iff, mem_listRows]
    constructor
    · rintro ⟨other, stored, holds⟩
      obtain rfl : other = account := Option.some.inj (stored.symm.trans found)
      exact holds
    · intro holds
      exact ⟨account, found, holds⟩
  refine ⟨selected, ?_⟩
  rw [effect org, found]
  by_cases member : org ∈ visited
  · rw [if_pos member, if_pos (selected.mp member)]
    rfl
  · rw [if_neg member, if_neg fun holds => member (selected.mpr holds)]

theorem dueForRenewal_cyclic (now : Moment) (account : Account)
    (due : dueForRenewal now account = true) :
    account.subscription.billingCycle ∈ cyclicBillingCycles := by
  simp only [dueForRenewal, Bool.and_eq_true, decide_eq_true_eq] at due
  exact due.1.1.2

theorem runRenewalSweep_some (settings : Settings) (sweep : Sweep Org) (accounts : Accounts Org)
    (result : SweepResult Org) (swept : runRenewalSweep settings sweep accounts = some result) :
    (sweep.due.Perm (listRows (dueForRenewal sweep.now) accounts) ∧
        result.renewed = processDueRenewals sweep.now sweep.renewals sweep.due accounts) ∧
      (sweep.lapsed.Perm (listRows (lapsedNonRenewing sweep.now) result.renewed) ∧
        result.lapsed = lapseNonRenewingSubscriptions sweep.now sweep.lapseWeather sweep.lapsed
          result.renewed) ∧
      (sweep.overdue.Perm (listRows statusPastDue result.lapsed) ∧
        result.expired = expireLapsedSubscriptions sweep.now settings.gracePeriodDays
          sweep.expireWeather sweep.overdue result.lapsed) := by
  simp only [runRenewalSweep, Option.bind_eq_bind, Option.pure_def] at swept
  obtain ⟨renewed, renewing, swept⟩ := Option.bind_eq_some_iff.mp swept
  obtain ⟨lapsed, lapsing, swept⟩ := Option.bind_eq_some_iff.mp swept
  obtain ⟨expired, expiring, same⟩ := Option.bind_eq_some_iff.mp swept
  simp only [stepAction, Option.ite_none_right_eq_some, Option.some.injEq] at renewing lapsing expiring
  cases same
  exact ⟨⟨renewing.1, renewing.2.symm⟩, ⟨lapsing.1, lapsing.2.symm⟩,
    ⟨expiring.1, expiring.2.symm⟩⟩

section Phases

variable (settings : Settings) (sweep : Sweep Org) (accounts : Accounts Org)
  (result : SweepResult Org) (swept : runRenewalSweep settings sweep accounts = some result)
  (calm : Undisturbed settings sweep accounts result) (org : Org)

include swept calm

theorem renew_phase (account : Account) (found : accountOf accounts org = some account) :
    ∃ renewed, accountOf result.renewed org = some renewed ∧
      (org ∈ sweep.due ↔ dueForRenewal sweep.now account = true) ∧
      if dueForRenewal sweep.now account = true then Renewed sweep.now account renewed
      else renewed = account := by
  obtain ⟨⟨answered, ran⟩, -, -⟩ := runRenewalSweep_some settings sweep accounts result swept
  obtain ⟨listed, worked⟩ := phase_whole accounts (dueForRenewal sweep.now) sweep.due
    (fun org => left (processRenewal sweep.now (sweep.renewals org))) (fun _ _ => false)
    answered (fun _ _ _ _ => rfl) org account found
  rw [ran]
  refine ⟨_, worked, listed, ?_⟩
  by_cases due : dueForRenewal sweep.now account = true
  · rw [if_pos due, if_pos due]
    exact renewal_outcome _ _ _ (sweep.onward org) (dueForRenewal_cyclic _ _ due)
      (calm.renewals org (listed.mpr due) account found)
  · rw [if_neg due, if_neg due]

theorem lapse_phase (renewed : Account) (found : accountOf result.renewed org = some renewed) :
    ∃ lapsed, accountOf result.lapsed org = some lapsed ∧
      (org ∈ sweep.lapsed ↔ lapsedNonRenewing sweep.now renewed = true) ∧
      if lapsedNonRenewing sweep.now renewed = true then
        lapsed.subscription.status = .cancelled ∧ lapsed.license.status = .suspended
      else lapsed = renewed := by
  obtain ⟨-, ⟨answered, ran⟩, -⟩ := runRenewalSweep_some settings sweep accounts result swept
  obtain ⟨listed, worked⟩ := phase_whole result.renewed (lapsedNonRenewing sweep.now) sweep.lapsed
    (fun org => left (lapseItem sweep.now (sweep.lapseWeather org)))
    (fun org row => lapseStops sweep.now (sweep.lapseWeather org) row.2) answered
    (fun org member account stored => (calm.lapses org member account stored).2) org renewed found
  rw [ran]
  refine ⟨_, worked, listed, ?_⟩
  by_cases finished : lapsedNonRenewing sweep.now renewed = true
  · rw [if_pos finished, if_pos finished]
    exact lapse_outcome _ _ _ (calm.lapses org (listed.mpr finished) renewed found).1
  · rw [if_neg finished, if_neg finished]

theorem expire_phase (lapsed : Account) (found : accountOf result.lapsed org = some lapsed) :
    ∃ expired, accountOf result.expired org = some expired ∧
      if statusPastDue lapsed = true ∧
          graceOver sweep.now settings.gracePeriodDays lapsed.subscription = true then
        expired.subscription.status = .cancelled ∧ expired.license.status = .expired
      else expired = lapsed := by
  obtain ⟨-, -, ⟨answered, ran⟩⟩ := runRenewalSweep_some settings sweep accounts result swept
  obtain ⟨listed, worked⟩ := phase_whole result.lapsed statusPastDue sweep.overdue
    (fun org => left (expireItem sweep.now settings.gracePeriodDays (sweep.expireWeather org)))
    (fun org row => expireStops sweep.now settings.gracePeriodDays (sweep.expireWeather org) row.2)
    answered (fun org member account stored => (calm.expiries org member account stored).2)
    org lapsed found
  rw [ran]
  refine ⟨_, worked, ?_⟩
  by_cases unpaid : statusPastDue lapsed = true
  · have outcome := expire_outcome sweep.now settings.gracePeriodDays lapsed
      (sweep.expireWeather org) (calm.expiries org (listed.mpr unpaid) lapsed found).1
    by_cases finished : graceOver sweep.now settings.gracePeriodDays lapsed.subscription = true
    · rw [if_pos finished] at outcome
      rw [if_pos ⟨unpaid, finished⟩, if_pos unpaid]
      exact outcome
    · rw [if_neg finished] at outcome
      rw [if_neg (fun both => finished both.2), if_pos unpaid]
      exact outcome
  · rw [if_neg (fun both => unpaid both.1), if_neg unpaid]

end Phases

theorem sweep_missing (accounts : Accounts Org) (query : Account → Bool) (listed : List Org)
    (work : Org → Account → Account) (stops : Org → Org × Account → Bool)
    (answered : listed.Perm (listRows query accounts)) (org : Org)
    (missing : accountOf accounts org = none) :
    accountOf (sweep (fun org => accountChange (work org)) stops listed accounts) org = none := by
  obtain ⟨visited, -, effect, -⟩ := accountOf_sweep accounts query listed work stops answered
  rw [effect org, missing]
  split <;> rfl

theorem sweep_stored (settings : Settings) (sweep : Sweep Org) (accounts : Accounts Org)
    (result : SweepResult Org) (swept : runRenewalSweep settings sweep accounts = some result)
    (org : Org) (expired : Account) (stored : accountOf result.expired org = some expired) :
    ∃ account, accountOf accounts org = some account := by
  obtain ⟨⟨dueAnswered, renewed⟩, ⟨lapsedAnswered, lapsed⟩, ⟨overdueAnswered, final⟩⟩ :=
    runRenewalSweep_some settings sweep accounts result swept
  cases found : accountOf accounts org with
  | some account => exact ⟨account, rfl⟩
  | none =>
      have afterRenewal : accountOf result.renewed org = none := by
        rw [renewed]
        exact sweep_missing _ _ _ _ _ dueAnswered org found
      have afterLapse : accountOf result.lapsed org = none := by
        rw [lapsed]
        exact sweep_missing _ _ _ _ _ lapsedAnswered org afterRenewal
      have afterExpiry : accountOf result.expired org = none := by
        rw [final]
        exact sweep_missing _ _ _ _ _ overdueAnswered org afterLapse
      rw [afterExpiry] at stored
      cases stored

/-! ### What is left -/

def TrialPeriod (account : Account) : Prop :=
  account.subscription.status = .trialing →
    account.subscription.trialEnd = some account.subscription.currentPeriodEnd

theorem effect_trial (now : Moment) (gracePeriodDays : Nat) (before after : Account) (deed : Deed)
    (trial : TrialPeriod before) (effect : Effect now gracePeriodDays before deed after) :
    TrialPeriod after := by
  intro trialing
  cases effect with
  | scheduled => exact trial trialing
  | settings => exact trial trialing
  | licenseActivated => exact trial trialing
  | halfExpired => exact trial trialing
  | _ => cases trialing

theorem reached_trial (settings : Settings) (clock : Moment) (billing : Billing Org)
    (run : Run settings (fun _ _ _ => True) clock billing) (org : Org) (account : Account)
    (found : billing.account org = some account) : TrialPeriod account := by
  refine accounts_invariant settings (fun _ _ _ => True) TrialPeriod ?_ ?_ clock billing run org
    account found
  · intro now plan account made
    obtain ⟨found, periodEnd, -, ⟨-, rfl⟩ | ⟨-, rfl⟩⟩ := createSubscription_ok _ _ _ _ made
    · intro _
      rfl
    · intro trialing
      cases trialing
  · intro now account deed after trial _ _ effect
    exact effect_trial now _ account after deed trial effect

theorem overrun_split (now : Moment) (account : Account) (overrun : Overrun now account) :
    (dueForRenewal now account = true ↔ account.subscription.autoRenew = true) ∧
      (lapsedNonRenewing now account = true ↔ account.subscription.autoRenew = false) := by
  -- The two queries split what has overrun its period by the auto-renewal flag.
  obtain ⟨cyclic, running, finished⟩ := overrun
  have renewable : account.subscription.status ∈ renewableSubscriptionStatuses := by
    simp only [List.mem_cons, List.not_mem_nil, or_false] at running
    rcases running with active | trialing
    · simp [active, renewableSubscriptionStatuses]
    · simp [trialing, renewableSubscriptionStatuses]
  constructor
  · simp [dueForRenewal, cyclic, renewable, finished]
  · simp only [lapsedNonRenewing, cyclic, running, finished]
    simp

theorem renewed_not_lapsed (now : Moment) (before after : Account)
    (renewing : before.subscription.autoRenew = true) (renewed : Renewed now before after) :
    lapsedNonRenewing now after = false := by
  -- After a renewal that did not raise, the lapse query does not see the account.
  rcases renewed with ⟨-, cancelled⟩ | ⟨-, kept, -⟩ | unpaid
  · simp [lapsedNonRenewing, cancelled]
  · simp [lapsedNonRenewing, kept, renewing]
  · simp [lapsedNonRenewing, unpaid]

theorem renewed_not_overrun (now : Moment) (before after : Account)
    (renewed : Renewed now before after) : ¬ Overrun now after := by
  rintro ⟨-, running, finished⟩
  rcases renewed with ⟨-, cancelled⟩ | ⟨-, -, later⟩ | unpaid
  · simp [cancelled] at running
  · exact absurd finished (not_le_of_gt later)
  · simp [unpaid] at running

theorem dueForRenewal_autoRenew (now : Moment) (account : Account)
    (due : dueForRenewal now account = true) : account.subscription.autoRenew = true := by
  simp only [dueForRenewal, Bool.and_eq_true, decide_eq_true_eq] at due
  exact due.1.1.1

structure HandledOnce (settings : Settings) (sweep : Sweep Org) (accounts : Accounts Org)
    (result : SweepResult Org) : Prop where
  once : ∀ org account, accountOf accounts org = some account → Overrun sweep.now account →
    (org ∈ sweep.due ∧ org ∉ sweep.lapsed) ∨ (org ∉ sweep.due ∧ org ∈ sweep.lapsed)
  renewals : ∀ org ∈ sweep.due, ∃ before after, accountOf accounts org = some before ∧
    accountOf result.renewed org = some after ∧ Renewed sweep.now before after
  lapses : ∀ org ∈ sweep.lapsed, ∃ before after, accountOf accounts org = some before ∧
    Overrun sweep.now before ∧ accountOf result.lapsed org = some after ∧
    after.subscription.status = .cancelled ∧ after.license.status = .suspended
  expiries : ∀ org before after, accountOf result.lapsed org = some before →
    accountOf result.expired org = some after →
    if statusPastDue before = true ∧
        graceOver sweep.now settings.gracePeriodDays before.subscription = true then
      after.subscription.status = .cancelled ∧ after.license.status = .expired
    else after = before

theorem lapsed_overrun (now : Moment) (account : Account)
    (lapsed : lapsedNonRenewing now account = true) : Overrun now account := by
  simp only [lapsedNonRenewing, Bool.and_eq_true, decide_eq_true_eq] at lapsed
  exact ⟨lapsed.1.1.2, lapsed.1.2, lapsed.2⟩

theorem sweep_handles_once (settings : Settings) (sweep : Sweep Org) (accounts : Accounts Org)
    (result : SweepResult Org) (swept : runRenewalSweep settings sweep accounts = some result)
    (calm : Undisturbed settings sweep accounts result) :
    HandledOnce settings sweep accounts result := by
  obtain ⟨⟨dueAnswered, -⟩, ⟨lapsedAnswered, -⟩, -⟩ :=
    runRenewalSweep_some settings sweep accounts result swept
  constructor
  · intro org account found overrun
    obtain ⟨renewed, stored, due, outcome⟩ :=
      renew_phase settings sweep accounts result swept calm org account found
    obtain ⟨-, -, lapses, -⟩ :=
      lapse_phase settings sweep accounts result swept calm org renewed stored
    obtain ⟨dueIff, lapsedIff⟩ := overrun_split sweep.now account overrun
    cases renewing : account.subscription.autoRenew with
    | true =>
        left
        have selected := dueIff.mpr renewing
        rw [if_pos selected] at outcome
        refine ⟨due.mpr selected, fun member => ?_⟩
        have unseen := renewed_not_lapsed sweep.now account renewed renewing outcome
        rw [lapses.mp member] at unseen
        cases unseen
    | false =>
        right
        have unselected : ¬ dueForRenewal sweep.now account = true := by
          rw [dueIff, renewing]
          simp
        rw [if_neg unselected] at outcome
        subst outcome
        exact ⟨fun member => unselected (due.mp member), lapses.mpr (lapsedIff.mpr renewing)⟩
  · intro org member
    obtain ⟨account, found, -⟩ := (mem_listRows _ accounts org).mp (dueAnswered.mem_iff.mp member)
    obtain ⟨renewed, stored, due, outcome⟩ :=
      renew_phase settings sweep accounts result swept calm org account found
    rw [if_pos (due.mp member)] at outcome
    exact ⟨account, renewed, found, stored, outcome⟩
  · intro org member
    obtain ⟨renewed, stored, lapsed⟩ :=
      (mem_listRows _ result.renewed org).mp (lapsedAnswered.mem_iff.mp member)
    obtain ⟨account, found⟩ : ∃ account, accountOf accounts org = some account := by
      cases found : accountOf accounts org with
      | some account => exact ⟨account, rfl⟩
      | none =>
          obtain ⟨⟨answered, ran⟩, -, -⟩ := runRenewalSweep_some settings sweep accounts result swept
          rw [ran] at stored
          rw [show accountOf (processDueRenewals sweep.now sweep.renewals sweep.due accounts) org =
            none from sweep_missing _ _ _ _ _ answered org found] at stored
          cases stored
    obtain ⟨renewed', stored', due, outcome⟩ :=
      renew_phase settings sweep accounts result swept calm org account found
    obtain rfl : renewed' = renewed := Option.some.inj (stored'.symm.trans stored)
    obtain ⟨final, kept, -, lapse⟩ :=
      lapse_phase settings sweep accounts result swept calm org renewed' stored
    rw [if_pos lapsed] at lapse
    -- What the renewal phase worked, the lapse query does not list.
    have untouched : ¬ dueForRenewal sweep.now account = true := by
      intro selected
      rw [if_pos selected] at outcome
      have unseen := renewed_not_lapsed sweep.now account renewed'
        (dueForRenewal_autoRenew sweep.now account selected) outcome
      rw [lapsed] at unseen
      cases unseen
    rw [if_neg untouched] at outcome
    subst outcome
    exact ⟨renewed', final, found, lapsed_overrun _ _ lapsed, kept, lapse.1, lapse.2⟩
  · intro org before after found kept
    obtain ⟨expired, stored, outcome⟩ :=
      expire_phase settings sweep accounts result swept calm org before found
    obtain rfl : expired = after := Option.some.inj (stored.symm.trans kept)
    exact outcome

theorem sweep_ends_overruns (settings : Settings) (sweep : Sweep Org) (accounts : Accounts Org)
    (result : SweepResult Org) (swept : runRenewalSweep settings sweep accounts = some result)
    (calm : Undisturbed settings sweep accounts result) (org : Org) (expired : Account)
    (stored : accountOf result.expired org = some expired) :
    ¬ Overrun sweep.now expired ∧ (expired.subscription.status = .trialing →
      accountOf accounts org = some expired) := by
  obtain ⟨account, found⟩ := sweep_stored settings sweep accounts result swept org expired stored
  obtain ⟨renewed, afterRenewal, -, renewal⟩ :=
    renew_phase settings sweep accounts result swept calm org account found
  obtain ⟨lapsed, afterLapse, -, lapse⟩ :=
    lapse_phase settings sweep accounts result swept calm org renewed afterRenewal
  obtain ⟨final, afterExpiry, expiry⟩ :=
    expire_phase settings sweep accounts result swept calm org lapsed afterLapse
  obtain rfl : final = expired := Option.some.inj (afterExpiry.symm.trans stored)
  -- Back through the phases: whatever one of them worked is not running on.
  split at expiry
  · simp [Overrun, expiry.1]
  subst final
  split at lapse
  · simp [Overrun, lapse.1]
  rename_i unlapsed
  subst lapsed
  split at renewal
  · refine ⟨renewed_not_overrun sweep.now account renewed renewal, ?_⟩
    intro trialing
    rcases renewal with ⟨-, status⟩ | ⟨status, -⟩ | status
    · rw [trialing] at status
      cases status
    · rw [trialing] at status
      cases status
    · rw [trialing] at status
      cases status
  · rename_i undue
    subst renewal
    refine ⟨?_, fun _ => found⟩
    intro overrun
    obtain ⟨dueIff, lapsedIff⟩ := overrun_split sweep.now renewed overrun
    cases renewing : renewed.subscription.autoRenew with
    | true => exact undue (dueIff.mpr renewing)
    | false => exact unlapsed (lapsedIff.mpr renewing)

/-- After a sweep in which no item raised, from any reachable accounts, no cyclic subscription is
left in an expired trial or active past its period, and each period that was over has been
handled by exactly one of the renewal and lapse phases. -/
theorem renewal_sweep_leaves_none_running (settings : Settings) (clock : Moment)
    (billing : Billing Org) (run : Run settings (fun _ _ _ => True) clock billing)
    (sweep : Sweep Org) (result : SweepResult Org)
    (swept : runRenewalSweep settings sweep billing.accounts = some result)
    (calm : Undisturbed settings sweep billing.accounts result) :
    (∀ org account, accountOf result.expired org = some account →
      account.subscription.billingCycle ∈ cyclicBillingCycles →
      (account.subscription.status = .trialing →
        ∀ trialEnd, account.subscription.trialEnd = some trialEnd → sweep.now < trialEnd) ∧
      (account.subscription.status = .active →
        sweep.now < account.subscription.currentPeriodEnd)) ∧
      HandledOnce settings sweep billing.accounts result := by
  refine ⟨?_, sweep_handles_once settings sweep billing.accounts result swept calm⟩
  intro org account stored cyclic
  obtain ⟨ended, kept⟩ :=
    sweep_ends_overruns settings sweep billing.accounts result swept calm org account stored
  constructor
  · intro trialing trialEnd named
    have period := reached_trial settings clock billing run org account (kept trialing) trialing
    obtain rfl : trialEnd = account.subscription.currentPeriodEnd :=
      Option.some.inj (named.symm.trans period)
    exact lt_of_not_ge fun finished => ended ⟨cyclic, by simp [trialing], finished⟩
  · intro active
    exact lt_of_not_ge fun finished => ended ⟨cyclic, by simp [active], finished⟩

section Executed

def calmAlone (settings : Settings) (sweep : Sweep Unit) (accounts : Accounts Unit)
    (result : SweepResult Unit) : Bool :=
  (sweep.due.isEmpty || (accountOf accounts ()).all fun account =>
      !raised (processRenewal sweep.now (sweep.renewals ())) account) &&
    (sweep.lapsed.isEmpty || (accountOf result.renewed ()).all fun account =>
      !raised (lapseItem sweep.now (sweep.lapseWeather ())) account &&
        !lapseStops sweep.now (sweep.lapseWeather ()) account) &&
    (sweep.overdue.isEmpty || (accountOf result.lapsed ()).all fun account =>
      !raised (expireItem sweep.now settings.gracePeriodDays (sweep.expireWeather ())) account &&
        !expireStops sweep.now settings.gracePeriodDays (sweep.expireWeather ()) account)

theorem isEmpty_or_all (listed : List Unit) (stored : Option Account) (holds : Account → Bool)
    (checked : (listed.isEmpty || stored.all holds) = true) (org : Unit) (member : org ∈ listed)
    (account : Account) (found : stored = some account) : holds account = true := by
  cases listed with
  | nil => cases member
  | cons => simpa [found] using checked

theorem calmAlone_sound (settings : Settings) (sweep : Sweep Unit) (accounts : Accounts Unit)
    (result : SweepResult Unit) (checked : calmAlone settings sweep accounts result = true) :
    Undisturbed settings sweep accounts result := by
  simp only [calmAlone, Bool.and_eq_true] at checked
  obtain ⟨⟨renewals, lapses⟩, expiries⟩ := checked
  constructor
  · intro org member account found
    have holds := isEmpty_or_all _ _ _ renewals org member account found
    simpa using holds
  · intro org member account found
    have holds := isEmpty_or_all _ _ _ lapses org member account found
    simpa using holds
  · intro org member account found
    have holds := isEmpty_or_all _ _ _ expiries org member account found
    simpa using holds

theorem executed_sweep (settings : Settings) (events : List (Event Unit)) (sweep : Sweep Unit)
    (observed : Accounts Unit → SweepResult Unit → Bool)
    (executed : (Runs.run (step settings) (meetsAlone fun _ _ _ => True) (Billing.started (day 0))
      events).any (fun billing => (runRenewalSweep settings sweep billing.accounts).any fun result =>
        calmAlone settings sweep billing.accounts result && observed billing.accounts result) = true) :
    ∃ billing result, Run settings (fun _ _ _ => True) (day 0) billing ∧
      runRenewalSweep settings sweep billing.accounts = some result ∧
      Undisturbed settings sweep billing.accounts result ∧
      observed billing.accounts result = true := by
  obtain ⟨billing, reached, seen⟩ := run_observed (step settings) (Billing.started (day 0))
    (meetsAlone fun _ _ _ => True) _ (meetsAlone_sound fun _ _ _ => True) events executed
  obtain ⟨result, swept, shown⟩ := (Option.any_eq_true _ _).mp seen
  rw [Bool.and_eq_true] at shown
  exact ⟨billing, result, reached, swept, calmAlone_sound _ _ _ _ shown.1, shown.2⟩

def sweepOn (number : Fin 100) (due lapsed overdue : List Unit) (answer : ChargeAnswer) :
    Sweep Unit :=
  { now := day number, due, lapsed, overdue
    renewals := fun _ => ⟨some starterPlan, fun _ => answer, day number, {}⟩
    lapseWeather := fun _ => {}
    expireWeather := fun _ => {}
    onward := fun _ => le_refl _ }

/-- A subscription is renewed on day 31. -/
theorem renewal_sweep_leaves_none_running_renewed :
    ∃ (billing : Billing Unit) (result : SweepResult Unit),
      Run defaultSettings (fun _ _ _ => True) (day 0) billing ∧
      runRenewalSweep defaultSettings (sweepOn 31 [()] [] [] .success) billing.accounts = some result ∧
      (accountOf result.expired ()).map (fun account => account.subscription.status) =
        some .active ∧
      HandledOnce defaultSettings (sweepOn 31 [()] [] [] .success) billing.accounts result := by
  obtain ⟨billing, result, run, swept, calm, seen⟩ := executed_sweep defaultSettings
    [⟨day 0, .createSubscription () (some starterPlan)⟩] (sweepOn 31 [()] [] [] .success)
    (fun _ result => (accountOf result.expired ()).map (fun account => account.subscription.status) =
      some .active) (by decide +kernel)
  exact ⟨billing, result, run, swept, by simpa using seen,
    (renewal_sweep_leaves_none_running _ _ _ run _ _ swept calm).2⟩

def trialPlan : Plan := ⟨.freeTrial, .none, 0, true⟩

/-- No item raises, yet on day 20 a trial that ended on day 14 runs on, because its plan has no
cycle; and on day 40 a PAST_DUE subscription is both retried and expired. -/
theorem sweep_skips_cycleless_trial :
    (∃ (billing : Billing Unit) (result : SweepResult Unit) (account : Account),
      Run defaultSettings (fun _ _ _ => True) (day 0) billing ∧
      runRenewalSweep defaultSettings (sweepOn 20 [] [] [] .success) billing.accounts = some result ∧
      Undisturbed defaultSettings (sweepOn 20 [] [] [] .success) billing.accounts result ∧
      accountOf result.expired () = some account ∧ account.subscription.status = .trialing ∧
      account.subscription.trialEnd = some (day 14)) ∧
    (∃ (billing : Billing Unit) (result : SweepResult Unit) (account : Account),
      Run defaultSettings (fun _ _ _ => True) (day 0) billing ∧
      runRenewalSweep defaultSettings (sweepOn 40 [()] [] [()] .failure) billing.accounts =
        some result ∧
      Undisturbed defaultSettings (sweepOn 40 [()] [] [()] .failure) billing.accounts result ∧
      () ∈ (sweepOn 40 [()] [] [()] .failure).due ∧
      accountOf result.expired () = some account ∧ account.license.status = .expired) := by
  constructor
  · obtain ⟨billing, result, run, swept, calm, seen⟩ := executed_sweep defaultSettings
      [⟨day 0, .createSubscription () (some trialPlan)⟩] (sweepOn 20 [] [] [] .success)
      (fun _ result => (accountOf result.expired ()).any fun account =>
        account.subscription.status = .trialing && account.subscription.trialEnd = some (day 14))
      (by decide +kernel)
    obtain ⟨account, found, shown⟩ := (Option.any_eq_true _ _).mp seen
    simp only [Bool.and_eq_true, decide_eq_true_eq] at shown
    exact ⟨billing, result, account, run, swept, calm, found, shown.1, shown.2⟩
  · obtain ⟨billing, result, run, swept, calm, seen⟩ := executed_sweep defaultSettings
      [⟨day 0, .createSubscription () (some starterPlan)⟩,
        ⟨day 31, .processDueRenewals [()] fun _ => ⟨some starterPlan, fun _ => .failure, day 31, {}⟩⟩]
      (sweepOn 40 [()] [] [()] .failure)
      (fun _ result => (accountOf result.expired ()).any fun account =>
        account.license.status = .expired)
      (by decide +kernel)
    obtain ⟨account, found, shown⟩ := (Option.any_eq_true _ _).mp seen
    exact ⟨billing, result, account, run, swept, calm, by simp [sweepOn], found, by simpa using shown⟩

end Executed

end CloudGuest.Subscriptions
