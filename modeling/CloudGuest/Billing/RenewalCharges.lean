import CloudGuest.Billing.Payments
import CloudGuest.Billing.SubscriptionRuns

/-!
The renewal charges of one subscription, with what the provider makes of them.
Each sweep that finds the subscription due starts a new charge under a fresh
key. A charge that comes back pending, or with a provider error after it was
accepted, leaves a PENDING row and the subscription due: PAST_DUE is renewable.
The next sweep then charges the same period again, and the provider may capture
both. Where the provider's event about a pending charge is applied before a
sweep charges its period again, no period is captured twice.

A sweep is one step for its subscription. It reads the list of what is due at its
start and commits at its end, so this is a run in which nothing else writes the
subscription in between, and no flush of the database fails: that would roll back
the rows of charges that the provider has already answered.
-/

namespace CloudGuest.RenewalCharges
open Calendar Sessions Subscriptions Payments Runs

/-- What the provider has made of a charge. Captured and failed are final. -/
inductive Outcome where
  | undecided | captured | failed
  deriving DecidableEq

/-- A Payment row of the renewal charge path. Beside the row itself: the `current_period_end` it
was made under, the provider's answer and its own state of the charge, and whether an event about
the charge has been applied. -/
structure Charge where
  periodEnd : Moment
  status : PaymentStatus
  identified : Bool
  answer : ProviderAnswer
  outcome : Outcome
  heard : Bool
  deriving DecidableEq

def outcomeOf : ProviderAnswer → Outcome
  | .succeeded => .captured
  | .pending => .undecided
  | .error => .undecided
  | .noDefaultPaymentMethod => .failed
  | .declined => .failed
  | .failedResult => .failed

structure Attempt where
  plan : Option Plan
  configured : Bool
  answer : ProviderAnswer
  written : Moment
  weather : Weather := {}

def Attempt.renewal (attempt : Attempt) : Renewal where
  plan := attempt.plan
  charge amount := (Payments.charge attempt.configured attempt.answer amount).1
  written := attempt.written
  weather := attempt.weather

def reachesCharge (now : Moment) (attempt : Attempt) (account : Account) : Bool :=
  !attempt.weather.early && account.subscription.status ∈ renewableSubscriptionStatuses &&
    !account.subscription.endsNow now

def chargesCard (now : Moment) (attempt : Attempt) (account : Account) : Bool :=
  reachesCharge now attempt account && attempt.configured &&
    attempt.plan.any fun plan => 0 < computeRenewalChargeAmount plan

def chargeMade (now : Moment) (attempt : Attempt) (account : Account) : Option Charge :=
  if reachesCharge now attempt account then
    attempt.plan.bind fun plan =>
      (Payments.charge attempt.configured attempt.answer (computeRenewalChargeAmount plan)).2.map
        fun attempted => ⟨account.subscription.currentPeriodEnd, attempted.status,
          attempted.identified, attempt.answer, outcomeOf attempt.answer, false⟩
  else none

structure Charging where
  clock : Moment
  account : Account
  charges : List Charge
  deriving DecidableEq

def Charging.started (clock : Moment) (account : Account) : Charging := ⟨clock, account, []⟩

inductive Action where
  | processDueRenewals (now : Moment) (attempt : Attempt)
  | providerDecides (index : Nat) (captured : Bool)
  | successEvent (now : Moment) (index : Nat) (plan : Option Plan)
  | failureEvent (now : Moment) (index : Nat)
  | other (now : Moment) (deed : Deed)

def Charge.decided (charge : Charge) (captured : Bool) : Charge :=
  { charge with outcome := if captured then .captured else .failed }

def Charge.resolved (charge : Charge) (succeeded : Bool) : Charge :=
  { charge with status := resolvedStatus charge.status succeeded, heard := true }

def confirm (now : Moment) (gracePeriodDays : Nat) (state : Charging) (index : Nat)
    (charge : Charge) (succeeded : Bool) (request : Request) : Charging :=
  -- A webhook about a charge: the row is found by its provider payment id, resolved, and the
  -- subscription confirmed; an exception rolls all of it back.
  if charge.identified && !raised (request.call now) state.account then
    { clock := now
      account := perform now gracePeriodDays (.request request) state.account
      charges := state.charges.modify index fun charge => charge.resolved succeeded }
  else { state with clock := now }

def startsCharge : Deed → Bool
  | .request (.processRenewal _) => true
  | .item (.renew _) => true
  | _ => false

def step (gracePeriodDays : Nat) (state : Charging) : Action → Option Charging
  | .processDueRenewals now attempt =>
      if state.clock ≤ now ∧ now ≤ attempt.written then
        if dueForRenewal now state.account then
          some
            { clock := attempt.written
              account := left (processRenewal now attempt.renewal) state.account
              charges := state.charges ++ (chargeMade now attempt state.account).toList }
        else some { state with clock := attempt.written }
      else none
  | .providerDecides index captured =>
      match state.charges[index]? with
      | some charge =>
          if charge.outcome = .undecided then
            some { state with
              charges := state.charges.modify index fun charge => charge.decided captured }
          else none
      | none => none
  | .successEvent now index plan =>
      match state.charges[index]? with
      | some charge =>
          if state.clock ≤ now ∧ charge.outcome = .captured then
            some (confirm now gracePeriodDays state index charge true (.confirmSucceeded plan))
          else none
      | none => none
  | .failureEvent now index =>
      match state.charges[index]? with
      | some charge =>
          if state.clock ≤ now ∧ charge.outcome = .failed then
            some (confirm now gracePeriodDays state index charge false .confirmFailed)
          else none
      | none => none
  | .other now deed =>
      if state.clock ≤ now ∧ startsCharge deed = false ∧ deed.due now state.account = true then
        some
          { state with clock := now, account := perform now gracePeriodDays deed state.account }
      else none

def CapturedTwice (charges : List Charge) : Prop :=
  ∃ (first second : Nat) (a b : Charge), first < second ∧ charges[first]? = some a ∧ charges[second]? = some b ∧
    a.periodEnd = b.periodEnd ∧ a.outcome = .captured ∧ b.outcome = .captured

/-- When a sweep charges for a period, no earlier charge for it was answered by an error, and one
that was answered pending has been heard of since; and the calendar has the next period's end. -/
def EarlierHeard (state : Charging) : Action → Prop
  | .processDueRenewals now attempt =>
      dueForRenewal now state.account = true → chargesCard now attempt state.account = true →
        (∀ charge ∈ state.charges,
          charge.periodEnd = state.account.subscription.currentPeriodEnd →
          charge.answer ≠ .error ∧ (charge.answer = .pending → charge.heard = true)) ∧
        (addBillingCycle attempt.written state.account.subscription.billingCycle).isSome = true
  | _ => True

/-! ### What a step does to the period -/

theorem effect_period (now : Moment) (gracePeriodDays : Nat) (before after : Account) (deed : Deed)
    (effect : Effect now gracePeriodDays before deed after) :
    after.subscription.billingCycle = before.subscription.billingCycle ∧
      (after.subscription.currentPeriodEnd = before.subscription.currentPeriodEnd ∨
        ∃ start, (start = now ∨ ∃ renewal, deed.renews renewal ∧ start = renewal.written) ∧
          addBillingCycle start before.subscription.billingCycle =
            some after.subscription.currentPeriodEnd) := by
  cases effect with
  | reactivated periodEnd license idle unexpired added =>
      exact ⟨rfl, .inr ⟨now, .inl rfl, added⟩⟩
  | resumedAfresh periodEnd idle elapsed added => exact ⟨rfl, .inr ⟨now, .inl rfl, added⟩⟩
  | renewed _ renewal plan periodEnd asked renewable goesOn found charged added =>
      exact ⟨rfl, .inr ⟨renewal.written, .inr ⟨renewal, asked, rfl⟩, added⟩⟩
  | confirmed plan periodEnd added => exact ⟨rfl, .inr ⟨now, .inl rfl, added⟩⟩
  | _ => exact ⟨rfl, .inl rfl⟩

theorem perform_period (now clock : Moment) (gracePeriodDays : Nat) (account : Account)
    (deed : Deed) (cyclic : account.subscription.billingCycle ∈ cyclicBillingCycles)
    (later : clock ≤ now) (written : ∀ renewal, deed.renews renewal → clock ≤ renewal.written) :
    (perform now gracePeriodDays deed account).subscription.billingCycle =
        account.subscription.billingCycle ∧
      ((perform now gracePeriodDays deed account).subscription.currentPeriodEnd =
          account.subscription.currentPeriodEnd ∨
        clock < (perform now gracePeriodDays deed account).subscription.currentPeriodEnd) := by
  rcases perform_effect now gracePeriodDays account deed with same | effect
  · rw [same]
    exact ⟨rfl, .inl rfl⟩
  · obtain ⟨cycle, same | ⟨start, begun, added⟩⟩ := effect_period _ _ _ _ _ effect
    · exact ⟨cycle, .inl same⟩
    · refine ⟨cycle, .inr ?_⟩
      have passed : clock ≤ start := by
        rcases begun with rfl | ⟨renewal, asked, rfl⟩
        · exact later
        · exact written renewal asked
      exact lt_of_le_of_lt passed (addBillingCycle_lt _ _ _ cyclic added)

theorem captured_renews (now : Moment) (attempt : Attempt) (account : Account) (charge : Charge)
    (periodEnd : Moment) (made : chargeMade now attempt account = some charge)
    (succeeded : charge.status = .succeeded)
    (added : addBillingCycle attempt.written account.subscription.billingCycle = some periodEnd) :
    (left (processRenewal now attempt.renewal) account).subscription.currentPeriodEnd =
      periodEnd := by
  unfold chargeMade at made
  split at made
  · rename_i reached
    simp only [reachesCharge, Bool.and_eq_true, Bool.not_eq_true', decide_eq_true_eq] at reached
    obtain ⟨⟨early, renewable⟩, goesOn⟩ := reached
    obtain ⟨plan, found, made⟩ := Option.bind_eq_some_iff.mp made
    obtain ⟨attempted, row, rfl⟩ := Option.map_eq_some_iff.mp made
    obtain ⟨rfl, answered⟩ := charge_some _ _ _ _ row
    have answer : attempt.answer = .succeeded := by
      cases answer : attempt.answer <;> simp [answer, attemptCharge] at succeeded ⊢
    have charged := answered.mpr answer
    have ran : (finalizeOrCharge now attempt.renewal).run account =
        .ok () { account with
          subscription := account.subscription.renewed attempt.written periodEnd } := by
      simp [finalizeOrCharge, goesOn, chargePlan, Attempt.renewal, found, charged, settleCharge,
        run_markRenewed, added]
    cases late : attempt.weather.late <;>
      simp [left, processRenewal, Attempt.renewal, early, renewable] <;>
      simp [Attempt.renewal] at ran <;> simp [ran, late, Subscription.renewed]
  · cases made

/-! ### The invariant -/

structure ChargeSound (clock : Moment) (account : Account) (charge : Charge) : Prop where
  cyclic : account.subscription.billingCycle ∈ cyclicBillingCycles
  past : charge.periodEnd ≤ clock
  waiting : charge.status = .pending →
    charge.answer = .error ∨ charge.answer = .pending ∧ charge.heard = false
  undecided : charge.outcome = .undecided → charge.status = .pending
  failed : charge.status = .failed → charge.outcome = .failed
  settled : charge.status = .pending ∨ charge.status = .failed ∨ charge.status = .succeeded
  paid : charge.status = .succeeded → charge.periodEnd < account.subscription.currentPeriodEnd

structure Sound (state : Charging) : Prop where
  each : ∀ (index : Nat) (charge : Charge), state.charges[index]? = some charge →
    ChargeSound state.clock state.account charge
  apart : ∀ (first second : Nat) (a b : Charge), first < second →
    state.charges[first]? = some a → state.charges[second]? = some b →
    a.periodEnd = b.periodEnd → a.outcome = .failed

theorem sound_started (clock : Moment) (account : Account) :
    Sound (Charging.started clock account) := by
  constructor
  · intro index charge stored
    simp [Charging.started] at stored
  · intro first second a b _ stored
    simp [Charging.started] at stored

theorem sound_once (state : Charging) (sound : Sound state) : ¬ CapturedTwice state.charges := by
  rintro ⟨first, second, a, b, before, storedA, storedB, same, captured, -⟩
  have failed := sound.apart first second a b before storedA storedB same
  rw [failed] at captured
  cases captured

theorem chargeSound_later (clock later : Moment) (account after : Account) (charge : Charge)
    (sound : ChargeSound clock account charge) (passed : clock ≤ later)
    (cycle : after.subscription.billingCycle = account.subscription.billingCycle)
    (period : after.subscription.currentPeriodEnd = account.subscription.currentPeriodEnd ∨
      clock < after.subscription.currentPeriodEnd) : ChargeSound later after charge where
  cyclic := cycle ▸ sound.cyclic
  past := le_trans sound.past passed
  waiting := sound.waiting
  undecided := sound.undecided
  failed := sound.failed
  settled := sound.settled
  paid succeeded := by
    rcases period with same | beyond
    · rw [same]
      exact sound.paid succeeded
    · exact lt_of_le_of_lt sound.past beyond

theorem sound_modified (state : Charging) (sound : Sound state) (clock : Moment)
    (account : Account) (index : Nat) (change : Charge → Charge)
    (sameEnd : ∀ charge, (change charge).periodEnd = charge.periodEnd)
    (final : ∀ charge, charge.outcome = .failed → (change charge).outcome = .failed)
    (others : ∀ charge, ChargeSound state.clock state.account charge →
      ChargeSound clock account charge)
    (changed : ∀ charge, state.charges[index]? = some charge →
      ChargeSound state.clock state.account charge → ChargeSound clock account (change charge)) :
    Sound ⟨clock, account, state.charges.modify index change⟩ := by
  constructor
  · intro place charge stored
    simp only [List.getElem?_modify] at stored
    obtain ⟨old, found, rfl⟩ := Option.map_eq_some_iff.mp stored
    have held := sound.each place old found
    by_cases here : index = place
    · subst here
      simpa using changed old found held
    · simpa [here] using others old held
  · intro first second a b before storedA storedB same
    simp only [List.getElem?_modify] at storedA storedB
    obtain ⟨oldA, foundA, rfl⟩ := Option.map_eq_some_iff.mp storedA
    obtain ⟨oldB, foundB, rfl⟩ := Option.map_eq_some_iff.mp storedB
    have sameOld : oldA.periodEnd = oldB.periodEnd := by
      have keptA : (if index = first then change oldA else oldA).periodEnd = oldA.periodEnd := by
        split
        · exact sameEnd oldA
        · rfl
      have keptB : (if index = second then change oldB else oldB).periodEnd = oldB.periodEnd := by
        split
        · exact sameEnd oldB
        · rfl
      exact keptA.symm.trans (same.trans keptB)
    have failed := sound.apart first second oldA oldB before foundA foundB sameOld
    split
    · exact final oldA failed
    · exact failed

/-! ### The steps -/

theorem chargeMade_some (now : Moment) (attempt : Attempt) (account : Account) (charge : Charge)
    (made : chargeMade now attempt account = some charge) :
    chargesCard now attempt account = true ∧
      charge = ⟨account.subscription.currentPeriodEnd,
        (attemptCharge .pending attempt.answer).status,
        (attemptCharge .pending attempt.answer).identified, attempt.answer,
        outcomeOf attempt.answer, false⟩ := by
  unfold chargeMade at made
  split at made
  · rename_i reached
    obtain ⟨plan, found, made⟩ := Option.bind_eq_some_iff.mp made
    obtain ⟨attempted, row, rfl⟩ := Option.map_eq_some_iff.mp made
    obtain ⟨rfl, -⟩ := charge_some _ _ _ _ row
    refine ⟨?_, rfl⟩
    by_cases free : computeRenewalChargeAmount plan ≤ 0
    · simp [Payments.charge, free] at row
    · cases configured : attempt.configured with
      | false => simp [Payments.charge, free, configured] at row
      | true => simpa [chargesCard, reached, configured, found] using lt_of_not_ge free
  · cases made

theorem chargeSound_made (now : Moment) (attempt : Attempt) (account : Account) (charge : Charge)
    (periodEnd : Moment) (due : dueForRenewal now account = true)
    (onward : now ≤ attempt.written) (made : chargeMade now attempt account = some charge)
    (added : addBillingCycle attempt.written account.subscription.billingCycle = some periodEnd)
    (cycle : (left (processRenewal now attempt.renewal) account).subscription.billingCycle =
      account.subscription.billingCycle) :
    ChargeSound attempt.written (left (processRenewal now attempt.renewal) account) charge := by
  simp only [dueForRenewal, Bool.and_eq_true, decide_eq_true_eq] at due
  obtain ⟨⟨⟨-, cyclic⟩, -⟩, finished⟩ := due
  have past := le_trans finished onward
  obtain ⟨-, shape⟩ := chargeMade_some _ _ _ _ made
  constructor
  · rw [cycle]
    exact cyclic
  · rw [shape]
    exact past
  · rw [shape]
    cases attempt.answer <;> simp [attemptCharge]
  · rw [shape]
    cases attempt.answer <;> simp [attemptCharge, outcomeOf]
  · rw [shape]
    cases attempt.answer <;> simp [attemptCharge, outcomeOf]
  · rw [shape]
    cases attempt.answer <;> simp [attemptCharge]
  · intro succeeded
    have kept : charge.periodEnd = account.subscription.currentPeriodEnd := by rw [shape]
    rw [captured_renews _ _ _ _ periodEnd made succeeded added, kept]
    exact lt_of_le_of_lt past (addBillingCycle_lt _ _ _ cyclic added)

theorem none_pending (state : Charging) (sound : Sound state) (now : Moment) (attempt : Attempt)
    (heard : EarlierHeard state (.processDueRenewals now attempt))
    (due : dueForRenewal now state.account = true)
    (charges : chargesCard now attempt state.account = true) :
    ∀ charge ∈ state.charges,
      charge.periodEnd = state.account.subscription.currentPeriodEnd → charge.status ≠ .pending := by
  -- Where the condition holds, no charge of the current period is PENDING.
  intro charge member same pending
  obtain ⟨index, found⟩ := List.getElem?_of_mem member
  obtain ⟨faultless, events⟩ := (heard due charges).1 charge member same
  rcases (sound.each index charge found).waiting pending with error | ⟨answered, unheard⟩
  · exact faultless error
  · rw [events answered] at unheard
    cases unheard

theorem sound_appended (state : Charging) (sound : Sound state) (clock : Moment)
    (account : Account) (made : Option Charge)
    (each : ∀ charge, ChargeSound state.clock state.account charge →
      ChargeSound clock account charge)
    (fresh : ∀ charge, made = some charge → ChargeSound clock account charge ∧
      ∀ earlier ∈ state.charges, earlier.periodEnd = charge.periodEnd → earlier.outcome = .failed) :
    Sound ⟨clock, account, state.charges ++ made.toList⟩ := by
  have place : ∀ index charge, (state.charges ++ made.toList)[index]? = some charge →
      state.charges[index]? = some charge ∨
        made = some charge ∧ index = state.charges.length := by
    intro index charge stored
    rcases lt_or_ge index state.charges.length with inside | outside
    · rw [List.getElem?_append_left inside] at stored
      exact .inl stored
    · rw [List.getElem?_append_right outside] at stored
      cases made with
      | none => simp at stored
      | some last =>
          have first : index - state.charges.length = 0 := by
            by_contra other
            obtain ⟨rest, eq⟩ := Nat.exists_eq_succ_of_ne_zero other
            simp [eq] at stored
          simp only [first, Option.toList_some, List.getElem?_cons_zero] at stored
          exact .inr ⟨stored, by omega⟩
  constructor
  · intro index charge stored
    rcases place index charge stored with old | ⟨new, -⟩
    · exact each charge (sound.each index charge old)
    · exact (fresh charge new).1
  · intro first second a b before storedA storedB same
    have oldA : state.charges[first]? = some a := by
      rcases place first a storedA with old | ⟨-, last⟩
      · exact old
      · rcases place second b storedB with old | ⟨-, lastB⟩
        · obtain ⟨inside, -⟩ := List.getElem?_eq_some_iff.mp old
          omega
        · omega
    rcases place second b storedB with oldB | ⟨new, -⟩
    · exact sound.apart first second a b before oldA oldB same
    · exact (fresh b new).2 a (List.mem_of_getElem? oldA) same

theorem sound_sweep (state : Charging) (sound : Sound state) (now : Moment) (attempt : Attempt)
    (heard : EarlierHeard state (.processDueRenewals now attempt)) (later : state.clock ≤ now)
    (onward : now ≤ attempt.written) (due : dueForRenewal now state.account = true) :
    Sound ⟨attempt.written, left (processRenewal now attempt.renewal) state.account,
      state.charges ++ (chargeMade now attempt state.account).toList⟩ := by
  have cyclic : state.account.subscription.billingCycle ∈ cyclicBillingCycles := by
    simp only [dueForRenewal, Bool.and_eq_true, decide_eq_true_eq] at due
    exact due.1.1.2
  have renews : ∀ renewal, Deed.renews (.item (.renew attempt.renewal)) renewal →
      state.clock ≤ renewal.written := by
    rintro renewal (asked | asked)
    · cases asked
    · cases asked
      exact le_trans later onward
  obtain ⟨cycle, period⟩ :=
    perform_period now state.clock 0 state.account (.item (.renew attempt.renewal)) cyclic later renews
  refine sound_appended state sound _ _ _ ?_ ?_
  · intro charge held
    exact chargeSound_later _ _ _ _ charge held (le_trans later onward) cycle period
  · intro charge made
    obtain ⟨charges, shape⟩ := chargeMade_some _ _ _ _ made
    obtain ⟨periodEnd, added⟩ := Option.isSome_iff_exists.mp (heard due charges).2
    refine ⟨chargeSound_made _ _ _ _ periodEnd due onward made added cycle, ?_⟩
    intro earlier member same
    have current : earlier.periodEnd = state.account.subscription.currentPeriodEnd := by
      rw [same, shape]
    obtain ⟨index, found⟩ := List.getElem?_of_mem member
    have held := sound.each index earlier found
    rcases held.settled with pending | failed | succeeded
    · exact absurd pending (none_pending state sound now attempt heard due charges earlier member current)
    · exact held.failed failed
    · have beyond := held.paid succeeded
      rw [current] at beyond
      exact absurd beyond (lt_irrefl _)

theorem confirmed_period (now : Moment) (gracePeriodDays : Nat) (account : Account)
    (plan : Option Plan) (cyclic : account.subscription.billingCycle ∈ cyclicBillingCycles)
    (calm : raised ((Request.confirmSucceeded plan).call now) account = false) :
    now < (perform now gracePeriodDays (.request (.confirmSucceeded plan))
      account).subscription.currentPeriodEnd := by
  cases plan with
  | none => simp [raised, Request.call, confirmRenewalPaymentSucceeded] at calm
  | some plan =>
      simp only [perform, Request.call, raised, committed, confirmRenewalPaymentSucceeded,
        run_markRenewed] at calm ⊢
      cases added : addBillingCycle now account.subscription.billingCycle with
      | none => simp [added] at calm
      | some periodEnd => exact addBillingCycle_lt _ _ _ cyclic added

theorem resolved_cases (clock : Moment) (account : Account) (charge : Charge) (succeeded : Bool)
    (sound : ChargeSound clock account charge) :
    (charge.status = .pending ∧ (charge.resolved succeeded).status =
        if succeeded then .succeeded else .failed) ∨
      charge.status ≠ .pending ∧ (charge.resolved succeeded).status = charge.status := by
  -- An event resolves a PENDING row; a row resolved before keeps its status.
  rcases sound.settled with was | was | was <;>
    simp [Charge.resolved, resolvedStatus, alreadyResolved, was]

theorem chargeSound_resolved (clock : Moment) (account : Account) (charge : Charge)
    (succeeded : Bool) (sound : ChargeSound clock account charge)
    (decided : charge.outcome = if succeeded then .captured else .failed)
    (advanced : succeeded = true → charge.periodEnd < account.subscription.currentPeriodEnd) :
    ChargeSound clock account (charge.resolved succeeded) := by
  have outcome : (charge.resolved succeeded).outcome = if succeeded then .captured else .failed :=
    decided
  have final : (charge.resolved succeeded).outcome ≠ .undecided := by
    cases succeeded <;> simp [outcome]
  rcases resolved_cases clock account charge succeeded sound with ⟨-, status⟩ | ⟨was, status⟩
  · -- The event wrote the status, so it agrees with what the provider decided.
    constructor
    · exact sound.cyclic
    · exact sound.past
    · intro pending
      cases succeeded <;> simp [status] at pending
    · intro undecided
      exact absurd undecided final
    · intro failed
      cases succeeded <;> simp [status, outcome] at failed ⊢
    · cases succeeded <;> simp [status]
    · intro paid
      cases succeeded with
      | true => exact advanced rfl
      | false => simp [status] at paid
  · constructor
    · exact sound.cyclic
    · exact sound.past
    · intro pending
      exact absurd (status.symm.trans pending) was
    · intro undecided
      exact absurd undecided final
    · intro failed
      exact sound.failed (status.symm.trans failed)
    · rw [status]
      exact sound.settled
    · intro paid
      exact sound.paid (status.symm.trans paid)

theorem sound_confirm (now : Moment) (gracePeriodDays : Nat) (state : Charging)
    (sound : Sound state) (index : Nat) (charge : Charge) (succeeded : Bool) (request : Request)
    (found : state.charges[index]? = some charge) (later : state.clock ≤ now)
    (decided : charge.outcome = if succeeded then .captured else .failed)
    (idle : ∀ renewal, ¬ Deed.renews (.request request) renewal)
    (advances : state.account.subscription.billingCycle ∈ cyclicBillingCycles → succeeded = true →
      raised (request.call now) state.account = false →
      now < (perform now gracePeriodDays (.request request)
        state.account).subscription.currentPeriodEnd) :
    Sound (confirm now gracePeriodDays state index charge succeeded request) := by
  have held := sound.each index charge found
  unfold confirm
  split
  · rename_i applied
    simp only [Bool.and_eq_true, Bool.not_eq_true'] at applied
    obtain ⟨cycle, period⟩ := perform_period now state.clock gracePeriodDays state.account
      (.request request) held.cyclic later fun renewal asked => absurd asked (idle renewal)
    refine sound_modified state sound _ _ index _ (fun _ => rfl) (fun _ failed => failed) ?_ ?_
    · intro other soundOther
      exact chargeSound_later _ _ _ _ other soundOther later cycle period
    · intro stored same _
      obtain rfl : charge = stored := Option.some.inj (found.symm.trans same)
      have moved := chargeSound_later _ _ _ _ charge held later cycle period
      refine chargeSound_resolved _ _ charge succeeded moved decided fun captured => ?_
      exact lt_of_le_of_lt moved.past (advances held.cyclic captured applied.2)
  · constructor
    · intro place other stored
      exact chargeSound_later _ _ _ _ other (sound.each place other stored) later rfl (.inl rfl)
    · exact sound.apart

theorem sound_decided (state : Charging) (sound : Sound state) (index : Nat) (charge : Charge)
    (captured : Bool) (found : state.charges[index]? = some charge)
    (undecided : charge.outcome = .undecided) :
    Sound { state with
      charges := state.charges.modify index fun charge => charge.decided captured } := by
  -- `sound_modified` wants a failure kept: only an undecided charge is decided here.
  have once : state.charges.modify index (fun charge => charge.decided captured) =
      state.charges.modify index fun charge =>
        if charge.outcome = .undecided then charge.decided captured else charge := by
    apply List.ext_getElem?
    intro place
    simp only [List.getElem?_modify]
    by_cases here : index = place
    · subst here
      simp [found, undecided]
    · simp [here]
  rw [once]
  refine sound_modified state sound _ _ index _ ?_ ?_ (fun _ held => held) ?_
  · intro other
    split <;> rfl
  · intro other failed
    simp [failed]
  · intro stored same held
    obtain rfl : charge = stored := Option.some.inj (found.symm.trans same)
    have pending := held.undecided undecided
    simp only [undecided, ↓reduceIte]
    constructor
    · exact held.cyclic
    · exact held.past
    · exact held.waiting
    · intro still
      cases captured <;> simp [Charge.decided] at still
    · intro failed
      simp [Charge.decided, pending] at failed
    · exact held.settled
    · exact held.paid

theorem sound_step (gracePeriodDays : Nat) (state next : Charging) (action : Action)
    (sound : Sound state) (heard : EarlierHeard state action)
    (stepped : step gracePeriodDays state action = some next) : Sound next := by
  cases action with
  | processDueRenewals now attempt =>
      simp only [step] at stepped
      split at stepped
      · rename_i ordered
        split at stepped
        · rename_i due
          cases stepped
          exact sound_sweep state sound now attempt heard ordered.1 ordered.2 due
        · cases stepped
          constructor
          · intro index charge stored
            exact chargeSound_later _ _ _ _ charge (sound.each index charge stored)
              (le_trans ordered.1 ordered.2) rfl (.inl rfl)
          · exact sound.apart
      · cases stepped
  | providerDecides index captured =>
      simp only [step] at stepped
      split at stepped
      · rename_i charge found
        split at stepped
        · rename_i undecided
          cases stepped
          exact sound_decided state sound index charge captured found undecided
        · cases stepped
      · cases stepped
  | successEvent now index plan =>
      simp only [step] at stepped
      split at stepped
      · rename_i charge found
        split at stepped
        · rename_i enabled
          cases stepped
          refine sound_confirm now gracePeriodDays state sound index charge true _ found enabled.1
            enabled.2 ?_ ?_
          · rintro renewal (asked | asked) <;> cases asked
          · intro cyclic _ calm
            exact confirmed_period now gracePeriodDays state.account plan cyclic calm
        · cases stepped
      · cases stepped
  | failureEvent now index =>
      simp only [step] at stepped
      split at stepped
      · rename_i charge found
        split at stepped
        · rename_i enabled
          cases stepped
          refine sound_confirm now gracePeriodDays state sound index charge false _ found enabled.1
            enabled.2 ?_ ?_
          · rintro renewal (asked | asked) <;> cases asked
          · intro _ impossible
            cases impossible
        · cases stepped
      · cases stepped
  | other now deed =>
      simp only [step] at stepped
      split at stepped
      · rename_i enabled
        cases stepped
        obtain ⟨later, chargeless, -⟩ := enabled
        have idle : ∀ renewal, deed.renews renewal → state.clock ≤ renewal.written := by
          rintro renewal (rfl | rfl) <;> simp [startsCharge] at chargeless
        constructor
        · intro index charge stored
          have held := sound.each index charge stored
          obtain ⟨cycle, period⟩ :=
            perform_period now state.clock gracePeriodDays state.account deed held.cyclic later idle
          exact chargeSound_later _ _ _ _ charge held later cycle period
        · exact sound.apart
      · cases stepped

/-- In a run where an earlier charge of a period has always been answered, and heard of where it
was pending, before a sweep charges for the period again, no period is captured twice; and no
sweep charges while a charge for the same period is PENDING. -/
theorem period_captured_once (gracePeriodDays : Nat) (clock : Moment) (account : Account)
    (state : Charging)
    (reached : Reached (step gracePeriodDays) EarlierHeard (Charging.started clock account) state) :
    ¬ CapturedTwice state.charges ∧
      ∀ now attempt, EarlierHeard state (.processDueRenewals now attempt) →
        dueForRenewal now state.account = true → chargesCard now attempt state.account = true →
        ∀ charge ∈ state.charges,
          charge.periodEnd = state.account.subscription.currentPeriodEnd →
          charge.status ≠ .pending := by
  have sound : Sound state := by
    apply Reached.invariant Sound (sound_started clock account) _ reached
    intro state action next held heard stepped
    exact sound_step gracePeriodDays state next action held heard stepped
  exact ⟨sound_once state sound, none_pending state sound⟩

section Executed

instance (state : Charging) (action : Action) : Decidable (EarlierHeard state action) :=
  match action with
  | .processDueRenewals now attempt =>
      inferInstanceAs (Decidable (dueForRenewal now state.account = true →
        chargesCard now attempt state.account = true →
        (∀ charge ∈ state.charges,
          charge.periodEnd = state.account.subscription.currentPeriodEnd →
          charge.answer ≠ .error ∧ (charge.answer = .pending → charge.heard = true)) ∧
        (addBillingCycle attempt.written state.account.subscription.billingCycle).isSome = true))
  | .providerDecides _ _ => inferInstanceAs (Decidable True)
  | .successEvent _ _ _ => inferInstanceAs (Decidable True)
  | .failureEvent _ _ => inferInstanceAs (Decidable True)
  | .other _ _ => inferInstanceAs (Decidable True)

def firstEnd : Moment := day 31

def monthly : Account := newAccount (day 0) starterPlan .active firstEnd none

def sweepAnswered (number : Fin 100) (answer : ProviderAnswer) : Action :=
  .processDueRenewals (day number) ⟨some starterPlan, true, answer, day number, {}⟩

/-- Pending on day 31, failed and heard of, declined on day 32 and captured on day 33. -/
theorem period_captured_once_retried :
    ∃ state, Reached (step 7) EarlierHeard (Charging.started (day 0) monthly) state ∧
      state.charges.map Charge.outcome = [.failed, .failed, .captured] ∧
      ¬ CapturedTwice state.charges := by
  obtain ⟨state, reached, seen⟩ := run_observed (step 7) (Charging.started (day 0) monthly)
    (fun state action => decide (EarlierHeard state action))
    (fun state => state.charges.map Charge.outcome = [.failed, .failed, .captured])
    (fun _ _ checked => of_decide_eq_true checked)
    [sweepAnswered 31 .pending, .providerDecides 0 false, .failureEvent (day 31) 0,
      sweepAnswered 32 .declined, sweepAnswered 33 .succeeded] (by decide +kernel)
  exact ⟨state, reached, by simpa using seen, (period_captured_once 7 _ _ state reached).1⟩

/-- Pending on day 31, captured on day 32 by the next sweep, and then the first one too. -/
theorem pending_period_captured_twice :
    createSubscription (day 0) 14 (some starterPlan) = .ok monthly ∧
    ∃ state, Reached (step 7) (fun _ _ => True) (Charging.started (day 0) monthly) state ∧
      CapturedTwice state.charges := by
  refine ⟨by decide +kernel, ?_⟩
  obtain ⟨state, reached, seen⟩ := run_observed (step 7) (Charging.started (day 0) monthly)
    (fun _ _ => true)
    (fun state => state.charges.map (fun charge => (charge.periodEnd, charge.outcome)) =
      [(day 31, .captured), (day 31, .captured)])
    (fun _ _ _ => trivial)
    [sweepAnswered 31 .pending, sweepAnswered 32 .succeeded, .providerDecides 0 true]
    (by decide +kernel)
  refine ⟨state, reached, ?_⟩
  simp only [decide_eq_true_eq] at seen
  match charges : state.charges with
  | [] => simp [charges] at seen
  | [_] => simp [charges] at seen
  | [a, b] =>
      simp only [charges, List.map_cons, List.map_nil, List.cons.injEq, Prod.mk.injEq,
        and_true] at seen
      exact ⟨0, 1, a, b, Nat.zero_lt_one, rfl, rfl, seen.1.1.trans seen.2.1.symm, seen.1.2, seen.2.2⟩
  | _ :: _ :: _ :: _ => simp [charges] at seen

end Executed

end CloudGuest.RenewalCharges
