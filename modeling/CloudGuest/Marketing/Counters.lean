import CloudGuest.Marketing.Coverage

/-!
The counters on a campaign row against the recipients they stand for. Every
operation that moves a recipient out of `pending` or `sending` takes it off
`count_pending`, but for the reaper, which only adds to `count_failed`.
-/

namespace CloudGuest.Marketing
open Texts Tables CreditLedger Runs

structure CountersAgree (state : State) (campaignId : Uuid) : Prop where
  pending : (state.campaigns campaignId).countPending =
    (countPending state campaignId + countInFlight state campaignId : Nat)
  submitted : (state.campaigns campaignId).countSubmitted =
    tally state.recipients campaignId .submitted
  failed : (state.campaigns campaignId).countFailed = tally state.recipients campaignId .failed
  skipped : (state.campaigns campaignId).countSkipped = tally state.recipients campaignId .skipped
  sum : (state.campaigns campaignId).countPending + (state.campaigns campaignId).countSubmitted +
    (state.campaigns campaignId).countFailed + (state.campaigns campaignId).countSkipped =
      (state.campaigns campaignId).recipientCount

/-! ### One campaign -/

structure Counted (v : View) : Prop where
  pending : v.countPending = (v.rows.pending + v.rows.sending : Nat)
  submitted : v.countSubmitted = v.rows.submitted
  failed : v.countFailed = v.rows.failed
  skipped : v.countSkipped = v.rows.skipped
  sum : v.countPending + v.countSubmitted + v.countFailed + v.countSkipped = v.recipientCount

def unreaped (label : Label) (_ : View) : Prop := label ≠ .reap

theorem counted_move (label : Label) (before later : View) (permitted : unreaped label before)
    (counted : Counted before) (move : Move before label later) : Counted later := by
  obtain ⟨pending, submitted, failed, skipped, sum⟩ := counted
  cases move with
  | schedule | unschedule | delete | launch | refuse | finalize | settle | begin | count | abort =>
      exact ⟨pending, submitted, failed, skipped, sum⟩
  | materialize number out sending free empty covered unpriced =>
      simp only [empty, noRows] at pending submitted failed skipped
      constructor <;> simp only [noRows] <;> omega
  | commit closing inFlight swept opened number ended split =>
      constructor <;> dsimp only <;> omega
  | claim number left free enough unlocked =>
      constructor <;> dsimp only <;> omega
  | skip sending held free | fail sending held free =>
      constructor <;> dsimp only <;> omega
  | submit sending amount held free nonneg bounded =>
      constructor <;> dsimp only <;> omega
  | retry sending free held unlocked =>
      constructor <;> dsimp only <;> omega
  | failUnsent sending claimed own free held =>
      constructor <;> dsimp only <;> omega
  | reapDeleted | reap => exact absurd rfl permitted

/-! ### Every run -/

def NeverReaps (_ : State) (action : Action) : Prop := withoutReaping action = true

theorem unreaped_permits (state : State) (action : Action) (never : NeverReaps state action) :
    Permits unreaped state action := by
  cases action with
  | reap => cases never
  | claim =>
      intro _ working busy same
      cases same
  | schedule | dispatch =>
      intro v same
      cases same
  | skipCancelled | skipRechecked | submit | fail | retry | finalize =>
      intro working busy same
      cases same
  | begin campaignId cause =>
      cases cause with
      | dispatchFailed =>
          intro same
          cases same
      | _ => trivial
  | _ => trivial

theorem initial_counted (campaignId : Uuid) : Counted (view .initial campaignId) :=
  ⟨rfl, rfl, rfl, rfl, rfl⟩

theorem unreaped_counted (state : State) (reached : Reached step NeverReaps .initial state) :
    Base state ∧ ∀ campaignId, Counted (view state campaignId) := by
  refine reached.invariant (fun state => Base state ∧ ∀ campaignId, Counted (view state campaignId))
    ⟨initial_base, initial_counted⟩ ?_
  intro before action later ⟨base, counted⟩ never stepped
  refine ⟨base_step before later action base (withoutReaping_spares before action never) stepped, ?_⟩
  refine step_keeps unreaped Counted before later action ?_ base
    (unreaped_permits before action never) counted_move stepped counted
  intro v same
  cases same

/-- In a run in which no recipient is reaped the counters of every campaign
agree with its recipients in every state. -/
theorem counters_agree_unreaped (state : State) (reached : Reached step NeverReaps .initial state)
    (campaignId : Uuid) : CountersAgree state campaignId := by
  obtain ⟨_, counted⟩ := unreaped_counted state reached
  obtain ⟨pending, submitted, failed, skipped, sum⟩ := counted campaignId
  exact ⟨pending, submitted, failed, skipped, sum⟩

/-- One guest's recipient is in flight and still counted as pending. -/
theorem counters_agree_in_flight :
    ∃ state, countInFlight state (sampleId 'c') = 1 ∧
      (state.campaigns (sampleId 'c')).countPending = 1 ∧ CountersAgree state (sampleId 'c') := by
  obtain ⟨state, reached, observed⟩ := run_observed step .initial
    (fun _ action => withoutReaping action)
    (fun state => decide (countInFlight state (sampleId 'c') = 1 ∧
      (state.campaigns (sampleId 'c')).countPending = 1)) (fun _ _ never => never)
    (sentNow ++ [.start 0 (sampleId 'c'), .claim 0 [sampleId 'r']]) (by decide +kernel)
  obtain ⟨inFlight, counter⟩ := of_decide_eq_true observed
  exact ⟨state, inFlight, counter, counters_agree_unreaped state reached (sampleId 'c')⟩

/-- The worker of the only recipient died and the row was reaped: nothing is
pending or in flight, and `count_pending` stays at one. -/
theorem reaped_recipient_stays_counted :
    ∃ state, Reached step SparesWorkers .initial state ∧ ¬ CountersAgree state (sampleId 'c') := by
  obtain ⟨state, reached, _, observed⟩ := reap_observed 1
    (sentNow ++ [.start 0 (sampleId 'c'), .claim 0 [sampleId 'r'], .crash 0,
      .tick (16 * 60 * second)]) {} (sampleId 'c')
    (fun state => decide ((state.campaigns (sampleId 'c')).countPending = 1 ∧
      countPending state (sampleId 'c') = 0 ∧ countInFlight state (sampleId 'c') = 0))
    (by decide +kernel)
  obtain ⟨counter, pending, inFlight⟩ := of_decide_eq_true observed
  refine ⟨state, reached, ?_⟩
  intro agree
  have equal := agree.pending
  rw [counter, pending, inFlight] at equal
  omega

end CloudGuest.Marketing
