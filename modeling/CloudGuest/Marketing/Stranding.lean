import CloudGuest.Marketing.Coverage

/-!
A campaign that ended leaves no recipient pending: nobody would ever claim it.
The sweep of a cancel takes what is pending at that instant, and a worker that
found nothing pending finalizes without looking again; both miss a recipient
that a transient error puts back to pending afterwards.
-/

namespace CloudGuest.Marketing
open Texts Tables CreditLedger Runs

def NoneDrained (state : State) (campaignId : Uuid) : Prop :=
  ∀ worker working, state.workers worker = some working → working.campaignId = campaignId →
    working.stage ≠ .drained

/-- A recipient goes back to pending only while its campaign is sending and
nobody is ending it, and a dispatch fails only with nothing pending. -/
def RetriesWhileSending (state : State) : Action → Prop
  | .retry worker _ => ∀ working, state.workers worker = some working →
      stillSending state working.campaignId ∧ NoneDrained state working.campaignId
  | .begin campaignId .dispatchFailed => (state.campaigns campaignId).status = .sending →
      countPending state campaignId = 0
  | _ => True

/-! ### One campaign -/

structure Unstranded (v : View) : Prop where
  regular : Regular v
  ended : v.status.terminal = true → v.rows.pending = 0
  sweeping : ∀ closing, v.closing = some closing → closing.sweeps = true → v.rows.free = 0
  unswept : ∀ closing, v.closing = some closing → closing.sweeps = false → v.rows.pending = 0

def retriesOpen : Label → View → Prop
  | .retry, v => v.status = .sending ∧ v.closing = none
  | .finish, v | .failDispatch, v => v.status = .sending → v.rows.pending = 0
  | _, _ => True

theorem status_cases (status : CampaignStatus) :
    (status = .draft ∨ status = .scheduled) ∨ status = .sending ∨ status.terminal = true := by
  cases status <;> simp [CampaignStatus.terminal]

theorem unstranded_move (label : Label) (before later : View) (permitted : retriesOpen label before)
    (unstranded : Unstranded before) (move : Move before label later) : Unstranded later := by
  have regular := regular_move label before later unstranded.regular move
  obtain ⟨was, ended, sweeping, unswept⟩ := unstranded
  cases move with
  | schedule target per reserved draft free live more unpriced =>
      refine ⟨regular, ?_, sweeping, unswept⟩
      intro _
      simp [(was.fresh (.inl draft)).1, noRows]
  | unschedule scheduled free => exact ⟨regular, by simp [CampaignStatus.terminal], sweeping, unswept⟩
  | delete => exact ⟨regular, ended, sweeping, unswept⟩
  | launch scheduled free => exact ⟨regular, by simp [CampaignStatus.terminal], sweeping, unswept⟩
  | materialize number out sending free empty covered unpriced =>
      exact ⟨regular, by simp [sending, CampaignStatus.terminal], by simp [free], by simp [free]⟩
  | refuse out scheduled free kept unpriced =>
      refine ⟨regular, ?_, sweeping, unswept⟩
      intro _
      simp [(was.fresh (.inr scheduled)).1, noRows]
  | finalize target sending free drained ends => exact ⟨regular, fun _ => drained, sweeping, unswept⟩
  | settle => exact ⟨regular, ended, sweeping, unswept⟩
  | begin label target sweeps free ends bare opened =>
      refine ⟨regular, ended, ?_, ?_⟩
      · rintro closing ⟨⟩ swept
        have sweeps' : sweeps = true := swept
        simp [sweeps']
      · -- Without a sweep nothing may be pending, whichever way the campaign ends.
        rintro closing ⟨⟩ without
        rcases bare without with scheduled | rfl | rfl
        · simp [(was.fresh (.inr scheduled)).1, noRows]
        · rcases status_cases before.status with fresh | sending | terminal
          · simp [(was.fresh fresh).1, noRows]
          · exact permitted sending
          · exact ended terminal
        · exact permitted (opened rfl)
  | count closing opened uncounted =>
      refine ⟨regular, ended, ?_, ?_⟩
      · rintro counted ⟨⟩ swept
        exact sweeping closing opened swept
      · rintro counted ⟨⟩ without
        exact unswept closing opened without
  | abort => exact ⟨regular, ended, by simp, by simp⟩
  | commit closing held swept opened number ends split =>
      refine ⟨regular, ?_, by simp, by simp⟩
      intro _
      show before.rows.free = 0
      cases sweeps : closing.sweeps with
      | true => exact sweeping closing opened sweeps
      | false =>
          have none := unswept closing opened sweeps
          omega
  | claim number pending free enough unlocked =>
      refine ⟨regular, ?_, ?_, ?_⟩
      · intro terminal
        have none := ended terminal
        show pending = 0
        omega
      · intro closing opened swept
        have none := sweeping closing opened swept
        show free = 0
        omega
      · intro closing opened without
        have none := unswept closing opened without
        show pending = 0
        omega
  | skip sending held free | fail sending held free | submit sending amount held free nonneg bounded =>
      exact ⟨regular, ended, sweeping, unswept⟩
  | retry sending free held unlocked =>
      obtain ⟨still, closed⟩ := permitted
      exact ⟨regular, by simp [still, CampaignStatus.terminal], by simp [closed], by simp [closed]⟩
  | failUnsent sending claimed own free held =>
      exact ⟨regular, fun _ => rfl, by simp [free], by simp [free]⟩
  | reapDeleted number sending positive held free deleted =>
      exact ⟨regular, ended, sweeping, unswept⟩
  | reap number sending status positive held free kept ends =>
      refine ⟨regular, ?_, sweeping, unswept⟩
      intro terminal
      rcases ends with rfl | ⟨_, none, _⟩
      · exact ended terminal
      · exact none

/-! ### A worker about to finalize -/

/-- Seen from a worker: its campaign was launched, and keeps nothing pending. -/
structure Quiet (v : View) : Prop where
  launched : ¬ (v.status = .draft ∨ v.status = .scheduled)
  nothing : v.status = .sending → v.rows.pending = 0

def neverRefills (label : Label) (_ : View) : Prop := label ≠ .fill ∧ label ≠ .retry

def launched (v : View) : Prop := ¬ (v.status = .draft ∨ v.status = .scheduled)

theorem terminal_launched (status : CampaignStatus) (terminal : status.terminal = true) :
    ¬ (status = .draft ∨ status = .scheduled) := by
  cases status <;> simp_all [CampaignStatus.terminal]

theorem launched_move (label : Label) (before later : View) (was : launched before)
    (move : Move before label later) : launched later := by
  cases move with
  | schedule target per reserved draft free live more unpriced => exact absurd (.inl draft) was
  | unschedule scheduled free => exact absurd (.inr scheduled) was
  | launch scheduled free => exact absurd (.inr scheduled) was
  | refuse out scheduled free kept unpriced => exact absurd (.inr scheduled) was
  | finalize target sending free drained ends =>
      rcases ends with rfl | rfl
      · simp [launched]
      · simp [launched]
  | commit closing held swept opened number ends split => exact terminal_launched _ ends
  | reap number sending status positive held free kept ends =>
      rcases ends with rfl | ⟨_, _, rfl | rfl⟩
      · exact was
      · simp [launched]
      · simp [launched]
  | delete | materialize | settle | begin | count | abort | claim | skip | fail | submit | retry
    | failUnsent | reapDeleted => exact was

theorem quiet_move (label : Label) (before later : View) (permitted : neverRefills label before)
    (quiet : Quiet before) (move : Move before label later) : Quiet later := by
  have still := launched_move label before later quiet.launched move
  obtain ⟨was, nothing⟩ := quiet
  refine ⟨still, ?_⟩
  cases move with
  | schedule target per reserved draft free live more unpriced => exact absurd (.inl draft) was
  | unschedule scheduled free => exact absurd (.inr scheduled) was
  | launch scheduled free => exact absurd (.inr scheduled) was
  | refuse out scheduled free kept unpriced => exact absurd (.inr scheduled) was
  | materialize => exact absurd rfl permitted.1
  | retry => exact absurd rfl permitted.2
  | finalize target sending free drained ends => exact fun _ => drained
  | commit closing held swept opened number ends split =>
      intro sending
      have target : closing.target = .sending := sending
      rw [target] at ends
      cases ends
  | claim number pending free enough unlocked =>
      intro sending
      have none := nothing sending
      show pending = 0
      omega
  | failUnsent => exact fun _ => rfl
  | reap number sending status positive held free kept ends =>
      intro sendingNow
      rcases ends with rfl | ⟨_, none, _⟩
      · exact nothing sendingNow
      · exact none
  | delete | settle | begin | count | abort | skip | fail | submit | reapDeleted => exact nothing

/-! ### Every run -/

structure Kept (state : State) : Prop where
  base : Base state
  unstranded : ∀ campaignId, Unstranded (view state campaignId)
  launched : ∀ worker working, state.workers worker = some working →
    launched (view state working.campaignId)
  drained : ∀ worker working, state.workers worker = some working → working.stage = .drained →
    Quiet (view state working.campaignId)

theorem initial_kept : Kept .initial where
  base := initial_base
  unstranded := by
    intro campaignId
    refine ⟨initial_base.regular campaignId, fun _ => rfl, ?_, ?_⟩
    · intro closing opened
      cases opened
    · intro closing opened
      cases opened
  launched := by
    intro worker working busy
    cases busy
  drained := by
    intro worker working busy
    cases busy

theorem retriesOpen_permits (state later : State) (action : Action) (kept : Kept state)
    (met : RetriesWhileSending state action) (stepped : step state action = some later) :
    Permits retriesOpen state action := by
  cases action with
  | retry worker code =>
      intro working busy
      obtain ⟨⟨sending, free⟩, _⟩ := met working busy
      exact ⟨sending, by simp [view, free]⟩
  | finalize worker =>
      intro working busy
      obtain ⟨campaignId, startedAt, drained, _⟩ := finalize_some _ _ _ stepped
      rw [busy] at drained
      cases drained
      exact (kept.drained worker _ busy rfl).nothing
  | begin campaignId cause =>
      cases cause with
      | dispatchFailed => exact met
      | _ => trivial
  | schedule | dispatch => exact fun _ => trivial
  | claim => exact fun _ _ _ => trivial
  | skipCancelled | skipRechecked | submit | fail => exact fun _ _ => trivial
  | _ => trivial

theorem step_launched (state later : State) (action : Action) (base : Base state)
    (stepped : step state action = some later) (campaignId : Uuid)
    (was : launched (view state campaignId)) : launched (view later campaignId) := by
  have effects : Effects (fun _ _ => True) state later (action.campaign state) :=
    step_effects state later action (fun _ => trivial) base (permits_all state action) stepped
  exact (effects.moves campaignId).invariant
    (fun label before after _ => launched_move label before after) was

theorem kept_launched (state later : State) (action : Action) (kept : Kept state)
    (stepped : step state action = some later) (worker : Nat) (working : Working)
    (busy : later.workers worker = some working) : launched (view later working.campaignId) := by
  refine step_launched state later action kept.base stepped working.campaignId ?_
  rcases step_comesFrom state later action stepped worker working busy with
    ⟨old, was, campaign, _⟩ | ⟨_, _, sending⟩
  · rw [← campaign]
    exact kept.launched worker old was
  · have status : (view state working.campaignId).status = .sending := sending
    simp [launched, status]

theorem neverRefills_permits (state : State) (action : Action)
    (retries : ∀ worker code, action ≠ .retry worker code)
    (schedules : ∀ session campaignId request, action ≠ .schedule session campaignId request)
    (dispatches : ∀ session campaignId audience, action ≠ .dispatch session campaignId audience) :
    Permits neverRefills state action := by
  have others : ∀ label : Label, label ≠ .fill → label ≠ .retry → ∀ v, neverRefills label v :=
    fun _ notFill notRetry _ => ⟨notFill, notRetry⟩
  cases action with
  | retry worker code => exact absurd rfl (retries worker code)
  | schedule session campaignId request => exact absurd rfl (schedules session campaignId request)
  | dispatch session campaignId audience => exact absurd rfl (dispatches session campaignId audience)
  | claim => exact fun _ _ _ => others _ (by simp) (by simp) _
  | skipCancelled | skipRechecked | submit | fail | finalize =>
      exact fun _ _ => others _ (by simp) (by simp) _
  | reap session campaignId => exact others .reap (by simp) (by simp) (view state campaignId)
  | begin campaignId cause =>
      cases cause with
      | dispatchFailed =>
          exact others .failDispatch (by simp) (by simp) (view state campaignId)
      | _ => trivial
  | _ => trivial

theorem step_quiet (state later : State) (action : Action) (kept : Kept state)
    (met : RetriesWhileSending state action) (stepped : step state action = some later)
    (worker : Nat) (working : Working) (busy : state.workers worker = some working)
    (drained : working.stage = .drained) : Quiet (view later working.campaignId) := by
  have quiet := kept.drained worker working busy drained
  have elsewhere : action.campaign state ≠ some working.campaignId →
      Quiet (view later working.campaignId) := by
    intro different
    have effects : Effects (fun _ _ => True) state later (action.campaign state) :=
      step_effects state later action (fun _ => trivial) kept.base (permits_all state action) stepped
    rw [effects.elsewhere working.campaignId different]
    exact quiet
  by_cases here : action.campaign state = some working.campaignId
  · by_cases refills : Permits neverRefills state action
    · have effects := step_effects state later action (fun _ => ⟨by simp, by simp⟩) kept.base refills
        stepped
      exact (effects.moves working.campaignId).invariant quiet_move quiet
    · -- A retry is excluded by the condition, a dispatch by the campaign's status.
      exfalso
      refine refills (neverRefills_permits state action ?_ ?_ ?_)
      · rintro other code rfl
        obtain ⟨retrying, was, same⟩ := Option.map_eq_some_iff.mp here
        exact (met retrying was).2 worker working busy same.symm drained
      · rintro session campaignId request rfl
        cases here
        obtain ⟨guard, _⟩ := schedule_some _ _ _ _ _ stepped
        obtain ⟨draft, _⟩ := (claimsRow_iff _ _ _).mp guard
        exact quiet.launched (.inl (by simpa [view] using draft))
      · rintro session campaignId audience rfl
        cases here
        obtain ⟨guard, _⟩ := dispatchDue_some _ _ _ _ _ stepped
        obtain ⟨due, _⟩ := (claimsRow_iff _ _ _).mp guard
        exact quiet.launched (.inr (by simpa [view] using due))
  · exact elsewhere here

theorem kept_drained (state later : State) (action : Action) (kept : Kept state)
    (met : RetriesWhileSending state action) (stepped : step state action = some later)
    (worker : Nat) (working : Working) (busy : later.workers worker = some working)
    (drained : working.stage = .drained) : Quiet (view later working.campaignId) := by
  rcases step_workers state later action stepped with same | ⟨moved, others, move⟩
  · exact step_quiet state later action kept met stepped worker working (same ▸ busy) drained
  · by_cases here : worker = moved
    · subst here
      rw [busy] at move
      generalize was : state.workers worker = old at move
      cases move with
      | drained campaignId startedAt nothing counts =>
          subst counts
          obtain ⟨_, _, _, ⟨_, rfl⟩ | rfl⟩ := endCount_some _ _ _ stepped
          · have open' := kept.launched worker _ was
            exact ⟨open', fun _ => nothing⟩
          · simp at busy
      | started | claimed | checked | wrote | refreshed => cases drained
    · rw [others worker here] at busy
      exact step_quiet state later action kept met stepped worker working busy drained

/-- Reaped recipients have no live worker, and retries happen while sending. -/
def Retrying (state : State) (action : Action) : Prop :=
  SparesWorkers state action ∧ RetriesWhileSending state action

theorem kept_step (state later : State) (action : Action) (kept : Kept state)
    (met : Retrying state action) (stepped : step state action = some later) : Kept later where
  base := base_step state later action kept.base met.1 stepped
  unstranded := step_keeps retriesOpen Unstranded state later action (fun _ => trivial) kept.base
    (retriesOpen_permits state later action kept met.2 stepped) unstranded_move stepped kept.unstranded
  launched := kept_launched state later action kept stepped
  drained := kept_drained state later action kept met.2 stepped

/-- In a run whose retries all happen while the campaign is sending and nobody
is ending it, a campaign that ended has no pending recipient. -/
theorem ended_campaign_strands_nobody (state : State) (reached : Reached step Retrying .initial state)
    (campaignId : Uuid) (ended : (state.campaigns campaignId).status.terminal = true) :
    countPending state campaignId = 0 := by
  have kept := reached.invariant Kept initial_kept fun before action later holds met stepped =>
    kept_step before later action holds met stepped
  exact (kept.unstranded campaignId).ended ended

def uneventful : Action → Bool
  | .reap .. | .retry .. | .begin _ .dispatchFailed => false
  | _ => true

theorem uneventful_retrying (state : State) (action : Action) (plain : uneventful action = true) :
    Retrying state action := by
  cases action with
  | reap => cases plain
  | retry => cases plain
  | begin campaignId cause =>
      cases cause with
      | dispatchFailed => cases plain
      | _ => exact ⟨trivial, trivial⟩
  | _ => exact ⟨trivial, trivial⟩

/-- A cancel skips the one recipient that was pending. -/
theorem ended_campaign_strands_nobody_cancelled :
    ∃ state, (state.campaigns (sampleId 'c')).status = .cancelled ∧
      tally state.recipients (sampleId 'c') .skipped = 1 ∧ countPending state (sampleId 'c') = 0 := by
  obtain ⟨state, reached, observed⟩ := run_observed step .initial (fun _ action => uneventful action)
    (fun state => decide ((state.campaigns (sampleId 'c')).status = .cancelled ∧
      tally state.recipients (sampleId 'c') .skipped = 1)) uneventful_retrying
    (sentNow ++ [.begin (sampleId 'c') .cancel, .count (sampleId 'c'), .commit {} (sampleId 'c')])
    (by decide +kernel)
  obtain ⟨cancelled, skipped⟩ := of_decide_eq_true observed
  exact ⟨state, cancelled, skipped,
    ended_campaign_strands_nobody state reached (sampleId 'c') (by rw [cancelled]; rfl)⟩

/-- A cancel commits while the recipient is with the provider, whose transient
error then puts the recipient back to pending. -/
theorem retried_after_cancel_is_stranded :
    ∃ state, Reached step SparesWorkers .initial state ∧
      (state.campaigns (sampleId 'c')).status = .cancelled ∧
      countInFlight state (sampleId 'c') = 0 ∧ countPending state (sampleId 'c') = 1 := by
  obtain ⟨state, reached, observed⟩ := run_observed step .initial
    (fun _ action => withoutReaping action)
    (fun state => decide ((state.campaigns (sampleId 'c')).status = .cancelled ∧
      countInFlight state (sampleId 'c') = 0 ∧ countPending state (sampleId 'c') = 1))
    withoutReaping_spares
    (sentNow ++ [.start 0 (sampleId 'c'), .claim 0 [sampleId 'r'], .check 0,
      .begin (sampleId 'c') .cancel, .count (sampleId 'c'), .commit {} (sampleId 'c'),
      .retry 0 "timeout"]) (by decide +kernel)
  exact ⟨state, reached, of_decide_eq_true observed⟩

end CloudGuest.Marketing
