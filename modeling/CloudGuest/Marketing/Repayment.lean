import CloudGuest.Marketing.Coverage

/-!
A campaign that ended gives back what it holds. Its settlement keeps the share
of the recipients in flight; whoever takes the last of them out of flight has
to settle once more: the worker after its batch, or the reaper with the rows.
-/

namespace CloudGuest.Marketing
open Texts Tables CreditLedger Runs

def Stage.inBatch : Stage → Bool
  | .batch _ | .checked .. => true
  | _ => false

def Attended (state : State) (campaignId : Uuid) : Prop :=
  ∃ worker working, state.workers worker = some working ∧ working.campaignId = campaignId ∧
    working.stage.inBatch = true

/-- Nobody leaves a hold behind: no recipient goes back to pending under a
settlement in progress, the reaper takes no recipient of a deleted campaign, no
worker stops between its last recipient and its settlement of an ended
campaign, and that settlement is within the limit of an entry and written. -/
def LeavesNoHold (state : State) : Action → Prop
  | .retry worker _ => ∀ working, state.workers worker = some working →
      (state.campaigns working.campaignId).ending = none
  | .reap _ campaignId => (state.campaigns campaignId).isDeleted = false
  | .crash worker => ∀ working, state.workers worker = some working → working.stage = .batch [] →
      (state.campaigns working.campaignId).status.terminal = false
  | .endRefresh session worker => ∀ working, state.workers worker = some working →
      (state.campaigns working.campaignId).status.terminal = true →
        session.database = none ∧ outstanding state working.campaignId ≤ maxEntryAmountMinor
  | _ => True

def Repaying (state : State) (action : Action) : Prop :=
  Orderly state action ∧ LeavesNoHold state action

/-! ### A settlement is written -/

theorem numberedKey_ne_nil (campaignId : Uuid) (reason : ReleaseReason) (number : Nat) :
    numberedKey (releaseBase campaignId reason) number ≠ [] := by
  rw [numberedKey_eq, releaseBase_eq]
  simp

theorem release_answers (session : Session) (ledger : Ledger) (campaignId : Uuid) (amount : Int)
    (key : Text) (working : session.database = none) (positive : 0 < amount)
    (bounded : amount ≤ maxEntryAmountMinor) (named : key ≠ [])
    (fresh : getEntryByKey ledger key = none) (available : 0 ≤ ledger.wallet.availableMinor)
    (reserved : amount ≤ ledger.wallet.reservedMinor) :
    ∃ write later, post session ledger (release (.int amount) key campaignId) = (.ok write, later) := by
  have checked : requirePositive (.int amount) = .ok amount := by
    rw [requirePositive, if_neg]
    omega
  simp only [post, release, checked, apply, if_neg named, fresh]
  rw [if_neg (by omega), if_neg (by omega)]
  simp only [writeEntry, insertEntry, working, fresh]
  rw [if_neg (by omega)]
  simp only [Option.isSome_none, Bool.false_eq_true, if_false, recipientDebited]
  simp only [maybeAlertLowBalance, lowBalanceEntryType]
  cases session.lowBalanceHook with
  | none => exact ⟨_, _, rfl⟩
  | some answer => exact ⟨_, _, rfl⟩

theorem settleCredits_answers (session : Session) (state : State) (campaignId : Uuid)
    (base : Base state) (nonneg : ∀ other, 0 ≤ outstanding state other)
    (working : session.database = none)
    (bounded : outstanding state campaignId ≤ maxEntryAmountMinor) :
    settleCredits session state campaignId ≠ none := by
  have alone := outstanding_together state base.good nonneg [campaignId] (List.nodup_singleton _)
  have within : outstanding state campaignId ≤ state.ledger.wallet.reservedMinor := by
    simpa using alone
  unfold settleCredits settle
  dsimp only
  split
  · simp [updateLedger]
  · split
    · simp [updateLedger]
    · unfold releaseCampaignRemainder
      dsimp only
      split
      · simp [updateLedger]
      · rename_i surplus
        have hold : 0 ≤ max 0 ((countInFlight state campaignId : Int) *
          perRecipientMinor (state.campaigns campaignId).billed.priceSnapshot) := by omega
        simp only [outstanding] at bounded within
        obtain ⟨write, later, answer⟩ := release_answers session state.ledger campaignId
          (campaignReservedOutstanding state.ledger campaignId - max 0 ((countInFlight state campaignId : Int) *
            perRecipientMinor (state.campaigns campaignId).billed.priceSnapshot)) _ working (by omega)
          (by omega) (numberedKey_ne_nil campaignId .final _)
          (releaseKey_fresh state.ledger campaignId .final base.good.numbered)
          base.good.sound.availableNonneg (by omega)
        simp only [releaseBase] at answer
        rw [answer]
        simp [updateLedger]

/-! ### One campaign -/

structure Settling (v : View) : Prop where
  backed : Backed v
  unpriced : v.per = 0 → v.out = 0
  draft : v.status = .draft → v.out = 0
  held : ∀ closing inFlight, v.closing = some closing → closing.inFlight = some inFlight →
    inFlight ≤ v.rows.sending

structure Repaid (attended : Prop) (v : View) : Prop where
  settling : Settling v
  repaid : v.status.terminal = true → v.out = 0 ∨ 0 < v.rows.sending ∨ attended

def repays (attended : Prop) : Label → View → Prop
  | .claim, v => v.status = .sending ∧ v.closing = none
  | .retry, v => v.closing = none ∧ attended
  | .write, _ => attended
  | .reap, v => v.isDeleted = false
  | _, _ => True

theorem repays_claimsOpen (attended : Prop) (label : Label) (v : View)
    (permitted : repays attended label v) : claimsOpen label v := by
  rintro rfl
  exact permitted

theorem settledAmount_zero (status : CampaignStatus) (per held : Nat) :
    settledAmount status per held 0 = 0 := by
  unfold settledAmount
  split
  · rfl
  · have nonneg : (0 : Int) ≤ held * per := Int.mul_nonneg (Int.natCast_nonneg _) (Int.natCast_nonneg _)
    omega

theorem settledAmount_repaid (status : CampaignStatus) (per held : Nat) (out : Int)
    (terminal : status.terminal = true) (nonneg : 0 ≤ out) (unpriced : per = 0 → out = 0) :
    settledAmount status per held out = 0 ∨ 0 < held := by
  cases held with
  | succ more => exact .inr (Nat.succ_pos more)
  | zero =>
      refine .inl ?_
      have ended : status.active = false := by cases status <;> simp_all [CampaignStatus.terminal,
        CampaignStatus.active]
      unfold settledAmount
      simp only [ended, Bool.false_eq_true, false_or]
      split
      · rename_i free
        exact unpriced free
      · simpa using nonneg

theorem settling_move (attended : Prop) (label : Label) (before later : View)
    (permitted : repays attended label before) (settling : Settling before)
    (move : Move before label later) : Settling later := by
  have backed := backed_move label before later (repays_claimsOpen attended label before permitted)
    settling.backed move
  obtain ⟨was, unpriced, draft, held⟩ := settling
  have settled : ∀ status inFlight, before.per = 0 →
      settledAmount status before.per inFlight before.out = 0 := by
    intro status inFlight free
    rw [unpriced free]
    exact settledAmount_zero status before.per inFlight
  cases move with
  | schedule target per reserved isDraft free live more noPrice =>
      refine ⟨backed, ?_, ?_, held⟩
      · intro zero
        show before.out + reserved = 0
        rw [draft isDraft, noPrice zero]
        rfl
      · intro again
        rcases live with rfl | rfl <;> cases again
  | unschedule scheduled free =>
      have nonneg := was.nonneg
      refine ⟨backed, ?_, ?_, held⟩
      · intro _
        show min before.out 0 = 0
        omega
      · intro _
        show min before.out 0 = 0
        omega
  | delete => exact ⟨backed, unpriced, draft, held⟩
  | launch scheduled free => exact ⟨backed, unpriced, by simp, held⟩
  | materialize number out sending free empty covered noPrice =>
      refine ⟨backed, ?_, by simp [sending], by simp [free]⟩
      intro zero
      show out = 0
      rw [noPrice zero]
      exact unpriced zero
  | refuse out scheduled free kept noPrice =>
      refine ⟨backed, ?_, by simp, held⟩
      intro zero
      show settledAmount .failed before.per before.rows.sending out = 0
      rw [noPrice zero]
      exact settled _ _ zero
  | finalize target sending free drained ends =>
      refine ⟨backed, settled _ _, ?_, held⟩
      intro again
      rcases ends with rfl | rfl <;> cases again
  | settle =>
      refine ⟨backed, settled _ _, ?_, held⟩
      intro isDraft
      have out := draft isDraft
      show settledAmount before.status before.per before.rows.sending before.out = 0
      rw [out]
      exact settledAmount_zero _ _ _
  | begin label target sweeps free ends bare opened =>
      refine ⟨backed, unpriced, draft, ?_⟩
      rintro closing inFlight ⟨⟩ none
      cases none
  | count closing opened uncounted =>
      refine ⟨backed, unpriced, draft, ?_⟩
      rintro counted inFlight ⟨⟩ same
      cases same
      exact Nat.le_refl _
  | abort => exact ⟨backed, unpriced, draft, by simp⟩
  | commit closing inFlight swept opened number ends split =>
      refine ⟨backed, settled _ _, ?_, by simp⟩
      intro again
      have target : closing.target = .draft := again
      rw [target] at ends
      cases ends
  | claim number pending free enough unlocked =>
      obtain ⟨_, closed⟩ := permitted
      exact ⟨backed, unpriced, draft, by simp [closed]⟩
  | skip sending taken free | fail sending taken free =>
      exact ⟨backed, unpriced, draft, by simp [free]⟩
  | submit sending amount taken free positive bounded =>
      have nonneg : 0 ≤ before.out - amount := backed.nonneg
      refine ⟨backed, ?_, ?_, by simp [free]⟩
      · intro zero
        have nothing := unpriced zero
        show before.out - amount = 0
        omega
      · intro isDraft
        have nothing := draft isDraft
        show before.out - amount = 0
        omega
  | retry sending free taken unlocked => exact ⟨backed, unpriced, draft, by simp [permitted.1]⟩
  | failUnsent sending claimed own free taken => exact ⟨backed, unpriced, draft, by simp [free]⟩
  | reapDeleted number sending positive taken free deleted =>
      exact ⟨backed, unpriced, draft, by simp [free]⟩
  | reap number sending status positive taken free kept ends =>
      refine ⟨backed, settled _ _, ?_, by simp [free]⟩
      intro isDraft
      rcases ends with rfl | ⟨_, _, rfl | rfl⟩
      · have out := draft isDraft
        show settledAmount before.status before.per sending before.out = 0
        rw [out]
        exact settledAmount_zero _ _ _
      · cases isDraft
      · cases isDraft

theorem repaid_move (attended : Prop) (label : Label) (before later : View)
    (permitted : repays attended label before) (repaid : Repaid attended before)
    (move : Move before label later) : Repaid attended later := by
  have settling := settling_move attended label before later permitted repaid.settling move
  obtain ⟨⟨was, unpriced, draft, held⟩, owed⟩ := repaid
  refine ⟨settling, ?_⟩
  have released : ∀ status inFlight, status.terminal = true →
      settledAmount status before.per inFlight before.out = 0 ∨ 0 < inFlight :=
    fun status inFlight terminal =>
      settledAmount_repaid status before.per inFlight before.out terminal was.nonneg unpriced
  cases move with
  | schedule target per reserved isDraft free live more noPrice =>
      intro terminal
      rcases live with rfl | rfl <;> cases terminal
  | unschedule scheduled free =>
      intro terminal
      cases terminal
  | launch scheduled free =>
      intro terminal
      cases terminal
  | materialize number out sending free empty covered noPrice =>
      intro terminal
      have ended : before.status.terminal = true := terminal
      rw [sending] at ended
      cases ended
  | refuse out scheduled free kept noPrice =>
      intro _
      have empty := (was.regular.fresh (.inr scheduled)).1
      have nothing : before.per = 0 → out = 0 := fun zero => (noPrice zero).trans (unpriced zero)
      rcases settledAmount_repaid .failed before.per before.rows.sending out rfl (kept was.nonneg)
        nothing with none | some
      · exact .inl none
      · exact .inr (.inl some)
  | finalize target sending free drained ends =>
      intro terminal
      exact (released target before.rows.sending terminal).imp_right .inl
  | settle =>
      intro terminal
      exact (released before.status before.rows.sending terminal).imp_right .inl
  | commit closing inFlight swept opened number ends split =>
      intro _
      rcases released closing.target inFlight ends with none | some
      · exact .inl none
      · exact .inr (.inl (Nat.lt_of_lt_of_le some (held closing inFlight opened number)))
  | claim number pending free enough unlocked =>
      intro terminal
      have ended : before.status.terminal = true := terminal
      rw [permitted.1] at ended
      cases ended
  | skip | fail | submit => exact fun _ => .inr (.inr permitted)
  | retry => exact fun _ => .inr (.inr permitted.2)
  | failUnsent sending claimed own free taken => exact fun _ => .inl (unpriced own)
  | reapDeleted number sending positive taken free deleted =>
      have kept : before.isDeleted = false := permitted
      rw [deleted] at kept
      cases kept
  | reap number sending status positive taken free kept ends =>
      intro terminal
      exact (released status sending terminal).imp_right .inl
  | delete | begin | count | abort => exact owed

/-! ### Every run -/

structure Owed (state : State) : Prop where
  base : Base state
  repaid : ∀ campaignId, Repaid (Attended state campaignId) (view state campaignId)

theorem initial_owed : Owed .initial where
  base := initial_base
  repaid := by
    intro campaignId
    refine ⟨⟨initial_backed campaignId, fun _ => rfl, fun _ => rfl, ?_⟩, ?_⟩
    · intro closing inFlight opened
      cases opened
    · intro terminal
      cases terminal

theorem tickets_inFlight (state : State) (worker : Nat) (working : Working) (tended : Tended state)
    (busy : state.workers worker = some working) (unsent : working.stage.tickets ≠ []) :
    0 < countInFlight state working.campaignId := by
  obtain ⟨ticket, todo, tickets⟩ := List.exists_cons_of_ne_nil unsent
  obtain ⟨recipient, found, ofCampaign, sending, _⟩ :=
    (tended.held worker working busy).sending ticket (by simp [tickets])
  exact count_pos state.recipients _ ticket.recipientId recipient found
    ((inStatus_iff _ _ _).mpr ⟨ofCampaign, sending⟩)

theorem attended_step (state later : State) (action : Action) (campaignId : Uuid)
    (stepped : step state action = some later) (attended : Attended state campaignId) :
    Attended later campaignId ∨ (state.campaigns campaignId).status = .sending ∨
      ∃ worker working, state.workers worker = some working ∧ working.campaignId = campaignId ∧
        working.stage.inBatch = true ∧ Stops state worker working action := by
  obtain ⟨worker, working, busy, ofCampaign, batch⟩ := attended
  rcases step_workers state later action stepped with same | ⟨moved, others, move⟩
  · exact .inl ⟨worker, working, same ▸ busy, ofCampaign, batch⟩
  · by_cases here : worker = moved
    · subst here
      rw [busy] at move
      generalize now : later.workers worker = next at move
      cases move with
      | claimed | drained => cases batch
      | checked | wrote => exact .inl ⟨worker, _, now, ofCampaign, rfl⟩
      | refreshed campaign startedAt sending =>
          exact .inr (.inl (ofCampaign ▸ sending))
      | stopped _ stops => exact .inr (.inr ⟨worker, working, busy, ofCampaign, batch, stops⟩)
    · refine .inl ⟨worker, working, ?_, ofCampaign, batch⟩
      rw [others worker here]
      exact busy

theorem stops_repaid (state : State) (action : Action) (worker : Nat) (working : Working)
    (owed : Owed state) (met : LeavesNoHold state action)
    (busy : state.workers worker = some working) (batch : working.stage.inBatch = true)
    (terminal : (state.campaigns working.campaignId).status.terminal = true)
    (stops : Stops state worker working action) :
    (view state working.campaignId).out = 0 ∨ 0 < (view state working.campaignId).rows.sending ∨
      ∃ session, action = .endRefresh session worker := by
  -- Whoever stops on an ended campaign leaves recipients in flight or nothing to pay back, but for
  -- the worker that settles.
  cases stops with
  | abortOwn session stage =>
      rw [stage] at batch
      cases batch
  | undebited session units unsent =>
      exact .inr (.inl (tickets_inFlight state worker working owed.base.tended busy unsent))
  | tripOwn session own =>
      refine .inl ((owed.repaid working.campaignId).settling.unpriced ?_)
      simp [view, Billed.per, own]
  | settled session stage => exact .inr (.inr ⟨session, rfl⟩)
  | requeued stage =>
      rw [stage] at batch
      cases batch
  | finalized stage =>
      rw [stage] at batch
      cases batch
  | crashed =>
      by_cases worked : working.stage.tickets = []
      · have stage : working.stage = .batch [] := by
          cases shape : working.stage with
          | batch todo =>
              rw [shape] at worked
              exact congrArg Stage.batch worked
          | checked now ticket todo =>
              rw [shape] at worked
              cases worked
          | started | ended | drained =>
              rw [shape] at batch
              cases batch
        rw [met working busy stage] at terminal
        cases terminal
      · exact .inr (.inl (tickets_inFlight state worker working owed.base.tended busy worked))

theorem endRefresh_repaid (session : Session) (state later : State) (worker : Nat) (working : Working)
    (attended : Prop) (owed : Owed state) (met : LeavesNoHold state (.endRefresh session worker))
    (busy : state.workers worker = some working)
    (terminal : (state.campaigns working.campaignId).status.terminal = true)
    (stepped : step state (.endRefresh session worker) = some later) :
    Repaid attended (view later working.campaignId) := by
  obtain ⟨campaignId, startedAt, was, ends⟩ := endRefresh_some _ _ _ _ stepped
  rw [busy] at was
  cases was
  obtain ⟨written, bounded⟩ := met _ busy terminal
  have nonneg : ∀ other, 0 ≤ outstanding state other :=
    fun other => (owed.repaid other).settling.backed.nonneg
  have answers := settleCredits_answers session state campaignId owed.base nonneg written bounded
  rcases ends with ⟨sending, _⟩ | ⟨_, ⟨refused, _⟩ | ⟨settled, done, rfl⟩⟩
  · rw [sending] at terminal
    cases terminal
  · exact absurd refused answers
  · obtain ⟨_, shape, _⟩ := settleCredits_view session state settled campaignId owed.base.good done
    have same : view (settled.setWorker worker none) campaignId = view settled campaignId := rfl
    rw [same, shape]
    have settling := (owed.repaid campaignId).settling
    have after := settling_move False .other _ _ trivial settling .settle
    refine ⟨after, ?_⟩
    intro ended
    rcases settledAmount_repaid _ _ _ _ ended settling.backed.nonneg settling.unpriced with none | some
    · exact .inl none
    · exact .inr (.inl some)

theorem settleOne_attended (state : State) (worker : Nat) (campaignId : Uuid) (startedAt : Int)
    (ticket : Ticket) (todo : List Ticket) (change : Change Recipient.id)
    (submitted failed skipped : Int) :
    Attended (settleOne state worker ⟨campaignId, startedAt, .batch todo⟩ ticket todo change submitted
      failed skipped) campaignId :=
  ⟨worker, ⟨campaignId, startedAt, .batch todo⟩, setWorker_self _ _ _, rfl, rfl⟩

theorem wrote_about (state : State) (worker : Nat) (campaignId about : Uuid) (startedAt : Int)
    (ticket : Ticket) (todo : List Ticket)
    (wrote : Wrote state worker campaignId startedAt ticket todo)
    (same : (state.workers worker).map Working.campaignId = some about) : campaignId = about := by
  rw [wrote_campaign _ _ _ _ _ _ wrote] at same
  exact Option.some.inj same

theorem repays_permits (state later : State) (action : Action) (campaignId : Uuid)
    (met : Repaying state action) (stepped : step state action = some later)
    (about : action.campaign state = some campaignId)
    (seen : view later campaignId ≠ view state campaignId) :
    Permits (repays (Attended later campaignId)) state action := by
  cases action with
  | claim worker ids =>
      intro taken working busy
      obtain ⟨sending, free⟩ := met.1.2 taken working busy
      exact ⟨sending, by simp [view, free]⟩
  | skipCancelled worker =>
      obtain ⟨_, startedAt, ticket, todo, wrote, rfl⟩ := skipCancelled_some _ _ _ stepped
      obtain rfl := wrote_about _ _ _ _ _ _ _ wrote about
      exact fun _ _ => settleOne_attended state worker _ startedAt ticket todo _ _ _ _
  | skipRechecked worker reason =>
      obtain ⟨_, startedAt, ticket, todo, wrote, rfl⟩ := skipRechecked_some _ _ _ _ stepped
      obtain rfl := wrote_about _ _ _ _ _ _ _ wrote about
      exact fun _ _ => settleOne_attended state worker _ startedAt ticket todo _ _ _ _
  | fail worker code =>
      obtain ⟨_, startedAt, ticket, todo, wrote, rfl⟩ := fail_some _ _ _ _ stepped
      obtain rfl := wrote_about _ _ _ _ _ _ _ wrote about
      exact fun _ _ => settleOne_attended state worker _ startedAt ticket todo _ _ _ _
  | submit session worker units =>
      obtain ⟨_, startedAt, ticket, todo, wrote, rfl | ⟨charged, ledger, debited, rfl⟩⟩ :=
        submit_some _ _ _ _ _ stepped
      · exact absurd rfl seen
      · obtain rfl := wrote_about _ _ _ _ _ _ _ wrote about
        exact fun _ _ => settleOne_attended state worker _ startedAt ticket todo _ _ _ _
  | retry worker code =>
      obtain ⟨_, startedAt, now, ticket, todo, was, rfl⟩ := retry_some _ _ _ _ stepped
      simp only [Action.campaign, was, Option.map_some, Option.some.injEq] at about
      subst about
      intro working busy
      have free := met.2 working busy
      exact ⟨by simp [view, free], worker, _, setWorker_self _ _ _, rfl, rfl⟩
  | reap session about => exact met.2
  | begin about cause =>
      cases cause with
      | dispatchFailed => trivial
      | _ => trivial
  | schedule | dispatch => exact fun _ => trivial
  | finalize => exact fun _ _ => trivial
  | _ => trivial

theorem repaid_step (state later : State) (action : Action) (owed : Owed state)
    (met : Repaying state action) (stepped : step state action = some later) (campaignId : Uuid) :
    Repaid (Attended later campaignId) (view later campaignId) := by
  have effects : Effects (fun _ _ => True) state later (action.campaign state) :=
    step_effects state later action (fun _ => trivial) owed.base (permits_all state action) stepped
  obtain ⟨settling, repaid⟩ := owed.repaid campaignId
  by_cases settles : ∃ session worker working, action = .endRefresh session worker ∧
      state.workers worker = some working ∧ working.campaignId = campaignId ∧
      (state.campaigns campaignId).status.terminal = true
  · obtain ⟨session, worker, working, rfl, busy, rfl, terminal⟩ := settles
    exact endRefresh_repaid session state later worker working _ owed met.2 busy terminal stepped
  · -- Whatever paid or covered before still does, or the worker on it goes on.
    have before : Repaid (Attended later campaignId) (view state campaignId) := by
      refine ⟨settling, ?_⟩
      intro terminal
      rcases repaid terminal with none | some | attended
      · exact .inl none
      · exact .inr (.inl some)
      · rcases attended_step state later action campaignId stepped attended with
          still | sending | ⟨worker, working, busy, rfl, batch, stops⟩
        · exact .inr (.inr still)
        · have status : (view state campaignId).status = .sending := sending
          rw [status] at terminal
          cases terminal
        · rcases stops_repaid state action worker working owed met.2 busy batch terminal stops with
            none | some | ⟨session, rfl⟩
          · exact .inl none
          · exact .inr (.inl some)
          · exact absurd ⟨session, worker, working, rfl, busy, rfl, terminal⟩ settles
    by_cases same : view later campaignId = view state campaignId
    · rw [same]
      exact before
    · have about : action.campaign state = some campaignId := by
        by_contra elsewhere
        exact same (effects.elsewhere campaignId elsewhere)
      have permits := repays_permits state later action campaignId met stepped about same
      have moves := (step_effects state later action (fun _ => trivial) owed.base permits stepped).moves
      exact (moves campaignId).invariant (repaid_move (Attended later campaignId)) before

/-- In a run in which nobody leaves a hold behind, a campaign that ended, has
nobody in flight and no `send_batch` call running holds nothing. -/
theorem ended_campaign_gives_everything_back (state : State)
    (reached : Reached step Repaying .initial state) (campaignId : Uuid)
    (ended : (state.campaigns campaignId).status.terminal = true)
    (landed : countInFlight state campaignId = 0)
    (returned : ∀ worker working, state.workers worker = some working →
      working.campaignId ≠ campaignId) : outstanding state campaignId = 0 := by
  have owed := reached.invariant Owed initial_owed fun before action later holds met stepped =>
    ⟨base_step before later action holds.base met.1.1 stepped,
      repaid_step before later action holds met stepped⟩
  rcases (owed.repaid campaignId).repaid ended with none | some | ⟨worker, working, busy, here, _⟩
  · exact none
  · have inFlight : 0 < countInFlight state campaignId := some
    omega
  · exact absurd here (returned worker working busy)

def repayingCheck (state : State) (action : Action) : Bool :=
  orderlyCheck state action && match action with
    | .retry .. | .crash _ => false
    | .endRefresh session worker => decide (session.database = none) &&
        (state.workers worker).all fun working =>
          decide (outstanding state working.campaignId ≤ maxEntryAmountMinor)
    | _ => true

theorem repayingCheck_repaying (state : State) (action : Action)
    (checked : repayingCheck state action = true) : Repaying state action := by
  obtain ⟨orderly, rest⟩ := (Bool.and_eq_true _ _).mp checked
  refine ⟨orderlyCheck_orderly state action orderly, ?_⟩
  cases action with
  | retry => cases rest
  | crash => cases rest
  | reap => cases orderly
  | endRefresh session worker =>
      intro working busy _
      obtain ⟨written, bounded⟩ := (Bool.and_eq_true _ _).mp rest
      exact ⟨of_decide_eq_true written, by simpa [busy] using bounded⟩
  | _ => trivial

/-- A cancel kept the share of the recipient in flight; its worker fails the
recipient and settles. -/
theorem ended_campaign_gives_back_hold :
    ∃ state, (state.campaigns (sampleId 'c')).status = .cancelled ∧
      tally state.recipients (sampleId 'c') .failed = 1 ∧ outstanding state (sampleId 'c') = 0 := by
  obtain ⟨state, reached, observed⟩ := run_observed step .initial
    (fun state action => repayingCheck state action && startsBelow 1 action)
    (fun state => decide ((state.campaigns (sampleId 'c')).status = .cancelled ∧
      tally state.recipients (sampleId 'c') .failed = 1 ∧
      countInFlight state (sampleId 'c') = 0 ∧ state.workers 0 = none))
    (fun _ _ checked => checked)
    (sentNow ++ [.start 0 (sampleId 'c'), .claim 0 [sampleId 'r'], .check 0,
      .begin (sampleId 'c') .cancel, .count (sampleId 'c'), .commit {} (sampleId 'c'),
      .fail 0 "rejected", .endRefresh {} 0]) (by decide +kernel)
  obtain ⟨cancelled, failed, landed, stopped⟩ := of_decide_eq_true observed
  have orderly : Reached step Repaying .initial state := reached.weaken fun before action checked =>
    repayingCheck_repaying before action ((Bool.and_eq_true _ _).mp checked).1
  refine ⟨state, cancelled, failed,
    ended_campaign_gives_everything_back state orderly (sampleId 'c') (by rw [cancelled]; rfl) landed ?_⟩
  intro worker working busy
  cases worker with
  | zero =>
      rw [stopped] at busy
      cases busy
  | succ above =>
      have idle := startsBelow_idle 1 state (reached.weaken fun before action checked =>
        ((Bool.and_eq_true _ _).mp checked).2) (above + 1) (by omega)
      rw [idle] at busy
      cases busy

/-- A cancelled campaign is deleted while a recipient of a dead worker is in
flight: the reaper fails the recipient, does not see the campaign, and the
reservation stays. -/
theorem reaped_after_delete_keeps_hold :
    ∃ state, Reached step SparesWorkers .initial state ∧
      (state.campaigns (sampleId 'c')).status = .cancelled ∧
      countInFlight state (sampleId 'c') = 0 ∧ (∀ worker, state.workers worker = none) ∧
      outstanding state (sampleId 'c') = 2 := by
  obtain ⟨state, reached, idle, observed⟩ := reap_observed 1
    (sentNow ++ [.start 0 (sampleId 'c'), .claim 0 [sampleId 'r'], .begin (sampleId 'c') .cancel,
      .count (sampleId 'c'), .commit {} (sampleId 'c'), .crash 0, .requestDelete (sampleId 'c'),
      .delete (sampleId 'c'), .tick (16 * 60 * second)]) {} (sampleId 'c')
    (fun state => decide ((state.campaigns (sampleId 'c')).status = .cancelled ∧
      countInFlight state (sampleId 'c') = 0 ∧ outstanding state (sampleId 'c') = 2))
    (by decide +kernel)
  obtain ⟨cancelled, landed, kept⟩ := of_decide_eq_true observed
  exact ⟨state, reached, cancelled, landed, idle, kept⟩

end CloudGuest.Marketing
