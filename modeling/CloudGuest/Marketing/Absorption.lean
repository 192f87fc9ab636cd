import CloudGuest.Marketing.Coverage

/-!
A recipient that was submitted, failed or skipped stays so and is not charged
again. Writes are by id and compare no status; what keeps the reaper and a
worker off one row is time alone: a `send_campaign_batch` task is killed after
five minutes, and the reaper takes rows claimed fifteen minutes ago.
-/

namespace CloudGuest.Marketing
open Texts Tables CreditLedger Runs

def RecipientStatus.terminal : RecipientStatus → Bool
  | .submitted | .failed | .skipped => true
  | .pending | .sending => false

def taskTimeLimit : Int := 300 * second

/-- Time goes forward, and passes no live worker's limit. -/
def WithinTimeLimit (state : State) : Action → Prop
  | .tick now => state.clock ≤ now ∧ ∀ worker working, state.workers worker = some working →
      now ≤ working.startedAt + taskTimeLimit
  | _ => True

/-! ### The table keeps its terminal rows -/

def KeepsTerminal (before later : Recipients) : Prop :=
  ∀ id recipient, before.find id = some recipient → recipient.status.terminal = true →
    later.find id = some recipient

theorem keepsTerminal_same (before later : Recipients) (same : later = before) :
    KeepsTerminal before later := by
  intro id recipient found _
  rw [same]
  exact found

theorem keepsTerminal_trans (first second third : Recipients) (one : KeepsTerminal first second)
    (two : KeepsTerminal second third) : KeepsTerminal first third :=
  fun id recipient found terminal => two id recipient (one id recipient found terminal) terminal

theorem updateWhere_keepsTerminal (recipients : Recipients) (selected : Recipient → Bool)
    (change : Change Recipient.id)
    (live : ∀ id recipient, recipients.find id = some recipient → selected recipient = true →
      recipient.status.terminal = false) :
    KeepsTerminal recipients (recipients.updateWhere selected change) := by
  intro id recipient found terminal
  refine find_unselected recipients selected change id recipient found ?_
  cases chosen : selected recipient with
  | false => rfl
  | true =>
      rw [live id recipient found chosen] at terminal
      cases terminal

theorem inStatus_live (campaignId : Uuid) (status : RecipientStatus) (recipient : Recipient)
    (live : status.terminal = false) (here : inStatus campaignId status recipient = true) :
    recipient.status.terminal = false := by
  rw [((inStatus_iff _ _ _).mp here).2]
  exact live

theorem ticket_keepsTerminal (state : State) (worker : Nat) (working : Working) (ticket : Ticket)
    (change : Change Recipient.id) (tended : Tended state)
    (busy : state.workers worker = some working) (member : ticket ∈ working.stage.tickets) :
    KeepsTerminal state.recipients (updateRecipient state.recipients ticket.recipientId change) := by
  obtain ⟨row, held, _, sending, _⟩ := (tended.held worker working busy).sending ticket member
  refine updateWhere_keepsTerminal state.recipients _ change ?_
  intro id recipient found chosen
  have named := (find_mem state.recipients id recipient found).2
  simp only [beq_iff_eq] at chosen
  rw [← chosen, named, found] at held
  cases held
  rw [sending]
  rfl

theorem wrote_keepsTerminal (state : State) (worker : Nat) (campaignId : Uuid) (startedAt : Int)
    (ticket : Ticket) (todo : List Ticket) (change : Change Recipient.id) (tended : Tended state)
    (wrote : Wrote state worker campaignId startedAt ticket todo) :
    KeepsTerminal state.recipients (updateRecipient state.recipients ticket.recipientId change) := by
  obtain ⟨stage, busy, tickets⟩ := wrote_tickets _ _ _ _ _ _ wrote
  exact ticket_keepsTerminal state worker _ ticket change tended busy (by simp [tickets])

theorem failUnsent_keepsTerminal (state : State) (campaignId : Uuid) (todo : List Ticket) :
    KeepsTerminal state.recipients (failUnsentRecipients state campaignId todo).recipients := by
  refine keepsTerminal_trans _ _ _ (updateWhere_keepsTerminal state.recipients _ _ ?_)
    (updateWhere_keepsTerminal _ _ _ ?_)
  · intro id recipient _ chosen
    exact inStatus_live campaignId .pending recipient rfl chosen
  · intro id recipient _ chosen
    simp only [ownClaimed, Bool.and_eq_true] at chosen
    exact inStatus_live campaignId .sending recipient rfl chosen.1

theorem insertRecipients_keepsTerminal (campaignId : Uuid) (recipients : Recipients)
    (rows : List (Uuid × Uuid)) :
    KeepsTerminal recipients (insertRecipients campaignId recipients rows) := by
  obtain ⟨number, _, inserted⟩ := insertRecipients_inserted campaignId rows recipients
  intro id recipient found _
  exact inserted.kept id recipient found

theorem claim_keepsTerminal (state later : State) (worker : Nat) (ids : List Uuid)
    (claimed : claim state worker ids = some later) :
    KeepsTerminal state.recipients later.recipients := by
  obtain ⟨campaignId, startedAt, _, _, due, rfl⟩ := claim_some _ _ _ _ claimed
  refine updateWhere_keepsTerminal state.recipients _ _ ?_
  intro id recipient found chosen
  have named := (find_mem state.recipients id recipient found).2
  obtain ⟨row, held, able⟩ := due recipient.id (by simpa using chosen)
  rw [named, found] at held
  cases held
  simp only [claimable, Bool.and_eq_true] at able
  exact inStatus_live campaignId .pending recipient rfl able.1.1

theorem step_keepsTerminal (state later : State) (action : Action) (tended : Tended state)
    (stepped : step state action = some later) :
    KeepsTerminal state.recipients later.recipients := by
  cases action with
  | tick now =>
      cases stepped
      exact keepsTerminal_same _ _ rfl
  | postAdjustment session office request actorUserId =>
      obtain ⟨_, ledger, _, rfl⟩ := updateLedger_some _ _ _ stepped
      exact keepsTerminal_same _ _ rfl
  | testSend session campaignId requestId digest price units =>
      obtain ⟨_, ledger, _, rfl⟩ := updateLedger_some _ _ _ stepped
      exact keepsTerminal_same _ _ rfl
  | schedule session campaignId request =>
      obtain ⟨_, reserved, booked, placed⟩ := schedule_some _ _ _ _ _ stepped
      have same : reserved.recipients = state.recipients := by
        rcases reserveForSchedule_some _ _ _ _ _ booked with ⟨_, rfl⟩ | ⟨_, _, _, _, rfl⟩
        · rfl
        · rfl
      rcases placed with ⟨_, rfl⟩ | ⟨audience, _, materialized⟩
      · exact keepsTerminal_same _ _ same
      · obtain ⟨_, rows, recipients⟩ := materialize_frame _ _ _ _ _ materialized
        rw [recipients, setCampaign_recipients, same]
        exact insertRecipients_keepsTerminal campaignId state.recipients rows
  | unschedule session campaignId =>
      obtain ⟨_, _, ledger, _, rfl⟩ := unschedule_some _ _ _ _ stepped
      exact keepsTerminal_same _ _ rfl
  | requestDelete campaignId =>
      obtain rfl := requestDelete_some _ _ _ stepped
      exact keepsTerminal_same _ _ rfl
  | delete campaignId =>
      obtain rfl := deleteCampaign_some _ _ _ stepped
      exact keepsTerminal_same _ _ rfl
  | dispatch session campaignId audience =>
      obtain ⟨_, materialized⟩ := dispatchDue_some _ _ _ _ _ stepped
      obtain ⟨_, rows, recipients⟩ := materialize_frame _ _ _ _ _ materialized
      rw [recipients]
      exact insertRecipients_keepsTerminal campaignId state.recipients rows
  | dispatchRefused session campaignId audience fitted =>
      obtain ⟨recipients, _⟩ := dispatchRefused_frame _ _ _ _ _ _ stepped
      exact keepsTerminal_same _ _ recipients
  | begin campaignId cause =>
      obtain ⟨_, rfl⟩ := beginEnding_some _ _ _ _ stepped
      exact keepsTerminal_same _ _ rfl
  | count campaignId =>
      obtain ⟨_, _, _, rfl⟩ := countEnding_some _ _ _ stepped
      exact keepsTerminal_same _ _ rfl
  | commit session campaignId =>
      obtain ⟨ending, _, _, ledger, _, _, _, rfl⟩ := commitEnding_some _ _ _ _ stepped
      refine updateWhere_keepsTerminal state.recipients _ _ ?_
      intro id recipient _ chosen
      simp only [swept, Bool.and_eq_true] at chosen
      exact inStatus_live campaignId .pending recipient rfl chosen.1
  | abort campaignId =>
      obtain rfl := abortEnding_some _ _ _ stepped
      exact keepsTerminal_same _ _ rfl
  | start worker campaignId =>
      obtain ⟨_, _, rfl⟩ := startBatch_some _ _ _ _ stepped
      exact keepsTerminal_same _ _ rfl
  | claim worker ids => exact claim_keepsTerminal state later worker ids stepped
  | abortOwn session worker =>
      obtain ⟨campaignId, _, finalized, _, _, _, held, rfl⟩ := abortOwn_some _ _ _ _ stepped
      obtain ⟨recipients, _⟩ := finalizeHeld_frame _ _ _ _ held
      rw [setWorker_recipients, recipients]
      exact failUnsent_keepsTerminal state campaignId []
  | check worker =>
      obtain ⟨_, _, _, _, _, _, rfl⟩ := check_some _ _ _ stepped
      exact keepsTerminal_same _ _ rfl
  | skipCancelled worker =>
      obtain ⟨campaignId, startedAt, ticket, todo, wrote, rfl⟩ := skipCancelled_some _ _ _ stepped
      exact wrote_keepsTerminal state worker _ _ ticket todo _ tended wrote
  | skipRechecked worker reason =>
      obtain ⟨campaignId, startedAt, ticket, todo, wrote, rfl⟩ := skipRechecked_some _ _ _ _ stepped
      exact wrote_keepsTerminal state worker _ _ ticket todo _ tended wrote
  | submit session worker units =>
      obtain ⟨campaignId, startedAt, ticket, todo, wrote, rfl | ⟨_, ledger, _, rfl⟩⟩ :=
        submit_some _ _ _ _ _ stepped
      · exact keepsTerminal_same _ _ rfl
      · exact wrote_keepsTerminal state worker _ _ ticket todo _ tended wrote
  | retry worker code =>
      obtain ⟨campaignId, startedAt, now, ticket, todo, busy, rfl⟩ := retry_some _ _ _ _ stepped
      exact ticket_keepsTerminal state worker _ ticket _ tended busy (by simp [Stage.tickets])
  | fail worker code =>
      obtain ⟨campaignId, startedAt, ticket, todo, wrote, rfl⟩ := fail_some _ _ _ _ stepped
      exact wrote_keepsTerminal state worker _ _ ticket todo _ tended wrote
  | tripOwn session worker =>
      obtain ⟨campaignId, _, _, ticket, todo, finalized, _, _, _, held, rfl⟩ :=
        tripOwn_some _ _ _ _ stepped
      obtain ⟨recipients, _⟩ := finalizeHeld_frame _ _ _ _ held
      rw [setWorker_recipients, recipients]
      exact failUnsent_keepsTerminal state campaignId (ticket :: todo)
  | endRefresh session worker =>
      obtain ⟨campaignId, _, _, ⟨_, rfl⟩ | ⟨_, ⟨_, rfl⟩ | ⟨settled, done, rfl⟩⟩⟩ :=
        endRefresh_some _ _ _ _ stepped
      · exact keepsTerminal_same _ _ rfl
      · exact keepsTerminal_same _ _ rfl
      · exact keepsTerminal_same _ _ (settleCredits_frame _ _ _ _ done).1
  | endCount worker =>
      obtain ⟨_, _, _, ⟨_, rfl⟩ | rfl⟩ := endCount_some _ _ _ stepped
      · exact keepsTerminal_same _ _ rfl
      · exact keepsTerminal_same _ _ rfl
  | finalize worker =>
      obtain ⟨_, _, _, rfl | ⟨_, _, rfl⟩⟩ := finalize_some _ _ _ stepped
      · exact keepsTerminal_same _ _ rfl
      · exact keepsTerminal_same _ _ rfl
  | crash worker =>
      obtain ⟨_, _, rfl⟩ := crash_some _ _ _ stepped
      exact keepsTerminal_same _ _ rfl
  | reap session campaignId =>
      rw [(reapStuck_recipients _ _ _ _ stepped).1]
      refine updateWhere_keepsTerminal state.recipients _ _ ?_
      intro id recipient _ chosen
      simp only [stuck, Bool.and_eq_true] at chosen
      exact inStatus_live campaignId .sending recipient rfl chosen.1

/-! ### Only a worker's own recipient is charged -/

structure Uncharged (before later : Ledger) : Prop where
  good : Good later
  same : ∀ id, charges later id = charges before id

theorem uncharged_trans (first second third : Ledger) (one : Uncharged first second)
    (two : Uncharged second third) : Uncharged first third :=
  ⟨two.good, fun id => (two.same id).trans (one.same id)⟩

theorem moved_uncharged (before later : Ledger) (campaignId : Uuid) (amount : Int)
    (moved : Moved before later campaignId amount none) : Uncharged before later :=
  ⟨moved.good, fun id => moved.charges id (by simp)⟩

theorem settleCredits_uncharged (session : Session) (state later : State) (campaignId : Uuid)
    (settled : settleCredits session state campaignId = some later) (good : Good state.ledger) :
    Uncharged state.ledger later.ledger := by
  obtain ⟨released, ledger, answer, rfl⟩ := settleCredits_some _ _ _ _ settled
  exact moved_uncharged _ _ campaignId _ (settle_moved _ _ _ _ _ _ _ _ good answer)

theorem finalizeHeld_uncharged (session : Session) (state later : State) (campaignId : Uuid)
    (finalized : finalizeHeld session state campaignId = some later) (good : Good state.ledger) :
    Uncharged state.ledger later.ledger := by
  rcases finalizeHeld_some _ _ _ _ finalized with ⟨rfl, _⟩ | ⟨_, _, settled⟩
  · exact ⟨good, fun _ => rfl⟩
  · have released := settleCredits_uncharged session _ later campaignId settled good
    exact released

theorem materialize_uncharged (session : Session) (state later : State) (campaignId : Uuid)
    (audience : Audience)
    (materialized : materialize session state campaignId audience = some later)
    (good : Good state.ledger) (first : (state.campaigns campaignId).recipientCount = 0) :
    Uncharged state.ledger later.ledger := by
  obtain ⟨fitted, ledger, recipients, adjusted, _, ended⟩ :=
    materialize_some _ _ _ _ _ first materialized
  obtain ⟨amount, moved, _⟩ := adjustAtDispatch_moved _ _ _ _ _ _ _ good adjusted
  have fit := moved_uncharged _ _ campaignId amount moved
  rcases ended with ⟨_, finalized⟩ | rfl
  · exact uncharged_trans _ _ _ fit (finalizeHeld_uncharged session _ later campaignId finalized fit.good)
  · exact fit

theorem schedule_uncharged (session : Session) (state later : State) (campaignId : Uuid)
    (request : ScheduleRequest) (base : Base state)
    (scheduled : schedule session state campaignId request = some later) :
    Uncharged state.ledger later.ledger := by
  obtain ⟨guard, reserved, booked, placed⟩ := schedule_some _ _ _ _ _ scheduled
  obtain ⟨draft, _, _⟩ := (claimsRow_iff _ _ _).mp guard
  obtain ⟨_, first⟩ := (base.regular campaignId).fresh (.inl (by simpa [view] using draft))
  have paid : Uncharged state.ledger reserved.ledger := by
    rcases reserveForSchedule_some _ _ _ _ _ booked with ⟨_, rfl⟩ | ⟨_, amount, ledger, answer, rfl⟩
    · exact ⟨base.good, fun _ => rfl⟩
    · exact moved_uncharged _ _ campaignId _ (reserveAtSchedule_moved _ _ _ _ _ _ _ base.good answer)
  rcases placed with ⟨_, rfl⟩ | ⟨audience, _, materialized⟩
  · exact paid
  · have sent := materialize_uncharged session _ later campaignId audience materialized paid.good (by
      simp only [setCampaign_self, scheduledRow]
      exact first)
    exact uncharged_trans _ _ _ paid sent

theorem dispatchDue_uncharged (session : Session) (state later : State) (campaignId : Uuid)
    (audience : Audience) (base : Base state)
    (dispatched : dispatchDue session state campaignId audience = some later) :
    Uncharged state.ledger later.ledger := by
  obtain ⟨guard, materialized⟩ := dispatchDue_some _ _ _ _ _ dispatched
  obtain ⟨due, _, _⟩ := (claimsRow_iff _ _ _).mp guard
  obtain ⟨_, first⟩ := (base.regular campaignId).fresh (.inr (by simpa [view] using due))
  have sent := materialize_uncharged session _ later campaignId audience materialized base.good (by
    simp only [setCampaign_self]
    exact first)
  exact sent

theorem dispatchRefused_uncharged (session : Session) (state later : State) (campaignId : Uuid)
    (audience : Audience) (fitted : Bool) (base : Base state)
    (refused : dispatchRefused session state campaignId audience fitted = some later) :
    Uncharged state.ledger later.ledger := by
  obtain ⟨due, _⟩ := dispatchRefused_guard _ _ _ _ _ _ refused
  obtain ⟨_, first⟩ := (base.regular campaignId).fresh (.inr due)
  obtain ⟨_, ledger, fit, settled⟩ := dispatchRefused_some _ _ _ _ _ _ first refused
  have adjusted : Uncharged state.ledger ledger := by
    rcases fit with rfl | ⟨answer, adjusted⟩
    · exact ⟨base.good, fun _ => rfl⟩
    · obtain ⟨amount, moved, _⟩ := adjustAtDispatch_moved _ _ _ _ _ _ _ base.good adjusted
      exact moved_uncharged _ _ campaignId amount moved
  exact uncharged_trans _ _ _ adjusted
    (settleCredits_uncharged session _ later campaignId settled adjusted.good)

theorem reapStuck_uncharged (session : Session) (state later : State) (campaignId : Uuid)
    (good : Good state.ledger) (reaped : reapStuck session state campaignId = some later) :
    Uncharged state.ledger later.ledger := by
  obtain ⟨_, _, ⟨_, rfl⟩ | ⟨_, ⟨_, finalized, held, settled⟩ | settled⟩⟩ :=
    reapStuck_some _ _ _ _ reaped
  · exact ⟨good, fun _ => rfl⟩
  · have ended := finalizeHeld_uncharged session _ finalized campaignId held good
    exact uncharged_trans _ _ _ ended
      (settleCredits_uncharged session finalized later campaignId settled ended.good)
  · have released := settleCredits_uncharged session _ later campaignId settled good
    exact released

def Unheld (state : State) (id : Uuid) : Prop :=
  ∀ worker working, state.workers worker = some working →
    ∀ ticket ∈ working.stage.tickets, ticket.recipientId ≠ id

theorem step_charges (state later : State) (action : Action) (base : Base state)
    (stepped : step state action = some later) (id : Uuid) (unheld : Unheld state id) :
    charges later.ledger id = charges state.ledger id := by
  cases action with
  | postAdjustment session office request actorUserId =>
      obtain ⟨write, ledger, answer, rfl⟩ := updateLedger_some _ _ _ stepped
      exact (moved_uncharged _ _ actorUserId 0
        (postAdjustment_moved _ _ _ _ _ _ write actorUserId base.good answer)).same id
  | testSend session campaignId requestId digest price units =>
      obtain ⟨charged, ledger, answer, rfl⟩ := updateLedger_some _ _ _ stepped
      exact (moved_uncharged _ _ campaignId 0
        (chargeTestSend_moved _ _ _ _ _ _ _ _ charged base.good answer)).same id
  | schedule session campaignId request =>
      exact (schedule_uncharged session state later campaignId request base stepped).same id
  | unschedule session campaignId =>
      obtain ⟨_, released, ledger, answer, rfl⟩ := unschedule_some _ _ _ _ stepped
      exact (moved_uncharged _ _ campaignId _
        (releaseAll_moved _ _ _ _ _ base.good answer)).same id
  | dispatch session campaignId audience =>
      exact (dispatchDue_uncharged session state later campaignId audience base stepped).same id
  | dispatchRefused session campaignId audience fitted =>
      exact (dispatchRefused_uncharged session state later campaignId audience fitted base
        stepped).same id
  | commit session campaignId =>
      obtain ⟨ending, inFlight, released, ledger, _, _, answer, rfl⟩ :=
        commitEnding_some _ _ _ _ stepped
      exact (moved_uncharged _ _ campaignId _
        (settle_moved _ _ _ _ _ _ _ _ base.good answer)).same id
  | abortOwn session worker =>
      obtain ⟨campaignId, _, finalized, _, _, _, held, rfl⟩ := abortOwn_some _ _ _ _ stepped
      exact (finalizeHeld_uncharged session _ finalized campaignId held base.good).same id
  | submit session worker units =>
      obtain ⟨campaignId, startedAt, ticket, todo, wrote, rfl | ⟨charged, ledger, debited, rfl⟩⟩ :=
        submit_some _ _ _ _ _ stepped
      · rfl
      · obtain ⟨stage, busy, tickets⟩ := wrote_tickets _ _ _ _ _ _ wrote
        obtain ⟨amount, _, _, moved⟩ := debitRecipient_moved _ _ _ _ _ _ _ _ base.good debited
        have other := unheld worker _ busy ticket (by simp [tickets])
        exact moved.charges id fun same => other (Option.some.inj same)
  | tripOwn session worker =>
      obtain ⟨campaignId, _, _, ticket, todo, finalized, _, _, _, held, rfl⟩ :=
        tripOwn_some _ _ _ _ stepped
      exact (finalizeHeld_uncharged session _ finalized campaignId held base.good).same id
  | endRefresh session worker =>
      obtain ⟨campaignId, _, _, ⟨_, rfl⟩ | ⟨_, ⟨_, rfl⟩ | ⟨settled, done, rfl⟩⟩⟩ :=
        endRefresh_some _ _ _ _ stepped
      · rfl
      · rfl
      · exact (settleCredits_uncharged session state settled campaignId done base.good).same id
  | reap session campaignId =>
      exact (reapStuck_uncharged session state later campaignId base.good stepped).same id
  | tick now =>
      cases stepped
      rfl
  | requestDelete campaignId =>
      obtain rfl := requestDelete_some _ _ _ stepped
      rfl
  | delete campaignId =>
      obtain rfl := deleteCampaign_some _ _ _ stepped
      rfl
  | begin campaignId cause =>
      obtain ⟨_, rfl⟩ := beginEnding_some _ _ _ _ stepped
      rfl
  | count campaignId =>
      obtain ⟨_, _, _, rfl⟩ := countEnding_some _ _ _ stepped
      rfl
  | abort campaignId =>
      obtain rfl := abortEnding_some _ _ _ stepped
      rfl
  | start worker campaignId =>
      obtain ⟨_, _, rfl⟩ := startBatch_some _ _ _ _ stepped
      rfl
  | claim worker ids =>
      obtain ⟨_, _, _, _, _, rfl⟩ := claim_some _ _ _ _ stepped
      rfl
  | check worker =>
      obtain ⟨_, _, _, _, _, _, rfl⟩ := check_some _ _ _ stepped
      rfl
  | skipCancelled worker =>
      obtain ⟨_, _, _, _, _, rfl⟩ := skipCancelled_some _ _ _ stepped
      rfl
  | skipRechecked worker reason =>
      obtain ⟨_, _, _, _, _, rfl⟩ := skipRechecked_some _ _ _ _ stepped
      rfl
  | retry worker code =>
      obtain ⟨_, _, _, _, _, _, rfl⟩ := retry_some _ _ _ _ stepped
      rfl
  | fail worker code =>
      obtain ⟨_, _, _, _, _, rfl⟩ := fail_some _ _ _ _ stepped
      rfl
  | endCount worker =>
      obtain ⟨_, _, _, ⟨_, rfl⟩ | rfl⟩ := endCount_some _ _ _ stepped
      · rfl
      · rfl
  | finalize worker =>
      obtain ⟨_, _, _, rfl | ⟨_, _, rfl⟩⟩ := finalize_some _ _ _ stepped
      · rfl
      · rfl
  | crash worker =>
      obtain ⟨_, _, rfl⟩ := crash_some _ _ _ stepped
      rfl

/-! ### Nobody outlives the time limit -/

def Timely (state : State) : Prop :=
  ∀ worker working, state.workers worker = some working →
    state.clock ≤ working.startedAt + taskTimeLimit

theorem step_timely (state later : State) (action : Action) (timely : Timely state)
    (met : WithinTimeLimit state action) (stepped : step state action = some later) :
    Timely later := by
  intro worker working busy
  have limit : 0 ≤ taskTimeLimit := by decide
  have before : state.clock ≤ working.startedAt + taskTimeLimit := by
    rcases step_comesFrom state later action stepped worker working busy with
      ⟨old, was, _, same⟩ | ⟨_, now, _⟩
    · rw [← same]
      exact timely worker old was
    · omega
  cases action with
  | tick now =>
      cases stepped
      exact met.2 worker working busy
  | _ =>
      rw [step_clock state later _ stepped (by simp)]
      exact before

theorem timely_spares (state : State) (action : Action) (tended : Tended state)
    (timely : Timely state) : SparesWorkers state action := by
  -- A live worker's recipients were claimed too recently to be reaped.
  cases action with
  | reap session campaignId =>
      intro worker working busy ticket member recipient found
      obtain ⟨row, held, _, _, claimedAt⟩ := (tended.held worker working busy).sending ticket member
      rw [found] at held
      cases held
      have limit := timely worker working busy
      have recent : ¬ working.startedAt < stuckBefore state := by
        simp only [stuckBefore, staleSendingMinutes, taskTimeLimit, second] at limit ⊢
        omega
      simp [stuck, claimedAt, recent]
  | _ => trivial

/-! ### Every run -/

theorem timely_base (state : State) (reached : Reached step WithinTimeLimit .initial state) :
    Base state ∧ Timely state := by
  refine reached.invariant (fun state => Base state ∧ Timely state) ?_ ?_
  · exact ⟨initial_base, fun worker working busy => by cases busy⟩
  · intro before action later ⟨base, timely⟩ met stepped
    exact ⟨base_step before later action base (timely_spares before action base.tended timely) stepped,
      step_timely before later action timely met stepped⟩

theorem terminal_unheld (state : State) (tended : Tended state) (id : Uuid) (recipient : Recipient)
    (found : state.recipients.find id = some recipient)
    (terminal : recipient.status.terminal = true) : Unheld state id := by
  intro worker working busy ticket member same
  obtain ⟨row, held, _, sending, _⟩ := (tended.held worker working busy).sending ticket member
  rw [same, found] at held
  cases held
  rw [sending] at terminal
  cases terminal

/-- A recipient once submitted, failed or skipped keeps its row whatever runs
on, is in no worker's hands again and is charged no more. -/
theorem terminal_recipients_absorb (state later : State)
    (reached : Reached step WithinTimeLimit .initial state)
    (onward : Reached step WithinTimeLimit state later) (id : Uuid) (recipient : Recipient)
    (found : state.recipients.find id = some recipient)
    (terminal : recipient.status.terminal = true) :
    later.recipients.find id = some recipient ∧ Unheld later id ∧
      charges later.ledger id = charges state.ledger id := by
  have kept : later.recipients.find id = some recipient ∧
      charges later.ledger id = charges state.ledger id := by
    induction onward with
    | start => exact ⟨found, rfl⟩
    | @next middle last action before met stepped ih =>
        obtain ⟨still, same⟩ := ih
        obtain ⟨base, _⟩ := timely_base middle (reached.trans before)
        have unheld := terminal_unheld middle base.tended id recipient still terminal
        exact ⟨step_keepsTerminal middle last action base.tended stepped id recipient still terminal,
          (step_charges middle last action base stepped id unheld).trans same⟩
  obtain ⟨base, _⟩ := timely_base later (reached.trans onward)
  exact ⟨kept.1, terminal_unheld later base.tended id recipient kept.1 terminal, kept.2⟩

def clockStands : Action → Bool
  | .tick _ => false
  | _ => true

theorem clockStands_within (state : State) (action : Action) (stands : clockStands action = true) :
    WithinTimeLimit state action := by
  cases action with
  | tick => cases stands
  | _ => trivial

def inStatusAt (id : Uuid) (status : RecipientStatus) (state : State) : Bool :=
  (state.recipients.find id).any fun recipient => recipient.status == status

theorem inStatusAt_find (id : Uuid) (status : RecipientStatus) (state : State)
    (seen : inStatusAt id status state = true) :
    ∃ recipient, state.recipients.find id = some recipient ∧ recipient.status = status := by
  obtain ⟨recipient, found, same⟩ := Option.any_eq_true _ _ |>.mp seen
  exact ⟨recipient, found, by simpa using same⟩

/-- The guest's message was accepted and charged; the campaign then finishes. -/
theorem terminal_recipients_absorb_submitted :
    ∃ state later : State, inStatusAt (sampleId 'r') .submitted state = true ∧
      (charges state.ledger (sampleId 'r')).length = 1 ∧
      later.recipients.find (sampleId 'r') = state.recipients.find (sampleId 'r') ∧
      charges later.ledger (sampleId 'r') = charges state.ledger (sampleId 'r') := by
  obtain ⟨state, reached, observed⟩ := run_observed step .initial (fun _ action => clockStands action)
    (fun state => inStatusAt (sampleId 'r') .submitted state &&
      decide ((charges state.ledger (sampleId 'r')).length = 1) &&
      (run step (fun _ action => clockStands action) state
        [.endRefresh {} 0, .endCount 0, .finalize 0]).any fun _ => true) clockStands_within
    (sentNow ++ [.start 0 (sampleId 'c'), .claim 0 [sampleId 'r'], .check 0, .submit {} 0 1])
    (by decide +kernel)
  simp only [Bool.and_eq_true, decide_eq_true_eq] at observed
  obtain ⟨⟨submitted, once⟩, onward⟩ := observed
  obtain ⟨later, continued, _⟩ := run_observed step state (fun _ action => clockStands action) _
    clockStands_within _ onward
  obtain ⟨recipient, found, status⟩ := inStatusAt_find _ _ _ submitted
  obtain ⟨kept, _, same⟩ := terminal_recipients_absorb state later reached continued (sampleId 'r')
    recipient found (by rw [status]; rfl)
  exact ⟨state, later, submitted, once, by rw [kept, found], same⟩

def slowProvider : List Action :=
  let audience : Audience := ⟨[(sampleId 'r', sampleId 'g'), (sampleId 's', sampleId 'h')], 10⟩
  [.postAdjustment {} {} ⟨.topup, 10, [], none, none, false, none, "k".toList⟩ (sampleId 'a'),
    .schedule {} (sampleId 'c') ⟨false, ⟨2, 1⟩, audience, some audience⟩,
    .start 0 (sampleId 'c'), .claim 0 [sampleId 'r'], .check 0, .tick (16 * 60 * second),
    .reap {} (sampleId 'c')]

/-- With any clock values, the reaper fails a recipient as `worker_lost` while
its worker waits for the provider; the worker then submits and charges it. -/
theorem reaped_recipient_is_submitted :
    ∃ state later, Reached step (fun _ _ => True) .initial state ∧
      Reached step (fun _ _ => True) state later ∧
      inStatusAt (sampleId 'r') .failed state = true ∧
      ((state.recipients.find (sampleId 'r')).bind Recipient.errorCode) = some "worker_lost" ∧
      inStatusAt (sampleId 'r') .submitted later = true ∧
      (charges state.ledger (sampleId 'r')).length = 0 ∧
      (charges later.ledger (sampleId 'r')).length = 1 := by
  obtain ⟨state, reached, observed⟩ := run_observed step .initial (fun _ _ => true)
    (fun state => inStatusAt (sampleId 'r') .failed state &&
      decide ((state.recipients.find (sampleId 'r')).bind Recipient.errorCode = some "worker_lost") &&
      decide ((charges state.ledger (sampleId 'r')).length = 0) &&
      (run step (fun _ _ => true) state [.submit {} 0 1]).any fun later =>
        inStatusAt (sampleId 'r') .submitted later &&
          decide ((charges later.ledger (sampleId 'r')).length = 1))
    (fun _ _ _ => trivial) slowProvider (by decide +kernel)
  simp only [Bool.and_eq_true, decide_eq_true_eq] at observed
  obtain ⟨⟨⟨failed, lost⟩, uncharged⟩, onward⟩ := observed
  obtain ⟨later, continued, seen⟩ := run_observed step state (fun _ _ => true) _
    (fun _ _ _ => trivial) _ onward
  simp only [Bool.and_eq_true, decide_eq_true_eq] at seen
  exact ⟨state, later, reached, continued, failed, lost, seen.1, uncharged, seen.2⟩

end CloudGuest.Marketing
