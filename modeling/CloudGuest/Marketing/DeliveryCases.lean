import CloudGuest.Marketing.Delivery

/-!
What each operation of the machine returns when it is enabled: the guards it
passed and the state it leaves. Later proofs read these and do not unfold the
operations again.
-/

namespace CloudGuest.Marketing
open Texts Tables CreditLedger

@[simp] theorem setCampaign_self (state : State) (campaignId : Uuid) (campaign : Campaign) :
    (state.setCampaign campaignId campaign).campaigns campaignId = campaign := by
  simp [State.setCampaign]

theorem setCampaign_other (state : State) (campaignId other : Uuid) (campaign : Campaign)
    (different : other ≠ campaignId) :
    (state.setCampaign campaignId campaign).campaigns other = state.campaigns other := by
  simp [State.setCampaign, different]

@[simp] theorem setCampaign_twice (state : State) (campaignId : Uuid) (first second : Campaign) :
    (state.setCampaign campaignId first).setCampaign campaignId second =
      state.setCampaign campaignId second := by
  simp only [State.setCampaign, State.mk.injEq, true_and, and_true]
  funext other
  split <;> rfl

@[simp] theorem setCampaign_ledger (state : State) (campaignId : Uuid) (campaign : Campaign) :
    (state.setCampaign campaignId campaign).ledger = state.ledger := rfl

@[simp] theorem setCampaign_recipients (state : State) (campaignId : Uuid) (campaign : Campaign) :
    (state.setCampaign campaignId campaign).recipients = state.recipients := rfl

@[simp] theorem setCampaign_workers (state : State) (campaignId : Uuid) (campaign : Campaign) :
    (state.setCampaign campaignId campaign).workers = state.workers := rfl

@[simp] theorem setCampaign_clock (state : State) (campaignId : Uuid) (campaign : Campaign) :
    (state.setCampaign campaignId campaign).clock = state.clock := rfl

@[simp] theorem setWorker_self (state : State) (worker : Nat) (working : Option Working) :
    (state.setWorker worker working).workers worker = working := by
  simp [State.setWorker]

theorem setWorker_other (state : State) (worker other : Nat) (working : Option Working)
    (different : other ≠ worker) :
    (state.setWorker worker working).workers other = state.workers other := by
  simp [State.setWorker, different]

@[simp] theorem setWorker_ledger (state : State) (worker : Nat) (working : Option Working) :
    (state.setWorker worker working).ledger = state.ledger := rfl

@[simp] theorem setWorker_recipients (state : State) (worker : Nat) (working : Option Working) :
    (state.setWorker worker working).recipients = state.recipients := rfl

@[simp] theorem setWorker_campaigns (state : State) (worker : Nat) (working : Option Working) :
    (state.setWorker worker working).campaigns = state.campaigns := rfl

@[simp] theorem setWorker_clock (state : State) (worker : Nat) (working : Option Working) :
    (state.setWorker worker working).clock = state.clock := rfl

theorem claimsRow_iff (state : State) (campaignId : Uuid) (expected : CampaignStatus → Bool) :
    claimsRow state campaignId expected = true ↔
      expected (state.campaigns campaignId).status = true ∧
        (state.campaigns campaignId).isDeleted = false ∧
        (state.campaigns campaignId).ending = none := by
  simp [claimsRow, and_assoc]

theorem updateLedger_some {Answer : Type} (state later : State)
    (result : Except Refusal Answer × Ledger) (updated : updateLedger state result = some later) :
    ∃ answer ledger, result = (.ok answer, ledger) ∧ later = { state with ledger } := by
  obtain ⟨outcome, ledger⟩ := result
  cases outcome with
  | error refusal => cases updated
  | ok answer =>
      cases updated
      exact ⟨answer, ledger, rfl, rfl⟩

theorem settleCredits_some (session : Session) (state later : State) (campaignId : Uuid)
    (settled : settleCredits session state campaignId = some later) :
    ∃ released ledger, settle session state.ledger campaignId (state.campaigns campaignId).status
        (state.campaigns campaignId).billed (countInFlight state campaignId) =
          (.ok released, ledger) ∧ later = { state with ledger } :=
  updateLedger_some state later _ settled

theorem finalizeHeld_some (session : Session) (state later : State) (campaignId : Uuid)
    (finalized : finalizeHeld session state campaignId = some later) :
    (later = state ∧ ¬ ((state.campaigns campaignId).status = .sending ∧
        ¬ (state.campaigns campaignId).isDeleted)) ∨
      ((state.campaigns campaignId).status = .sending ∧
        (state.campaigns campaignId).isDeleted = false ∧
        settleCredits session
          (state.setCampaign campaignId
            { state.campaigns campaignId with status := finalStatus (state.campaigns campaignId) })
          campaignId = some later) := by
  simp only [finalizeHeld] at finalized
  split at finalized
  · rename_i sending
    exact .inr ⟨sending.1, by simpa using sending.2, finalized⟩
  · rename_i ended
    cases finalized
    exact .inl ⟨rfl, ended⟩

theorem finalStatus_cases (campaign : Campaign) :
    finalStatus campaign = .sent ∨ finalStatus campaign = .failed := by
  unfold finalStatus
  split
  · exact .inl rfl
  · exact .inr rfl

theorem finalStatus_terminal (campaign : Campaign) : (finalStatus campaign).terminal = true := by
  rcases finalStatus_cases campaign with sent | failed
  · rw [sent]
    rfl
  · rw [failed]
    rfl

theorem settleCredits_frame (session : Session) (state later : State) (campaignId : Uuid)
    (settled : settleCredits session state campaignId = some later) :
    later.recipients = state.recipients ∧ later.workers = state.workers ∧
      later.campaigns = state.campaigns := by
  obtain ⟨released, ledger, _, rfl⟩ := settleCredits_some session state later campaignId settled
  exact ⟨rfl, rfl, rfl⟩

theorem finalizeHeld_frame (session : Session) (state later : State) (campaignId : Uuid)
    (finalized : finalizeHeld session state campaignId = some later) :
    later.recipients = state.recipients ∧ later.workers = state.workers := by
  rcases finalizeHeld_some session state later campaignId finalized with
    ⟨rfl, _⟩ | ⟨_, _, settled⟩
  · exact ⟨rfl, rfl⟩
  · obtain ⟨recipients, workers, _⟩ := settleCredits_frame session _ later campaignId settled
    exact ⟨recipients, workers⟩

def insertedRows (state : State) (recipients : Recipients) : Nat :=
  recipients.rows.length - state.recipients.rows.length

def filled (state : State) (campaignId : Uuid) (ledger : Ledger) (recipients : Recipients)
    (cappedByCredits : Int) : State :=
  { state with ledger, recipients }.setCampaign campaignId
    { state.campaigns campaignId with
      recipientCount :=
        (state.campaigns campaignId).recipientCount + insertedRows state recipients
      countPending := (state.campaigns campaignId).countPending + insertedRows state recipients
      cappedByCredits := cappedByCredits }

theorem materialize_some (session : Session) (state later : State) (campaignId : Uuid)
    (audience : Audience) (first : (state.campaigns campaignId).recipientCount = 0)
    (materialized : materialize session state campaignId audience = some later) :
    ∃ fitted ledger recipients,
      adjustAtDispatch session state.ledger campaignId (state.campaigns campaignId).billed
          (audience.reachable.take audience.limit).length = (.ok fitted, ledger) ∧
      recipients = insertRecipients campaignId state.recipients
        (sliceTo (audience.reachable.take audience.limit) fitted.allowed) ∧
      ((insertedRows state recipients = 0 ∧
          finalizeHeld session (filled state campaignId ledger recipients fitted.cappedByCredits)
            campaignId = some later) ∨
        later = filled state campaignId ledger recipients fitted.cappedByCredits) := by
  simp only [materialize, fitAudience, if_pos first] at materialized
  split at materialized
  · cases materialized
  · rename_i fitted rows capped outcome
    split at outcome
    · cases outcome
    · rename_i answer ledger adjusted
      cases outcome
      refine ⟨answer, ledger, _, adjusted, rfl, ?_⟩
      split at materialized
      · rename_i nobody
        exact .inl ⟨nobody.1, materialized⟩
      · cases materialized
        exact .inr rfl

theorem materialize_frame (session : Session) (state later : State) (campaignId : Uuid)
    (audience : Audience) (materialized : materialize session state campaignId audience = some later) :
    later.workers = state.workers ∧
      ∃ rows, later.recipients = insertRecipients campaignId state.recipients rows := by
  simp only [materialize] at materialized
  split at materialized
  · cases materialized
  · rename_i fitted rows capped outcome
    have same : fitted.workers = state.workers := by
      simp only [fitAudience] at outcome
      split at outcome
      · split at outcome
        · cases outcome
        · cases outcome
          rfl
      · cases outcome
        rfl
    split at materialized
    · obtain ⟨recipients, workers⟩ := finalizeHeld_frame session _ later campaignId materialized
      exact ⟨workers.trans same, rows, recipients⟩
    · cases materialized
      exact ⟨same, rows, rfl⟩

/-! ### Scheduling and dispatch -/

theorem schedule_some (session : Session) (state later : State) (campaignId : Uuid)
    (request : ScheduleRequest)
    (scheduled : schedule session state campaignId request = some later) :
    claimsRow state campaignId (· == .draft) = true ∧
      ∃ reserved, reserveForSchedule session state campaignId request = some reserved ∧
        ((request.sendNow = none ∧
            later = reserved.setCampaign campaignId (scheduledRow state campaignId request)) ∨
          ∃ audience, request.sendNow = some audience ∧
            materialize session
              (reserved.setCampaign campaignId (scheduledRow state campaignId request)) campaignId
              audience = some later) := by
  simp only [schedule] at scheduled
  split at scheduled
  · rename_i open'
    refine ⟨open'.1, ?_⟩
    split at scheduled
    · cases scheduled
    · rename_i reserved outcome
      refine ⟨reserved, outcome, ?_⟩
      split at scheduled
      · rename_i later'
        cases scheduled
        exact .inl ⟨later', rfl⟩
      · rename_i audience now
        exact .inr ⟨audience, now, scheduled⟩
  · cases scheduled

theorem reserveForSchedule_some (session : Session) (state later : State) (campaignId : Uuid)
    (request : ScheduleRequest)
    (reserved : reserveForSchedule session state campaignId request = some later) :
    (request.providerOwn = true ∧ later = state) ∨
      (request.providerOwn = false ∧ ∃ amount ledger,
        reserveAtSchedule session state.ledger campaignId request.price
          request.preview.reachable.length = (.ok amount, ledger) ∧
        later = { state with ledger }) := by
  unfold reserveForSchedule at reserved
  split at reserved
  · rename_i own
    cases reserved
    exact .inl ⟨own, rfl⟩
  · rename_i wyfy
    exact .inr ⟨by simpa using wyfy, updateLedger_some state later _ reserved⟩

theorem unschedule_some (session : Session) (state later : State) (campaignId : Uuid)
    (unscheduled : unschedule session state campaignId = some later) :
    claimsRow state campaignId (· == .scheduled) = true ∧ ∃ released ledger,
      releaseAll session state.ledger campaignId (unscheduleKey campaignId) =
          (.ok released, ledger) ∧
        later = { state.setCampaign campaignId
          { state.campaigns campaignId with
            status := .draft, billed := ⟨none, false⟩, cappedByCredits := 0 } with ledger } := by
  unfold unschedule at unscheduled
  split at unscheduled
  · rename_i open'
    exact ⟨open', updateLedger_some _ later _ unscheduled⟩
  · cases unscheduled

theorem requestDelete_some (state later : State) (campaignId : Uuid)
    (requested : requestDelete state campaignId = some later) :
    later = state.setCampaign campaignId { state.campaigns campaignId with deleting := true } := by
  simp only [requestDelete] at requested
  split at requested
  · cases requested
    rfl
  · cases requested

theorem deleteCampaign_some (state later : State) (campaignId : Uuid)
    (deleted : deleteCampaign state campaignId = some later) :
    later = state.setCampaign campaignId
      { state.campaigns campaignId with isDeleted := true, deleting := false } := by
  simp only [deleteCampaign] at deleted
  split at deleted
  · cases deleted
    rfl
  · cases deleted

theorem dispatchDue_some (session : Session) (state later : State) (campaignId : Uuid)
    (audience : Audience) (dispatched : dispatchDue session state campaignId audience = some later) :
    claimsRow state campaignId (· == .scheduled) = true ∧
      materialize session
        (state.setCampaign campaignId
          { state.campaigns campaignId with status := .sending, startedAt := some state.clock })
        campaignId audience = some later := by
  unfold dispatchDue at dispatched
  split at dispatched
  · rename_i open'
    exact ⟨open', dispatched⟩
  · cases dispatched

theorem dispatchRefused_guard (session : Session) (state later : State) (campaignId : Uuid)
    (audience : Audience) (fitted : Bool)
    (refused : dispatchRefused session state campaignId audience fitted = some later) :
    (state.campaigns campaignId).status = .scheduled ∧
      (state.campaigns campaignId).ending = none := by
  unfold dispatchRefused at refused
  split at refused
  · rename_i guard
    obtain ⟨due, _, free⟩ := (claimsRow_iff _ _ _).mp guard
    exact ⟨by simpa using due, free⟩
  · cases refused

/-- The reservation may have been fitted before the `MarketingError`. -/
theorem dispatchRefused_some (session : Session) (state later : State) (campaignId : Uuid)
    (audience : Audience) (fitted : Bool)
    (first : (state.campaigns campaignId).recipientCount = 0)
    (refused : dispatchRefused session state campaignId audience fitted = some later) :
    claimsRow state campaignId (· == .scheduled) = true ∧ ∃ ledger,
      (ledger = state.ledger ∨ ∃ answer,
        adjustAtDispatch session state.ledger campaignId (state.campaigns campaignId).billed
          (audience.reachable.take audience.limit).length = (.ok answer, ledger)) ∧
      settleCredits session ({ state with ledger }.setCampaign campaignId
        { state.campaigns campaignId with status := .failed, startedAt := some state.clock })
        campaignId = some later := by
  simp only [dispatchRefused] at refused
  split at refused
  · rename_i open'
    refine ⟨open', ?_⟩
    split at refused
    · simp only [fitAudience, if_pos first] at refused
      split at refused
      · cases refused
      · rename_i current rows capped outcome
        split at outcome
        · cases outcome
        · rename_i answer ledger adjusted
          cases outcome
          exact ⟨ledger, .inr ⟨answer, adjusted⟩, refused⟩
    · exact ⟨state.ledger, .inl rfl, refused⟩
  · cases refused

theorem dispatchRefused_frame (session : Session) (state later : State) (campaignId : Uuid)
    (audience : Audience) (fitted : Bool)
    (refused : dispatchRefused session state campaignId audience fitted = some later) :
    later.recipients = state.recipients ∧ later.workers = state.workers := by
  simp only [dispatchRefused] at refused
  split at refused
  · split at refused
    · split at refused
      · cases refused
      · rename_i current rows capped outcome
        have same : current.workers = state.workers ∧ current.recipients = state.recipients := by
          simp only [fitAudience] at outcome
          split at outcome
          · split at outcome
            · cases outcome
            · cases outcome
              exact ⟨rfl, rfl⟩
          · cases outcome
            exact ⟨rfl, rfl⟩
        obtain ⟨recipients, workers, _⟩ := settleCredits_frame session _ later campaignId refused
        exact ⟨recipients.trans same.2, workers.trans same.1⟩
    · obtain ⟨recipients, workers, _⟩ := settleCredits_frame session _ later campaignId refused
      exact ⟨recipients, workers⟩
  · cases refused

/-! ### Ending -/

theorem beginEnding_some (state later : State) (campaignId : Uuid) (cause : Cause)
    (begun : beginEnding state campaignId cause = some later) :
    claimsRow state campaignId cause.expected = true ∧
      later = openEnding state campaignId cause.target cause.skipReason := by
  unfold beginEnding at begun
  split at begun
  · rename_i open'
    cases begun
    exact ⟨open'.1, rfl⟩
  · cases begun

theorem countEnding_some (state later : State) (campaignId : Uuid)
    (counted : countEnding state campaignId = some later) :
    ∃ ending, (state.campaigns campaignId).ending = some ending ∧ ending.inFlight = none ∧
      later = state.setCampaign campaignId
        { state.campaigns campaignId with
          ending := some { ending with inFlight := some (countInFlight state campaignId) } } := by
  simp only [countEnding] at counted
  split at counted
  · rename_i ending opened
    split at counted
    · rename_i uncounted
      cases counted
      exact ⟨ending, opened, by simpa using uncounted, rfl⟩
    · cases counted
  · cases counted

theorem abortEnding_some (state later : State) (campaignId : Uuid)
    (aborted : abortEnding state campaignId = some later) :
    later = state.setCampaign campaignId { state.campaigns campaignId with ending := none } := by
  simp only [abortEnding] at aborted
  split at aborted
  · cases aborted
    rfl
  · cases aborted

theorem commitEnding_some (session : Session) (state later : State) (campaignId : Uuid)
    (committed : commitEnding session state campaignId = some later) :
    ∃ ending inFlight released ledger, (state.campaigns campaignId).ending = some ending ∧
      ending.inFlight = some inFlight ∧
      settle session state.ledger campaignId ending.target (state.campaigns campaignId).billed
        inFlight = (.ok released, ledger) ∧
      later = { endedRows state campaignId ending with ledger } := by
  unfold commitEnding at committed
  split at committed
  · rename_i ending opened
    split at committed
    · rename_i inFlight counted
      obtain ⟨released, ledger, settled, rfl⟩ := updateLedger_some _ later _ committed
      exact ⟨ending, inFlight, released, ledger, opened, counted, settled, rfl⟩
    · cases committed
  · cases committed

/-! ### send_batch -/

theorem startBatch_some (state later : State) (worker : Nat) (campaignId : Uuid)
    (started : startBatch state worker campaignId = some later) :
    state.workers worker = none ∧ (state.campaigns campaignId).status = .sending ∧
      later = state.setWorker worker (some ⟨campaignId, state.clock, .started⟩) := by
  simp only [startBatch] at started
  split at started
  · rename_i free
    cases started
    exact ⟨free.1, free.2.1, rfl⟩
  · cases started

theorem claim_some (state later : State) (worker : Nat) (ids : List Uuid)
    (claimed : claim state worker ids = some later) :
    ∃ campaignId startedAt,
      state.workers worker = some ⟨campaignId, startedAt, .started⟩ ∧ ids.Nodup ∧
      (∀ id ∈ ids, ∃ recipient, state.recipients.find id = some recipient ∧
        claimable campaignId startedAt (lockedRows (state.campaigns campaignId)) recipient = true) ∧
      later = { state with recipients := claimBatch state.recipients ids startedAt }.setWorker worker
        (some ⟨campaignId, startedAt, .batch (ticketsFor state.recipients ids)⟩) := by
  unfold claim at claimed
  split at claimed
  · rename_i campaignId startedAt busy
    dsimp only at claimed
    split at claimed
    · rename_i guard
      cases claimed
      refine ⟨campaignId, startedAt, busy, guard.1, ?_, rfl⟩
      intro id member
      have due := List.all_eq_true.mp guard.2.2 id member
      simpa [Option.any_eq_true] using due
    · cases claimed
  · cases claimed

theorem abortOwn_some (session : Session) (state later : State) (worker : Nat)
    (aborted : abortOwn session state worker = some later) :
    ∃ campaignId startedAt finalized,
      state.workers worker = some ⟨campaignId, startedAt, .started⟩ ∧
      (state.campaigns campaignId).billed.providerOwn = true ∧
      (state.campaigns campaignId).ending = none ∧
      finalizeHeld session (failUnsentRecipients state campaignId []) campaignId = some finalized ∧
      later = finalized.setWorker worker none := by
  unfold abortOwn at aborted
  split at aborted
  · rename_i campaignId startedAt busy
    dsimp only at aborted
    split at aborted
    · rename_i own
      obtain ⟨finalized, held, rfl⟩ := Option.map_eq_some_iff.mp aborted
      exact ⟨campaignId, startedAt, finalized, busy, own.1, by simpa using own.2, held, rfl⟩
    · cases aborted
  · cases aborted

theorem check_some (state later : State) (worker : Nat) (checked : check state worker = some later) :
    ∃ campaignId startedAt ticket todo,
      state.workers worker = some ⟨campaignId, startedAt, .batch (ticket :: todo)⟩ ∧
      (state.campaigns campaignId).status = .sending ∧
      later = state.setWorker worker
        (some ⟨campaignId, startedAt, .checked state.clock ticket todo⟩) := by
  unfold check at checked
  split at checked
  · rename_i campaignId startedAt ticket todo busy
    split at checked
    · rename_i sending
      cases checked
      exact ⟨campaignId, startedAt, ticket, todo, busy, sending, rfl⟩
    · cases checked
  · cases checked

structure Wrote (state : State) (worker : Nat) (campaignId : Uuid) (startedAt : Int)
    (ticket : Ticket) (todo : List Ticket) : Prop where
  busy : ∃ stage, state.workers worker = some ⟨campaignId, startedAt, stage⟩ ∧
    (stage = .batch (ticket :: todo) ∨ ∃ now, stage = .checked now ticket todo)
  free : (state.campaigns campaignId).ending = none

theorem skipCancelled_some (state later : State) (worker : Nat)
    (skipped : skipCancelled state worker = some later) :
    ∃ campaignId startedAt ticket todo, Wrote state worker campaignId startedAt ticket todo ∧
      later = settleOne state worker ⟨campaignId, startedAt, .batch todo⟩ ticket todo
        (markSkipped "cancelled") 0 0 1 := by
  unfold skipCancelled at skipped
  split at skipped
  · rename_i campaignId startedAt ticket todo busy
    split at skipped
    · rename_i guard
      cases skipped
      exact ⟨campaignId, startedAt, ticket, todo,
        ⟨⟨_, busy, .inl rfl⟩, by simpa [rowFree] using guard.2⟩, rfl⟩
    · cases skipped
  · cases skipped

theorem skipRechecked_some (state later : State) (worker : Nat) (reason : String)
    (skipped : skipRechecked state worker reason = some later) :
    ∃ campaignId startedAt ticket todo, Wrote state worker campaignId startedAt ticket todo ∧
      later = settleOne state worker ⟨campaignId, startedAt, .batch todo⟩ ticket todo
        (markSkipped reason) 0 0 1 := by
  unfold skipRechecked at skipped
  split at skipped
  · rename_i campaignId startedAt now ticket todo busy
    split at skipped
    · rename_i guard
      cases skipped
      exact ⟨campaignId, startedAt, ticket, todo,
        ⟨⟨_, busy, .inr ⟨now, rfl⟩⟩, by simpa [rowFree] using guard⟩, rfl⟩
    · cases skipped
  · cases skipped

theorem fail_some (state later : State) (worker : Nat) (code : String)
    (failed : fail state worker code = some later) :
    ∃ campaignId startedAt ticket todo, Wrote state worker campaignId startedAt ticket todo ∧
      later = settleOne state worker ⟨campaignId, startedAt, .batch todo⟩ ticket todo
        (markFailed code) 0 1 0 := by
  unfold fail at failed
  split at failed
  · rename_i campaignId startedAt now ticket todo busy
    split at failed
    · rename_i guard
      cases failed
      exact ⟨campaignId, startedAt, ticket, todo,
        ⟨⟨_, busy, .inr ⟨now, rfl⟩⟩, by simpa [rowFree] using guard⟩, rfl⟩
    · cases failed
  · cases failed

theorem submit_some (session : Session) (state later : State) (worker units : Nat)
    (submitted : submit session state worker units = some later) :
    ∃ campaignId startedAt ticket todo, Wrote state worker campaignId startedAt ticket todo ∧
      (later = state.setWorker worker none ∨ ∃ charged ledger,
        debitRecipient session state.ledger campaignId ticket.recipientId
            (state.campaigns campaignId).billed units = (.ok charged, ledger) ∧
          later = { settleOne state worker ⟨campaignId, startedAt, .batch todo⟩ ticket todo
            markSubmitted 1 0 0 with ledger }) := by
  unfold submit at submitted
  split at submitted
  · rename_i campaignId startedAt now ticket todo busy
    split at submitted
    · rename_i guard
      refine ⟨campaignId, startedAt, ticket, todo,
        ⟨⟨_, busy, .inr ⟨now, rfl⟩⟩, by simpa [rowFree] using guard⟩, ?_⟩
      split at submitted
      · cases submitted
        exact .inl rfl
      · rename_i charged ledger debited
        cases submitted
        exact .inr ⟨charged, ledger, debited, rfl⟩
    · cases submitted
  · cases submitted

theorem retry_some (state later : State) (worker : Nat) (code : String)
    (retried : retry state worker code = some later) :
    ∃ campaignId startedAt now ticket todo,
      state.workers worker = some ⟨campaignId, startedAt, .checked now ticket todo⟩ ∧
      later = { state with
        recipients := updateRecipient state.recipients ticket.recipientId
          (markPending code (now + 30 * second * ticket.attempt)) }.setWorker worker
            (some ⟨campaignId, startedAt, .batch todo⟩) := by
  unfold retry at retried
  split at retried
  · rename_i campaignId startedAt now ticket todo busy
    split at retried
    · cases retried
      exact ⟨campaignId, startedAt, now, ticket, todo, busy, rfl⟩
    · cases retried
  · cases retried

theorem tripOwn_some (session : Session) (state later : State) (worker : Nat)
    (tripped : tripOwn session state worker = some later) :
    ∃ campaignId startedAt now ticket todo finalized,
      state.workers worker = some ⟨campaignId, startedAt, .checked now ticket todo⟩ ∧
      (state.campaigns campaignId).billed.providerOwn = true ∧
      (state.campaigns campaignId).ending = none ∧
      finalizeHeld session (failUnsentRecipients state campaignId (ticket :: todo)) campaignId =
        some finalized ∧
      later = finalized.setWorker worker none := by
  unfold tripOwn at tripped
  split at tripped
  · rename_i campaignId startedAt now ticket todo busy
    dsimp only at tripped
    split at tripped
    · rename_i own
      obtain ⟨finalized, held, rfl⟩ := Option.map_eq_some_iff.mp tripped
      exact ⟨campaignId, startedAt, now, ticket, todo, finalized, busy, own.1,
        by simpa using own.2, held, rfl⟩
    · cases tripped
  · cases tripped

theorem endRefresh_some (session : Session) (state later : State) (worker : Nat)
    (refreshed : endRefresh session state worker = some later) :
    ∃ campaignId startedAt, state.workers worker = some ⟨campaignId, startedAt, .batch []⟩ ∧
      (((state.campaigns campaignId).status = .sending ∧
          later = state.setWorker worker (some ⟨campaignId, startedAt, .ended⟩)) ∨
        ((state.campaigns campaignId).status ≠ .sending ∧
          ((settleCredits session state campaignId = none ∧ later = state.setWorker worker none) ∨
            ∃ settled, settleCredits session state campaignId = some settled ∧
              later = settled.setWorker worker none))) := by
  unfold endRefresh at refreshed
  split at refreshed
  · rename_i campaignId startedAt busy
    refine ⟨campaignId, startedAt, busy, ?_⟩
    split at refreshed
    · rename_i sending
      cases refreshed
      exact .inl ⟨sending, rfl⟩
    · rename_i ended
      refine .inr ⟨ended, ?_⟩
      split at refreshed
      · rename_i failed
        cases refreshed
        exact .inl ⟨failed, rfl⟩
      · rename_i settled outcome
        cases refreshed
        exact .inr ⟨settled, outcome, rfl⟩
  · cases refreshed

theorem endCount_some (state later : State) (worker : Nat)
    (counted : endCount state worker = some later) :
    ∃ campaignId startedAt, state.workers worker = some ⟨campaignId, startedAt, .ended⟩ ∧
      ((countPending state campaignId = 0 ∧
          later = state.setWorker worker (some ⟨campaignId, startedAt, .drained⟩)) ∨
        later = state.setWorker worker none) := by
  unfold endCount at counted
  split at counted
  · rename_i campaignId startedAt busy
    refine ⟨campaignId, startedAt, busy, ?_⟩
    split at counted
    · rename_i none
      cases counted
      exact .inl ⟨none, rfl⟩
    · cases counted
      exact .inr rfl
  · cases counted

theorem finalize_some (state later : State) (worker : Nat)
    (finalized : finalize state worker = some later) :
    ∃ campaignId startedAt, state.workers worker = some ⟨campaignId, startedAt, .drained⟩ ∧
      (later = state.setWorker worker none ∨
        ((state.campaigns campaignId).status = .sending ∧
          (state.campaigns campaignId).ending = none ∧
          later = (openEnding state campaignId (finalStatus (state.campaigns campaignId))
            none).setWorker worker none)) := by
  unfold finalize at finalized
  split at finalized
  · rename_i campaignId startedAt busy
    refine ⟨campaignId, startedAt, busy, ?_⟩
    dsimp only at finalized
    split at finalized
    · cases finalized
      exact .inl rfl
    · rename_i sending
      split at finalized
      · rename_i free
        cases finalized
        exact .inr ⟨by simpa using (not_or.mp sending).1, by simpa using free, rfl⟩
      · cases finalized
  · cases finalized

theorem crash_some (state later : State) (worker : Nat) (crashed : crash state worker = some later) :
    ∃ working, state.workers worker = some working ∧ later = state.setWorker worker none := by
  unfold crash at crashed
  split at crashed
  · rename_i busy
    obtain ⟨working, same⟩ := Option.isSome_iff_exists.mp busy
    cases crashed
    exact ⟨working, same, rfl⟩
  · cases crashed

/-! ### reap_stuck -/

theorem reapStuck_some (session : Session) (state later : State) (campaignId : Uuid)
    (reaped : reapStuck session state campaignId = some later) :
    (state.campaigns campaignId).ending = none ∧
      0 < state.recipients.count (stuck campaignId (stuckBefore state)) ∧
      (((state.campaigns campaignId).isDeleted = true ∧
          later = reapStuckRecipients state campaignId (stuckBefore state)) ∨
        ((state.campaigns campaignId).isDeleted = false ∧
          ((countPending (reapStuckRecipients state campaignId (stuckBefore state)) campaignId = 0 ∧
              ∃ finalized, finalizeHeld session
                  (reapStuckRecipients state campaignId (stuckBefore state)) campaignId =
                    some finalized ∧ settleCredits session finalized campaignId = some later) ∨
            settleCredits session (reapStuckRecipients state campaignId (stuckBefore state))
              campaignId = some later))) := by
  unfold reapStuck at reaped
  split at reaped
  · rename_i guard
    refine ⟨by simpa [rowFree] using guard.1, guard.2, ?_⟩
    have same : ((reapStuckRecipients state campaignId (stuckBefore state)).campaigns
        campaignId).isDeleted = (state.campaigns campaignId).isDeleted := by
      simp [reapStuckRecipients, adjustCounters]
    dsimp only at reaped
    rw [same] at reaped
    split at reaped
    · rename_i deleted
      cases reaped
      exact .inl ⟨deleted, rfl⟩
    · rename_i kept
      refine .inr ⟨by simpa using kept, ?_⟩
      split at reaped
      · rename_i drained
        split at reaped
        · cases reaped
        · rename_i finalized outcome
          exact .inl ⟨drained, finalized, outcome, reaped⟩
      · exact .inr reaped
  · cases reaped

end CloudGuest.Marketing
