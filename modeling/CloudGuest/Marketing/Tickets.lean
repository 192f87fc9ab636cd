import CloudGuest.Marketing.CampaignViews
import CloudGuest.Marketing.DeliveryCases

/-!
Who may write which recipient. A claimed recipient is in the batch of exactly
one worker and stays `sending` until that worker writes it, as long as the
reaper spares the recipients of workers that go on.
-/

namespace CloudGuest.Marketing
open Texts Tables CreditLedger Runs

def Stage.tickets : Stage → List Ticket
  | .batch todo => todo
  | .checked _ ticket todo => ticket :: todo
  | _ => []

structure Held (recipients : Recipients) (working : Working) : Prop where
  distinct : (working.stage.tickets.map Ticket.recipientId).Nodup
  sending : ∀ ticket ∈ working.stage.tickets, ∃ recipient,
    recipients.find ticket.recipientId = some recipient ∧
      recipient.campaignId = working.campaignId ∧ recipient.status = .sending ∧
      recipient.sendingStartedAt = some working.startedAt

structure Tended (state : State) : Prop where
  held : ∀ worker working, state.workers worker = some working → Held state.recipients working
  apart : ∀ left right one other, left ≠ right → state.workers left = some one →
    state.workers right = some other → ∀ ticket ∈ one.stage.tickets,
      ∀ another ∈ other.stage.tickets, ticket.recipientId ≠ another.recipientId

theorem initial_tended : Tended .initial where
  held := by
    intro worker working busy
    cases busy
  apart := by
    intro left right one other different busy
    cases busy

/-- No recipient the reaper takes is in a worker's batch: its worker has
stopped, as `crash` says, and takes no further step. -/
def SparesWorkers (state : State) : Action → Prop
  | .reap _ campaignId => ∀ worker working, state.workers worker = some working →
      ∀ ticket ∈ working.stage.tickets, ∀ recipient,
        state.recipients.find ticket.recipientId = some recipient →
          stuck campaignId (stuckBefore state) recipient = false
  | _ => True

def withoutReaping : Action → Bool
  | .reap .. => false
  | _ => true

theorem withoutReaping_spares (state : State) (action : Action) (never : withoutReaping action = true) :
    SparesWorkers state action := by
  cases action with
  | reap => cases never
  | _ => trivial

theorem held_kept (before later : Recipients) (working : Working) (held : Held before working)
    (kept : ∀ ticket ∈ working.stage.tickets, ∀ recipient,
      before.find ticket.recipientId = some recipient →
        later.find ticket.recipientId = some recipient) : Held later working where
  distinct := held.distinct
  sending := by
    intro ticket member
    obtain ⟨recipient, found, facts⟩ := held.sending ticket member
    exact ⟨recipient, kept ticket member recipient found, facts⟩

theorem tended_moved (before later : State) (worker : Nat) (tended : Tended before)
    (others : ∀ other, other ≠ worker → later.workers other = before.workers other)
    (kept : ∀ other working, other ≠ worker → before.workers other = some working →
      ∀ ticket ∈ working.stage.tickets, ∀ recipient,
        before.recipients.find ticket.recipientId = some recipient →
          later.recipients.find ticket.recipientId = some recipient)
    (mine : ∀ working, later.workers worker = some working → Held later.recipients working ∧
      ∀ other another, other ≠ worker → before.workers other = some another →
        ∀ ticket ∈ working.stage.tickets, ∀ theirs ∈ another.stage.tickets,
          ticket.recipientId ≠ theirs.recipientId) : Tended later where
  held := by
    intro other working busy
    by_cases same : other = worker
    · subst same
      exact (mine working busy).1
    · rw [others other same] at busy
      exact held_kept _ _ working (tended.held other working busy) (kept other working same busy)
  apart := by
    intro left right one other different busy also ticket member another present
    by_cases same : left = worker
    · subst same
      rw [others right different.symm] at also
      exact (mine one busy).2 right other different.symm also ticket member another present
    · rw [others left same] at busy
      by_cases again : right = worker
      · subst again
        exact ((mine other also).2 left one same busy another present ticket member).symm
      · rw [others right again] at also
        exact tended.apart left right one other different busy also ticket member another present

theorem tended_rows (before later : State) (tended : Tended before)
    (same : later.workers = before.workers)
    (kept : ∀ worker working, before.workers worker = some working →
      ∀ ticket ∈ working.stage.tickets, ∀ recipient,
        before.recipients.find ticket.recipientId = some recipient →
          later.recipients.find ticket.recipientId = some recipient) : Tended later where
  held := by
    intro worker working busy
    rw [same] at busy
    exact held_kept _ _ working (tended.held worker working busy) (kept worker working busy)
  apart := by
    rw [same]
    exact tended.apart

theorem tended_frame (before later : State) (tended : Tended before)
    (workers : later.workers = before.workers) (recipients : later.recipients = before.recipients) :
    Tended later :=
  tended_rows before later tended workers fun _ _ _ _ _ _ found => recipients ▸ found

theorem tended_fewer (before later : State) (worker : Nat) (tended : Tended before)
    (others : ∀ other, other ≠ worker → later.workers other = before.workers other)
    (recipients : later.recipients = before.recipients)
    (fewer : ∀ working, later.workers worker = some working →
      working.stage.tickets = [] ∨ ∃ old, before.workers worker = some old ∧
        working.campaignId = old.campaignId ∧ working.startedAt = old.startedAt ∧
        working.stage.tickets = old.stage.tickets) : Tended later := by
  refine tended_moved before later worker tended others ?_ ?_
  · intro other working _ _ ticket _ recipient found
    rw [recipients]
    exact found
  · intro working busy
    rcases fewer working busy with none | ⟨old, was, campaign, started, same⟩
    · exact ⟨⟨by simp [none], by simp [none]⟩, by simp [none]⟩
    · have held := tended.held worker old was
      refine ⟨⟨by rw [same]; exact held.distinct, ?_⟩, ?_⟩
      · rw [same, recipients, campaign, started]
        exact held.sending
      · intro other another different theirs
        rw [same]
        exact tended.apart worker other old another (Ne.symm different) was theirs

/-! ### What an update leaves alone -/

theorem find_unselected (recipients : Recipients) (selected : Recipient → Bool)
    (change : Change Recipient.id) (id : Uuid) (recipient : Recipient)
    (found : recipients.find id = some recipient) (spared : selected recipient = false) :
    (recipients.updateWhere selected change).find id = some recipient := by
  rw [find_updateWhere, found, Option.map_some, changeRow, spared]
  rfl

theorem find_selected (recipients : Recipients) (selected : Recipient → Bool)
    (change : Change Recipient.id) (id : Uuid) (recipient : Recipient)
    (found : recipients.find id = some recipient) (chosen : selected recipient = true) :
    (recipients.updateWhere selected change).find id = some (change.apply recipient) := by
  rw [find_updateWhere, found, Option.map_some, changeRow, chosen]
  rfl

theorem find_updateRecipient (recipients : Recipients) (written id : Uuid)
    (change : Change Recipient.id) (recipient : Recipient) (other : id ≠ written)
    (found : recipients.find id = some recipient) :
    (updateRecipient recipients written change).find id = some recipient := by
  refine find_unselected recipients _ change id recipient found ?_
  have named := (find_mem recipients id recipient found).2
  simp [named, other]

theorem inStatus_sending (campaignId : Uuid) (recipient : Recipient)
    (flying : recipient.status = .sending) : inStatus campaignId .pending recipient = false := by
  simp [inStatus, flying]

theorem tended_wrote (before later : State) (worker : Nat) (working : Working) (ticket : Ticket)
    (todo : List Ticket) (change : Change Recipient.id) (tended : Tended before)
    (busy : before.workers worker = some working)
    (tickets : working.stage.tickets = ticket :: todo)
    (recipients : later.recipients =
      updateRecipient before.recipients ticket.recipientId change)
    (workers : later.workers = fun other => if other = worker
      then some { working with stage := .batch todo } else before.workers other) :
    Tended later := by
  have held := tended.held worker working busy
  refine tended_moved before later worker tended ?_ ?_ ?_
  · intro other different
    simp [workers, different]
  · intro other theirs different also another member recipient found
    rw [recipients]
    refine find_updateRecipient before.recipients _ _ change recipient ?_ found
    exact tended.apart other worker theirs working different also busy another member ticket
      (by simp [tickets])
  · intro moved now
    obtain rfl : { working with stage := .batch todo } = moved := by simpa [workers] using now
    have distinct := held.distinct
    rw [tickets, List.map_cons, List.nodup_cons] at distinct
    refine ⟨⟨distinct.2, ?_⟩, ?_⟩
    · intro another member
      obtain ⟨recipient, found, facts⟩ := held.sending another (by rw [tickets]; exact .tail _ member)
      refine ⟨recipient, ?_, facts⟩
      rw [recipients]
      refine find_updateRecipient before.recipients _ _ change recipient ?_ found
      intro same
      exact distinct.1 (same ▸ List.mem_map_of_mem member)
    · intro other another different also mine member
      exact tended.apart worker other working another (Ne.symm different) busy also mine
        (by rw [tickets]; exact .tail _ member)

theorem wrote_tickets (state : State) (worker : Nat) (campaignId : Uuid) (startedAt : Int)
    (ticket : Ticket) (todo : List Ticket)
    (wrote : Wrote state worker campaignId startedAt ticket todo) :
    ∃ stage, state.workers worker = some ⟨campaignId, startedAt, stage⟩ ∧
      stage.tickets = ticket :: todo := by
  obtain ⟨stage, busy, rfl | ⟨now, rfl⟩⟩ := wrote.busy
  · exact ⟨_, busy, rfl⟩
  · exact ⟨_, busy, rfl⟩

theorem settleOne_tended (state later : State) (worker : Nat) (campaignId : Uuid) (startedAt : Int)
    (ticket : Ticket) (todo : List Ticket) (change : Change Recipient.id)
    (submitted failed skipped : Int) (tended : Tended state)
    (wrote : Wrote state worker campaignId startedAt ticket todo)
    (recipients : later.recipients = (settleOne state worker ⟨campaignId, startedAt, .batch todo⟩
      ticket todo change submitted failed skipped).recipients)
    (workers : later.workers = (settleOne state worker ⟨campaignId, startedAt, .batch todo⟩
      ticket todo change submitted failed skipped).workers) : Tended later := by
  obtain ⟨stage, busy, tickets⟩ := wrote_tickets _ _ _ _ _ _ wrote
  exact tended_wrote state later worker _ ticket todo change tended busy tickets recipients workers

theorem ticketsFor_ids (recipients : Recipients) (ids : List Uuid)
    (present : ∀ id ∈ ids, ∃ recipient, recipients.find id = some recipient) :
    (ticketsFor recipients ids).map Ticket.recipientId = ids := by
  induction ids with
  | nil => rfl
  | cons id rest ih =>
      obtain ⟨recipient, found⟩ := present id (by simp)
      have following := ih fun other member => present other (.tail _ member)
      simpa [ticketsFor, found] using following

theorem claim_tended (state later : State) (worker : Nat) (ids : List Uuid) (tended : Tended state)
    (claimed : claim state worker ids = some later) : Tended later := by
  -- The recipients a worker claims were pending, hence in nobody's batch.
  obtain ⟨campaignId, startedAt, busy, distinct, due, rfl⟩ := claim_some _ _ _ _ claimed
  have pending : ∀ id ∈ ids, ∃ recipient, state.recipients.find id = some recipient ∧
      recipient.campaignId = campaignId ∧ recipient.status = .pending := by
    intro id member
    obtain ⟨recipient, found, able⟩ := due id member
    simp only [claimable, Bool.and_eq_true, inStatus_iff] at able
    exact ⟨recipient, found, able.1.1⟩
  have flying : ∀ other working, state.workers other = some working →
      ∀ ticket ∈ working.stage.tickets, ticket.recipientId ∉ ids := by
    intro other working also ticket member claimedToo
    obtain ⟨recipient, found, _, status⟩ := pending _ claimedToo
    obtain ⟨same, foundToo, _, sending, _⟩ := (tended.held other working also).sending ticket member
    rw [found] at foundToo
    cases foundToo
    rw [status] at sending
    cases sending
  have listed : (ticketsFor state.recipients ids).map Ticket.recipientId = ids := by
    refine ticketsFor_ids state.recipients ids ?_
    intro id member
    obtain ⟨recipient, found, _⟩ := pending id member
    exact ⟨recipient, found⟩
  refine tended_moved state _ worker tended ?_ ?_ ?_
  · intro other different
    exact setWorker_other _ worker other _ different
  · intro other working _ also ticket member recipient found
    refine find_unselected state.recipients _ _ _ recipient found ?_
    have named := (find_mem state.recipients _ recipient found).2
    simpa [named] using flying other working also ticket member
  · intro working now
    obtain rfl : ⟨campaignId, startedAt, .batch (ticketsFor state.recipients ids)⟩ = working := by
      simpa using now
    refine ⟨⟨by simpa [Stage.tickets, listed] using distinct, ?_⟩, ?_⟩
    · intro ticket member
      have inside : ticket.recipientId ∈ ids := listed ▸ List.mem_map_of_mem member
      obtain ⟨recipient, found, ofCampaign, _⟩ := pending _ inside
      have named := (find_mem state.recipients _ recipient found).2
      refine ⟨(markSending startedAt).apply recipient, ?_, ofCampaign, rfl, rfl⟩
      exact find_selected state.recipients _ _ _ recipient found (by simpa [named] using inside)
    · intro other another _ also ticket member theirs present same
      have inside : ticket.recipientId ∈ ids := listed ▸ List.mem_map_of_mem member
      exact flying other another also theirs present (same ▸ inside)

theorem failUnsent_tended (state later : State) (worker : Nat) (campaignId : Uuid)
    (startedAt : Int) (stage : Stage) (tended : Tended state)
    (busy : state.workers worker = some ⟨campaignId, startedAt, stage⟩)
    (recipients : later.recipients =
      (failUnsentRecipients state campaignId stage.tickets).recipients)
    (others : ∀ other, other ≠ worker → later.workers other = state.workers other)
    (idle : later.workers worker = none) : Tended later := by
  -- The recipients that fail with the own provider were pending or the worker's.
  refine tended_moved state later worker tended others ?_ ?_
  · intro other working different also ticket member recipient found
    obtain ⟨row, foundToo, _, sending, _⟩ := (tended.held other working also).sending ticket member
    rw [found] at foundToo
    cases foundToo
    have named := (find_mem state.recipients _ recipient found).2
    have notMine : ownClaimed campaignId stage.tickets recipient = false := by
      rw [Bool.eq_false_iff]
      intro mine
      simp only [ownClaimed, Bool.and_eq_true, List.any_eq_true, beq_iff_eq] at mine
      obtain ⟨_, own, present, same⟩ := mine
      exact tended.apart worker other _ working (Ne.symm different) busy also own present ticket
        member (same.trans named)
    rw [recipients]
    refine find_unselected _ _ _ _ recipient ?_ notMine
    exact find_unselected _ _ _ _ recipient found (inStatus_sending campaignId recipient sending)
  · intro working busyNow
    rw [idle] at busyNow
    cases busyNow

theorem ended_tended (state later : State) (worker : Nat) (tended : Tended state)
    (others : ∀ other, other ≠ worker → later.workers other = state.workers other)
    (recipients : later.recipients = state.recipients)
    (empty : ∀ working, later.workers worker = some working → working.stage.tickets = []) :
    Tended later :=
  tended_fewer state later worker tended others recipients fun working busy =>
    .inl (empty working busy)

theorem setWorker_none_tended (state : State) (worker : Nat) (tended : Tended state) :
    Tended (state.setWorker worker none) := by
  refine ended_tended state _ worker tended ?_ rfl ?_
  · intro other different
    exact setWorker_other state worker other none different
  · intro working busy
    simp at busy

theorem setWorker_empty_tended (state : State) (worker : Nat) (working : Working)
    (empty : working.stage.tickets = []) (tended : Tended state) :
    Tended (state.setWorker worker (some working)) := by
  refine ended_tended state _ worker tended ?_ rfl ?_
  · intro other different
    exact setWorker_other state worker other _ different
  · intro now busy
    obtain rfl : working = now := by simpa using busy
    exact empty

theorem commitEnding_tended (session : Session) (state later : State) (campaignId : Uuid)
    (tended : Tended state) (committed : commitEnding session state campaignId = some later) :
    Tended later := by
  obtain ⟨ending, inFlight, released, ledger, _, _, _, rfl⟩ :=
    commitEnding_some _ _ _ _ committed
  refine tended_rows state _ tended rfl ?_
  intro worker working busy ticket member recipient found
  obtain ⟨row, foundToo, _, sending, _⟩ := (tended.held worker working busy).sending ticket member
  rw [found] at foundToo
  cases foundToo
  refine find_unselected _ _ _ _ recipient found ?_
  simp [swept, inStatus_sending campaignId recipient sending]

theorem reapStuck_recipients (session : Session) (state later : State) (campaignId : Uuid)
    (reaped : reapStuck session state campaignId = some later) :
    later.recipients = (reapStuckRecipients state campaignId (stuckBefore state)).recipients ∧
      later.workers = state.workers := by
  obtain ⟨_, _, ⟨_, rfl⟩ | ⟨_, ⟨_, finalized, held, settled⟩ | settled⟩⟩ :=
    reapStuck_some _ _ _ _ reaped
  · exact ⟨rfl, rfl⟩
  · obtain ⟨rows, workers, _⟩ := settleCredits_frame session _ _ _ settled
    obtain ⟨before, busy⟩ := finalizeHeld_frame session _ _ _ held
    exact ⟨rows.trans before, workers.trans busy⟩
  · obtain ⟨rows, workers, _⟩ := settleCredits_frame session _ _ _ settled
    exact ⟨rows, workers⟩

theorem materialize_tended (session : Session) (state later : State) (campaignId : Uuid)
    (audience : Audience) (tended : Tended state)
    (materialized : materialize session state campaignId audience = some later) : Tended later := by
  obtain ⟨workers, rows, recipients⟩ := materialize_frame _ _ _ _ _ materialized
  obtain ⟨number, _, inserted⟩ := insertRecipients_inserted campaignId rows state.recipients
  refine tended_rows state later tended workers ?_
  intro worker working busy ticket member recipient found
  rw [recipients]
  exact inserted.kept _ recipient found

theorem step_tended (state later : State) (action : Action) (tended : Tended state)
    (spares : SparesWorkers state action) (stepped : step state action = some later) :
    Tended later := by
  cases action with
  | tick now =>
      cases stepped
      exact tended_frame state _ tended rfl rfl
  | postAdjustment session office request actorUserId =>
      obtain ⟨_, ledger, _, rfl⟩ := updateLedger_some _ _ _ stepped
      exact tended_frame state _ tended rfl rfl
  | testSend session campaignId requestId digest price units =>
      obtain ⟨_, ledger, _, rfl⟩ := updateLedger_some _ _ _ stepped
      exact tended_frame state _ tended rfl rfl
  | schedule session campaignId request =>
      obtain ⟨_, reserved, booked, placed⟩ := schedule_some _ _ _ _ _ stepped
      have same : reserved.workers = state.workers ∧ reserved.recipients = state.recipients := by
        rcases reserveForSchedule_some _ _ _ _ _ booked with ⟨_, rfl⟩ | ⟨_, _, _, _, rfl⟩
        · exact ⟨rfl, rfl⟩
        · exact ⟨rfl, rfl⟩
      have before : Tended
          (reserved.setCampaign campaignId (scheduledRow state campaignId request)) :=
        tended_frame state _ tended same.1 same.2
      rcases placed with ⟨_, rfl⟩ | ⟨audience, _, materialized⟩
      · exact before
      · exact materialize_tended _ _ _ _ _ before materialized
  | unschedule session campaignId =>
      obtain ⟨_, _, ledger, _, rfl⟩ := unschedule_some _ _ _ _ stepped
      exact tended_frame state _ tended rfl rfl
  | requestDelete campaignId =>
      obtain rfl := requestDelete_some _ _ _ stepped
      exact tended_frame state _ tended rfl rfl
  | delete campaignId =>
      obtain rfl := deleteCampaign_some _ _ _ stepped
      exact tended_frame state _ tended rfl rfl
  | dispatch session campaignId audience =>
      obtain ⟨_, materialized⟩ := dispatchDue_some _ _ _ _ _ stepped
      refine materialize_tended _ _ _ _ _ ?_ materialized
      exact tended_frame state _ tended rfl rfl
  | dispatchRefused session campaignId audience fitted =>
      obtain ⟨recipients, workers⟩ := dispatchRefused_frame _ _ _ _ _ _ stepped
      exact tended_frame state _ tended workers recipients
  | begin campaignId cause =>
      obtain ⟨_, rfl⟩ := beginEnding_some _ _ _ _ stepped
      exact tended_frame state _ tended rfl rfl
  | count campaignId =>
      obtain ⟨_, _, _, rfl⟩ := countEnding_some _ _ _ stepped
      exact tended_frame state _ tended rfl rfl
  | commit session campaignId => exact commitEnding_tended _ _ _ _ tended stepped
  | abort campaignId =>
      obtain rfl := abortEnding_some _ _ _ stepped
      exact tended_frame state _ tended rfl rfl
  | start worker campaignId =>
      obtain ⟨_, _, rfl⟩ := startBatch_some _ _ _ _ stepped
      exact setWorker_empty_tended state worker _ rfl tended
  | claim worker ids => exact claim_tended _ _ _ _ tended stepped
  | abortOwn session worker =>
      obtain ⟨campaignId, startedAt, finalized, busy, _, _, held, rfl⟩ :=
        abortOwn_some _ _ _ _ stepped
      obtain ⟨recipients, workers⟩ := finalizeHeld_frame _ _ _ _ held
      refine failUnsent_tended state _ worker campaignId startedAt .started tended busy recipients
        ?_ (setWorker_self _ _ _)
      intro other different
      rw [setWorker_other _ _ _ _ different, workers]
      rfl
  | check worker =>
      obtain ⟨campaignId, startedAt, ticket, todo, busy, _, rfl⟩ := check_some _ _ _ stepped
      refine tended_fewer state _ worker tended ?_ rfl ?_
      · intro other different
        exact setWorker_other _ _ _ _ different
      · intro working now
        obtain rfl : ⟨campaignId, startedAt, .checked state.clock ticket todo⟩ = working := by
          simpa using now
        exact .inr ⟨_, busy, rfl, rfl, rfl⟩
  | skipCancelled worker =>
      obtain ⟨campaignId, startedAt, ticket, todo, wrote, rfl⟩ := skipCancelled_some _ _ _ stepped
      exact settleOne_tended state _ worker _ _ ticket todo _ _ _ _ tended wrote rfl rfl
  | skipRechecked worker reason =>
      obtain ⟨campaignId, startedAt, ticket, todo, wrote, rfl⟩ := skipRechecked_some _ _ _ _ stepped
      exact settleOne_tended state _ worker _ _ ticket todo _ _ _ _ tended wrote rfl rfl
  | submit session worker units =>
      obtain ⟨campaignId, startedAt, ticket, todo, wrote, rfl | ⟨_, ledger, _, rfl⟩⟩ :=
        submit_some _ _ _ _ _ stepped
      · exact setWorker_none_tended state worker tended
      · exact settleOne_tended state _ worker _ _ ticket todo _ _ _ _ tended wrote rfl rfl
  | retry worker code =>
      obtain ⟨campaignId, startedAt, now, ticket, todo, busy, rfl⟩ := retry_some _ _ _ _ stepped
      exact tended_wrote state _ worker _ ticket todo _ tended busy rfl rfl rfl
  | fail worker code =>
      obtain ⟨campaignId, startedAt, ticket, todo, wrote, rfl⟩ := fail_some _ _ _ _ stepped
      exact settleOne_tended state _ worker _ _ ticket todo _ _ _ _ tended wrote rfl rfl
  | tripOwn session worker =>
      obtain ⟨campaignId, startedAt, now, ticket, todo, finalized, busy, _, _, held, rfl⟩ :=
        tripOwn_some _ _ _ _ stepped
      obtain ⟨recipients, workers⟩ := finalizeHeld_frame _ _ _ _ held
      refine failUnsent_tended state _ worker campaignId startedAt _ tended busy recipients
        ?_ (setWorker_self _ _ _)
      intro other different
      rw [setWorker_other _ _ _ _ different, workers]
      rfl
  | endRefresh session worker =>
      obtain ⟨campaignId, startedAt, _, ⟨_, rfl⟩ | ⟨_, ⟨_, rfl⟩ | ⟨settled, done, rfl⟩⟩⟩ :=
        endRefresh_some _ _ _ _ stepped
      · exact setWorker_empty_tended state worker _ rfl tended
      · exact setWorker_none_tended state worker tended
      · obtain ⟨recipients, workers, _⟩ := settleCredits_frame _ _ _ _ done
        exact setWorker_none_tended settled worker (tended_frame state _ tended workers recipients)
  | endCount worker =>
      obtain ⟨campaignId, startedAt, _, ⟨_, rfl⟩ | rfl⟩ := endCount_some _ _ _ stepped
      · exact setWorker_empty_tended state worker _ rfl tended
      · exact setWorker_none_tended state worker tended
  | finalize worker =>
      obtain ⟨campaignId, startedAt, _, rfl | ⟨_, _, rfl⟩⟩ := finalize_some _ _ _ stepped
      · exact setWorker_none_tended state worker tended
      · exact setWorker_none_tended _ worker (tended_frame state _ tended rfl rfl)
  | crash worker =>
      obtain ⟨_, _, rfl⟩ := crash_some _ _ _ stepped
      exact setWorker_none_tended state worker tended
  | reap session campaignId =>
      obtain ⟨recipients, workers⟩ := reapStuck_recipients _ _ _ _ stepped
      refine tended_rows state _ tended workers ?_
      intro worker working busy ticket member recipient found
      rw [recipients]
      refine find_unselected _ _ _ _ recipient found ?_
      exact spares worker working busy ticket member recipient found

/-! ### The clock and the workers -/

theorem settleCredits_clock (session : Session) (state later : State) (campaignId : Uuid)
    (settled : settleCredits session state campaignId = some later) : later.clock = state.clock := by
  obtain ⟨_, _, _, rfl⟩ := settleCredits_some _ _ _ _ settled
  rfl

theorem finalizeHeld_clock (session : Session) (state later : State) (campaignId : Uuid)
    (finalized : finalizeHeld session state campaignId = some later) : later.clock = state.clock := by
  rcases finalizeHeld_some _ _ _ _ finalized with ⟨rfl, _⟩ | ⟨_, _, settled⟩
  · rfl
  · have clock := settleCredits_clock session _ later campaignId settled
    exact clock

theorem materialize_clock (session : Session) (state later : State) (campaignId : Uuid)
    (audience : Audience) (materialized : materialize session state campaignId audience = some later) :
    later.clock = state.clock := by
  simp only [materialize] at materialized
  split at materialized
  · cases materialized
  · rename_i fitted rows capped outcome
    have same : fitted.clock = state.clock := by
      simp only [fitAudience] at outcome
      split at outcome
      · split at outcome
        · cases outcome
        · cases outcome
          rfl
      · cases outcome
        rfl
    split at materialized
    · exact (finalizeHeld_clock session _ later campaignId materialized).trans same
    · cases materialized
      exact same

theorem dispatchRefused_clock (session : Session) (state later : State) (campaignId : Uuid)
    (audience : Audience) (fitted : Bool)
    (refused : dispatchRefused session state campaignId audience fitted = some later) :
    later.clock = state.clock := by
  simp only [dispatchRefused] at refused
  split at refused
  · split at refused
    · split at refused
      · cases refused
      · rename_i current rows capped outcome
        have same : current.clock = state.clock := by
          simp only [fitAudience] at outcome
          split at outcome
          · split at outcome
            · cases outcome
            · cases outcome
              rfl
          · cases outcome
            rfl
        exact (settleCredits_clock session _ later campaignId refused).trans same
    · have clock := settleCredits_clock session _ later campaignId refused
      exact clock
  · cases refused

theorem reapStuck_clock (session : Session) (state later : State) (campaignId : Uuid)
    (reaped : reapStuck session state campaignId = some later) : later.clock = state.clock := by
  obtain ⟨_, _, ⟨_, rfl⟩ | ⟨_, ⟨_, finalized, held, settled⟩ | settled⟩⟩ :=
    reapStuck_some _ _ _ _ reaped
  · rfl
  · have clock := (settleCredits_clock session _ later campaignId settled).trans
      (finalizeHeld_clock session _ finalized campaignId held)
    exact clock
  · have clock := settleCredits_clock session _ later campaignId settled
    exact clock

theorem step_clock (state later : State) (action : Action) (stepped : step state action = some later)
    (other : ∀ now, action ≠ .tick now) : later.clock = state.clock := by
  cases action with
  | tick now => exact absurd rfl (other now)
  | postAdjustment session office request actorUserId =>
      obtain ⟨_, ledger, _, rfl⟩ := updateLedger_some _ _ _ stepped
      rfl
  | testSend session campaignId requestId digest price units =>
      obtain ⟨_, ledger, _, rfl⟩ := updateLedger_some _ _ _ stepped
      rfl
  | schedule session campaignId request =>
      obtain ⟨_, reserved, booked, placed⟩ := schedule_some _ _ _ _ _ stepped
      have same : reserved.clock = state.clock := by
        rcases reserveForSchedule_some _ _ _ _ _ booked with ⟨_, rfl⟩ | ⟨_, _, _, _, rfl⟩
        · rfl
        · rfl
      rcases placed with ⟨_, rfl⟩ | ⟨audience, _, materialized⟩
      · exact same
      · exact (materialize_clock _ _ _ _ _ materialized).trans same
  | unschedule session campaignId =>
      obtain ⟨_, _, ledger, _, rfl⟩ := unschedule_some _ _ _ _ stepped
      rfl
  | requestDelete campaignId =>
      obtain rfl := requestDelete_some _ _ _ stepped
      rfl
  | delete campaignId =>
      obtain rfl := deleteCampaign_some _ _ _ stepped
      rfl
  | dispatch session campaignId audience =>
      obtain ⟨_, materialized⟩ := dispatchDue_some _ _ _ _ _ stepped
      have clock := materialize_clock _ _ _ _ _ materialized
      exact clock
  | dispatchRefused session campaignId audience fitted =>
      exact dispatchRefused_clock _ _ _ _ _ _ stepped
  | begin campaignId cause =>
      obtain ⟨_, rfl⟩ := beginEnding_some _ _ _ _ stepped
      rfl
  | count campaignId =>
      obtain ⟨_, _, _, rfl⟩ := countEnding_some _ _ _ stepped
      rfl
  | commit session campaignId =>
      obtain ⟨_, _, _, ledger, _, _, _, rfl⟩ := commitEnding_some _ _ _ _ stepped
      rfl
  | abort campaignId =>
      obtain rfl := abortEnding_some _ _ _ stepped
      rfl
  | start worker campaignId =>
      obtain ⟨_, _, rfl⟩ := startBatch_some _ _ _ _ stepped
      rfl
  | claim worker ids =>
      obtain ⟨_, _, _, _, _, rfl⟩ := claim_some _ _ _ _ stepped
      rfl
  | abortOwn session worker =>
      obtain ⟨_, _, finalized, _, _, _, held, rfl⟩ := abortOwn_some _ _ _ _ stepped
      have clock := finalizeHeld_clock _ _ _ _ held
      exact clock
  | check worker =>
      obtain ⟨_, _, _, _, _, _, rfl⟩ := check_some _ _ _ stepped
      rfl
  | skipCancelled worker =>
      obtain ⟨_, _, _, _, _, rfl⟩ := skipCancelled_some _ _ _ stepped
      rfl
  | skipRechecked worker reason =>
      obtain ⟨_, _, _, _, _, rfl⟩ := skipRechecked_some _ _ _ _ stepped
      rfl
  | submit session worker units =>
      obtain ⟨_, _, _, _, _, rfl | ⟨_, ledger, _, rfl⟩⟩ := submit_some _ _ _ _ _ stepped
      · rfl
      · rfl
  | retry worker code =>
      obtain ⟨_, _, _, _, _, _, rfl⟩ := retry_some _ _ _ _ stepped
      rfl
  | fail worker code =>
      obtain ⟨_, _, _, _, _, rfl⟩ := fail_some _ _ _ _ stepped
      rfl
  | tripOwn session worker =>
      obtain ⟨_, _, _, _, _, finalized, _, _, _, held, rfl⟩ := tripOwn_some _ _ _ _ stepped
      have clock := finalizeHeld_clock _ _ _ _ held
      exact clock
  | endRefresh session worker =>
      obtain ⟨_, _, _, ⟨_, rfl⟩ | ⟨_, ⟨_, rfl⟩ | ⟨settled, done, rfl⟩⟩⟩ :=
        endRefresh_some _ _ _ _ stepped
      · rfl
      · rfl
      · have clock := settleCredits_clock _ _ _ _ done
        exact clock
  | endCount worker =>
      obtain ⟨_, _, _, ⟨_, rfl⟩ | rfl⟩ := endCount_some _ _ _ stepped
      · rfl
      · rfl
  | finalize worker =>
      obtain ⟨_, _, _, rfl | ⟨_, _, rfl⟩⟩ := finalize_some _ _ _ stepped
      · rfl
      · rfl
  | crash worker =>
      obtain ⟨_, _, rfl⟩ := crash_some _ _ _ stepped
      rfl
  | reap session campaignId => exact reapStuck_clock _ _ _ _ stepped

inductive Stops (state : State) (worker : Nat) (working : Working) : Action → Prop where
  | abortOwn (session : Session) (stage : working.stage = .started) :
      Stops state worker working (.abortOwn session worker)
  | undebited (session : Session) (units : Nat) (unsent : working.stage.tickets ≠ []) :
      Stops state worker working (.submit session worker units)
  | tripOwn (session : Session)
      (own : (state.campaigns working.campaignId).billed.providerOwn = true) :
      Stops state worker working (.tripOwn session worker)
  | settled (session : Session) (stage : working.stage = .batch []) :
      Stops state worker working (.endRefresh session worker)
  | requeued (stage : working.stage = .ended) : Stops state worker working (.endCount worker)
  | finalized (stage : working.stage = .drained) : Stops state worker working (.finalize worker)
  | crashed : Stops state worker working (.crash worker)

inductive WorkerStep (state : State) (action : Action) (worker : Nat) :
    Option Working → Option Working → Prop where
  | started (campaignId : Uuid) (start : action = .start worker campaignId)
      (sending : (state.campaigns campaignId).status = .sending) :
      WorkerStep state action worker none (some ⟨campaignId, state.clock, .started⟩)
  | claimed (campaignId : Uuid) (startedAt : Int) (todo : List Ticket) :
      WorkerStep state action worker (some ⟨campaignId, startedAt, .started⟩)
        (some ⟨campaignId, startedAt, .batch todo⟩)
  | checked (campaignId : Uuid) (startedAt now : Int) (ticket : Ticket) (todo : List Ticket) :
      WorkerStep state action worker (some ⟨campaignId, startedAt, .batch (ticket :: todo)⟩)
        (some ⟨campaignId, startedAt, .checked now ticket todo⟩)
  | wrote (campaignId : Uuid) (startedAt : Int) (stage : Stage) (ticket : Ticket) (todo : List Ticket)
      (tickets : stage.tickets = ticket :: todo) :
      WorkerStep state action worker (some ⟨campaignId, startedAt, stage⟩)
        (some ⟨campaignId, startedAt, .batch todo⟩)
  | refreshed (campaignId : Uuid) (startedAt : Int)
      (sending : (state.campaigns campaignId).status = .sending) :
      WorkerStep state action worker (some ⟨campaignId, startedAt, .batch []⟩)
        (some ⟨campaignId, startedAt, .ended⟩)
  | drained (campaignId : Uuid) (startedAt : Int) (nothing : countPending state campaignId = 0)
      (counts : action = .endCount worker) :
      WorkerStep state action worker (some ⟨campaignId, startedAt, .ended⟩)
        (some ⟨campaignId, startedAt, .drained⟩)
  | stopped (working : Working) (stops : Stops state worker working action) :
      WorkerStep state action worker (some working) none

def WorkersStep (state later : State) (action : Action) : Prop :=
  later.workers = state.workers ∨ ∃ worker,
    (∀ other, other ≠ worker → later.workers other = state.workers other) ∧
      WorkerStep state action worker (state.workers worker) (later.workers worker)

theorem workersStep_moved (state later : State) (action : Action) (worker : Nat)
    (old : Option Working) (next : Option Working) (was : state.workers worker = old)
    (workers : later.workers = (state.setWorker worker next).workers)
    (moved : WorkerStep state action worker old next) : WorkersStep state later action := by
  refine .inr ⟨worker, ?_, ?_⟩
  · intro other different
    rw [workers]
    exact setWorker_other state worker other next different
  · rw [workers, setWorker_self, was]
    exact moved

theorem workersStep_wrote (state later : State) (action : Action) (worker : Nat) (campaignId : Uuid)
    (startedAt : Int) (ticket : Ticket) (todo : List Ticket)
    (wrote : Wrote state worker campaignId startedAt ticket todo)
    (workers : later.workers =
      (state.setWorker worker (some ⟨campaignId, startedAt, .batch todo⟩)).workers) :
    WorkersStep state later action := by
  obtain ⟨stage, busy, tickets⟩ := wrote_tickets _ _ _ _ _ _ wrote
  exact workersStep_moved state later action worker _ _ busy workers
    (.wrote campaignId startedAt stage ticket todo tickets)

theorem step_workers (state later : State) (action : Action)
    (stepped : step state action = some later) : WorkersStep state later action := by
  cases action with
  | tick now =>
      cases stepped
      exact .inl rfl
  | postAdjustment session office request actorUserId =>
      obtain ⟨_, ledger, _, rfl⟩ := updateLedger_some _ _ _ stepped
      exact .inl rfl
  | testSend session campaignId requestId digest price units =>
      obtain ⟨_, ledger, _, rfl⟩ := updateLedger_some _ _ _ stepped
      exact .inl rfl
  | schedule session campaignId request =>
      obtain ⟨_, reserved, booked, placed⟩ := schedule_some _ _ _ _ _ stepped
      have same : reserved.workers = state.workers := by
        rcases reserveForSchedule_some _ _ _ _ _ booked with ⟨_, rfl⟩ | ⟨_, _, _, _, rfl⟩
        · rfl
        · rfl
      rcases placed with ⟨_, rfl⟩ | ⟨audience, _, materialized⟩
      · exact .inl same
      · exact .inl ((materialize_frame _ _ _ _ _ materialized).1.trans same)
  | unschedule session campaignId =>
      obtain ⟨_, _, ledger, _, rfl⟩ := unschedule_some _ _ _ _ stepped
      exact .inl rfl
  | requestDelete campaignId =>
      obtain rfl := requestDelete_some _ _ _ stepped
      exact .inl rfl
  | delete campaignId =>
      obtain rfl := deleteCampaign_some _ _ _ stepped
      exact .inl rfl
  | dispatch session campaignId audience =>
      obtain ⟨_, materialized⟩ := dispatchDue_some _ _ _ _ _ stepped
      have workers := (materialize_frame _ _ _ _ _ materialized).1
      exact .inl workers
  | dispatchRefused session campaignId audience fitted =>
      exact .inl (dispatchRefused_frame _ _ _ _ _ _ stepped).2
  | begin campaignId cause =>
      obtain ⟨_, rfl⟩ := beginEnding_some _ _ _ _ stepped
      exact .inl rfl
  | count campaignId =>
      obtain ⟨_, _, _, rfl⟩ := countEnding_some _ _ _ stepped
      exact .inl rfl
  | commit session campaignId =>
      obtain ⟨_, _, _, ledger, _, _, _, rfl⟩ := commitEnding_some _ _ _ _ stepped
      exact .inl rfl
  | abort campaignId =>
      obtain rfl := abortEnding_some _ _ _ stepped
      exact .inl rfl
  | start worker campaignId =>
      obtain ⟨idle, sending, rfl⟩ := startBatch_some _ _ _ _ stepped
      exact workersStep_moved state _ _ worker _ _ idle rfl (.started campaignId rfl sending)
  | claim worker ids =>
      obtain ⟨campaignId, startedAt, busy, _, _, rfl⟩ := claim_some _ _ _ _ stepped
      exact workersStep_moved state _ _ worker _ _ busy rfl (.claimed campaignId startedAt _)
  | abortOwn session worker =>
      obtain ⟨campaignId, _, finalized, busy, _, _, held, rfl⟩ := abortOwn_some _ _ _ _ stepped
      refine workersStep_moved state _ _ worker _ none busy ?_ (.stopped _ (.abortOwn session rfl))
      simp only [State.setWorker, (finalizeHeld_frame _ _ _ _ held).2]
      rfl
  | check worker =>
      obtain ⟨campaignId, startedAt, ticket, todo, busy, _, rfl⟩ := check_some _ _ _ stepped
      exact workersStep_moved state _ _ worker _ _ busy rfl
        (.checked campaignId startedAt state.clock ticket todo)
  | skipCancelled worker =>
      obtain ⟨_, _, ticket, todo, wrote, rfl⟩ := skipCancelled_some _ _ _ stepped
      exact workersStep_wrote state _ _ worker _ _ ticket todo wrote rfl
  | skipRechecked worker reason =>
      obtain ⟨_, _, ticket, todo, wrote, rfl⟩ := skipRechecked_some _ _ _ _ stepped
      exact workersStep_wrote state _ _ worker _ _ ticket todo wrote rfl
  | submit session worker units =>
      obtain ⟨_, _, ticket, todo, wrote, rfl | ⟨_, ledger, _, rfl⟩⟩ := submit_some _ _ _ _ _ stepped
      · obtain ⟨stage, busy, tickets⟩ := wrote_tickets _ _ _ _ _ _ wrote
        exact workersStep_moved state _ _ worker _ none busy rfl
          (.stopped _ (.undebited session units (by simp [tickets])))
      · exact workersStep_wrote state _ _ worker _ _ ticket todo wrote rfl
  | retry worker code =>
      obtain ⟨campaignId, startedAt, now, ticket, todo, busy, rfl⟩ := retry_some _ _ _ _ stepped
      exact workersStep_moved state _ _ worker _ _ busy rfl
        (.wrote campaignId startedAt _ ticket todo rfl)
  | fail worker code =>
      obtain ⟨_, _, ticket, todo, wrote, rfl⟩ := fail_some _ _ _ _ stepped
      exact workersStep_wrote state _ _ worker _ _ ticket todo wrote rfl
  | tripOwn session worker =>
      obtain ⟨_, _, _, _, _, finalized, busy, own, _, held, rfl⟩ := tripOwn_some _ _ _ _ stepped
      refine workersStep_moved state _ _ worker _ none busy ?_ (.stopped _ (.tripOwn session own))
      simp only [State.setWorker, (finalizeHeld_frame _ _ _ _ held).2]
      rfl
  | endRefresh session worker =>
      obtain ⟨campaignId, startedAt, busy, ⟨sending, rfl⟩ | ⟨_, ⟨_, rfl⟩ | ⟨settled, done, rfl⟩⟩⟩ :=
        endRefresh_some _ _ _ _ stepped
      · exact workersStep_moved state _ _ worker _ _ busy rfl (.refreshed campaignId startedAt sending)
      · exact workersStep_moved state _ _ worker _ none busy rfl (.stopped _ (.settled session rfl))
      · refine workersStep_moved state _ _ worker _ none busy ?_ (.stopped _ (.settled session rfl))
        simp only [State.setWorker, (settleCredits_frame _ _ _ _ done).2.1]
  | endCount worker =>
      obtain ⟨campaignId, startedAt, busy, ⟨nothing, rfl⟩ | rfl⟩ := endCount_some _ _ _ stepped
      · exact workersStep_moved state _ _ worker _ _ busy rfl
          (.drained campaignId startedAt nothing rfl)
      · exact workersStep_moved state _ _ worker _ none busy rfl (.stopped _ (.requeued rfl))
  | finalize worker =>
      obtain ⟨campaignId, startedAt, busy, rfl | ⟨_, _, rfl⟩⟩ := finalize_some _ _ _ stepped
      · exact workersStep_moved state _ _ worker _ none busy rfl (.stopped _ (.finalized rfl))
      · exact workersStep_moved state _ _ worker _ none busy rfl (.stopped _ (.finalized rfl))
  | crash worker =>
      obtain ⟨working, busy, rfl⟩ := crash_some _ _ _ stepped
      exact workersStep_moved state _ _ worker _ none busy rfl (.stopped working .crashed)
  | reap session campaignId => exact .inl (reapStuck_recipients _ _ _ _ stepped).2

theorem step_comesFrom (state later : State) (action : Action)
    (stepped : step state action = some later) (worker : Nat) (working : Working)
    (busy : later.workers worker = some working) :
    (∃ old, state.workers worker = some old ∧ old.campaignId = working.campaignId ∧
        old.startedAt = working.startedAt) ∨
      (action = .start worker working.campaignId ∧ working.startedAt = state.clock ∧
        (state.campaigns working.campaignId).status = .sending) := by
  rcases step_workers state later action stepped with same | ⟨moved, others, move⟩
  · exact .inl ⟨working, same ▸ busy, rfl, rfl⟩
  · by_cases here : worker = moved
    · subst here
      rw [busy] at move
      generalize was : state.workers worker = old at move
      cases move with
      | started campaignId start sending => exact .inr ⟨start, rfl, sending⟩
      | claimed | checked | wrote | refreshed | drained => exact .inl ⟨_, rfl, rfl, rfl⟩
    · rw [others worker here] at busy
      exact .inl ⟨working, busy, rfl, rfl⟩

/-! ### Runs that end with a reap -/

def startsBelow (bound : Nat) : Action → Bool
  | .start worker _ => decide (worker < bound)
  | _ => true

theorem startsBelow_idle (bound : Nat) (state : State)
    (reached : Reached step (fun _ action => startsBelow bound action = true) .initial state)
    (worker : Nat) (above : bound ≤ worker) : state.workers worker = none := by
  induction reached with
  | start => rfl
  | @next before later action _ below stepped ih =>
      cases busy : later.workers worker with
      | none => rfl
      | some working =>
          rcases step_comesFrom before later action stepped worker working busy with
            ⟨old, was, _⟩ | ⟨rfl, _⟩
          · rw [ih] at was
            cases was
          · simp only [startsBelow, decide_eq_true_eq] at below
            omega

theorem idle_spares (state : State) (action : Action) (idle : ∀ worker, state.workers worker = none) :
    SparesWorkers state action := by
  cases action with
  | reap =>
      intro worker working busy
      rw [idle] at busy
      cases busy
  | _ => trivial

theorem reap_observed (bound : Nat) (front : List Action) (session : Session) (campaignId : Uuid)
    (observed : State → Bool)
    (executed : (run step (fun _ action => withoutReaping action && startsBelow bound action) .initial
      front).any (fun state => (List.range bound).all (fun worker => (state.workers worker).isNone) &&
        (step state (.reap session campaignId)).any observed) = true) :
    ∃ final, Reached step SparesWorkers .initial final ∧ (∀ worker, final.workers worker = none) ∧
      observed final = true := by
  obtain ⟨state, reached, seen⟩ := run_observed step .initial _ _ (fun _ _ checked => checked) front
    executed
  simp only [Bool.and_eq_true, List.all_eq_true, List.mem_range, Option.isNone_iff_eq_none] at seen
  obtain ⟨stopped, reaped⟩ := seen
  obtain ⟨final, stepped, holds⟩ := (Option.any_eq_true _ _).mp reaped
  have idle : ∀ worker, state.workers worker = none := by
    intro worker
    by_cases low : worker < bound
    · exact stopped worker low
    · refine startsBelow_idle bound state (reached.weaken ?_) worker (by omega)
      intro _ _ checked
      exact ((Bool.and_eq_true _ _).mp checked).2
  have still : ∀ worker, final.workers worker = none := by
    intro worker
    rw [(reapStuck_recipients _ _ _ _ stepped).2]
    exact idle worker
  refine ⟨final, .next (reached.weaken ?_) (idle_spares state _ idle) stepped, still, holds⟩
  intro before action checked
  exact withoutReaping_spares before action ((Bool.and_eq_true _ _).mp checked).1

end CloudGuest.Marketing
