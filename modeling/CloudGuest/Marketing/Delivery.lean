import CloudGuest.Library.Tables
import CloudGuest.Library.Runs
import CloudGuest.Billing.MasterCredits
import CloudGuest.Marketing.CampaignCredits

/-!
One organization's campaigns: schedule, dispatch, any number of `send_batch`
workers, cancel, add-on lock, finalize, delete and the reaper, over the wallet
(marketing/service.py, marketing/repository.py).

A step is what one transaction makes visible. A worker commits after its claim
and after every recipient, and reads the campaign's status without a lock, so
each of these is a step of its own and a worker may stop between any two. A
transaction that ends a campaign (cancel, lock, `no_worker`, finalize, a failed
dispatch) holds the campaign row from its compare-and-set to its commit but not
the recipients other workers hold: `begin`, `count` and `commit` are separate
steps, other readers see the old status in between, and whatever must update
the campaign row waits. The release it writes is under the wallet lock to the
commit, so it is computed there. A refusal rolls its transaction back.

`reap_stuck` treats each campaign with a stuck row by itself; its transaction
over several campaigns is the sequence of these steps. Times are microseconds
of one clock that a run may set. A request turned away before its first write,
quiet hours and what only the screens read are left out.
-/

namespace CloudGuest.Marketing
open Texts Tables CreditLedger

def second : Int := 1000000
def sendBatchSize : Nat := 50
def sendMaxAttempts : Nat := 3
def staleSendingMinutes : Int := 15

inductive RecipientStatus where
  | pending | sending | submitted | failed | skipped
  deriving DecidableEq

structure Recipient where
  id : Uuid
  campaignId : Uuid
  guestId : Uuid
  status : RecipientStatus := .pending
  attemptCount : Nat := 0
  nextAttemptAt : Option Int := none
  sendingStartedAt : Option Int := none
  errorCode : Option String := none
  skipReason : Option String := none
  deriving DecidableEq

abbrev Recipients := Table Recipient.id

/-- A transaction that is ending a campaign and has not committed. `skipping`
are the rows its sweep locked, `inFlight` what it counted for the settlement. -/
structure Ending where
  target : CampaignStatus
  skipReason : Option String
  skipping : List Uuid
  inFlight : Option Nat
  deriving DecidableEq

structure Campaign where
  status : CampaignStatus := .draft
  isDeleted : Bool := false
  billed : Billed := ⟨none, false⟩
  startedAt : Option Int := none
  recipientCount : Int := 0
  countPending : Int := 0
  countSubmitted : Int := 0
  countFailed : Int := 0
  countSkipped : Int := 0
  cappedByCredits : Int := 0
  ending : Option Ending := none
  /-- A `delete_campaign` request has read the row and passed its check. -/
  deleting : Bool := false
  deriving DecidableEq

structure Ticket where
  recipientId : Uuid
  attempt : Nat
  deriving DecidableEq

/-- Where a `send_batch` call stands. In `checked` the head of the batch was
found sendable at `now` and is with the provider. -/
inductive Stage where
  | started
  | batch (todo : List Ticket)
  | checked (now : Int) (ticket : Ticket) (todo : List Ticket)
  | ended
  | drained
  deriving DecidableEq

structure Working where
  campaignId : Uuid
  startedAt : Int
  stage : Stage
  deriving DecidableEq

structure State where
  ledger : Ledger
  campaigns : Uuid → Campaign
  recipients : Recipients
  workers : Nat → Option Working
  clock : Int

def State.initial : State := ⟨.empty, fun _ => {}, .empty, fun _ => none, 0⟩

def State.setCampaign (state : State) (campaignId : Uuid) (campaign : Campaign) : State :=
  { state with
    campaigns := fun other => if other = campaignId then campaign else state.campaigns other }

def State.setWorker (state : State) (worker : Nat) (working : Option Working) : State :=
  { state with workers := fun other => if other = worker then working else state.workers other }

/-! ### MarketingRepository -/

def inStatus (campaignId : Uuid) (status : RecipientStatus) (recipient : Recipient) : Bool :=
  recipient.campaignId == campaignId && recipient.status == status

def tally (recipients : Recipients) (campaignId : Uuid) (status : RecipientStatus) : Nat :=
  recipients.count (inStatus campaignId status)

def countPending (state : State) (campaignId : Uuid) : Nat :=
  tally state.recipients campaignId .pending

def countInFlight (state : State) (campaignId : Uuid) : Nat :=
  tally state.recipients campaignId .sending

def adjustCounters (campaign : Campaign) (pending submitted failed skipped : Int) : Campaign :=
  { campaign with
    countPending := campaign.countPending + pending
    countSubmitted := campaign.countSubmitted + submitted
    countFailed := campaign.countFailed + failed
    countSkipped := campaign.countSkipped + skipped }

def markSending (now : Int) : Change Recipient.id where
  apply recipient :=
    { recipient with
      status := .sending
      attemptCount := recipient.attemptCount + 1
      sendingStartedAt := some now }
  keeps _ := rfl

def markPending (code : String) (nextAttemptAt : Int) : Change Recipient.id where
  apply recipient :=
    { recipient with
      status := .pending
      errorCode := some code
      nextAttemptAt := some nextAttemptAt }
  keeps _ := rfl

def markSubmitted : Change Recipient.id where
  apply recipient := { recipient with status := .submitted, errorCode := none }
  keeps _ := rfl

def markFailed (code : String) : Change Recipient.id where
  apply recipient := { recipient with status := .failed, errorCode := some code }
  keeps _ := rfl

def markSkipped (reason : String) : Change Recipient.id where
  apply recipient := { recipient with status := .skipped, skipReason := some reason }
  keeps _ := rfl

def updateRecipient (recipients : Recipients) (id : Uuid) (change : Change Recipient.id) :
    Recipients :=
  -- `UPDATE … WHERE id = …`: the current status is not compared.
  recipients.updateWhere (fun recipient => recipient.id == id) change

def claimable (campaignId : Uuid) (now : Int) (locked : List Uuid) (recipient : Recipient) : Bool :=
  inStatus campaignId .pending recipient &&
    (match recipient.nextAttemptAt with
      | none => true
      | some due => decide (due ≤ now)) &&
    !locked.contains recipient.id

def claimBatch (recipients : Recipients) (ids : List Uuid) (now : Int) : Recipients :=
  recipients.updateWhere (fun recipient => ids.contains recipient.id) (markSending now)

def ticketsFor (recipients : Recipients) (ids : List Uuid) : List Ticket :=
  ids.filterMap fun id =>
    (recipients.find id).map fun recipient => ⟨id, recipient.attemptCount + 1⟩

def pendingIds (recipients : Recipients) (campaignId : Uuid) : List Uuid :=
  (recipients.rows.filter (inStatus campaignId .pending)).map Recipient.id

def swept (campaignId : Uuid) (ids : List Uuid) (recipient : Recipient) : Bool :=
  inStatus campaignId .pending recipient && ids.contains recipient.id

def ownClaimed (campaignId : Uuid) (todo : List Ticket) (recipient : Recipient) : Bool :=
  inStatus campaignId .sending recipient &&
    todo.any fun ticket => ticket.recipientId == recipient.id

def failUnsentRecipients (state : State) (campaignId : Uuid) (todo : List Ticket) : State :=
  let pending := state.recipients.count (inStatus campaignId .pending)
  let claimed := state.recipients.count (ownClaimed campaignId todo)
  let failed := (state.recipients.updateWhere (inStatus campaignId .pending)
    (markFailed "own_provider_failed")).updateWhere (ownClaimed campaignId todo)
      (markFailed "own_provider_failed")
  let count : Int := pending + claimed
  { state with recipients := failed }.setCampaign campaignId
    (adjustCounters (state.campaigns campaignId) (-count) 0 count 0)

/-- Claimed more than `STALE_SENDING_MINUTES` before the reaper's clock. -/
def stuck (campaignId : Uuid) (stuckBefore : Int) (recipient : Recipient) : Bool :=
  inStatus campaignId .sending recipient &&
    match recipient.sendingStartedAt with
    | none => false
    | some claimedAt => decide (claimedAt < stuckBefore)

def reapStuckRecipients (state : State) (campaignId : Uuid) (stuckBefore : Int) : State :=
  let count := state.recipients.count (stuck campaignId stuckBefore)
  { state with
    recipients := state.recipients.updateWhere (stuck campaignId stuckBefore)
      (markFailed "worker_lost") }.setCampaign campaignId
    (adjustCounters (state.campaigns campaignId) 0 0 count 0)

/-- The evaluated audience: recipient id (a fresh uuid4) and guest, most recent first. -/
structure Audience where
  reachable : List (Uuid × Uuid)
  limit : Nat

def insertRecipient (campaignId : Uuid) (recipients : Recipients) (row : Uuid × Uuid) :
    Recipients :=
  -- `ON CONFLICT (campaign_id, guest_id) DO NOTHING`.
  if recipients.rows.any fun recipient =>
      recipient.campaignId == campaignId && recipient.guestId == row.2 then recipients
  else recipients.insertNew { id := row.1, campaignId, guestId := row.2 }

def insertRecipients (campaignId : Uuid) (recipients : Recipients) (rows : List (Uuid × Uuid)) :
    Recipients :=
  rows.foldl (insertRecipient campaignId) recipients

/-! ### MarketingService -/

def updateLedger {Answer : Type} (state : State) (result : Except Refusal Answer × Ledger) :
    Option State :=
  match result with
  | (.error _, _) => none
  | (.ok _, ledger) => some { state with ledger }

def settleCredits (session : Session) (state : State) (campaignId : Uuid) : Option State :=
  let campaign := state.campaigns campaignId
  updateLedger state (settle session state.ledger campaignId campaign.status campaign.billed
    (countInFlight state campaignId))

def finalStatus (campaign : Campaign) : CampaignStatus :=
  if campaign.countSubmitted > 0 then .sent else .failed

/-- `_finalize` inside a transaction that already holds the campaign row. -/
def finalizeHeld (session : Session) (state : State) (campaignId : Uuid) : Option State :=
  let campaign := state.campaigns campaignId
  if campaign.status = .sending ∧ ¬ campaign.isDeleted then
    settleCredits session
      (state.setCampaign campaignId { campaign with status := finalStatus campaign }) campaignId
  else some state

def sliceTo {Item : Type} (items : List Item) (bound : Int) : List Item :=
  if 0 ≤ bound then items.take bound.toNat else items.take (items.length + bound).toNat

def fitAudience (session : Session) (state : State) (campaignId : Uuid) (audience : Audience) :
    Option (State × List (Uuid × Uuid) × Int) :=
  let campaign := state.campaigns campaignId
  let reachable := audience.reachable.take audience.limit
  if campaign.recipientCount = 0 then
    match adjustAtDispatch session state.ledger campaignId campaign.billed reachable.length with
    | (.error _, _) => none
    | (.ok fitted, ledger) =>
        some ({ state with ledger }, sliceTo reachable fitted.allowed, fitted.cappedByCredits)
  else some (state, reachable, campaign.cappedByCredits)

def materialize (session : Session) (state : State) (campaignId : Uuid) (audience : Audience) :
    Option State :=
  match fitAudience session state campaignId audience with
  | none => none
  | some (fitted, rows, capped) =>
      let campaign := state.campaigns campaignId
      let recipients := insertRecipients campaignId state.recipients rows
      let inserted : Nat := recipients.rows.length - state.recipients.rows.length
      let filled := { fitted with recipients }.setCampaign campaignId
        { campaign with
          recipientCount := campaign.recipientCount + inserted
          countPending := campaign.countPending + inserted
          cappedByCredits := capped }
      if inserted = 0 ∧ campaign.recipientCount = 0 then finalizeHeld session filled campaignId
      else some filled

/-- The campaign row is there, nobody holds it, and the compare-and-set wins. -/
def claimsRow (state : State) (campaignId : Uuid) (expected : CampaignStatus → Bool) : Bool :=
  let campaign := state.campaigns campaignId
  expected campaign.status && !campaign.isDeleted && campaign.ending.isNone

structure ScheduleRequest where
  providerOwn : Bool
  price : PriceSnapshot
  preview : Audience
  /-- The audience at dispatch, for a campaign sent now. -/
  sendNow : Option Audience

def scheduledRow (state : State) (campaignId : Uuid) (request : ScheduleRequest) : Campaign :=
  { state.campaigns campaignId with
    status := if request.sendNow.isSome then .sending else .scheduled
    billed := ⟨if request.providerOwn then none else some request.price, request.providerOwn⟩
    startedAt :=
      if request.sendNow.isSome then some state.clock else (state.campaigns campaignId).startedAt
    cappedByCredits := 0 }

def reserveForSchedule (session : Session) (state : State) (campaignId : Uuid)
    (request : ScheduleRequest) : Option State :=
  if request.providerOwn then some state
  else updateLedger state (reserveAtSchedule session state.ledger campaignId request.price
    request.preview.reachable.length)

def schedule (session : Session) (state : State) (campaignId : Uuid) (request : ScheduleRequest) :
    Option State :=
  let reachable := request.preview.reachable.length
  if claimsRow state campaignId (· == .draft) ∧ 0 < reachable ∧ reachable ≤ request.preview.limit then
    match reserveForSchedule session state campaignId request with
    | none => none
    | some reserved =>
        let placed := reserved.setCampaign campaignId (scheduledRow state campaignId request)
        match request.sendNow with
        | none => some placed
        | some audience => materialize session placed campaignId audience
  else none

def unschedule (session : Session) (state : State) (campaignId : Uuid) : Option State :=
  if claimsRow state campaignId (· == .scheduled) then
    updateLedger
      (state.setCampaign campaignId
        { state.campaigns campaignId with
          status := .draft, billed := ⟨none, false⟩, cappedByCredits := 0 })
      (releaseAll session state.ledger campaignId (unscheduleKey campaignId))
  else none

def requestDelete (state : State) (campaignId : Uuid) : Option State :=
  let campaign := state.campaigns campaignId
  if (campaign.status = .draft ∨ campaign.status = .cancelled) ∧ ¬ campaign.isDeleted then
    some (state.setCampaign campaignId { campaign with deleting := true })
  else none

def deleteCampaign (state : State) (campaignId : Uuid) : Option State :=
  let campaign := state.campaigns campaignId
  if campaign.deleting ∧ campaign.ending.isNone then
    some (state.setCampaign campaignId { campaign with isDeleted := true, deleting := false })
  else none

def dispatchDue (session : Session) (state : State) (campaignId : Uuid) (audience : Audience) :
    Option State :=
  if claimsRow state campaignId (· == .scheduled) then
    materialize session
      (state.setCampaign campaignId
        { state.campaigns campaignId with status := .sending, startedAt := some state.clock })
      campaignId audience
  else none

def dispatchRefused (session : Session) (state : State) (campaignId : Uuid) (audience : Audience)
    (fitted : Bool) : Option State :=
  -- `dispatch_due` when `materialize` raises a `MarketingError`, before or after the reservation
  -- was fitted: the campaign fails without recipients.
  if claimsRow state campaignId (· == .scheduled) then
    let failed (current : State) :=
      settleCredits session (current.setCampaign campaignId
        { state.campaigns campaignId with status := .failed, startedAt := some state.clock })
        campaignId
    if fitted then
      match fitAudience session state campaignId audience with
      | none => none
      | some (current, _, _) => failed current
    else failed state
  else none

/-! ### Ending a campaign -/

inductive Cause where
  /-- `cancel`. -/
  | cancel
  /-- `cancel_active_campaign_ids_for_lock`. -/
  | addonLock (ownOnly : Bool)
  /-- `dispatch_due`: not entitled. -/
  | dispatchLocked
  /-- `dispatch_due`: provider missing or channel not configured. -/
  | dispatchUnavailable
  /-- `dispatch_due`: an unexpected exception, whatever the status by then. -/
  | dispatchFailed
  /-- `dispatch_due`: no recipient was ever claimed. -/
  | noWorker
  deriving DecidableEq

def Cause.expected : Cause → CampaignStatus → Bool
  | .cancel | .addonLock _ => CampaignStatus.active
  | .dispatchLocked | .dispatchUnavailable => (· == .scheduled)
  | .dispatchFailed => fun _ => true
  | .noWorker => (· == .sending)

def Cause.target : Cause → CampaignStatus
  | .cancel | .addonLock _ | .dispatchLocked => .cancelled
  | .dispatchUnavailable | .dispatchFailed | .noWorker => .failed

def Cause.skipReason : Cause → Option String
  | .cancel | .noWorker => some "cancelled"
  | .addonLock _ => some "addon_locked"
  | _ => none

def withoutProgress (state : State) (campaignId : Uuid) : Bool :=
  let campaign := state.campaigns campaignId
  (match campaign.startedAt with
    | none => false
    | some startedAt => decide (startedAt < state.clock - 10 * 60 * second)) &&
  decide (campaign.recipientCount > 0) &&
  !state.recipients.rows.any fun recipient =>
    recipient.campaignId == campaignId && decide (recipient.attemptCount > 0)

def Cause.selects (state : State) (campaignId : Uuid) : Cause → Bool
  | .addonLock ownOnly => !ownOnly || (state.campaigns campaignId).billed.providerOwn
  | .noWorker => withoutProgress state campaignId
  | _ => true

def sweepOf (state : State) (campaignId : Uuid) : Option String → List Uuid
  | none => []
  | some _ => pendingIds state.recipients campaignId

def openEnding (state : State) (campaignId : Uuid) (target : CampaignStatus)
    (skipReason : Option String) : State :=
  state.setCampaign campaignId
    { state.campaigns campaignId with
      ending := some ⟨target, skipReason, sweepOf state campaignId skipReason, none⟩ }

/-- The compare-and-set and the sweep of the pending recipients. -/
def beginEnding (state : State) (campaignId : Uuid) (cause : Cause) : Option State :=
  if claimsRow state campaignId cause.expected ∧ cause.selects state campaignId then
    some (openEnding state campaignId cause.target cause.skipReason)
  else none

def countEnding (state : State) (campaignId : Uuid) : Option State :=
  let campaign := state.campaigns campaignId
  match campaign.ending with
  | some ending =>
      if ending.inFlight.isNone then
        some (state.setCampaign campaignId
          { campaign with
            ending := some { ending with inFlight := some (countInFlight state campaignId) } })
      else none
  | none => none

def abortEnding (state : State) (campaignId : Uuid) : Option State :=
  let campaign := state.campaigns campaignId
  if campaign.ending.isSome then
    some (state.setCampaign campaignId { campaign with ending := none })
  else none

def endedRows (state : State) (campaignId : Uuid) (ending : Ending) : State :=
  let count : Int := state.recipients.count (swept campaignId ending.skipping)
  { state with
    recipients := state.recipients.updateWhere (swept campaignId ending.skipping)
      (markSkipped (ending.skipReason.getD "")) }.setCampaign campaignId
    { adjustCounters (state.campaigns campaignId) (-count) 0 0 count with
      status := ending.target, ending := none }

def commitEnding (session : Session) (state : State) (campaignId : Uuid) : Option State :=
  match (state.campaigns campaignId).ending with
  | some ending =>
      match ending.inFlight with
      | some inFlight =>
          updateLedger (endedRows state campaignId ending)
            (settle session state.ledger campaignId ending.target
              (state.campaigns campaignId).billed inFlight)
      | none => none
  | none => none

/-! ### send_batch -/

def startBatch (state : State) (worker : Nat) (campaignId : Uuid) : Option State :=
  let campaign := state.campaigns campaignId
  if state.workers worker = none ∧ campaign.status = .sending ∧ ¬ campaign.isDeleted then
    some (state.setWorker worker (some ⟨campaignId, state.clock, .started⟩))
  else none

def lockedRows (campaign : Campaign) : List Uuid :=
  match campaign.ending with
  | none => []
  | some ending => ending.skipping

def claim (state : State) (worker : Nat) (ids : List Uuid) : Option State :=
  -- Any due rows that no transaction holds, at most a batch of them. The status the worker read
  -- before is not looked at again.
  match state.workers worker with
  | some ⟨campaignId, startedAt, .started⟩ =>
      let locked := lockedRows (state.campaigns campaignId)
      if ids.Nodup ∧ ids.length ≤ sendBatchSize ∧
          ids.all (fun id => (state.recipients.find id).any (claimable campaignId startedAt locked)) then
        some ({ state with recipients := claimBatch state.recipients ids startedAt }.setWorker worker
          (some ⟨campaignId, startedAt, .batch (ticketsFor state.recipients ids)⟩))
      else none
  | _ => none

def abortOwn (session : Session) (state : State) (worker : Nat) : Option State :=
  -- The own provider's row is gone: fail what is left and finalize.
  match state.workers worker with
  | some ⟨campaignId, _, .started⟩ =>
      let campaign := state.campaigns campaignId
      if campaign.billed.providerOwn ∧ campaign.ending.isNone then
        (finalizeHeld session (failUnsentRecipients state campaignId []) campaignId).map
          fun aborted => aborted.setWorker worker none
      else none
  | _ => none

def check (state : State) (worker : Nat) : Option State :=
  -- `_send_one` up to the provider call: the status is refreshed.
  match state.workers worker with
  | some ⟨campaignId, startedAt, .batch (ticket :: todo)⟩ =>
      if (state.campaigns campaignId).status = .sending then
        some (state.setWorker worker
          (some ⟨campaignId, startedAt, .checked state.clock ticket todo⟩))
      else none
  | _ => none

def settleOne (state : State) (worker : Nat) (working : Working) (ticket : Ticket)
    (todo : List Ticket) (change : Change Recipient.id) (submitted failed skipped : Int) : State :=
  ({ state with
    recipients := updateRecipient state.recipients ticket.recipientId change }.setCampaign
      working.campaignId
      (adjustCounters (state.campaigns working.campaignId) (-1) submitted failed skipped)).setWorker
        worker (some { working with stage := .batch todo })

def rowFree (state : State) (campaignId : Uuid) : Bool :=
  (state.campaigns campaignId).ending.isNone

def skipCancelled (state : State) (worker : Nat) : Option State :=
  match state.workers worker with
  | some ⟨campaignId, startedAt, .batch (ticket :: todo)⟩ =>
      if (state.campaigns campaignId).status ≠ .sending ∧ rowFree state campaignId then
        some (settleOne state worker ⟨campaignId, startedAt, .batch todo⟩ ticket todo
          (markSkipped "cancelled") 0 0 1)
      else none
  | _ => none

def skipRechecked (state : State) (worker : Nat) (reason : String) : Option State :=
  match state.workers worker with
  | some ⟨campaignId, startedAt, .checked _ ticket todo⟩ =>
      if rowFree state campaignId then
        some (settleOne state worker ⟨campaignId, startedAt, .batch todo⟩ ticket todo
          (markSkipped reason) 0 0 1)
      else none
  | _ => none

def submit (session : Session) (state : State) (worker : Nat) (units : Nat) : Option State :=
  -- The provider accepted the message. A debit that raises rolls the write back and ends the
  -- worker.
  match state.workers worker with
  | some ⟨campaignId, startedAt, .checked _ ticket todo⟩ =>
      if rowFree state campaignId then
        match debitRecipient session state.ledger campaignId ticket.recipientId
            (state.campaigns campaignId).billed units with
        | (.error _, _) => some (state.setWorker worker none)
        | (.ok _, ledger) =>
            some { settleOne state worker ⟨campaignId, startedAt, .batch todo⟩ ticket todo
              markSubmitted 1 0 0 with ledger }
      else none
  | _ => none

def retry (state : State) (worker : Nat) (code : String) : Option State :=
  -- A retryable `SendError`. The campaign row is not written, so nothing here waits for a
  -- transaction that is ending the campaign.
  match state.workers worker with
  | some ⟨campaignId, startedAt, .checked now ticket todo⟩ =>
      if ticket.attempt < sendMaxAttempts then
        some ({ state with
          recipients := updateRecipient state.recipients ticket.recipientId
            (markPending code (now + 30 * second * ticket.attempt)) }.setWorker worker
              (some ⟨campaignId, startedAt, .batch todo⟩))
      else none
  | _ => none

def fail (state : State) (worker : Nat) (code : String) : Option State :=
  match state.workers worker with
  | some ⟨campaignId, startedAt, .checked _ ticket todo⟩ =>
      if rowFree state campaignId then
        some (settleOne state worker ⟨campaignId, startedAt, .batch todo⟩ ticket todo
          (markFailed code) 0 1 0)
      else none
  | _ => none

def tripOwn (session : Session) (state : State) (worker : Nat) : Option State :=
  match state.workers worker with
  | some ⟨campaignId, _, .checked _ ticket todo⟩ =>
      let campaign := state.campaigns campaignId
      if campaign.billed.providerOwn ∧ campaign.ending.isNone then
        (finalizeHeld session (failUnsentRecipients state campaignId (ticket :: todo)) campaignId).map
          fun aborted => aborted.setWorker worker none
      else none
  | _ => none

def endRefresh (session : Session) (state : State) (worker : Nat) : Option State :=
  -- The refresh after the last recipient. A campaign that ended meanwhile is settled; if that
  -- raises, the worker is gone.
  match state.workers worker with
  | some ⟨campaignId, startedAt, .batch []⟩ =>
      if (state.campaigns campaignId).status = .sending then
        some (state.setWorker worker (some ⟨campaignId, startedAt, .ended⟩))
      else
        match settleCredits session state campaignId with
        | none => some (state.setWorker worker none)
        | some settled => some (settled.setWorker worker none)
  | _ => none

def endCount (state : State) (worker : Nat) : Option State :=
  match state.workers worker with
  | some ⟨campaignId, startedAt, .ended⟩ =>
      if countPending state campaignId = 0 then
        some (state.setWorker worker (some ⟨campaignId, startedAt, .drained⟩))
      else some (state.setWorker worker none)
  | _ => none

def finalize (state : State) (worker : Nat) : Option State :=
  -- `_finalize` of a worker that found nothing pending: it opens the ending transaction, or
  -- returns when somebody else ended the campaign first.
  match state.workers worker with
  | some ⟨campaignId, _, .drained⟩ =>
      let campaign := state.campaigns campaignId
      if campaign.status ≠ .sending ∨ campaign.isDeleted then some (state.setWorker worker none)
      else if campaign.ending.isNone then
        some ((openEnding state campaignId (finalStatus campaign) none).setWorker worker none)
      else none
  | _ => none

def crash (state : State) (worker : Nat) : Option State :=
  if (state.workers worker).isSome then some (state.setWorker worker none) else none

/-! ### reap_stuck -/

def stuckBefore (state : State) : Int := state.clock - staleSendingMinutes * 60 * second

def reapStuck (session : Session) (state : State) (campaignId : Uuid) : Option State :=
  if rowFree state campaignId ∧ 0 < state.recipients.count (stuck campaignId (stuckBefore state)) then
    let reaped := reapStuckRecipients state campaignId (stuckBefore state)
    -- `get_campaign_for_worker` does not see a deleted campaign.
    if (reaped.campaigns campaignId).isDeleted then some reaped
    else if countPending reaped campaignId = 0 then
      match finalizeHeld session reaped campaignId with
      | none => none
      | some finalized => settleCredits session finalized campaignId
    else settleCredits session reaped campaignId
  else none

/-! ### The machine -/

inductive Action where
  | tick (now : Int)
  | postAdjustment (session : Session) (office : MasterCredits.Office)
      (request : MasterCredits.AdjustmentRequest) (actorUserId : Uuid)
  | testSend (session : Session) (campaignId : Uuid) (requestId digest : Text)
      (unitPriceMinor units : Nat)
  | schedule (session : Session) (campaignId : Uuid) (request : ScheduleRequest)
  | unschedule (session : Session) (campaignId : Uuid)
  | requestDelete (campaignId : Uuid)
  | delete (campaignId : Uuid)
  | dispatch (session : Session) (campaignId : Uuid) (audience : Audience)
  | dispatchRefused (session : Session) (campaignId : Uuid) (audience : Audience) (fitted : Bool)
  | begin (campaignId : Uuid) (cause : Cause)
  | count (campaignId : Uuid)
  | commit (session : Session) (campaignId : Uuid)
  | abort (campaignId : Uuid)
  | start (worker : Nat) (campaignId : Uuid)
  | claim (worker : Nat) (ids : List Uuid)
  | abortOwn (session : Session) (worker : Nat)
  | check (worker : Nat)
  | skipCancelled (worker : Nat)
  | skipRechecked (worker : Nat) (reason : String)
  | submit (session : Session) (worker : Nat) (units : Nat)
  | retry (worker : Nat) (code : String)
  | fail (worker : Nat) (code : String)
  | tripOwn (session : Session) (worker : Nat)
  | endRefresh (session : Session) (worker : Nat)
  | endCount (worker : Nat)
  | finalize (worker : Nat)
  | crash (worker : Nat)
  | reap (session : Session) (campaignId : Uuid)

def step (state : State) : Action → Option State
  | .tick now => some { state with clock := now }
  | .postAdjustment session office request actorUserId =>
      updateLedger state
        (post session state.ledger (MasterCredits.walletRequest office request actorUserId))
  | .testSend session campaignId requestId digest price units =>
      updateLedger state
        (chargeTestSend session state.ledger campaignId requestId digest price units)
  | .schedule session campaignId request => schedule session state campaignId request
  | .unschedule session campaignId => unschedule session state campaignId
  | .requestDelete campaignId => requestDelete state campaignId
  | .delete campaignId => deleteCampaign state campaignId
  | .dispatch session campaignId audience => dispatchDue session state campaignId audience
  | .dispatchRefused session campaignId audience fitted =>
      dispatchRefused session state campaignId audience fitted
  | .begin campaignId cause => beginEnding state campaignId cause
  | .count campaignId => countEnding state campaignId
  | .commit session campaignId => commitEnding session state campaignId
  | .abort campaignId => abortEnding state campaignId
  | .start worker campaignId => startBatch state worker campaignId
  | .claim worker ids => claim state worker ids
  | .abortOwn session worker => abortOwn session state worker
  | .check worker => check state worker
  | .skipCancelled worker => skipCancelled state worker
  | .skipRechecked worker reason => skipRechecked state worker reason
  | .submit session worker units => submit session state worker units
  | .retry worker code => retry state worker code
  | .fail worker code => fail state worker code
  | .tripOwn session worker => tripOwn session state worker
  | .endRefresh session worker => endRefresh session state worker
  | .endCount worker => endCount state worker
  | .finalize worker => finalize state worker
  | .crash worker => crash state worker
  | .reap session campaignId => reapStuck session state campaignId

end CloudGuest.Marketing
