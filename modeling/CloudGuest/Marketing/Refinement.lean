import CloudGuest.Marketing.Tickets

/-!
Every step of the machine is, for the campaign it is about, some moves of that
campaign's view, and leaves the view of every other campaign alone. The wallet
is shared, but an entry names its campaign; the recipients are in one table,
but a recipient belongs to one campaign.
-/

namespace CloudGuest.Marketing
open Texts Tables CreditLedger

/-- A campaign not yet sent has no recipients, and what ends a campaign leaves
it in a terminal status. -/
structure Regular (v : View) : Prop where
  fresh : v.status = .draft ∨ v.status = .scheduled → v.rows = noRows ∧ v.recipientCount = 0
  ends : ∀ closing, v.closing = some closing → closing.target.terminal = true

structure Base (state : State) : Prop where
  good : Good state.ledger
  tended : Tended state
  regular : ∀ campaignId, Regular (view state campaignId)

def Permits (permit : Label → View → Prop) (state : State) : Action → Prop
  | .schedule .. | .dispatch .. => ∀ v, permit .fill v
  | .claim worker ids => ids ≠ [] → ∀ working, state.workers worker = some working →
      permit .claim (view state working.campaignId)
  | .skipCancelled worker | .skipRechecked worker _ | .submit _ worker _ | .fail worker _ =>
      ∀ working, state.workers worker = some working → permit .write (view state working.campaignId)
  | .retry worker _ => ∀ working, state.workers worker = some working →
      permit .retry (view state working.campaignId)
  | .finalize worker => ∀ working, state.workers worker = some working →
      permit .finish (view state working.campaignId)
  | .reap _ campaignId => permit .reap (view state campaignId)
  | .begin campaignId .dispatchFailed => permit .failDispatch (view state campaignId)
  | _ => True

structure Effect (permit : Label → View → Prop) (before later : State) (campaignId : Uuid) :
    Prop where
  good : Good later.ledger
  here : Moves permit (view before campaignId) (view later campaignId)
  others : ∀ other, other ≠ campaignId → view later other = view before other

section Views

variable {permit : Label → View → Prop}

theorem moves_one (label : Label) (before later : View) (permitted : permit label before)
    (move : Move before label later) : Moves permit before later :=
  .single ⟨label, permitted, move⟩

theorem effect_trans (first second third : State) (campaignId : Uuid)
    (one : Effect permit first second campaignId) (two : Effect permit second third campaignId) :
    Effect permit first third campaignId where
  good := two.good
  here := one.here.trans two.here
  others := fun other different => (two.others other different).trans (one.others other different)

theorem view_congr (before later : State) (campaignId : Uuid)
    (campaigns : later.campaigns campaignId = before.campaigns campaignId)
    (out : campaignReservedOutstanding later.ledger campaignId =
      campaignReservedOutstanding before.ledger campaignId)
    (rows : ∀ locked, talliesOf later.recipients campaignId locked =
      talliesOf before.recipients campaignId locked) :
    view later campaignId = view before campaignId := by
  simp only [view, campaigns, out, rows]

theorem effect_unseen (before later : State) (campaignId : Uuid) (good : Good later.ledger)
    (same : ∀ other, view later other = view before other) : Effect permit before later campaignId where
  good := good
  here := by
    rw [same]
    exact .refl
  others := fun other _ => same other

theorem effect_workers (before later : State) (campaignId : Uuid) (good : Good before.ledger)
    (ledger : later.ledger = before.ledger) (campaigns : later.campaigns = before.campaigns)
    (recipients : later.recipients = before.recipients) : Effect permit before later campaignId := by
  refine effect_unseen before later campaignId (ledger ▸ good) ?_
  intro other
  exact view_congr before later other (by rw [campaigns]) (by rw [ledger]) (by simp [recipients])

theorem moved_all_same (before later : Ledger) (campaignId : Uuid) (charged : Option Uuid)
    (moved : Moved before later campaignId 0 charged) (other : Uuid) :
    campaignReservedOutstanding later other = campaignReservedOutstanding before other := by
  by_cases same : other = campaignId
  · subst same
    simpa using moved.here
  · exact moved.others other same

theorem effect_wallet (before : State) (ledger : Ledger) (campaignId : Uuid)
    (charged : Option Uuid) (moved : Moved before.ledger ledger campaignId 0 charged) :
    Effect permit before { before with ledger } campaignId := by
  refine effect_unseen before _ campaignId moved.good ?_
  intro other
  exact view_congr before _ other rfl (moved_all_same _ _ campaignId charged moved other)
    fun _ => rfl

theorem others_row (before : State) (campaignId : Uuid) (campaign : Campaign) (ledger : Ledger)
    (amount : Int) (charged : Option Uuid)
    (moved : Moved before.ledger ledger campaignId amount charged) (other : Uuid)
    (different : other ≠ campaignId) :
    view { before.setCampaign campaignId campaign with ledger } other = view before other :=
  view_congr before _ other (setCampaign_other before campaignId other campaign different)
    (moved.others other different) fun _ => rfl

theorem locked_none (campaign : Campaign) (free : campaign.ending = none) :
    lockedRows campaign = [] := by
  simp [lockedRows, free]

/-! ### Settlement -/

theorem settleCredits_effect (session : Session) (state later : State) (campaignId : Uuid)
    (allowed : ∀ v, permit .other v) (good : Good state.ledger)
    (settled : settleCredits session state campaignId = some later) :
    Effect permit state later campaignId := by
  obtain ⟨released, ledger, answer, rfl⟩ := settleCredits_some _ _ _ _ settled
  have moved := settle_moved _ _ _ _ _ _ _ _ good answer
  refine ⟨moved.good, ?_, ?_⟩
  · have shape : view { state with ledger } campaignId = { view state campaignId with
        out := settledAmount (view state campaignId).status (view state campaignId).per
          (view state campaignId).rows.sending (view state campaignId).out } := by
      have out := moved.here
      simp only [view, out, View.mk.injEq, true_and, and_true]
      show _ = settledAmount _ _ (countInFlight state campaignId) _
      omega
    rw [shape]
    exact moves_one .other _ _ (allowed _) .settle
  · intro other different
    exact view_congr state _ other rfl (moved.others other different) fun _ => rfl

theorem settleStatus_effect (session : Session) (state later : State) (campaignId : Uuid)
    (target : CampaignStatus) (good : Good state.ledger)
    (settled : settleCredits session (state.setCampaign campaignId
      { state.campaigns campaignId with status := target }) campaignId = some later) :
    Good later.ledger ∧
      view later campaignId = { view state campaignId with
        status := target
        out := settledAmount target (view state campaignId).per
          (view state campaignId).rows.sending (view state campaignId).out } ∧
      (∀ other, other ≠ campaignId → view later other = view state other) := by
  obtain ⟨released, ledger, answer, rfl⟩ := settleCredits_some _ _ _ _ settled
  have moved := settle_moved _ _ _ _ _ _ _ _ good answer
  refine ⟨moved.good, ?_, ?_⟩
  · have out := moved.here
    simp only [setCampaign_self] at out
    simp only [view, setCampaign_self, setCampaign_recipients, out, View.mk.injEq, true_and,
      and_true]
    refine ⟨?_, rfl⟩
    show _ = settledAmount target _ (countInFlight state campaignId) _
    have same : countInFlight (state.setCampaign campaignId
        { state.campaigns campaignId with status := target }) campaignId =
          countInFlight state campaignId := rfl
    rw [same]
    omega
  · intro other different
    exact others_row state campaignId _ ledger _ none moved other different

theorem finalizeHeld_effect (session : Session) (state later : State) (campaignId : Uuid)
    (allowed : ∀ v, permit .other v) (good : Good state.ledger)
    (free : (state.campaigns campaignId).ending = none)
    (drained : tally state.recipients campaignId .pending = 0)
    (finalized : finalizeHeld session state campaignId = some later) :
    Effect permit state later campaignId := by
  rcases finalizeHeld_some _ _ _ _ finalized with ⟨rfl, _⟩ | ⟨sending, _, settled⟩
  · exact effect_unseen later later campaignId good fun _ => rfl
  · obtain ⟨kept, shape, others⟩ := settleStatus_effect _ _ _ _ _ good settled
    refine ⟨kept, ?_, others⟩
    rw [shape]
    refine moves_one .other _ _ (allowed _) (.finalize _ sending ?_ drained (finalStatus_cases _))
    simp [view, free]

/-! ### Scheduling and dispatch -/

theorem sliceTo_length {Item : Type} (items : List Item) (bound : Int) (nonneg : 0 ≤ bound) :
    ((sliceTo items bound).length : Int) ≤ bound := by
  rw [sliceTo, if_pos nonneg]
  have taken := List.length_take_le bound.toNat items
  omega

theorem filled_effect (session : Session) (state : State) (campaignId : Uuid) (audience : Audience)
    (fitted : Fitted) (ledger : Ledger) (recipients : Recipients) (filling : ∀ v, permit .fill v)
    (good : Good state.ledger) (sending : (state.campaigns campaignId).status = .sending)
    (free : (state.campaigns campaignId).ending = none)
    (empty : (view state campaignId).rows = noRows)
    (adjusted : adjustAtDispatch session state.ledger campaignId (state.campaigns campaignId).billed
      (audience.reachable.take audience.limit).length = (.ok fitted, ledger))
    (added : recipients = insertRecipients campaignId state.recipients
      (sliceTo (audience.reachable.take audience.limit) fitted.allowed)) :
    Effect permit state (filled state campaignId ledger recipients fitted.cappedByCredits)
        campaignId ∧
      tally recipients campaignId .pending = insertedRows state recipients := by
  obtain ⟨amount, moved, unpriced, covers⟩ := adjustAtDispatch_moved _ _ _ _ _ _ _ good adjusted
  obtain ⟨number, bound, inserted⟩ := insertRecipients_inserted campaignId
    (sliceTo (audience.reachable.take audience.limit) fitted.allowed) state.recipients
  rw [← added] at inserted
  have counted : insertedRows state recipients = number := by
    rw [insertedRows, inserted.length]
    omega
  have locked := locked_none (state.campaigns campaignId) free
  have before : talliesOf state.recipients campaignId [] = noRows := by
    simpa [view, locked] using empty
  simp only [talliesOf, noRows, Tallies.mk.injEq] at before
  obtain ⟨pending, _, flying, submitted, failed, skipped⟩ := before
  have after : talliesOf recipients campaignId [] =
      { noRows with pending := number, free := number } := by
    have unlocked := free_unlocked recipients campaignId
    simp only [talliesOf, noRows, unlocked, inserted.tallies, pending, flying, submitted, failed,
      skipped]
    simp
  refine ⟨⟨moved.good, ?_, ?_⟩, ?_⟩
  · have shape : view (filled state campaignId ledger recipients fitted.cappedByCredits) campaignId =
        { view state campaignId with
          out := campaignReservedOutstanding ledger campaignId
          rows := { noRows with pending := number, free := number }
          recipientCount := (view state campaignId).recipientCount + number
          countPending := (view state campaignId).countPending + number } := by
      simp [view, filled, lockedRows, free, counted, after]
    rw [shape]
    refine moves_one .fill _ _ (filling _) (.materialize number _ sending ?_ empty ?_ ?_)
    · simp [view, free]
    · intro held
      obtain ⟨nonneg, enough⟩ := covers held
      have short := sliceTo_length (audience.reachable.take audience.limit) fitted.allowed nonneg
      have scaled : (number : Int) * (view state campaignId).per ≤
          fitted.allowed * (view state campaignId).per :=
        Int.mul_le_mul_of_nonneg_right (by omega) (Int.natCast_nonneg _)
      exact Int.le_trans scaled enough
    · intro zero
      have none := unpriced zero
      rw [moved.here, none]
      exact Int.add_zero _
  · intro other different
    refine view_congr state _ other ?_ (moved.others other different) ?_
    · exact setCampaign_other _ campaignId other _ different
    · intro held
      exact inserted.elsewhere other held different
  · rw [counted, inserted.tallies, pending]
    simp

theorem materialize_effect (session : Session) (state later : State) (campaignId : Uuid)
    (audience : Audience) (allowed : ∀ v, permit .other v) (filling : ∀ v, permit .fill v)
    (good : Good state.ledger) (sending : (state.campaigns campaignId).status = .sending)
    (free : (state.campaigns campaignId).ending = none)
    (empty : (view state campaignId).rows = noRows)
    (first : (state.campaigns campaignId).recipientCount = 0)
    (materialized : materialize session state campaignId audience = some later) :
    Effect permit state later campaignId := by
  obtain ⟨fitted, ledger, recipients, adjusted, added, ended⟩ :=
    materialize_some _ _ _ _ _ first materialized
  obtain ⟨effect, counted⟩ := filled_effect session state campaignId audience fitted ledger recipients
    filling good sending free empty adjusted added
  rcases ended with ⟨nobody, finalized⟩ | rfl
  · refine effect_trans _ _ _ _ effect
      (finalizeHeld_effect session _ later campaignId allowed effect.good ?_ ?_ finalized)
    · simp [filled, free]
    · exact counted.trans nobody
  · exact effect

theorem per_scheduled (request : ScheduleRequest) :
    Billed.per ⟨if request.providerOwn then none else some request.price, request.providerOwn⟩ =
      if request.providerOwn then 0 else perRecipientMinor (some request.price) := by
  cases request.providerOwn <;> rfl

theorem scheduledRow_effect (session : Session) (state reserved : State) (campaignId : Uuid)
    (request : ScheduleRequest) (allowed : ∀ v, permit .other v) (good : Good state.ledger)
    (draft : (state.campaigns campaignId).status = .draft)
    (free : (state.campaigns campaignId).ending = none)
    (booked : reserveForSchedule session state campaignId request = some reserved) :
    Effect permit state (reserved.setCampaign campaignId (scheduledRow state campaignId request))
      campaignId := by
  have live : (if request.sendNow.isSome then CampaignStatus.sending else .scheduled) = .scheduled ∨
      (if request.sendNow.isSome then CampaignStatus.sending else .scheduled) = .sending := by
    split
    · exact .inr rfl
    · exact .inl rfl
  rcases reserveForSchedule_some _ _ _ _ _ booked with ⟨own, rfl⟩ | ⟨wyfy, amount, ledger, answer, rfl⟩
  · refine ⟨good, ?_, ?_⟩
    · have shape : view (reserved.setCampaign campaignId (scheduledRow reserved campaignId request))
          campaignId = { view reserved campaignId with
            status := if request.sendNow.isSome then .sending else .scheduled
            per := 0
            out := (view reserved campaignId).out + 0 } := by
        have unpriced := per_scheduled request
        simp only [own, if_true] at unpriced
        simp [view, scheduledRow, lockedRows, own, unpriced]
      rw [shape]
      refine moves_one .other _ _ (allowed _) (.schedule _ 0 0 draft ?_ live (Int.le_refl 0)
        fun _ => rfl)
      simp [view, free]
    · intro other different
      exact view_congr reserved _ other (setCampaign_other _ _ _ _ different) rfl fun _ => rfl
  · have moved := reserveAtSchedule_moved _ _ _ _ _ _ _ good answer
    refine ⟨moved.good, ?_, ?_⟩
    · have shape : view (State.setCampaign { state with ledger } campaignId
          (scheduledRow state campaignId request)) campaignId = { view state campaignId with
            status := if request.sendNow.isSome then .sending else .scheduled
            per := perRecipientMinor (some request.price)
            out := (view state campaignId).out +
              request.preview.reachable.length * perRecipientMinor (some request.price) } := by
        have priced := per_scheduled request
        simp only [wyfy, Bool.false_eq_true, if_false] at priced
        have out := moved.here
        simp [view, scheduledRow, lockedRows, wyfy, priced, out]
      rw [shape]
      refine moves_one .other _ _ (allowed _) (.schedule _ _ _ draft ?_ live ?_ ?_)
      · simp [view, free]
      · exact Int.mul_nonneg (Int.natCast_nonneg _) (Int.natCast_nonneg _)
      · intro zero
        simp [zero]
    · intro other different
      exact others_row state campaignId _ ledger _ none moved other different

theorem schedule_effect (session : Session) (state later : State) (campaignId : Uuid)
    (request : ScheduleRequest) (allowed : ∀ v, permit .other v) (filling : ∀ v, permit .fill v)
    (base : Base state) (scheduled : schedule session state campaignId request = some later) :
    Effect permit state later campaignId := by
  obtain ⟨guard, reserved, booked, placed⟩ := schedule_some _ _ _ _ _ scheduled
  obtain ⟨draft, _, free⟩ := (claimsRow_iff _ _ _).mp guard
  have drafted : (state.campaigns campaignId).status = .draft := by simpa using draft
  have effect := scheduledRow_effect session state reserved campaignId request allowed base.good
    drafted free booked
  rcases placed with ⟨_, rfl⟩ | ⟨audience, now, materialized⟩
  · exact effect
  · obtain ⟨empty, first⟩ := (base.regular campaignId).fresh (.inl drafted)
    have same : reserved.recipients = state.recipients := by
      rcases reserveForSchedule_some _ _ _ _ _ booked with ⟨_, rfl⟩ | ⟨_, _, _, _, rfl⟩
      · rfl
      · rfl
    refine effect_trans _ _ _ _ effect
      (materialize_effect session _ later campaignId audience allowed filling effect.good ?_ ?_ ?_ ?_
        materialized)
    · simp [scheduledRow, now]
    · simp [scheduledRow, free]
    · simpa [view, scheduledRow, lockedRows, same] using empty
    · simp only [setCampaign_self, scheduledRow]
      exact first

theorem unschedule_effect (session : Session) (state later : State) (campaignId : Uuid)
    (allowed : ∀ v, permit .other v) (good : Good state.ledger)
    (unscheduled : unschedule session state campaignId = some later) :
    Effect permit state later campaignId := by
  obtain ⟨guard, released, ledger, answer, rfl⟩ := unschedule_some _ _ _ _ unscheduled
  obtain ⟨scheduled, _, free⟩ := (claimsRow_iff _ _ _).mp guard
  have moved := releaseAll_moved _ _ _ _ _ good answer
  refine ⟨moved.good, ?_, ?_⟩
  · have shape : view { state.setCampaign campaignId { state.campaigns campaignId with
        status := .draft, billed := ⟨none, false⟩, cappedByCredits := 0 } with ledger } campaignId =
          { view state campaignId with
            status := .draft, per := 0, out := min (view state campaignId).out 0 } := by
      have out : campaignReservedOutstanding ledger campaignId =
          min (campaignReservedOutstanding state.ledger campaignId) 0 := by
        have total := moved.here
        omega
      simp [view, lockedRows, out, Billed.per, perRecipientMinor]
    rw [shape]
    refine moves_one .other _ _ (allowed _) (.unschedule (by simpa [view] using scheduled) ?_)
    simp [view, free]
  · intro other different
    exact others_row state campaignId _ ledger _ none moved other different

theorem row_effect (state : State) (campaignId : Uuid) (campaign : Campaign) (good : Good state.ledger)
    (here : Moves permit (view state campaignId) (view (state.setCampaign campaignId campaign) campaignId)) :
    Effect permit state (state.setCampaign campaignId campaign) campaignId where
  good := good
  here := here
  others := fun other different =>
    view_congr state _ other (setCampaign_other _ _ _ _ different) rfl fun _ => rfl

theorem requestDelete_effect (state later : State) (campaignId : Uuid) (good : Good state.ledger)
    (requested : requestDelete state campaignId = some later) :
    Effect permit state later campaignId := by
  obtain rfl := requestDelete_some _ _ _ requested
  refine row_effect state campaignId _ good ?_
  have shape : view (state.setCampaign campaignId { state.campaigns campaignId with
      deleting := true }) campaignId = view state campaignId := by
    simp [view, lockedRows]
  rw [shape]
  exact .refl

theorem deleteCampaign_effect (state later : State) (campaignId : Uuid)
    (allowed : ∀ v, permit .other v) (good : Good state.ledger)
    (deleted : deleteCampaign state campaignId = some later) :
    Effect permit state later campaignId := by
  obtain rfl := deleteCampaign_some _ _ _ deleted
  refine row_effect state campaignId _ good ?_
  have shape : view (state.setCampaign campaignId { state.campaigns campaignId with
      isDeleted := true, deleting := false }) campaignId =
        { view state campaignId with isDeleted := true } := by
    simp [view, lockedRows]
  rw [shape]
  exact moves_one .other _ _ (allowed _) .delete

theorem dispatchDue_effect (session : Session) (state later : State) (campaignId : Uuid)
    (audience : Audience) (allowed : ∀ v, permit .other v) (filling : ∀ v, permit .fill v)
    (base : Base state) (dispatched : dispatchDue session state campaignId audience = some later) :
    Effect permit state later campaignId := by
  obtain ⟨guard, materialized⟩ := dispatchDue_some _ _ _ _ _ dispatched
  obtain ⟨due, _, free⟩ := (claimsRow_iff _ _ _).mp guard
  have scheduled : (state.campaigns campaignId).status = .scheduled := by simpa using due
  obtain ⟨empty, first⟩ := (base.regular campaignId).fresh (.inr scheduled)
  have shape : view (state.setCampaign campaignId { state.campaigns campaignId with
      status := .sending, startedAt := some state.clock }) campaignId =
        { view state campaignId with status := .sending } := by
    simp [view, lockedRows]
  have launch : Effect permit state (state.setCampaign campaignId
      { state.campaigns campaignId with status := .sending, startedAt := some state.clock })
      campaignId := by
    refine row_effect state campaignId _ base.good ?_
    rw [shape]
    exact moves_one .other _ _ (allowed _) (.launch scheduled (by simp [view, free]))
  refine effect_trans _ _ _ _ launch
    (materialize_effect session _ later campaignId audience allowed filling base.good ?_ ?_ ?_ ?_
      materialized)
  · simp
  · simp [free]
  · rw [shape]
    exact empty
  · simp only [setCampaign_self]
    exact first

theorem dispatchRefused_effect (session : Session) (state later : State) (campaignId : Uuid)
    (audience : Audience) (fitted : Bool) (allowed : ∀ v, permit .other v) (base : Base state)
    (refused : dispatchRefused session state campaignId audience fitted = some later) :
    Effect permit state later campaignId := by
  obtain ⟨scheduled, free⟩ := dispatchRefused_guard _ _ _ _ _ _ refused
  obtain ⟨_, first⟩ := (base.regular campaignId).fresh (.inr scheduled)
  obtain ⟨_, ledger, fit, settled⟩ := dispatchRefused_some _ _ _ _ _ _ first refused
  have moved : ∃ amount, Moved state.ledger ledger campaignId amount none ∧
      ((state.campaigns campaignId).billed.per = 0 → amount = 0) ∧
      (0 ≤ campaignReservedOutstanding state.ledger campaignId →
        0 ≤ campaignReservedOutstanding ledger campaignId) := by
    rcases fit with rfl | ⟨answer, adjusted⟩
    · exact ⟨0, moved_refl _ _ _ base.good, fun _ => rfl, fun held => held⟩
    · obtain ⟨amount, moved, unpriced, covers⟩ :=
        adjustAtDispatch_moved _ _ _ _ _ _ _ base.good adjusted
      refine ⟨amount, moved, unpriced, fun held => ?_⟩
      obtain ⟨nonneg, enough⟩ := covers held
      exact Int.le_trans (Int.mul_nonneg nonneg (Int.natCast_nonneg _)) enough
  obtain ⟨amount, moved, unpriced, held⟩ := moved
  -- The row is written twice: its status first, the reservation under it.
  obtain ⟨kept, shape, others⟩ := settleStatus_effect session
    (State.setCampaign { state with ledger } campaignId
      { state.campaigns campaignId with startedAt := some state.clock }) later campaignId .failed
    moved.good (by simpa using settled)
  have bare : view (State.setCampaign { state with ledger } campaignId
      { state.campaigns campaignId with startedAt := some state.clock }) campaignId =
        { view state campaignId with out := campaignReservedOutstanding ledger campaignId } := by
    simp [view, lockedRows]
  refine ⟨kept, ?_, ?_⟩
  · rw [shape, bare]
    refine moves_one .other _ _ (allowed _)
      (.refuse (campaignReservedOutstanding ledger campaignId) scheduled (by simp [view, free])
        held ?_)
    intro zero
    rw [moved.here, unpriced zero]
    exact Int.add_zero _
  · intro other different
    rw [others other different]
    exact others_row state campaignId _ ledger _ none moved other different

/-! ### Ending -/

theorem openEnding_effect (state : State) (campaignId : Uuid) (target : CampaignStatus)
    (skipReason : Option String) (label : Label) (good : Good state.ledger)
    (permitted : permit label (view state campaignId))
    (free : (state.campaigns campaignId).ending = none) (ended : target.terminal = true)
    (unswept : skipReason = none → (state.campaigns campaignId).status = .scheduled ∨
      label = .failDispatch ∨ label = .finish)
    (sending : label = .finish → (state.campaigns campaignId).status = .sending) :
    Effect permit state (openEnding state campaignId target skipReason) campaignId := by
  refine row_effect state campaignId _ good ?_
  have shape : view (openEnding state campaignId target skipReason) campaignId =
      { view state campaignId with
        rows := { (view state campaignId).rows with
          free := if skipReason.isSome then 0 else (view state campaignId).rows.pending }
        closing := some ⟨target, skipReason.isSome, none⟩ } := by
    cases skipReason with
    | none =>
        have unlocked := free_unlocked state.recipients campaignId
        simp [view, openEnding, sweepOf, lockedRows, closingOf, talliesOf, unlocked]
    | some reason =>
        have locked := free_pendingIds state.recipients campaignId
        simp [view, openEnding, sweepOf, lockedRows, closingOf, talliesOf, locked]
  rw [openEnding] at shape
  rw [shape]
  refine moves_one label _ _ permitted (.begin label target skipReason.isSome ?_ ended ?_ sending)
  · simp [view, free]
  · intro none
    exact unswept (by simpa using none)

def causeLabel : Cause → Label
  | .dispatchFailed => .failDispatch
  | _ => .other

theorem beginEnding_effect (state later : State) (campaignId : Uuid) (cause : Cause)
    (good : Good state.ledger) (permitted : permit (causeLabel cause) (view state campaignId))
    (begun : beginEnding state campaignId cause = some later) :
    Effect permit state later campaignId := by
  obtain ⟨guard, rfl⟩ := beginEnding_some _ _ _ _ begun
  obtain ⟨expected, _, free⟩ := (claimsRow_iff _ _ _).mp guard
  refine openEnding_effect state campaignId _ _ (causeLabel cause) good permitted free ?_ ?_ ?_
  · cases cause <;> rfl
  · intro unswept
    cases cause with
    | dispatchLocked => exact .inl (by simpa [Cause.expected] using expected)
    | dispatchUnavailable => exact .inl (by simpa [Cause.expected] using expected)
    | dispatchFailed => exact .inr (.inl rfl)
    | cancel => cases unswept
    | addonLock ownOnly => cases unswept
    | noWorker => cases unswept
  · intro finish
    cases cause <;> cases finish

theorem countEnding_effect (state later : State) (campaignId : Uuid) (allowed : ∀ v, permit .other v)
    (good : Good state.ledger) (counted : countEnding state campaignId = some later) :
    Effect permit state later campaignId := by
  obtain ⟨ending, opened, uncounted, rfl⟩ := countEnding_some _ _ _ counted
  refine row_effect state campaignId _ good ?_
  have shape : view (state.setCampaign campaignId { state.campaigns campaignId with
      ending := some { ending with inFlight := some (countInFlight state campaignId) } })
      campaignId = { view state campaignId with
        closing := some { closingOf ending with
          inFlight := some (view state campaignId).rows.sending } } := by
    simp [view, lockedRows, opened, closingOf, talliesOf, countInFlight]
  rw [shape]
  exact moves_one .other _ _ (allowed _)
    (.count (closingOf ending) (by simp [view, opened]) uncounted)

theorem abortEnding_effect (state later : State) (campaignId : Uuid) (allowed : ∀ v, permit .other v)
    (good : Good state.ledger) (aborted : abortEnding state campaignId = some later) :
    Effect permit state later campaignId := by
  obtain rfl := abortEnding_some _ _ _ aborted
  refine row_effect state campaignId _ good ?_
  have shape : view (state.setCampaign campaignId { state.campaigns campaignId with
      ending := none }) campaignId = { view state campaignId with
        rows := { (view state campaignId).rows with free := (view state campaignId).rows.pending }
        closing := none } := by
    have unlocked := free_unlocked state.recipients campaignId
    simp [view, lockedRows, talliesOf, unlocked]
  rw [shape]
  exact moves_one .other _ _ (allowed _) .abort

theorem swept_moving (recipients : Recipients) (campaignId : Uuid) (locked : List Uuid)
    (reason : String) :
    Moving recipients (swept campaignId locked) (markSkipped reason) campaignId .pending .skipped where
  before := by
    intro recipient _ chosen
    simp only [swept, Bool.and_eq_true, inStatus_iff] at chosen
    exact chosen.1
  campaign := fun _ => rfl
  after := fun _ => rfl

theorem commitEnding_effect (session : Session) (state later : State) (campaignId : Uuid)
    (allowed : ∀ v, permit .other v) (base : Base state)
    (committed : commitEnding session state campaignId = some later) :
    Effect permit state later campaignId := by
  obtain ⟨ending, inFlight, released, ledger, opened, counted, answer, rfl⟩ :=
    commitEnding_some _ _ _ _ committed
  have moved := settle_moved _ _ _ _ _ _ _ _ base.good answer
  have ended := (base.regular campaignId).ends (closingOf ending) (by simp [view, opened])
  have moving := swept_moving state.recipients campaignId ending.skipping (ending.skipReason.getD "")
  refine ⟨moved.good, ?_, ?_⟩
  · have split := free_add_swept state.recipients campaignId ending.skipping
    have shape : view { endedRows state campaignId ending with ledger } campaignId =
        { view state campaignId with
          status := ending.target
          out := settledAmount ending.target (view state campaignId).per inFlight
            (view state campaignId).out
          rows := { (view state campaignId).rows with
            pending := (view state campaignId).rows.free
            skipped := (view state campaignId).rows.skipped +
              state.recipients.count (swept campaignId ending.skipping) }
          countPending := (view state campaignId).countPending -
            state.recipients.count (swept campaignId ending.skipping)
          countSkipped := (view state campaignId).countSkipped +
            state.recipients.count (swept campaignId ending.skipping)
          closing := none } := by
      have tallies := tally_moving state.recipients _ _ campaignId .pending .skipped moving campaignId
      have pending := tallies .pending
      have sending := tallies .sending
      have submitted := tallies .submitted
      have failed := tallies .failed
      have skipped := tallies .skipped
      simp only [reduceCtorEq, and_false, and_true, if_true, if_false, Nat.add_zero]
        at pending sending submitted failed skipped
      have unlocked := free_unlocked (state.recipients.updateWhere
        (swept campaignId ending.skipping) (markSkipped (ending.skipReason.getD ""))) campaignId
      have out := moved.here
      have left : tally (state.recipients.updateWhere (swept campaignId ending.skipping)
          (markSkipped (ending.skipReason.getD ""))) campaignId .pending =
            state.recipients.count (freePending campaignId ending.skipping) := by omega
      simp [view, endedRows, adjustCounters, lockedRows, opened, talliesOf, unlocked, left, sending,
        submitted, failed, skipped, out, Int.sub_eq_add_neg]
    rw [shape]
    exact moves_one .other _ _ (allowed _) (.commit (closingOf ending) inFlight _
      (by simp [view, opened]) counted ended (by simpa [view, lockedRows, opened, talliesOf] using split))
  · intro other different
    refine view_congr state _ other (setCampaign_other _ _ _ _ different)
      (moved.others other different) ?_
    intro locked
    exact talliesOf_moving_elsewhere state.recipients _ _ campaignId .pending .skipped moving other
      different locked

/-! ### send_batch -/

theorem claim_effect (state later : State) (worker : Nat) (ids : List Uuid) (campaignId : Uuid)
    (startedAt : Int) (base : Base state)
    (busy : state.workers worker = some ⟨campaignId, startedAt, .started⟩)
    (permitted : permit .claim (view state campaignId))
    (claimed : claim state worker ids = some later) : Effect permit state later campaignId := by
  obtain ⟨_, _, same, distinct, due, rfl⟩ := claim_some _ _ _ _ claimed
  rw [busy] at same
  cases same
  refine ⟨base.good, ?_, ?_⟩
  all_goals
    have able : ∀ recipient ∈ state.recipients.rows, ids.contains recipient.id = true →
        freePending campaignId (lockedRows (state.campaigns campaignId)) recipient = true := by
      intro recipient member chosen
      obtain ⟨found, named, able⟩ := due recipient.id (by simpa using chosen)
      rw [find_of_mem state.recipients recipient member] at named
      cases named
      simp only [claimable, Bool.and_eq_true] at able
      simpa [freePending, able.1.1] using able.2
    have moving : Moving state.recipients (fun recipient => ids.contains recipient.id)
        (markSending startedAt) campaignId .pending .sending := by
      refine ⟨?_, fun _ => rfl, fun _ => rfl⟩
      intro recipient member chosen
      have free := able recipient member chosen
      simp only [freePending, Bool.and_eq_true, inStatus_iff] at free
      exact free.1
  · have shape : view (State.setWorker { state with
        recipients := claimBatch state.recipients ids startedAt } worker
        (some ⟨campaignId, startedAt, .batch (ticketsFor state.recipients ids)⟩)) campaignId =
        { view state campaignId with
          rows := talliesOf (claimBatch state.recipients ids startedAt) campaignId
            (lockedRows (state.campaigns campaignId)) } := rfl
    rw [shape]
    have tallies := tally_moving state.recipients _ _ campaignId .pending .sending moving campaignId
    have pending := tallies .pending
    have sending := tallies .sending
    have submitted := tallies .submitted
    have failed := tallies .failed
    have skipped := tallies .skipped
    simp only [reduceCtorEq, and_false, and_true, if_true, if_false, Nat.add_zero]
      at pending sending submitted failed skipped
    have free := free_moving state.recipients _ _ campaignId .pending .sending moving (by simp)
      campaignId (lockedRows (state.campaigns campaignId))
    have split := count_split state.recipients
      (freePending campaignId (lockedRows (state.campaigns campaignId)))
      fun recipient => ids.contains recipient.id
    have taken : state.recipients.count (fun recipient =>
        freePending campaignId (lockedRows (state.campaigns campaignId)) recipient &&
          ids.contains recipient.id) =
            state.recipients.count fun recipient => ids.contains recipient.id := by
      refine count_congr state.recipients _ _ ?_
      intro recipient member
      cases chosen : ids.contains recipient.id with
      | false => simp
      | true => simp [able recipient member chosen]
    have rows : talliesOf (claimBatch state.recipients ids startedAt) campaignId
        (lockedRows (state.campaigns campaignId)) = { (view state campaignId).rows with
          pending := tally (claimBatch state.recipients ids startedAt) campaignId .pending
          free := (claimBatch state.recipients ids startedAt).count
            (freePending campaignId (lockedRows (state.campaigns campaignId)))
          sending := (view state campaignId).rows.sending +
            state.recipients.count fun recipient => ids.contains recipient.id } := by
      simp only [claimBatch, talliesOf, view, sending, submitted, failed, skipped]
    rw [rows]
    refine moves_one .claim _ _ permitted (.claim _ _ _ ?_ ?_)
    · simp only [claimBatch, view, talliesOf]
      omega
    · simp only [claimBatch, view, talliesOf]
      omega
  · intro other different
    exact view_congr state _ other rfl rfl fun locked =>
      talliesOf_moving_elsewhere state.recipients _ _ campaignId .pending .sending moving other
        different locked

theorem ticket_moving (state : State) (worker : Nat) (working : Working) (ticket : Ticket)
    (change : Change Recipient.id) (new : RecipientStatus) (tended : Tended state)
    (busy : state.workers worker = some working) (member : ticket ∈ working.stage.tickets)
    (campaign : ∀ recipient, (change.apply recipient).campaignId = recipient.campaignId)
    (after : ∀ recipient, (change.apply recipient).status = new) :
    Moving state.recipients (fun recipient => recipient.id == ticket.recipientId) change
        working.campaignId .sending new ∧
      state.recipients.count (fun recipient => recipient.id == ticket.recipientId) = 1 := by
  obtain ⟨recipient, found, ofCampaign, sending, _⟩ :=
    (tended.held worker working busy).sending ticket member
  have one := count_one state.recipients ticket.recipientId recipient found fun _ => true
  simp only [Bool.and_true, if_true] at one
  refine ⟨⟨?_, campaign, after⟩, one⟩
  intro other present named
  have same : state.recipients.find other.id = some other :=
    find_of_mem state.recipients other present
  simp only [beq_iff_eq] at named
  rw [named, found] at same
  cases same
  exact ⟨ofCampaign, sending⟩

theorem settleOne_view (state : State) (worker : Nat) (campaignId : Uuid) (startedAt : Int)
    (ticket : Ticket) (todo : List Ticket) (change : Change Recipient.id) (new : RecipientStatus)
    (submittedBy failedBy skippedBy : Int) (tended : Tended state)
    (wrote : Wrote state worker campaignId startedAt ticket todo) (left : new ≠ .pending)
    (gone : new ≠ .sending)
    (campaign : ∀ recipient, (change.apply recipient).campaignId = recipient.campaignId)
    (after : ∀ recipient, (change.apply recipient).status = new) :
    let later := settleOne state worker ⟨campaignId, startedAt, .batch todo⟩ ticket todo change
      submittedBy failedBy skippedBy
    ∃ sending, (view state campaignId).rows.sending = sending + 1 ∧
      view later campaignId = { view state campaignId with
        rows := { (view state campaignId).rows with
          sending := sending
          submitted := (view state campaignId).rows.submitted + if new = .submitted then 1 else 0
          failed := (view state campaignId).rows.failed + if new = .failed then 1 else 0
          skipped := (view state campaignId).rows.skipped + if new = .skipped then 1 else 0 }
        countPending := (view state campaignId).countPending - 1
        countSubmitted := (view state campaignId).countSubmitted + submittedBy
        countFailed := (view state campaignId).countFailed + failedBy
        countSkipped := (view state campaignId).countSkipped + skippedBy } ∧
      ∀ other, other ≠ campaignId → view later other = view state other := by
  obtain ⟨stage, busy, tickets⟩ := wrote_tickets _ _ _ _ _ _ wrote
  obtain ⟨moving, one⟩ := ticket_moving state worker _ ticket change new tended busy
    (by simp [tickets]) campaign after
  have tallies := tally_moving state.recipients _ _ campaignId .sending new moving campaignId
  have pending := tallies .pending
  have sending := tallies .sending
  have submitted := tallies .submitted
  have failed := tallies .failed
  have skipped := tallies .skipped
  simp only [reduceCtorEq, and_false, and_true, true_and, if_true, if_false, Nat.add_zero, one,
    left.symm, gone.symm, @eq_comm _ _ new]
    at pending sending submitted failed skipped
  have free := free_unlocked (updateRecipient state.recipients ticket.recipientId change) campaignId
  have was := free_unlocked state.recipients campaignId
  intro later
  refine ⟨tally (updateRecipient state.recipients ticket.recipientId change) campaignId .sending,
    sending.symm, ?_, ?_⟩
  · simp only [updateRecipient] at free ⊢
    simp [later, view, settleOne, updateRecipient, adjustCounters, lockedRows, wrote.free, talliesOf,
      free, was, pending, submitted, failed, skipped, Int.sub_eq_add_neg]
  · intro other different
    exact view_congr state _ other (setCampaign_other _ _ _ _ different) rfl fun locked =>
      talliesOf_moving_elsewhere state.recipients _ _ campaignId .sending new moving other different
        locked

theorem skip_effect (state : State) (worker : Nat) (campaignId : Uuid) (startedAt : Int)
    (ticket : Ticket) (todo : List Ticket) (reason : String) (permitted : permit .write (view state campaignId))
    (base : Base state) (wrote : Wrote state worker campaignId startedAt ticket todo) :
    Effect permit state (settleOne state worker ⟨campaignId, startedAt, .batch todo⟩ ticket todo
      (markSkipped reason) 0 0 1) campaignId := by
  obtain ⟨sending, held, shape, others⟩ := settleOne_view state worker campaignId startedAt ticket
    todo (markSkipped reason) .skipped 0 0 1 base.tended wrote (by simp) (by simp) (fun _ => rfl)
    (fun _ => rfl)
  refine ⟨base.good, ?_, others⟩
  rw [shape]
  simp only [reduceCtorEq, if_true, if_false, Nat.add_zero, Int.add_zero]
  exact moves_one .write _ _ permitted (.skip sending held (by simp [view, wrote.free]))

theorem fail_effect (state : State) (worker : Nat) (campaignId : Uuid) (startedAt : Int)
    (ticket : Ticket) (todo : List Ticket) (code : String) (permitted : permit .write (view state campaignId))
    (base : Base state) (wrote : Wrote state worker campaignId startedAt ticket todo) :
    Effect permit state (settleOne state worker ⟨campaignId, startedAt, .batch todo⟩ ticket todo
      (markFailed code) 0 1 0) campaignId := by
  obtain ⟨sending, held, shape, others⟩ := settleOne_view state worker campaignId startedAt ticket
    todo (markFailed code) .failed 0 1 0 base.tended wrote (by simp) (by simp) (fun _ => rfl)
    (fun _ => rfl)
  refine ⟨base.good, ?_, others⟩
  rw [shape]
  simp only [reduceCtorEq, if_true, if_false, Nat.add_zero, Int.add_zero]
  exact moves_one .write _ _ permitted (.fail sending held (by simp [view, wrote.free]))

theorem view_ledger (state : State) (campaignId : Uuid) (ledger : Ledger) :
    view { state with ledger } campaignId = { view state campaignId with
      out := campaignReservedOutstanding ledger campaignId } := rfl

theorem submit_effect (session : Session) (state : State) (worker : Nat) (campaignId : Uuid)
    (startedAt : Int) (ticket : Ticket) (todo : List Ticket) (units : Nat) (charged : Int)
    (ledger : Ledger) (permitted : permit .write (view state campaignId)) (base : Base state)
    (wrote : Wrote state worker campaignId startedAt ticket todo)
    (debited : debitRecipient session state.ledger campaignId ticket.recipientId
      (state.campaigns campaignId).billed units = (.ok charged, ledger)) :
    Effect permit state { settleOne state worker ⟨campaignId, startedAt, .batch todo⟩ ticket todo
      markSubmitted 1 0 0 with ledger } campaignId := by
  obtain ⟨amount, nonneg, bounded, moved⟩ := debitRecipient_moved _ _ _ _ _ _ _ _ base.good debited
  obtain ⟨sending, held, shape, others⟩ := settleOne_view state worker campaignId startedAt ticket
    todo markSubmitted .submitted 1 0 0 base.tended wrote (by simp) (by simp) (fun _ => rfl)
    (fun _ => rfl)
  have paid := view_ledger (settleOne state worker ⟨campaignId, startedAt, .batch todo⟩ ticket todo
    markSubmitted 1 0 0)
  refine ⟨moved.good, ?_, ?_⟩
  · rw [paid campaignId ledger, shape, moved.here]
    simp only [reduceCtorEq, if_true, if_false, Nat.add_zero, Int.add_zero]
    exact moves_one .write _ _ permitted
      (.submit sending amount held (by simp [view, wrote.free]) nonneg bounded)
  · intro other different
    rw [paid other ledger, others other different, moved.others other different]
    rfl

theorem retry_effect (state later : State) (worker : Nat) (code : String) (working : Working)
    (base : Base state) (busy : state.workers worker = some working)
    (permitted : permit .retry (view state working.campaignId))
    (retried : retry state worker code = some later) :
    Effect permit state later working.campaignId := by
  obtain ⟨campaignId, startedAt, now, ticket, todo, same, rfl⟩ := retry_some _ _ _ _ retried
  rw [busy] at same
  cases same
  obtain ⟨moving, one⟩ := ticket_moving state worker _ ticket
    (markPending code (now + 30 * second * ticket.attempt)) .pending base.tended busy
    (by simp [Stage.tickets]) (fun _ => rfl) (fun _ => rfl)
  refine ⟨base.good, ?_, ?_⟩
  · have tallies := tally_moving state.recipients _ _ campaignId .sending .pending moving campaignId
    have pending := tallies .pending
    have sending := tallies .sending
    have submitted := tallies .submitted
    have failed := tallies .failed
    have skipped := tallies .skipped
    simp only [reduceCtorEq, and_false, and_true, if_true, if_false, Nat.add_zero, one]
      at pending sending submitted failed skipped
    have shape : view (State.setWorker { state with
        recipients := updateRecipient state.recipients ticket.recipientId
          (markPending code (now + 30 * second * ticket.attempt)) } worker
        (some ⟨campaignId, startedAt, .batch todo⟩)) campaignId = { view state campaignId with
          rows := { (view state campaignId).rows with
            sending := tally (updateRecipient state.recipients ticket.recipientId
              (markPending code (now + 30 * second * ticket.attempt))) campaignId .sending
            pending := (view state campaignId).rows.pending + 1
            free := (updateRecipient state.recipients ticket.recipientId
              (markPending code (now + 30 * second * ticket.attempt))).count
                (freePending campaignId (lockedRows (state.campaigns campaignId))) } } := by
      simp [view, talliesOf, updateRecipient, pending, submitted, failed, skipped]
    rw [shape]
    refine moves_one .retry _ _ permitted (.retry _ _ sending.symm ?_)
    intro none
    have unlocked : lockedRows (state.campaigns campaignId) = [] :=
      locked_none _ (by simpa [view] using none)
    rw [unlocked, free_unlocked]
    simpa [view, talliesOf, updateRecipient] using pending
  · intro other different
    exact view_congr state _ other rfl rfl fun locked =>
      talliesOf_moving_elsewhere state.recipients _ _ campaignId .sending .pending moving other
        different locked

/-! ### The own provider -/

theorem pending_failed_moving (recipients : Recipients) (campaignId : Uuid) :
    Moving recipients (inStatus campaignId .pending) (markFailed "own_provider_failed") campaignId
      .pending .failed where
  before := by
    intro recipient _ chosen
    exact (inStatus_iff _ _ _).mp chosen
  campaign := fun _ => rfl
  after := fun _ => rfl

theorem claimed_failed_moving (recipients : Recipients) (campaignId : Uuid) (todo : List Ticket) :
    Moving recipients (ownClaimed campaignId todo) (markFailed "own_provider_failed") campaignId
      .sending .failed where
  before := by
    intro recipient _ chosen
    simp only [ownClaimed, Bool.and_eq_true, inStatus_iff] at chosen
    exact chosen.1
  campaign := fun _ => rfl
  after := fun _ => rfl

theorem ownClaimed_count (recipients : Recipients) (campaignId : Uuid) (todo : List Ticket) :
    (recipients.updateWhere (inStatus campaignId .pending)
        (markFailed "own_provider_failed")).count (ownClaimed campaignId todo) =
      recipients.count (ownClaimed campaignId todo) := by
  -- Failing the pending recipients does not change which of the batch are in flight.
  rw [count_updateWhere]
  have kept : recipients.count (fun recipient => ownClaimed campaignId todo recipient &&
      !inStatus campaignId .pending recipient) = recipients.count (ownClaimed campaignId todo) := by
    refine count_congr recipients _ _ ?_
    intro recipient _
    cases chosen : ownClaimed campaignId todo recipient with
    | false => simp
    | true =>
        simp only [ownClaimed, Bool.and_eq_true, inStatus_iff] at chosen
        simp [inStatus, chosen.1.2]
  have none : recipients.count (fun recipient => inStatus campaignId .pending recipient &&
      ownClaimed campaignId todo ((markFailed "own_provider_failed").apply recipient)) = 0 := by
    refine List.countP_eq_zero.mpr ?_
    intro recipient _ both
    simp [ownClaimed, inStatus, markFailed] at both
  omega

theorem failUnsent_effect (state : State) (campaignId : Uuid) (todo : List Ticket)
    (allowed : ∀ v, permit .other v) (good : Good state.ledger)
    (own : (state.campaigns campaignId).billed.providerOwn = true)
    (free : (state.campaigns campaignId).ending = none) :
    Effect permit state (failUnsentRecipients state campaignId todo) campaignId ∧
      tally (failUnsentRecipients state campaignId todo).recipients campaignId .pending = 0 := by
  have first := pending_failed_moving state.recipients campaignId
  have second := claimed_failed_moving (state.recipients.updateWhere (inStatus campaignId .pending)
    (markFailed "own_provider_failed")) campaignId todo
  have one := tally_moving state.recipients _ _ campaignId .pending .failed first campaignId
  have two := tally_moving _ _ _ campaignId .sending .failed second campaignId
  have pendingOne := one .pending
  have sendingOne := one .sending
  have submittedOne := one .submitted
  have failedOne := one .failed
  have skippedOne := one .skipped
  have pendingTwo := two .pending
  have sendingTwo := two .sending
  have submittedTwo := two .submitted
  have failedTwo := two .failed
  have skippedTwo := two .skipped
  simp only [reduceCtorEq, and_false, and_true, if_true, if_false, Nat.add_zero, ownClaimed_count]
    at pendingOne sendingOne submittedOne failedOne skippedOne pendingTwo sendingTwo submittedTwo
      failedTwo skippedTwo
  have all : state.recipients.count (inStatus campaignId .pending) =
      tally state.recipients campaignId .pending := rfl
  have drained : tally (failUnsentRecipients state campaignId todo).recipients campaignId .pending =
      0 := by
    simp only [failUnsentRecipients, setCampaign_recipients]
    omega
  refine ⟨⟨good, ?_, ?_⟩, drained⟩
  · have unlocked := free_unlocked (failUnsentRecipients state campaignId todo).recipients campaignId
    rw [drained] at unlocked
    have shape : view (failUnsentRecipients state campaignId todo) campaignId =
        { view state campaignId with
          rows := { (view state campaignId).rows with
            pending := 0, free := 0
            sending := tally (failUnsentRecipients state campaignId todo).recipients campaignId .sending
            failed := (view state campaignId).rows.failed + ((view state campaignId).rows.pending +
              state.recipients.count (ownClaimed campaignId todo)) }
          countPending := (view state campaignId).countPending -
            ((view state campaignId).rows.pending +
              state.recipients.count (ownClaimed campaignId todo) : Nat)
          countFailed := (view state campaignId).countFailed +
            ((view state campaignId).rows.pending +
              state.recipients.count (ownClaimed campaignId todo) : Nat) } := by
      have failed : tally (failUnsentRecipients state campaignId todo).recipients campaignId .failed =
          tally state.recipients campaignId .failed + (tally state.recipients campaignId .pending +
            state.recipients.count (ownClaimed campaignId todo)) := by
        simp only [failUnsentRecipients, setCampaign_recipients]
        omega
      have submitted : tally (failUnsentRecipients state campaignId todo).recipients campaignId
          .submitted = tally state.recipients campaignId .submitted := submittedTwo.trans submittedOne
      have skipped : tally (failUnsentRecipients state campaignId todo).recipients campaignId
          .skipped = tally state.recipients campaignId .skipped := skippedTwo.trans skippedOne
      have row : (failUnsentRecipients state campaignId todo).campaigns campaignId =
          adjustCounters (state.campaigns campaignId)
            (-(tally state.recipients campaignId .pending +
              state.recipients.count (ownClaimed campaignId todo) : Int)) 0
            (tally state.recipients campaignId .pending +
              state.recipients.count (ownClaimed campaignId todo) : Int) 0 := by
        simp [failUnsentRecipients, tally]
      have ledger : (failUnsentRecipients state campaignId todo).ledger = state.ledger := rfl
      simp [view, row, ledger, adjustCounters, lockedRows, free, talliesOf, drained, unlocked, failed,
        submitted, skipped, Int.sub_eq_add_neg]
    rw [shape]
    refine moves_one .other _ _ (allowed _) (.failUnsent _ _ ?_ ?_ ?_)
    · simp [view, Billed.per, own]
    · simp [view, free]
    · simp only [view, talliesOf, failUnsentRecipients, setCampaign_recipients]
      omega
  · intro other different
    refine view_congr state _ other (setCampaign_other _ _ _ _ different) rfl ?_
    intro locked
    have later := talliesOf_moving_elsewhere _ _ _ campaignId .sending .failed second other different
      locked
    exact later.trans
      (talliesOf_moving_elsewhere state.recipients _ _ campaignId .pending .failed first other
        different locked)

theorem own_effect (session : Session) (state finalized : State) (worker : Nat) (campaignId : Uuid)
    (todo : List Ticket) (allowed : ∀ v, permit .other v) (good : Good state.ledger)
    (own : (state.campaigns campaignId).billed.providerOwn = true)
    (free : (state.campaigns campaignId).ending = none)
    (held : finalizeHeld session (failUnsentRecipients state campaignId todo) campaignId =
      some finalized) : Effect permit state (finalized.setWorker worker none) campaignId := by
  obtain ⟨failed, drained⟩ := failUnsent_effect state campaignId todo allowed good own free
  have still : ((failUnsentRecipients state campaignId todo).campaigns campaignId).ending = none := by
    simp [failUnsentRecipients, adjustCounters, free]
  have ended := finalizeHeld_effect session _ finalized campaignId allowed failed.good still drained held
  exact effect_trans _ _ _ _ (effect_trans _ _ _ _ failed ended)
    (effect_workers finalized _ campaignId ended.good rfl rfl rfl)

/-! ### reap_stuck -/

theorem stuck_moving (recipients : Recipients) (campaignId : Uuid) (before : Int) :
    Moving recipients (stuck campaignId before) (markFailed "worker_lost") campaignId .sending
      .failed where
  before := by
    intro recipient _ chosen
    simp only [stuck, Bool.and_eq_true, inStatus_iff] at chosen
    exact chosen.1
  campaign := fun _ => rfl
  after := fun _ => rfl

theorem reapStuckRecipients_view (state : State) (campaignId : Uuid) (before : Int)
    (free : (state.campaigns campaignId).ending = none) :
    let later := reapStuckRecipients state campaignId before
    let number := state.recipients.count (stuck campaignId before)
    let sending := tally later.recipients campaignId .sending
    (view state campaignId).rows.sending = sending + number ∧
      tally later.recipients campaignId .pending = (view state campaignId).rows.pending ∧
      view later campaignId = { view state campaignId with
        rows := { (view state campaignId).rows with
          sending := sending, failed := (view state campaignId).rows.failed + number }
        countFailed := (view state campaignId).countFailed + number } ∧
      ∀ other, other ≠ campaignId → view later other = view state other := by
  have moving := stuck_moving state.recipients campaignId before
  have tallies := tally_moving state.recipients _ _ campaignId .sending .failed moving campaignId
  have pending := tallies .pending
  have sending := tallies .sending
  have submitted := tallies .submitted
  have failed := tallies .failed
  have skipped := tallies .skipped
  simp only [reduceCtorEq, and_false, and_true, if_true, if_false, Nat.add_zero]
    at pending sending submitted failed skipped
  have unlocked := free_unlocked (state.recipients.updateWhere (stuck campaignId before)
    (markFailed "worker_lost")) campaignId
  have was := free_unlocked state.recipients campaignId
  intro later number left
  refine ⟨sending.symm, pending, ?_, ?_⟩
  · simp [later, number, left, view, reapStuckRecipients, adjustCounters, lockedRows, free, talliesOf,
      unlocked, was, pending, submitted, failed, skipped]
  · intro other different
    exact view_congr state _ other (setCampaign_other _ _ _ _ different) rfl fun locked =>
      talliesOf_moving_elsewhere state.recipients _ _ campaignId .sending .failed moving other
        different locked

theorem settledAmount_twice (status : CampaignStatus) (per inFlight : Nat) (out : Int) :
    settledAmount status per inFlight (settledAmount status per inFlight out) =
      settledAmount status per inFlight out := by
  unfold settledAmount
  split
  · rfl
  · omega

theorem settleCredits_view (session : Session) (state later : State) (campaignId : Uuid)
    (good : Good state.ledger) (settled : settleCredits session state campaignId = some later) :
    Good later.ledger ∧
      view later campaignId = { view state campaignId with
        out := settledAmount (view state campaignId).status (view state campaignId).per
          (view state campaignId).rows.sending (view state campaignId).out } ∧
      (∀ other, other ≠ campaignId → view later other = view state other) := by
  have same : state.setCampaign campaignId { state.campaigns campaignId with
      status := (state.campaigns campaignId).status } = state := by
    simp only [State.setCampaign]
    congr 1
    funext other
    split
    · rename_i here
      rw [here]
    · rfl
  exact settleStatus_effect session state later campaignId (state.campaigns campaignId).status good
    (by rw [same]; exact settled)

theorem reapStuck_effect (session : Session) (state later : State) (campaignId : Uuid)
    (base : Base state) (permitted : permit .reap (view state campaignId))
    (reaped : reapStuck session state campaignId = some later) :
    Effect permit state later campaignId := by
  obtain ⟨free, positive, ends⟩ := reapStuck_some _ _ _ _ reaped
  obtain ⟨held, pending, shape, others⟩ :=
    reapStuckRecipients_view state campaignId (stuckBefore state) free
  have closed : (view state campaignId).closing = none := by simp [view, free]
  rcases ends with ⟨deleted, rfl⟩ | ⟨kept, ⟨drained, finalized, ended, settled⟩ | settled⟩
  · refine ⟨base.good, ?_, others⟩
    rw [shape]
    exact moves_one .reap _ _ permitted (.reapDeleted _ _ positive held closed deleted)
  · rcases finalizeHeld_some _ _ _ _ ended with ⟨rfl, _⟩ | ⟨sending, _, released⟩
    · obtain ⟨good, after, elsewhere⟩ := settleCredits_view session
        (reapStuckRecipients state campaignId (stuckBefore state)) later campaignId base.good settled
      refine ⟨good, ?_, fun other different => (elsewhere other different).trans (others other different)⟩
      rw [after, shape]
      exact moves_one .reap _ _ permitted
        (.reap _ _ (view state campaignId).status positive held closed kept (.inl rfl))
    · obtain ⟨goodOnce, once, elsewhereOnce⟩ :=
        settleStatus_effect session (reapStuckRecipients state campaignId (stuckBefore state))
          finalized campaignId _ base.good released
      obtain ⟨good, after, elsewhere⟩ := settleCredits_view session _ later campaignId goodOnce settled
      refine ⟨good, ?_, ?_⟩
      · rw [after, once, shape]
        simp only [settledAmount_twice]
        refine moves_one .reap _ _ permitted (.reap _ _ _ positive held closed kept (.inr ⟨?_, ?_, ?_⟩))
        · simpa [view, reapStuckRecipients, adjustCounters] using sending
        · exact pending.symm.trans drained
        · exact finalStatus_cases _
      · intro other different
        exact (elsewhere other different).trans
          ((elsewhereOnce other different).trans (others other different))
  · obtain ⟨good, after, elsewhere⟩ := settleCredits_view session
      (reapStuckRecipients state campaignId (stuckBefore state)) later campaignId base.good settled
    refine ⟨good, ?_, fun other different => (elsewhere other different).trans (others other different)⟩
    rw [after, shape]
    exact moves_one .reap _ _ permitted
      (.reap _ _ (view state campaignId).status positive held closed kept (.inl rfl))

/-! ### Every step -/

/-- What a step does to all campaigns: it moves the one it is about. -/
structure Effects (permit : Label → View → Prop) (before later : State) (about : Option Uuid) :
    Prop where
  good : Good later.ledger
  moves : ∀ campaignId, Moves permit (view before campaignId) (view later campaignId)
  elsewhere : ∀ campaignId, about ≠ some campaignId →
    view later campaignId = view before campaignId

theorem effects_of (before later : State) (campaignId : Uuid)
    (effect : Effect permit before later campaignId) :
    Effects permit before later (some campaignId) where
  good := effect.good
  moves := by
    intro other
    by_cases here : other = campaignId
    · subst here
      exact effect.here
    · rw [effect.others other here]
      exact .refl
  elsewhere := by
    intro other different
    exact effect.others other fun same => different (by rw [same])

theorem effects_unseen (before later : State) (about : Option Uuid) (good : Good later.ledger)
    (same : ∀ campaignId, view later campaignId = view before campaignId) :
    Effects permit before later about where
  good := good
  moves := by
    intro campaignId
    rw [same]
    exact .refl
  elsewhere := fun campaignId _ => same campaignId

theorem effects_workers (before later : State) (about : Option Uuid) (good : Good before.ledger)
    (ledger : later.ledger = before.ledger) (campaigns : later.campaigns = before.campaigns)
    (recipients : later.recipients = before.recipients) : Effects permit before later about := by
  refine effects_unseen before later about (ledger ▸ good) ?_
  intro campaignId
  exact view_congr before later campaignId (by rw [campaigns]) (by rw [ledger]) (by simp [recipients])

def Action.campaign (state : State) : Action → Option Uuid
  | .tick _ | .postAdjustment .. => none
  | .testSend _ campaignId .. | .schedule _ campaignId _ | .unschedule _ campaignId
  | .requestDelete campaignId | .delete campaignId | .dispatch _ campaignId _ | .dispatchRefused _ campaignId ..
  | .begin campaignId _ | .count campaignId | .commit _ campaignId | .abort campaignId
  | .start _ campaignId | .reap _ campaignId => some campaignId
  | .claim worker _ | .abortOwn _ worker | .check worker | .skipCancelled worker
  | .skipRechecked worker _ | .submit _ worker _ | .retry worker _ | .fail worker _
  | .tripOwn _ worker | .endRefresh _ worker | .endCount worker | .finalize worker
  | .crash worker => (state.workers worker).map Working.campaignId

theorem wrote_permitted (state : State) (worker : Nat) (campaignId : Uuid) (startedAt : Int)
    (ticket : Ticket) (todo : List Ticket) (wrote : Wrote state worker campaignId startedAt ticket todo)
    (permits : ∀ working, state.workers worker = some working →
      permit .write (view state working.campaignId)) : permit .write (view state campaignId) := by
  obtain ⟨stage, busy, _⟩ := wrote.busy
  exact permits _ busy

theorem wrote_campaign (state : State) (worker : Nat) (campaignId : Uuid) (startedAt : Int)
    (ticket : Ticket) (todo : List Ticket)
    (wrote : Wrote state worker campaignId startedAt ticket todo) :
    (state.workers worker).map Working.campaignId = some campaignId := by
  obtain ⟨stage, busy, _⟩ := wrote.busy
  simp [busy]

theorem step_effects (state later : State) (action : Action) (allowed : ∀ v, permit .other v)
    (base : Base state) (permits : Permits permit state action)
    (stepped : step state action = some later) :
    Effects permit state later (action.campaign state) := by
  cases action with
  | tick now =>
      cases stepped
      exact effects_workers state _ _ base.good rfl rfl rfl
  | postAdjustment session office request actorUserId =>
      obtain ⟨write, ledger, answer, rfl⟩ := updateLedger_some _ _ _ stepped
      have moved := fun campaignId =>
        postAdjustment_moved _ _ _ _ _ _ write campaignId base.good answer
      refine effects_unseen state _ _ (moved actorUserId).good ?_
      intro campaignId
      exact view_congr state _ campaignId rfl
        (moved_all_same _ _ campaignId none (moved campaignId) campaignId) fun _ => rfl
  | testSend session campaignId requestId digest price units =>
      obtain ⟨charged, ledger, answer, rfl⟩ := updateLedger_some _ _ _ stepped
      exact effects_of _ _ campaignId (effect_wallet state ledger campaignId none
        (chargeTestSend_moved _ _ _ _ _ _ _ _ charged base.good answer))
  | schedule session campaignId request =>
      exact effects_of _ _ _
        (schedule_effect session state later campaignId request allowed permits base stepped)
  | unschedule session campaignId =>
      exact effects_of _ _ _
        (unschedule_effect session state later campaignId allowed base.good stepped)
  | requestDelete campaignId =>
      exact effects_of _ _ _ (requestDelete_effect state later campaignId base.good stepped)
  | delete campaignId =>
      exact effects_of _ _ _ (deleteCampaign_effect state later campaignId allowed base.good stepped)
  | dispatch session campaignId audience =>
      exact effects_of _ _ _
        (dispatchDue_effect session state later campaignId audience allowed permits base stepped)
  | dispatchRefused session campaignId audience fitted =>
      exact effects_of _ _ _
        (dispatchRefused_effect session state later campaignId audience fitted allowed base stepped)
  | begin campaignId cause =>
      refine effects_of _ _ _ (beginEnding_effect state later campaignId cause base.good ?_ stepped)
      cases cause with
      | dispatchFailed => exact permits
      | cancel | addonLock ownOnly | dispatchLocked | dispatchUnavailable | noWorker =>
          exact allowed _
  | count campaignId =>
      exact effects_of _ _ _ (countEnding_effect state later campaignId allowed base.good stepped)
  | commit session campaignId =>
      exact effects_of _ _ _
        (commitEnding_effect session state later campaignId allowed base stepped)
  | abort campaignId =>
      exact effects_of _ _ _ (abortEnding_effect state later campaignId allowed base.good stepped)
  | start worker campaignId =>
      obtain ⟨_, _, rfl⟩ := startBatch_some _ _ _ _ stepped
      exact effects_workers state _ _ base.good rfl rfl rfl
  | claim worker ids =>
      obtain ⟨campaignId, startedAt, busy, _, _, taken⟩ := claim_some _ _ _ _ stepped
      by_cases nobody : ids = []
      · subst nobody
        have same : later.recipients = state.recipients := by
          rw [taken]
          exact updateWhere_none state.recipients _ _ fun _ => rfl
        exact effects_workers state _ _ base.good (by rw [taken]; rfl) (by rw [taken]; rfl) same
      · have here : Action.campaign state (.claim worker ids) = some campaignId := by
          simp [Action.campaign, busy]
        rw [here]
        exact effects_of _ _ _
          (claim_effect state later worker ids _ _ base busy (permits nobody _ busy) stepped)
  | abortOwn session worker =>
      obtain ⟨campaignId, _, finalized, busy, own, free, held, rfl⟩ := abortOwn_some _ _ _ _ stepped
      have here : Action.campaign state (.abortOwn session worker) = some campaignId := by
        simp [Action.campaign, busy]
      rw [here]
      exact effects_of _ _ _
        (own_effect session state finalized worker campaignId [] allowed base.good own free held)
  | check worker =>
      obtain ⟨campaignId, _, _, _, _, _, rfl⟩ := check_some _ _ _ stepped
      exact effects_workers state _ _ base.good rfl rfl rfl
  | skipCancelled worker =>
      obtain ⟨campaignId, startedAt, ticket, todo, wrote, rfl⟩ := skipCancelled_some _ _ _ stepped
      rw [Action.campaign, wrote_campaign _ _ _ _ _ _ wrote]
      exact effects_of _ _ _ (skip_effect state worker _ _ ticket todo _
        (wrote_permitted _ _ _ _ _ _ wrote permits) base wrote)
  | skipRechecked worker reason =>
      obtain ⟨campaignId, startedAt, ticket, todo, wrote, rfl⟩ := skipRechecked_some _ _ _ _ stepped
      rw [Action.campaign, wrote_campaign _ _ _ _ _ _ wrote]
      exact effects_of _ _ _ (skip_effect state worker _ _ ticket todo _
        (wrote_permitted _ _ _ _ _ _ wrote permits) base wrote)
  | submit session worker units =>
      obtain ⟨campaignId, startedAt, ticket, todo, wrote, rfl | ⟨charged, ledger, debited, rfl⟩⟩ :=
        submit_some _ _ _ _ _ stepped
      · exact effects_workers state _ _ base.good rfl rfl rfl
      · rw [Action.campaign, wrote_campaign _ _ _ _ _ _ wrote]
        exact effects_of _ _ _ (submit_effect session state worker campaignId startedAt ticket todo
          units charged ledger (wrote_permitted _ _ _ _ _ _ wrote permits) base wrote debited)
  | retry worker code =>
      obtain ⟨campaignId, startedAt, now, ticket, todo, busy, _⟩ := retry_some _ _ _ _ stepped
      have here : Action.campaign state (.retry worker code) = some campaignId := by
        simp [Action.campaign, busy]
      rw [here]
      exact effects_of _ _ _ (retry_effect state later worker code _ base busy (permits _ busy) stepped)
  | fail worker code =>
      obtain ⟨campaignId, startedAt, ticket, todo, wrote, rfl⟩ := fail_some _ _ _ _ stepped
      rw [Action.campaign, wrote_campaign _ _ _ _ _ _ wrote]
      exact effects_of _ _ _ (fail_effect state worker _ _ ticket todo _
        (wrote_permitted _ _ _ _ _ _ wrote permits) base wrote)
  | tripOwn session worker =>
      obtain ⟨campaignId, _, _, ticket, todo, finalized, busy, own, free, held, rfl⟩ :=
        tripOwn_some _ _ _ _ stepped
      have here : Action.campaign state (.tripOwn session worker) = some campaignId := by
        simp [Action.campaign, busy]
      rw [here]
      exact effects_of _ _ _ (own_effect session state finalized worker campaignId (ticket :: todo)
        allowed base.good own free held)
  | endRefresh session worker =>
      obtain ⟨campaignId, _, busy, ⟨_, rfl⟩ | ⟨_, ⟨_, rfl⟩ | ⟨settled, done, rfl⟩⟩⟩ :=
        endRefresh_some _ _ _ _ stepped
      · exact effects_workers state _ _ base.good rfl rfl rfl
      · exact effects_workers state _ _ base.good rfl rfl rfl
      · have here : Action.campaign state (.endRefresh session worker) = some campaignId := by
          simp [Action.campaign, busy]
        rw [here]
        have effect := settleCredits_effect session state settled campaignId allowed base.good done
        exact effects_of _ _ _ (effect_trans _ _ _ _ effect
          (effect_workers settled _ campaignId effect.good rfl rfl rfl))
  | endCount worker =>
      obtain ⟨campaignId, _, _, ⟨_, rfl⟩ | rfl⟩ := endCount_some _ _ _ stepped
      · exact effects_workers state _ _ base.good rfl rfl rfl
      · exact effects_workers state _ _ base.good rfl rfl rfl
  | finalize worker =>
      obtain ⟨campaignId, _, busy, rfl | ⟨sending, free, rfl⟩⟩ := finalize_some _ _ _ stepped
      · exact effects_workers state _ _ base.good rfl rfl rfl
      · have here : Action.campaign state (.finalize worker) = some campaignId := by
          simp [Action.campaign, busy]
        rw [here]
        have effect := openEnding_effect state campaignId (finalStatus (state.campaigns campaignId))
          none .finish base.good (permits _ busy) free (finalStatus_terminal _)
          (fun _ => .inr (.inr rfl)) (fun _ => sending)
        exact effects_of _ _ _ (effect_trans _ _ _ _ effect
          (effect_workers _ _ campaignId base.good rfl rfl rfl))
  | crash worker =>
      obtain ⟨_, _, rfl⟩ := crash_some _ _ _ stepped
      exact effects_workers state _ _ base.good rfl rfl rfl
  | reap session campaignId =>
      exact effects_of _ _ _ (reapStuck_effect session state later campaignId base permits stepped)

theorem step_keeps (permit : Label → View → Prop) (Holds : View → Prop) (state later : State)
    (action : Action) (allowed : ∀ v, permit .other v) (base : Base state) (permits : Permits permit state action)
    (preserved : ∀ label before after, permit label before → Holds before →
      Move before label after → Holds after)
    (stepped : step state action = some later)
    (holds : ∀ campaignId, Holds (view state campaignId)) (campaignId : Uuid) :
    Holds (view later campaignId) := by
  have effects := step_effects state later action allowed base permits stepped
  exact (effects.moves campaignId).invariant preserved (holds campaignId)

end Views

/-! ### What holds in every run -/

theorem regular_move (label : Label) (before later : View) (regular : Regular before)
    (move : Move before label later) : Regular later := by
  obtain ⟨fresh, ends⟩ := regular
  have target : ∀ status : CampaignStatus, status.terminal = true → ¬ (status = .draft ∨ status = .scheduled) := by
    intro status
    cases status <;> simp [CampaignStatus.terminal]
  cases move with
  | schedule status per reserved draft free live nonneg unpriced =>
      exact ⟨fun _ => fresh (.inl draft), ends⟩
  | unschedule scheduled free => exact ⟨fun _ => fresh (.inr scheduled), ends⟩
  | delete => exact ⟨fresh, ends⟩
  | launch scheduled free => exact ⟨by simp, ends⟩
  | materialize number out sending free empty covered unpriced => exact ⟨by simp [sending], ends⟩
  | refuse out scheduled free nonneg unpriced => exact ⟨by simp, ends⟩
  | finalize status sending free drained ended =>
      refine ⟨?_, ends⟩
      rcases ended with rfl | rfl <;> simp
  | settle => exact ⟨fresh, ends⟩
  | begin label status sweeps free ended unswept sending =>
      refine ⟨?_, ?_⟩
      · intro idle
        obtain ⟨rows, count⟩ := fresh idle
        simp [rows, count, noRows]
      · rintro closing ⟨⟩
        exact ended
  | count closing opened uncounted =>
      refine ⟨fresh, ?_⟩
      rintro counted ⟨⟩
      exact ends closing opened
  | abort =>
      refine ⟨?_, by simp⟩
      intro idle
      obtain ⟨rows, count⟩ := fresh idle
      simp [rows, count, noRows]
  | commit closing inFlight swept opened counted ended split =>
      exact ⟨fun idle => absurd idle (target _ ended), by simp⟩
  | claim number pending free enough unlocked =>
      refine ⟨?_, ends⟩
      intro idle
      obtain ⟨rows, count⟩ := fresh idle
      simp only [rows, noRows] at enough unlocked ⊢
      obtain ⟨rfl, rfl, rfl⟩ : number = 0 ∧ pending = 0 ∧ free = 0 := by omega
      exact ⟨rfl, count⟩
  | skip sending held free | fail sending held free | submit sending amount held free nonneg bounded
    | retry sending free held unlocked =>
      refine ⟨?_, ends⟩
      intro idle
      simp [(fresh idle).1, noRows] at held
  | failUnsent sending claimed own free held =>
      refine ⟨?_, ends⟩
      intro idle
      obtain ⟨rows, count⟩ := fresh idle
      simp only [rows, noRows] at held ⊢
      obtain ⟨rfl, rfl⟩ : sending = 0 ∧ claimed = 0 := by omega
      exact ⟨rfl, count⟩
  | reapDeleted number sending positive held free deleted =>
      refine ⟨?_, ends⟩
      intro idle
      simp only [(fresh idle).1, noRows] at held
      omega
  | reap number sending status positive held free kept ended =>
      refine ⟨?_, ends⟩
      intro idle
      rcases ended with rfl | ⟨_, _, rfl | rfl⟩
      · simp only [(fresh idle).1, noRows] at held
        omega
      · simp at idle
      · simp at idle

theorem initial_base : Base .initial where
  good := empty_good
  tended := initial_tended
  regular := fun _ => ⟨fun _ => ⟨rfl, rfl⟩, by intro closing none; cases none⟩

theorem permits_all (state : State) (action : Action) : Permits (fun _ _ => True) state action := by
  cases action with
  | schedule | dispatch => exact fun _ => trivial
  | claim => exact fun _ _ _ => trivial
  | skipCancelled | skipRechecked | submit | fail | retry | finalize => exact fun _ _ => trivial
  | begin campaignId cause => cases cause <;> exact trivial
  | _ => exact trivial

theorem base_step (state later : State) (action : Action) (base : Base state)
    (spares : SparesWorkers state action) (stepped : step state action = some later) : Base later := by
  have effects : Effects (fun _ _ => True) state later (action.campaign state) :=
    step_effects state later action (fun _ => trivial) base (permits_all state action) stepped
  refine ⟨effects.good, step_tended state later action base.tended spares stepped, ?_⟩
  intro campaignId
  exact (effects.moves campaignId).invariant
    (fun label before after _ => regular_move label before after) (base.regular campaignId)

end CloudGuest.Marketing
