import CloudGuest.Marketing.Refinement

/-!
What a campaign holds in the wallet pays for every recipient that may still be
charged. The settlement of an ending campaign keeps the share of the recipients
in flight when it counted them, so the bound rests on nobody claiming a
recipient once the campaign is being ended.
-/

namespace CloudGuest.Marketing
open Texts Tables CreditLedger Runs

def outstanding (state : State) (campaignId : Uuid) : Int :=
  campaignReservedOutstanding state.ledger campaignId

def perRecipient (state : State) (campaignId : Uuid) : Nat :=
  (state.campaigns campaignId).billed.per

def stillSending (state : State) (campaignId : Uuid) : Prop :=
  (state.campaigns campaignId).status = .sending ∧ (state.campaigns campaignId).ending = none

instance (state : State) (campaignId : Uuid) : Decidable (stillSending state campaignId) :=
  inferInstanceAs (Decidable (_ ∧ _))

def ClaimsWhileSending (state : State) : Action → Prop
  | .claim worker ids => ids ≠ [] → ∀ working, state.workers worker = some working →
      stillSending state working.campaignId
  | _ => True

/-! ### One campaign -/

structure Backed (v : View) : Prop where
  regular : Regular v
  nonneg : 0 ≤ v.out
  inFlight : (v.per * v.rows.sending : Int) ≤ v.out
  queued : v.status = .sending → (v.per * (v.rows.pending + v.rows.sending : Nat) : Int) ≤ v.out
  counted : ∀ closing held, v.closing = some closing → closing.inFlight = some held →
    v.rows.sending ≤ held

def claimsOpen (label : Label) (v : View) : Prop :=
  label = .claim → v.status = .sending ∧ v.closing = none

theorem settledAmount_backed (status : CampaignStatus) (per held sending : Nat) (out : Int)
    (enough : sending ≤ held) (covered : (per * sending : Int) ≤ out) :
    (per * sending : Int) ≤ settledAmount status per held out := by
  unfold settledAmount
  split
  · exact covered
  · have scaled : (per * sending : Int) ≤ held * per := by
      rw [Int.mul_comm (held : Int)]
      exact_mod_cast Nat.mul_le_mul_left per enough
    omega

theorem settledAmount_nonneg (status : CampaignStatus) (per held : Nat) (out : Int)
    (nonneg : 0 ≤ out) : 0 ≤ settledAmount status per held out := by
  simpa using settledAmount_backed status per held 0 out (Nat.zero_le held) (by simpa using nonneg)

theorem settledAmount_sending (per held : Nat) (out : Int) :
    settledAmount .sending per held out = out := by
  simp [settledAmount, CampaignStatus.active]

theorem share_le (per fewer more : Nat) (out : Int) (less : fewer ≤ more)
    (covered : (per * more : Int) ≤ out) : (per * fewer : Int) ≤ out := by
  have scaled : (per * fewer : Int) ≤ per * more := by exact_mod_cast Nat.mul_le_mul_left per less
  omega

theorem backed_move (label : Label) (before later : View) (permitted : claimsOpen label before)
    (backed : Backed before) (move : Move before label later) : Backed later := by
  have regular := regular_move label before later backed.regular move
  obtain ⟨was, nonneg, inFlight, queued, counted⟩ := backed
  cases move with
  | schedule target per reserved draft free live more unpriced =>
      obtain ⟨empty, _⟩ := was.fresh (.inl draft)
      refine ⟨regular, by show 0 ≤ before.out + reserved; omega, ?_, ?_, counted⟩
      · simp only [empty, noRows]
        simpa using Int.add_nonneg nonneg more
      · intro _
        simp only [empty, noRows]
        simpa using Int.add_nonneg nonneg more
  | unschedule scheduled free =>
      refine ⟨regular, by show 0 ≤ min before.out 0; omega, ?_, by simp, counted⟩
      simpa using nonneg
  | delete => exact ⟨regular, nonneg, inFlight, queued, counted⟩
  | launch scheduled free =>
      obtain ⟨empty, _⟩ := was.fresh (.inr scheduled)
      refine ⟨regular, nonneg, inFlight, ?_, counted⟩
      intro _
      simpa [empty, noRows] using nonneg
  | materialize number out sending free empty covered unpriced =>
      have fits := covered nonneg
      have share : (before.per * number : Int) ≤ out := by
        rw [Int.mul_comm]
        exact fits
      refine ⟨regular, ?_, ?_, ?_, by simp [free]⟩
      · exact Int.le_trans (Int.mul_nonneg (Int.natCast_nonneg _) (Int.natCast_nonneg _)) share
      · exact share_le before.per 0 number out (Nat.zero_le _) share
      · intro _
        simpa [noRows] using share
  | refuse out scheduled free kept unpriced =>
      obtain ⟨empty, _⟩ := was.fresh (.inr scheduled)
      have held := kept nonneg
      refine ⟨regular, settledAmount_nonneg _ _ _ _ held, ?_, by simp, by simp [free]⟩
      simp only [empty, noRows]
      exact settledAmount_backed _ _ _ _ _ (Nat.le_refl 0) (by simpa using held)
  | finalize target sending free drained ended =>
      refine ⟨regular, settledAmount_nonneg _ _ _ _ nonneg,
        settledAmount_backed _ _ _ _ _ (Nat.le_refl _) inFlight, ?_, counted⟩
      intro still
      rcases ended with rfl | rfl <;> cases still
  | settle =>
      refine ⟨regular, settledAmount_nonneg _ _ _ _ nonneg,
        settledAmount_backed _ _ _ _ _ (Nat.le_refl _) inFlight, ?_, counted⟩
      intro still
      have sending : before.status = .sending := still
      simp only [sending, settledAmount_sending]
      exact queued sending
  | begin label target sweeps free ended unswept sending =>
      refine ⟨regular, nonneg, inFlight, queued, ?_⟩
      rintro closing held ⟨⟩ none
      cases none
  | count closing opened uncounted =>
      refine ⟨regular, nonneg, inFlight, queued, ?_⟩
      rintro counted held ⟨⟩ same
      cases same
      exact Nat.le_refl _
  | abort => exact ⟨regular, nonneg, inFlight, queued, by simp⟩
  | commit closing held swept opened number ended split =>
      refine ⟨regular, settledAmount_nonneg _ _ _ _ nonneg,
        settledAmount_backed _ _ _ _ _ (counted closing held opened number) inFlight, ?_, by simp⟩
      intro still
      have sending : closing.target = .sending := still
      rw [sending] at ended
      cases ended
  | claim number pending free enough unlocked =>
      obtain ⟨sending, closed⟩ := permitted rfl
      have whole := queued sending
      refine ⟨regular, nonneg, ?_, ?_, by simp [closed]⟩
      · exact share_le before.per (before.rows.sending + number) _ _ (by omega) whole
      · intro _
        exact share_le before.per (pending + (before.rows.sending + number)) _ _ (by omega) whole
  | skip sending held free | fail sending held free =>
      refine ⟨regular, nonneg, share_le before.per sending _ _ (by omega) inFlight, ?_, by simp [free]⟩
      intro still
      exact share_le before.per (before.rows.pending + sending) _ _ (by omega) (queued still)
  | submit sending amount held free positive bounded =>
      -- The recipient takes at most its own share with it.
      have taken : ∀ others : Nat, (before.per * (others + 1 : Nat) : Int) ≤ before.out →
          (before.per * others : Int) ≤ before.out - amount := by
        intro others covered
        rw [Int.natCast_add, Int.mul_add, Int.natCast_one, Int.mul_one] at covered
        omega
      have left := taken sending (by rw [← held]; exact inFlight)
      refine ⟨regular, ?_, left, ?_, by simp [free]⟩
      · exact Int.le_trans (Int.mul_nonneg (Int.natCast_nonneg _) (Int.natCast_nonneg _)) left
      · intro still
        have whole := queued still
        rw [held] at whole
        exact taken (before.rows.pending + sending) whole
  | retry sending free held unlocked =>
      refine ⟨regular, nonneg, share_le before.per sending _ _ (by omega) inFlight, ?_, ?_⟩
      · intro still
        exact share_le before.per (before.rows.pending + 1 + sending) _ _ (by omega) (queued still)
      · intro closing number opened taken
        have bound := counted closing number opened taken
        show sending ≤ number
        omega
  | failUnsent sending claimed own free held =>
      have nothing : (before.per : Int) = 0 := by exact_mod_cast own
      refine ⟨regular, nonneg, ?_, ?_, by simp [free]⟩
      · simpa [nothing] using nonneg
      · intro _
        simpa [nothing] using nonneg
  | reapDeleted number sending positive held free deleted =>
      refine ⟨regular, nonneg, share_le before.per sending _ _ (by omega) inFlight, ?_, by simp [free]⟩
      intro still
      exact share_le before.per (before.rows.pending + sending) _ _ (by omega) (queued still)
  | reap number sending status positive held free kept ends =>
      have fewer := share_le before.per sending _ _ (by omega) inFlight
      refine ⟨regular, settledAmount_nonneg _ _ _ _ nonneg,
        settledAmount_backed _ _ _ _ _ (Nat.le_refl _) fewer, ?_, by simp [free]⟩
      intro still
      have sendingNow : status = .sending := still
      subst sendingNow
      have sendingThen : before.status = .sending := by
        rcases ends with same | ⟨here, _, _⟩
        · exact same.symm
        · exact here
      simp only [settledAmount_sending]
      exact share_le before.per (before.rows.pending + sending) _ _ (by omega) (queued sendingThen)

/-! ### Every run -/

structure Covers (state : State) : Prop where
  inFlight : ∀ campaignId, (perRecipient state campaignId * countInFlight state campaignId : Int) ≤
    outstanding state campaignId
  queued : ∀ campaignId, (state.campaigns campaignId).status = .sending →
    (perRecipient state campaignId *
      (countPending state campaignId + countInFlight state campaignId : Nat) : Int) ≤
        outstanding state campaignId
  nonneg : ∀ campaignId, 0 ≤ outstanding state campaignId
  /-- All campaigns' reservations are in the wallet at once. -/
  together : ∀ campaigns : List Uuid, campaigns.Nodup →
    (campaigns.map (outstanding state)).sum ≤ state.ledger.wallet.reservedMinor
  /-- A step takes from no other campaign's reservation. -/
  apart : ∀ action later campaignId, step state action = some later →
    action.campaign state ≠ some campaignId → outstanding later campaignId = outstanding state campaignId
  debits : ∀ worker campaignId startedAt now ticket todo price session units amount reserved,
    state.workers worker = some ⟨campaignId, startedAt, .checked now ticket todo⟩ →
    (state.campaigns campaignId).billed = ⟨some price, false⟩ →
      (post session state.ledger (recipientDebit campaignId ticket.recipientId price units)).1 ≠
        .error (.creditReservationExceeded amount reserved)

theorem initial_backed (campaignId : Uuid) : Backed (view .initial campaignId) where
  regular := initial_base.regular campaignId
  nonneg := Int.le_refl 0
  inFlight := Int.le_refl 0
  queued := by
    intro sending
    cases sending
  counted := by
    intro closing held none
    cases none

theorem claimsOpen_permits (state : State) (action : Action) (met : ClaimsWhileSending state action) :
    Permits claimsOpen state action := by
  cases action with
  | claim worker ids =>
      intro taken working busy _
      obtain ⟨sending, free⟩ := met taken working busy
      exact ⟨sending, by simp [view, free]⟩
  | schedule | dispatch =>
      intro v claims
      cases claims
  | skipCancelled | skipRechecked | submit | fail | retry | finalize =>
      intro working busy claims
      cases claims
  | reap =>
      intro claims
      cases claims
  | begin campaignId cause =>
      cases cause with
      | dispatchFailed =>
          intro claims
          cases claims
      | _ => trivial
  | _ => trivial

theorem backed_step (state later : State) (action : Action) (base : Base state)
    (met : ClaimsWhileSending state action) (stepped : step state action = some later)
    (backed : ∀ campaignId, Backed (view state campaignId)) (campaignId : Uuid) :
    Backed (view later campaignId) :=
  step_keeps claimsOpen Backed state later action (fun _ claims => by cases claims) base
    (claimsOpen_permits state action met) backed_move stepped backed campaignId

theorem outstanding_part (state : State) (campaignId : Uuid) :
    outstanding state campaignId = RunningTotals.total (·.deltaReservedMinor)
      (RunningTotals.part CreditLedgerEntry.campaignId (some campaignId) state.ledger.entries) := by
  unfold outstanding campaignReservedOutstanding campaignEntries RunningTotals.part
  congr 1
  refine List.filter_congr ?_
  intro entry _
  simp [Bool.beq_eq_decide_eq]

theorem outstanding_together (state : State) (good : Good state.ledger)
    (nonneg : ∀ campaignId, 0 ≤ outstanding state campaignId) (campaigns : List Uuid)
    (distinct : campaigns.Nodup) :
    (campaigns.map (outstanding state)).sum ≤ state.ledger.wallet.reservedMinor := by
  -- No campaign holds a negative amount, so together they fit into the reserved balance.
  have parts : ∀ label : Option Uuid, 0 ≤ RunningTotals.total (·.deltaReservedMinor)
      (RunningTotals.part CreditLedgerEntry.campaignId label state.ledger.entries) := by
    intro label
    cases label with
    | some campaignId =>
        rw [← outstanding_part]
        exact nonneg campaignId
    | none =>
        have nothing : ∀ entries : List CreditLedgerEntry,
            (∀ entry ∈ entries, entry.deltaReservedMinor = 0) →
              RunningTotals.total (·.deltaReservedMinor) entries = 0 := by
          intro entries zero
          refine List.sum_eq_zero ?_
          intro amount member
          obtain ⟨entry, listed, rfl⟩ := List.mem_map.mp member
          exact zero entry listed
        rw [nothing]
        intro entry member
        obtain ⟨stored, unassigned⟩ := List.mem_filter.mp member
        exact good.assigned entry stored (by simpa using unassigned)
  rw [good.sound.reserved]
  have bound := RunningTotals.parts_le_total _ CreditLedgerEntry.campaignId (campaigns.map some)
    (distinct.map (Option.some_injective _)) state.ledger.entries parts
  rw [List.map_map] at bound
  simpa only [Function.comp_def, ← outstanding_part] using bound

theorem checked_inFlight (state : State) (worker : Nat) (campaignId : Uuid) (startedAt now : Int)
    (ticket : Ticket) (todo : List Ticket) (tended : Tended state)
    (busy : state.workers worker = some ⟨campaignId, startedAt, .checked now ticket todo⟩) :
    0 < countInFlight state campaignId := by
  obtain ⟨recipient, found, ofCampaign, sending, _⟩ :=
    (tended.held worker _ busy).sending ticket (by simp [Stage.tickets])
  exact count_pos state.recipients _ ticket.recipientId recipient found
    ((inStatus_iff _ _ _).mpr ⟨ofCampaign, sending⟩)

theorem covers_of_backed (state : State) (base : Base state)
    (backed : ∀ campaignId, Backed (view state campaignId)) : Covers state where
  inFlight := fun campaignId => (backed campaignId).inFlight
  queued := fun campaignId sending => (backed campaignId).queued sending
  nonneg := fun campaignId => (backed campaignId).nonneg
  together := outstanding_together state base.good fun campaignId => (backed campaignId).nonneg
  apart := by
    intro action later campaignId stepped elsewhere
    have effects : Effects (fun _ _ => True) state later (action.campaign state) :=
      step_effects state later action (fun _ => trivial) base (permits_all state action) stepped
    exact congrArg View.out (effects.elsewhere campaignId elsewhere)
  debits := by
    intro worker campaignId startedAt now ticket todo price session units amount reserved busy priced
    refine recipientDebit_covered session state.ledger campaignId ticket.recipientId price units
      base.good.sound ?_ amount reserved
    have held := checked_inFlight state worker campaignId startedAt now ticket todo base.tended busy
    have unit : perRecipient state campaignId = perRecipientMinor (some price) := by
      simp [perRecipient, priced, Billed.per]
    have alone := outstanding_together state base.good (fun other => (backed other).nonneg)
      [campaignId] (List.nodup_singleton _)
    calc (perRecipientMinor (some price) : Int)
        = perRecipient state campaignId * (1 : Nat) := by simp [unit]
      _ ≤ outstanding state campaignId :=
          share_le _ 1 _ _ held ((backed campaignId).inFlight)
      _ ≤ state.ledger.wallet.reservedMinor := by simpa using alone

/-- Reaped recipients have no live worker, and batches are claimed while sending. -/
def Orderly (state : State) (action : Action) : Prop :=
  SparesWorkers state action ∧ ClaimsWhileSending state action

theorem orderly_backed (state : State) (reached : Reached step Orderly .initial state) :
    Base state ∧ ∀ campaignId, Backed (view state campaignId) := by
  refine reached.invariant
    (fun state => Base state ∧ ∀ campaignId, Backed (view state campaignId))
    ⟨initial_base, initial_backed⟩ ?_
  intro before action later ⟨base, backed⟩ ⟨spares, claims⟩ stepped
  exact ⟨base_step before later action base spares stepped,
    backed_step before later action base claims stepped backed⟩

/-- In a run in which batches are claimed only of campaigns that are still
sending, every possible debit is covered in every state. -/
theorem reservations_cover_debits (state : State) (reached : Reached step Orderly .initial state) :
    Covers state := by
  obtain ⟨base, backed⟩ := orderly_backed state reached
  exact covers_of_backed state base backed

/-! ### Runs on small inputs -/

def sampleId (digit : Char) : Uuid := ⟨List.replicate 36 digit, by simp⟩

def sampleAudience : Audience := ⟨[(sampleId 'r', sampleId 'g')], 10⟩

def sentNow : List Action :=
  [.postAdjustment {} {} ⟨.topup, 10, [], none, none, false, none, "k".toList⟩ (sampleId 'a'),
    .schedule {} (sampleId 'c') ⟨false, ⟨2, 1⟩, sampleAudience, some sampleAudience⟩]

def orderlyCheck (state : State) (action : Action) : Bool :=
  withoutReaping action && match action with
    | .claim worker _ => (state.workers worker).all fun working =>
        decide (stillSending state working.campaignId)
    | _ => true

theorem orderlyCheck_orderly (state : State) (action : Action)
    (checked : orderlyCheck state action = true) : Orderly state action := by
  obtain ⟨never, claims⟩ := (Bool.and_eq_true _ _).mp checked
  refine ⟨withoutReaping_spares state action never, ?_⟩
  cases action with
  | claim worker ids =>
      intro _ working busy
      simpa [busy] using claims
  | _ => trivial

/-- A worker has the guest's recipient in flight, out of two reserved units. -/
theorem reservations_cover_debits_in_flight :
    ∃ state, countInFlight state (sampleId 'c') = 1 ∧ outstanding state (sampleId 'c') = 2 ∧
      Covers state := by
  obtain ⟨state, reached, observed⟩ := run_observed step .initial orderlyCheck
    (fun state => decide (countInFlight state (sampleId 'c') = 1 ∧
      outstanding state (sampleId 'c') = 2)) orderlyCheck_orderly
    (sentNow ++ [.start 0 (sampleId 'c'), .claim 0 [sampleId 'r'], .check 0]) (by decide +kernel)
  obtain ⟨inFlight, out⟩ := of_decide_eq_true observed
  exact ⟨state, inFlight, out, reservations_cover_debits state reached⟩

/-- A cancel has swept and counted when the retried recipient is claimed again;
its commit then releases what that recipient was to be charged from. -/
def claimedWhileCancelled : List Action := sentNow ++
  [.start 0 (sampleId 'c'), .claim 0 [sampleId 'r'], .check 0, .tick (30 * second),
    .start 1 (sampleId 'c'), .begin (sampleId 'c') .cancel, .retry 0 "timeout",
    .count (sampleId 'c'), .claim 1 [sampleId 'r'], .check 1, .commit {} (sampleId 'c')]

theorem claimed_while_cancelled_uncovered :
    ∃ state, Reached step SparesWorkers .initial state ∧ ¬ Covers state := by
  obtain ⟨state, reached, observed⟩ := run_observed step .initial
    (fun _ action => withoutReaping action)
    (fun state => decide (countInFlight state (sampleId 'c') = 1 ∧
      outstanding state (sampleId 'c') = 0 ∧ perRecipient state (sampleId 'c') = 2))
    withoutReaping_spares claimedWhileCancelled (by decide +kernel)
  obtain ⟨inFlight, out, per⟩ := of_decide_eq_true observed
  refine ⟨state, reached, ?_⟩
  intro covers
  have bound := covers.inFlight (sampleId 'c')
  rw [inFlight, out, per] at bound
  omega

end CloudGuest.Marketing
