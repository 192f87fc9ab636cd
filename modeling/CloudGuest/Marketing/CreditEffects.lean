import CloudGuest.Billing.CreditReplay
import CloudGuest.Marketing.CreditKeys

/-!
What each operation of the charge flow does to the campaigns' reservations.
`Moved` is the whole effect: one campaign's outstanding amount changes, every
other campaign's stays, and only the named recipient may have been charged.
-/

namespace CloudGuest.Marketing
open Texts CreditLedger RunningTotals

/-- What the campaign flow keeps of its wallet: only entries of a campaign
move the reserved balance. -/
structure Good (ledger : Ledger) : Prop where
  sound : Sound ledger
  numbered : Numbered ledger
  assigned : ∀ entry ∈ ledger.entries, entry.campaignId = none → entry.deltaReservedMinor = 0

theorem empty_good : Good .empty :=
  ⟨empty_sound, empty_numbered, fun entry absent => by cases absent⟩

def charges (ledger : Ledger) (recipientId : Uuid) : List CreditLedgerEntry :=
  ledger.entries.filter fun entry =>
    entry.entryType == .debit && entry.recipientId == some recipientId

structure Moved (before later : Ledger) (campaignId : Uuid) (amount : Int)
    (charged : Option Uuid) : Prop where
  good : Good later
  here : campaignReservedOutstanding later campaignId =
    campaignReservedOutstanding before campaignId + amount
  others : ∀ other, other ≠ campaignId →
    campaignReservedOutstanding later other = campaignReservedOutstanding before other
  charges : ∀ recipientId, charged ≠ some recipientId →
    charges later recipientId = charges before recipientId

theorem moved_refl (ledger : Ledger) (campaignId : Uuid) (charged : Option Uuid)
    (good : Good ledger) : Moved ledger ledger campaignId 0 charged :=
  ⟨good, by simp, fun _ _ => rfl, fun _ _ => rfl⟩

theorem outstanding_posted (before later : Ledger) (entry : CreditLedgerEntry)
    (posted : Posted before entry later) (campaignId : Uuid) :
    campaignReservedOutstanding later campaignId =
      campaignReservedOutstanding before campaignId +
        if entry.campaignId = some campaignId then entry.deltaReservedMinor else 0 := by
  simp only [campaignReservedOutstanding, campaignEntries, posted.entries, List.filter_append,
    total_append]
  by_cases here : entry.campaignId = some campaignId
  · simp [here]
  · simp [here]

theorem charges_posted (before later : Ledger) (entry : CreditLedgerEntry)
    (posted : Posted before entry later) (recipientId : Uuid)
    (elsewhere : entry.recipientId ≠ some recipientId) :
    charges later recipientId = charges before recipientId := by
  simp [charges, posted.entries, List.filter_append, elsewhere]

theorem posted_moved (before later : Ledger) (entry : CreditLedgerEntry) (campaignId : Uuid)
    (amount : Int) (good : Good before) (posted : Posted before entry later)
    (written : Written later entry.idempotencyKey) (moves : entry.deltaReservedMinor = amount)
    (mine : entry.campaignId = some campaignId ∨ amount = 0) :
    Moved before later campaignId amount entry.recipientId where
  good := by
    refine ⟨posted_sound before later entry good.sound posted,
      posted_numbered before later entry good.numbered posted written, ?_⟩
    intro stored member unassigned
    rw [posted.entries] at member
    rcases List.mem_append.mp member with old | added
    · exact good.assigned stored old unassigned
    · obtain rfl : stored = entry := by simpa using added
      rcases mine with here | none
      · rw [here] at unassigned
        cases unassigned
      · exact moves.trans none
  here := by
    rw [outstanding_posted before later entry posted, moves]
    rcases mine with here | none
    · rw [if_pos here]
    · simp [none]
  others := by
    intro other different
    rw [outstanding_posted before later entry posted, moves]
    rcases mine with here | none
    · have elsewhere : entry.campaignId ≠ some other := by
        rw [here]
        exact fun same => different (Option.some.inj same).symm
      simp [elsewhere]
    · simp [none]
  charges := fun recipientId elsewhere =>
    charges_posted before later entry posted recipientId elsewhere

theorem post_ok_cases (session : Session) (ledger later : Ledger) (request : Request)
    (write : LedgerWrite) (answered : post session ledger request = (.ok write, later)) :
    ∃ minor, request.checked = .ok minor ∧
      ((later = ledger ∧ (getEntryByKey ledger request.key).isSome) ∨
        ∃ entry, Posted ledger entry later ∧ entry.idempotencyKey = request.key ∧
          entry.movement = request.movement minor) := by
  cases checked : request.checked with
  | error refusal =>
      rw [post_unchecked session ledger request refusal checked] at answered
      cases answered
  | ok minor =>
      refine ⟨minor, rfl, ?_⟩
      have applied := post_applied session ledger request minor checked
      rw [answered] at applied
      cases applied with
      | replayed existing stored same => exact .inl ⟨rfl, by simp [stored]⟩
      | posted entry later keyed moved posted => exact .inr ⟨entry, posted, keyed, moved⟩

theorem movement_fields (entry : CreditLedgerEntry) (request : Request) (minor : Int)
    (moved : entry.movement = request.movement minor) :
    entry.entryType = request.entryType ∧ entry.deltaReservedMinor = request.deltaReserved minor ∧
      entry.campaignId = request.fields.campaignId ∧
      entry.recipientId = request.fields.recipientId := by
  simp only [CreditLedgerEntry.movement, Request.movement, Movement.mk.injEq] at moved
  exact ⟨moved.1, moved.2.2.1, moved.2.2.2.1, moved.2.2.2.2⟩

theorem requirePositive_ok (value minor : Int) (checked : requirePositive (.int value) = .ok minor) :
    minor = value ∧ 0 < value ∧ value ≤ maxEntryAmountMinor := by
  simp only [requirePositive] at checked
  split at checked
  · cases checked
  · cases checked
    omega

/-! ### reserve_for_campaign -/

theorem reserveNext_moved (session : Session) (ledger later : Ledger) (campaignId : Uuid)
    (value reserved : Int) (good : Good ledger)
    (answered : reserveNext session ledger campaignId (.int value) value = (.ok reserved, later)) :
    reserved = value ∧ Moved ledger later campaignId value none := by
  simp only [reserveNext] at answered
  split at answered
  · cases answered
  · rename_i write next outcome
    cases answered
    obtain ⟨minor, checked, replayed | ⟨entry, posted, keyed, moved⟩⟩ :=
      post_ok_cases _ _ _ _ _ outcome
    · have fresh := reserveKey_fresh ledger campaignId good.numbered
      have taken := replayed.2
      simp only [reserve, fresh] at taken
      cases taken
    · obtain ⟨rfl, _⟩ := requirePositive_ok value minor checked
      obtain ⟨ofType, delta, ofCampaign, ofRecipient⟩ := movement_fields entry _ _ moved
      have counted := countCampaignEntries_posted ledger later entry posted campaignId .reserve []
      have written : Written later entry.idempotencyKey := by
        rw [keyed]
        refine .reserve campaignId _ ?_
        rw [counted, if_pos ⟨ofCampaign, ofType, List.nil_prefix⟩]
        omega
      refine ⟨rfl, ?_⟩
      have result := posted_moved ledger later entry campaignId minor good posted written delta
        (.inl ofCampaign)
      rw [ofRecipient] at result
      exact result

theorem reserveForCampaign_whole (session : Session) (ledger later : Ledger) (campaignId : Uuid)
    (value reserved : Int) (positive : 0 < value) (good : Good ledger)
    (answered : reserveForCampaign session ledger campaignId (.int value) none =
      (.ok reserved, later)) :
    reserved = value ∧ Moved ledger later campaignId value none := by
  simp only [reserveForCampaign, if_neg (not_le.mpr positive), fitUnits] at answered
  exact reserveNext_moved session ledger later campaignId value reserved good answered

theorem reserveForCampaign_units (session : Session) (ledger later : Ledger) (campaignId : Uuid)
    (value unit reserved : Int) (good : Good ledger)
    (answered : reserveForCampaign session ledger campaignId (.int value) (some unit) =
      (.ok reserved, later)) :
    0 ≤ reserved ∧ reserved ≤ max value 0 ∧ unit ∣ reserved ∧
      Moved ledger later campaignId reserved none := by
  simp only [reserveForCampaign] at answered
  split at answered
  · cases answered
    exact ⟨Int.le_refl 0, by omega, Int.dvd_zero unit, moved_refl ledger campaignId none good⟩
  · rename_i positive
    simp only [fitUnits] at answered
    split at answered
    · cases answered
      exact ⟨Int.le_refl 0, by omega, Int.dvd_zero unit, moved_refl ledger campaignId none good⟩
    · rename_i unitPositive
      split at answered
      · cases answered
        exact ⟨Int.le_refl 0, by omega, Int.dvd_zero unit, moved_refl ledger campaignId none good⟩
      · rename_i fits
        obtain ⟨rfl, moved⟩ := reserveNext_moved session ledger later campaignId _ reserved good answered
        have whole : value / unit * unit ≤ value := Int.ediv_mul_le value (by omega)
        have bounded : min (value / unit) (ledger.wallet.availableMinor / unit) * unit ≤
            value / unit * unit := by
          apply Int.mul_le_mul_of_nonneg_right
          · exact Int.min_le_left _ _
          · omega
        exact ⟨by omega, by omega, Dvd.intro_left _ rfl, moved⟩

/-! ### release_campaign_remainder -/

theorem releaseCampaignRemainder_moved (session : Session) (ledger later : Ledger)
    (campaignId : Uuid) (reason : ReleaseReason) (hold released : Int) (nonneg : 0 ≤ hold)
    (good : Good ledger)
    (answered : releaseCampaignRemainder session ledger campaignId (releaseBase campaignId reason)
      hold = (.ok released, later)) :
    Moved ledger later campaignId
      (min (campaignReservedOutstanding ledger campaignId) hold -
        campaignReservedOutstanding ledger campaignId) none := by
  simp only [releaseCampaignRemainder, Int.max_eq_right nonneg] at answered
  split at answered
  · rename_i covered
    cases answered
    have same : min (campaignReservedOutstanding ledger campaignId) hold -
        campaignReservedOutstanding ledger campaignId = 0 := by omega
    rw [same]
    exact moved_refl ledger campaignId none good
  · rename_i surplus
    split at answered
    · cases answered
    · rename_i write next outcome
      cases answered
      obtain ⟨minor, checked, replayed | ⟨entry, posted, keyed, moved⟩⟩ :=
        post_ok_cases _ _ _ _ _ outcome
      · have fresh := releaseKey_fresh ledger campaignId reason good.numbered
        have taken := replayed.2
        simp only [release, fresh] at taken
        cases taken
      · obtain ⟨rfl, _⟩ := requirePositive_ok _ minor checked
        obtain ⟨ofType, delta, ofCampaign, ofRecipient⟩ := movement_fields entry _ _ moved
        have counted := countCampaignEntries_posted ledger later entry posted campaignId .release
          (releaseBase campaignId reason)
        have based : releaseBase campaignId reason <+: entry.idempotencyKey := by
          rw [keyed]
          simp only [release, numberedKey_eq]
          exact List.prefix_append _ _
        have written : Written later entry.idempotencyKey := by
          rw [keyed]
          refine .release campaignId reason _ ?_
          rw [counted, if_pos ⟨ofCampaign, ofType, based⟩]
          omega
        have result := posted_moved ledger later entry campaignId _ good posted written delta
          (.inl ofCampaign)
        rw [ofRecipient] at result
        have amounts : (release (Amount.int (campaignReservedOutstanding ledger campaignId - hold))
              (numberedKey (releaseBase campaignId reason) (countCampaignEntries ledger campaignId
                .release (releaseBase campaignId reason))) campaignId).deltaReserved
              (campaignReservedOutstanding ledger campaignId - hold) =
            min (campaignReservedOutstanding ledger campaignId) hold -
              campaignReservedOutstanding ledger campaignId := by
          simp only [release]
          omega
        rw [amounts] at result
        exact result

/-! ### The charge flow -/

theorem per_pos_iff (billed : Billed) :
    0 < billed.per ↔ ¬ (perRecipientMinor billed.priceSnapshot ≤ 0 ∨ billed.providerOwn) := by
  unfold Billed.per
  cases billed.providerOwn
  · simp [Nat.pos_iff_ne_zero]
  · simp

theorem per_eq (billed : Billed) (priced : 0 < billed.per) :
    billed.per = perRecipientMinor billed.priceSnapshot := by
  have wyfy := (per_pos_iff billed).mp priced
  simp only [not_or, Bool.not_eq_true] at wyfy
  simp [Billed.per, wyfy.2]

theorem reserveAtSchedule_moved (session : Session) (ledger later : Ledger) (campaignId : Uuid)
    (price : PriceSnapshot) (reachable : Nat) (reserved : Int) (good : Good ledger)
    (answered : reserveAtSchedule session ledger campaignId price reachable = (.ok reserved, later)) :
    Moved ledger later campaignId (reachable * perRecipientMinor (some price)) none := by
  simp only [reserveAtSchedule] at answered
  split at answered
  · rename_i nothing
    cases answered
    have nonneg := Int.mul_nonneg (Int.natCast_nonneg reachable)
      (Int.natCast_nonneg (perRecipientMinor (some price)))
    have none : (reachable : Int) * perRecipientMinor (some price) = 0 := by omega
    rw [none]
    exact moved_refl ledger campaignId _ good
  · rename_i something
    exact (reserveForCampaign_whole session ledger later campaignId _ reserved (by omega) good
      answered).2

theorem adjustAtDispatch_moved (session : Session) (ledger later : Ledger) (campaignId : Uuid)
    (billed : Billed) (reachable : Nat) (fitted : Fitted) (good : Good ledger)
    (answered : adjustAtDispatch session ledger campaignId billed reachable = (.ok fitted, later)) :
    ∃ amount, Moved ledger later campaignId amount none ∧ (billed.per = 0 → amount = 0) ∧
      (0 ≤ campaignReservedOutstanding ledger campaignId → 0 ≤ fitted.allowed ∧
        fitted.allowed * billed.per ≤ campaignReservedOutstanding later campaignId) := by
  simp only [adjustAtDispatch] at answered
  split at answered
  · rename_i free
    cases answered
    have unpriced : billed.per = 0 := by
      by_contra priced
      exact (per_pos_iff billed).mp (Nat.pos_of_ne_zero priced) free
    refine ⟨0, moved_refl ledger campaignId none good, fun _ => rfl, ?_⟩
    intro held
    exact ⟨Int.natCast_nonneg reachable, by simpa [unpriced] using held⟩
  · rename_i charged
    have priced := (per_pos_iff billed).mpr charged
    have unit := per_eq billed priced
    rw [← unit] at answered
    have never : billed.per = 0 → False := by omega
    generalize out : campaignReservedOutstanding ledger campaignId = outstanding at answered
    have floor : outstanding / billed.per * billed.per ≤ outstanding :=
      Int.ediv_mul_le outstanding (by omega)
    split at answered
    · rename_i enough
      have cost : (reachable : Int) * billed.per ≤ outstanding := by
        have scaled := Int.mul_le_mul_of_nonneg_right enough (Int.natCast_nonneg billed.per)
        omega
      have costs : 0 ≤ (reachable : Int) * billed.per :=
        Int.mul_nonneg (Int.natCast_nonneg _) (Int.natCast_nonneg _)
      split at answered
      · split at answered
        · cases answered
        · rename_i released next outcome
          cases answered
          have moved := releaseCampaignRemainder_moved session ledger later campaignId .dispatch _
            released costs good outcome
          refine ⟨_, moved, fun zero => (never zero).elim, fun _ => ?_⟩
          rw [moved.here, out]
          exact ⟨Int.natCast_nonneg reachable, by dsimp only; omega⟩
      · cases answered
        refine ⟨0, moved_refl ledger campaignId none good, fun _ => rfl, fun _ => ?_⟩
        rw [out]
        exact ⟨Int.natCast_nonneg reachable, cost⟩
    · split at answered
      · cases answered
      · rename_i extra next outcome
        cases answered
        obtain ⟨nonneg, _, whole, moved⟩ := reserveForCampaign_units session ledger later campaignId
          _ _ extra good outcome
        have units : extra / billed.per * billed.per = extra := Int.ediv_mul_cancel whole
        refine ⟨extra, moved, fun zero => (never zero).elim, fun held => ⟨?_, ?_⟩⟩
        · have first := Int.ediv_nonneg held (Int.natCast_nonneg billed.per)
          have second := Int.ediv_nonneg nonneg (Int.natCast_nonneg billed.per)
          dsimp only
          omega
        · rw [moved.here, out]
          dsimp only
          rw [Int.add_mul, units]
          omega

/-- What a settled campaign keeps: the share of its recipients still in flight. -/
def settledAmount (status : CampaignStatus) (per inFlight : Nat) (outstanding : Int) : Int :=
  if status.active ∨ per = 0 then outstanding else min outstanding (inFlight * per)

theorem settle_moved (session : Session) (ledger later : Ledger) (campaignId : Uuid)
    (status : CampaignStatus) (billed : Billed) (inFlight : Nat) (released : Int)
    (good : Good ledger)
    (answered : settle session ledger campaignId status billed inFlight = (.ok released, later)) :
    Moved ledger later campaignId
      (settledAmount status billed.per inFlight (campaignReservedOutstanding ledger campaignId) -
        campaignReservedOutstanding ledger campaignId) none := by
  simp only [settle] at answered
  split at answered
  · rename_i active
    cases answered
    simp only [settledAmount, active, true_or, if_true, Int.sub_self]
    exact moved_refl ledger campaignId none good
  · rename_i ended
    split at answered
    · rename_i free
      cases answered
      have unpriced : billed.per = 0 := by
        by_contra priced
        exact (per_pos_iff billed).mp (Nat.pos_of_ne_zero priced) free
      simp only [settledAmount, unpriced, or_true, if_true, Int.sub_self]
      exact moved_refl ledger campaignId none good
    · rename_i charged
      have priced := (per_pos_iff billed).mpr charged
      have unit := per_eq billed priced
      rw [← unit] at answered
      have ends : ¬ (status.active ∨ billed.per = 0) := by
        rintro (active | zero)
        · exact ended active
        · omega
      simp only [settledAmount, if_neg ends]
      exact releaseCampaignRemainder_moved session ledger later campaignId .final _ released
        (Int.mul_nonneg (Int.natCast_nonneg _) (Int.natCast_nonneg _)) good answered

theorem releaseAll_moved (session : Session) (ledger later : Ledger) (campaignId : Uuid)
    (released : Int) (good : Good ledger)
    (answered : releaseAll session ledger campaignId (unscheduleKey campaignId) =
      (.ok released, later)) :
    Moved ledger later campaignId
      (min (campaignReservedOutstanding ledger campaignId) 0 -
        campaignReservedOutstanding ledger campaignId) none :=
  releaseCampaignRemainder_moved session ledger later campaignId .unschedule 0 released
    (Int.le_refl 0) good answered

theorem debitRecipient_moved (session : Session) (ledger later : Ledger)
    (campaignId recipientId : Uuid) (billed : Billed) (units : Nat) (charged : Int)
    (good : Good ledger)
    (answered : debitRecipient session ledger campaignId recipientId billed units =
      (.ok charged, later)) :
    ∃ amount : Int, 0 ≤ amount ∧ amount ≤ billed.per ∧
      Moved ledger later campaignId (-amount) (some recipientId) := by
  have unmoved : ∃ amount : Int, 0 ≤ amount ∧ amount ≤ billed.per ∧
      Moved ledger ledger campaignId (-amount) (some recipientId) :=
    ⟨0, Int.le_refl 0, Int.natCast_nonneg _, by simpa using moved_refl ledger campaignId _ good⟩
  unfold debitRecipient at answered
  split at answered
  · cases answered
    exact unmoved
  · rename_i price priced
    split at answered
    · cases answered
      exact unmoved
    · rename_i free
      have unit : billed.per = price.unitsPerRecipientMax * price.unitPriceMinor := by
        rw [← priced] at free
        rw [per_eq billed ((per_pos_iff billed).mpr free), priced]
        rfl
      have settled := post_settled session ledger (recipientDebit campaignId recipientId price units)
      split at answered
      · rename_i outcome
        rw [outcome] at settled
        cases settled
        cases answered
        exact unmoved
      · rename_i outcome
        rw [outcome] at settled
        cases settled
        cases answered
        exact unmoved
      · cases answered
      · rename_i write next outcome
        cases answered
        obtain ⟨minor, checked, replayed | ⟨entry, posted, keyed, moved⟩⟩ :=
          post_ok_cases _ _ _ _ _ outcome
        · rw [replayed.1]
          exact unmoved
        · obtain ⟨rfl, positive, _⟩ := requirePositive_ok _ minor checked
          obtain ⟨_, delta, ofCampaign, ofRecipient⟩ := movement_fields entry _ _ moved
          have written : Written later entry.idempotencyKey := by
            rw [keyed]
            exact .debit recipientId
          have result := posted_moved ledger later entry campaignId _ good posted written delta
            (.inl ofCampaign)
          rw [ofRecipient] at result
          refine ⟨_, Int.le_of_lt positive, ?_, result⟩
          rw [unit]
          exact_mod_cast Nat.mul_le_mul_right price.unitPriceMinor
            (Nat.min_le_right units price.unitsPerRecipientMax)

theorem writeEntry_not_exceeded (session : Session) (ledger : Ledger) (entry : CreditLedgerEntry)
    (amount reserved : Int) :
    (writeEntry session ledger entry).1 ≠ .error (.creditReservationExceeded amount reserved) := by
  unfold writeEntry
  split
  · simp
  · simp
  · simp
  · dsimp only
    split
    · rename_i refusal alerted
      obtain ⟨reason, rfl⟩ := maybeAlertLowBalance_error _ _ _ refusal alerted
      simp
    · simp

theorem recipientDebit_covered (session : Session) (ledger : Ledger) (campaignId recipientId : Uuid)
    (price : PriceSnapshot) (units : Nat) (sound : Sound ledger)
    (covered : (perRecipientMinor (some price) : Int) ≤ ledger.wallet.reservedMinor)
    (amount reserved : Int) :
    (post session ledger (recipientDebit campaignId recipientId price units)).1 ≠
      .error (.creditReservationExceeded amount reserved) := by
  have capped : ((min units price.unitsPerRecipientMax : Nat) * price.unitPriceMinor : Int) ≤
      ledger.wallet.reservedMinor := by
    refine Int.le_trans ?_ covered
    exact_mod_cast Nat.mul_le_mul_right price.unitPriceMinor
      (Nat.min_le_right units price.unitsPerRecipientMax)
  have available := sound.availableNonneg
  unfold post
  split
  · rename_i refusal checked
    simp only [recipientDebit, debit, requirePositive] at checked
    split at checked
    · cases checked
      simp
    · cases checked
  · rename_i minor checked
    obtain ⟨rfl, _, _⟩ := requirePositive_ok _ minor checked
    simp only [recipientDebit, debit, Bool.false_eq_true, if_false]
    unfold apply
    split
    · simp
    · split
      · split <;> simp
      · dsimp only
        rw [if_neg (by omega), if_neg (by omega)]
        exact writeEntry_not_exceeded session ledger _ amount reserved

theorem chargeTestSend_moved (session : Session) (ledger later : Ledger) (campaignId : Uuid)
    (requestId digest : Text) (price units : Nat) (charged : Int) (good : Good ledger)
    (answered : chargeTestSend session ledger campaignId requestId digest price units =
      (.ok charged, later)) : Moved ledger later campaignId 0 none := by
  simp only [chargeTestSend] at answered
  split at answered
  · cases answered
    exact moved_refl ledger campaignId none good
  · split at answered
    · cases answered
    · rename_i write next outcome
      cases answered
      obtain ⟨minor, checked, replayed | ⟨entry, posted, keyed, moved⟩⟩ :=
        post_ok_cases _ _ _ _ _ outcome
      · rw [replayed.1]
        exact moved_refl ledger campaignId none good
      · obtain ⟨_, delta, ofCampaign, ofRecipient⟩ := movement_fields entry _ _ moved
        have written : Written later entry.idempotencyKey := by
          rw [keyed]
          exact .test campaignId requestId digest
        have result := posted_moved ledger later entry campaignId 0 good posted written delta
          (.inl ofCampaign)
        rw [ofRecipient] at result
        exact result

theorem postAdjustment_moved (session : Session) (ledger later : Ledger)
    (office : MasterCredits.Office) (request : MasterCredits.AdjustmentRequest) (actorUserId : Uuid)
    (write : LedgerWrite) (campaignId : Uuid) (good : Good ledger)
    (answered : post session ledger (MasterCredits.walletRequest office request actorUserId) =
      (.ok write, later)) : Moved ledger later campaignId 0 none := by
  obtain ⟨minor, checked, replayed | ⟨entry, posted, keyed, moved⟩⟩ :=
    post_ok_cases _ _ _ _ _ answered
  · rw [replayed.1]
    exact moved_refl ledger campaignId none good
  · obtain ⟨_, delta, _, ofRecipient⟩ := movement_fields entry _ _ moved
    have key : (MasterCredits.walletRequest office request actorUserId).key =
        MasterCredits.masterKey request := by
      unfold MasterCredits.walletRequest
      split <;> rfl
    have nothing : (MasterCredits.walletRequest office request actorUserId).deltaReserved minor = 0 := by
      unfold MasterCredits.walletRequest
      split <;> rfl
    have nobody : (MasterCredits.walletRequest office request actorUserId).fields.recipientId = none := by
      unfold MasterCredits.walletRequest
      split <;> rfl
    have written : Written later entry.idempotencyKey := by
      rw [keyed, key]
      exact .master request
    have result := posted_moved ledger later entry campaignId 0 good posted written
      (delta.trans nothing) (.inr rfl)
    rw [ofRecipient, nobody] at result
    exact result

end CloudGuest.Marketing
