import CloudGuest.Marketing.CreditEffects

/-!
The reservation fitted to the audience at dispatch (marketing/credits.py,
`adjust_at_dispatch`). The call moves one amount: the surplus back, or whole units in. It
returns just when that amount may be an entry, and what it then returns is covered, exact
where the reservation was enough, and as large as the wallet allows.
-/

namespace CloudGuest.Marketing
open Texts CreditLedger RunningTotals

/-- Nothing outside the code fails: no flush, and no hook that raises. -/
def Calm (session : Session) : Prop :=
  session.database = none ∧ ∀ reason, session.lowBalanceHook ≠ some (some reason)

def surplus (ledger : Ledger) (campaignId : Uuid) (per reachable : Nat) : Int :=
  campaignReservedOutstanding ledger campaignId - reachable * per

def uncovered (ledger : Ledger) (campaignId : Uuid) (per reachable : Nat) : Int :=
  reachable - campaignReservedOutstanding ledger campaignId / per

def extension (ledger : Ledger) (campaignId : Uuid) (per reachable : Nat) : Int :=
  min (uncovered ledger campaignId per reachable) (ledger.wallet.availableMinor / per) * per

/-- The amount that the call moves may be one entry, and the reserved balance has a surplus. -/
def Movable (ledger : Ledger) (campaignId : Uuid) (per reachable : Nat) : Prop :=
  if (reachable : Int) * per ≤ campaignReservedOutstanding ledger campaignId then
    surplus ledger campaignId per reachable ≤ maxEntryAmountMinor ∧
      surplus ledger campaignId per reachable ≤ ledger.wallet.reservedMinor
  else extension ledger campaignId per reachable ≤ maxEntryAmountMinor

instance (ledger : Ledger) (campaignId : Uuid) (per reachable : Nat) :
    Decidable (Movable ledger campaignId per reachable) := by
  unfold Movable
  infer_instance

structure Fits (before later : Ledger) (campaignId : Uuid) (per reachable : Nat)
    (fitted : Fitted) : Prop where
  divided : fitted.allowed + fitted.cappedByCredits = reachable
  allowed : 0 ≤ fitted.allowed
  capped : 0 ≤ fitted.cappedByCredits
  covered : fitted.allowed * per ≤ campaignReservedOutstanding later campaignId
  exact : (reachable : Int) * per ≤ campaignReservedOutstanding before campaignId →
    campaignReservedOutstanding later campaignId = reachable * per
  maximal : 0 < fitted.cappedByCredits → later.wallet.availableMinor < per

/-! ### One entry -/

theorem requirePositive_int {value : Int} (positive : 0 < value) :
    requirePositive (.int value) =
      if value ≤ maxEntryAmountMinor then .ok value
      else .error (.valueError "credit amount must be positive and in range") := by
  simp only [requirePositive]
  split
  · rename_i out
    rw [if_neg (by omega)]
  · rename_i inside
    rw [if_pos (by omega)]

theorem writeEntry_calm {session : Session} (calm : Calm session) {ledger : Ledger}
    {entry : CreditLedgerEntry} (available : 0 ≤ entry.balanceAvailableAfterMinor)
    (reserved : 0 ≤ entry.balanceReservedAfterMinor)
    (fresh : getEntryByKey ledger entry.idempotencyKey = none)
    (undebited : recipientDebited ledger entry = false) :
    ∃ write later, writeEntry session ledger entry = (.ok write, later) := by
  obtain ⟨flushes, returns⟩ := calm
  have inserted : insertEntry session ledger entry = .ok (ledger.entries ++ [entry]) := by
    unfold insertEntry
    rw [flushes]
    dsimp only
    rw [if_neg (by omega), if_neg (by simp [fresh]), if_neg (by simp [undebited])]
  have answered : ∀ wallet, ∃ alerted,
      maybeAlertLowBalance session entry.entryType wallet = .ok alerted := by
    intro wallet
    unfold maybeAlertLowBalance
    split
    · exact ⟨wallet, rfl⟩
    · rename_i answer installed
      split
      · exact ⟨wallet, rfl⟩
      · cases answer with
        | none => exact ⟨_, rfl⟩
        | some reason => exact absurd installed (returns reason)
  unfold writeEntry
  rw [inserted]
  dsimp only
  obtain ⟨alerted, same⟩ := answered (updatedWallet ledger.wallet entry.balanceAvailableAfterMinor
    entry.balanceReservedAfterMinor)
  rw [same]
  exact ⟨_, _, rfl⟩

theorem post_calm {session : Session} (calm : Calm session) {ledger : Ledger} {request : Request}
    {minor : Int} (checked : request.checked = .ok minor) (keyed : request.key ≠ [])
    (fresh : getEntryByKey ledger request.key = none) (plain : request.beforeWrite = none)
    (available : 0 ≤ ledger.wallet.availableMinor + request.deltaAvailable minor)
    (reserved : 0 ≤ ledger.wallet.reservedMinor + request.deltaReserved minor)
    (unpaid : request.entryType ≠ .debit) :
    ∃ write later, post session ledger request = (.ok write, later) := by
  simp only [post, checked, apply]
  rw [if_neg keyed, fresh]
  dsimp only
  rw [if_neg (not_lt.mpr available), if_neg (not_lt.mpr reserved), plain]
  refine writeEntry_calm calm available reserved fresh ?_
  simp [recipientDebited, unpaid]

theorem writeEntry_not_insufficient (session : Session) (ledger : Ledger)
    (entry : CreditLedgerEntry) (available : 0 ≤ entry.balanceAvailableAfterMinor)
    (reserved : 0 ≤ entry.balanceReservedAfterMinor) (needed had : Int) :
    (writeEntry session ledger entry).1 ≠ .error (.insufficientCredits needed had) := by
  -- The write itself never reports a lack of credits, where the balances were checked.
  unfold writeEntry
  split
  · rename_i violated
    unfold insertEntry at violated
    split at violated
    · cases violated
    · rw [if_neg (by omega)] at violated
      split at violated
      · cases violated
      · split at violated <;> cases violated
  · simp
  · simp
  · dsimp only
    split
    · rename_i refusal alerted
      obtain ⟨reason, rfl⟩ := maybeAlertLowBalance_error _ _ _ refusal alerted
      simp
    · simp

theorem post_not_insufficient (session : Session) (ledger : Ledger) (request : Request)
    (unrefused : ∀ needed had, request.checked ≠ .error (.insufficientCredits needed had))
    (enough : ∀ minor, request.checked = .ok minor →
      0 ≤ ledger.wallet.availableMinor + request.deltaAvailable minor) (needed had : Int) :
    (post session ledger request).1 ≠ .error (.insufficientCredits needed had) := by
  unfold post
  split
  · rename_i refusal checked
    intro same
    cases same
    exact unrefused needed had checked
  · rename_i minor checked
    have available := enough minor checked
    unfold apply
    split
    · simp
    · split
      · split <;> simp
      · dsimp only
        rw [if_neg (not_lt.mpr available)]
        split
        · simp
        · rename_i reserved
          split
          · exact writeEntry_not_insufficient session ledger _ available (not_lt.mp reserved) _ _
          · simp
          · exact writeEntry_not_insufficient session ledger _ available (not_lt.mp reserved) _ _

theorem requirePositive_not_insufficient (value needed had : Int) :
    requirePositive (.int value) ≠ .error (.insufficientCredits needed had) := by
  simp only [requirePositive]
  split <;> simp

theorem reserveKey_nonempty (campaignId : Uuid) (number : Nat) : reserveKey campaignId number ≠ [] := by
  unfold reserveKey
  simp only [List.append_assoc]
  exact List.append_ne_nil_of_left_ne_nil (by decide) _

theorem releaseKey_nonempty (campaignId : Uuid) (number : Nat) :
    numberedKey (dispatchKey campaignId) number ≠ [] := by
  rw [numberedKey_eq]
  unfold dispatchKey
  simp only [List.append_assoc]
  exact List.append_ne_nil_of_left_ne_nil (by decide) _

/-! ### The extension -/

theorem reserveNext_available {session : Session} {ledger later : Ledger} {campaignId : Uuid}
    {value reserved : Int} (good : Good ledger)
    (answered : reserveNext session ledger campaignId (.int value) value = (.ok reserved, later)) :
    later.wallet.availableMinor = ledger.wallet.availableMinor - value := by
  simp only [reserveNext] at answered
  split at answered
  · cases answered
  · rename_i write next outcome
    cases answered
    obtain ⟨minor, checked, replayed | ⟨entry, posted, keyed, moved⟩⟩ :=
      post_ok_cases _ _ _ _ _ outcome
    · have taken := replayed.2
      simp only [reserve, reserveKey_fresh ledger campaignId good.numbered] at taken
      cases taken
    · obtain ⟨rfl, -⟩ := requirePositive_ok value minor checked
      have delta : entry.deltaAvailableMinor = -minor :=
        congrArg Movement.deltaAvailable moved
      rw [posted.available, delta, Int.sub_eq_add_neg]

theorem reserveNext_returns {session : Session} (calm : Calm session) {ledger : Ledger}
    {campaignId : Uuid} {value : Int} (good : Good ledger) (positive : 0 < value)
    (enough : value ≤ ledger.wallet.availableMinor) :
    (∃ reserved, (reserveNext session ledger campaignId (.int value) value).1 = .ok reserved) ↔
      value ≤ maxEntryAmountMinor := by
  constructor
  · rintro ⟨reserved, answered⟩
    simp only [reserveNext] at answered
    split at answered
    · cases answered
    · rename_i write next outcome
      obtain ⟨minor, checked, -⟩ := post_ok_cases _ _ _ _ _ outcome
      exact (requirePositive_ok value minor checked).2.2
  · intro small
    have checked : (reserve (.int value) (reserveKey campaignId
        (countCampaignEntries ledger campaignId .reserve [])) campaignId).checked = .ok value := by
      simp only [reserve, requirePositive_int positive, if_pos small]
    obtain ⟨write, later, posted⟩ := post_calm calm checked (reserveKey_nonempty _ _)
      (reserveKey_fresh ledger campaignId good.numbered) rfl
      (by simp only [reserve]; omega)
      (by have := good.sound.reservedNonneg; simp only [reserve]; omega) (by simp [reserve])
    refine ⟨value, ?_⟩
    simp only [reserveNext, posted]

theorem reserveForCampaign_fitted (session : Session) (ledger : Ledger) (campaignId : Uuid)
    {value unit : Int} (positive : 0 < value) (priced : 0 < unit) :
    reserveForCampaign session ledger campaignId (.int value) (some unit) =
      let fitted := min (value / unit) (ledger.wallet.availableMinor / unit) * unit
      if fitted ≤ 0 then (.ok 0, ledger)
      else reserveNext session ledger campaignId (.int fitted) fitted := by
  simp only [reserveForCampaign, if_neg (not_le.mpr positive), fitUnits,
    if_neg (not_le.mpr priced)]

/-! ### The surplus -/

theorem release_returns {session : Session} (calm : Calm session) {ledger : Ledger}
    {campaignId : Uuid} {hold : Int} (good : Good ledger) (nonneg : 0 ≤ hold)
    (more : 0 < campaignReservedOutstanding ledger campaignId - hold) :
    (∃ released, (releaseCampaignRemainder session ledger campaignId (dispatchKey campaignId)
        hold).1 = .ok released) ↔
      campaignReservedOutstanding ledger campaignId - hold ≤ maxEntryAmountMinor ∧
        campaignReservedOutstanding ledger campaignId - hold ≤ ledger.wallet.reservedMinor := by
  simp only [releaseCampaignRemainder, Int.max_eq_right nonneg, if_neg (not_le.mpr more)]
  generalize campaignReservedOutstanding ledger campaignId - hold = amount at more
  constructor
  · rintro ⟨released, answered⟩
    split at answered
    · cases answered
    · rename_i write later outcome
      obtain ⟨minor, checked, replayed | ⟨entry, posted, -, moved⟩⟩ :=
        post_ok_cases _ _ _ _ _ outcome
      · have taken := replayed.2
        have fresh := releaseKey_fresh ledger campaignId .dispatch good.numbered
        simp only [release] at taken
        simp only [releaseBase] at fresh
        rw [fresh] at taken
        cases taken
      · obtain ⟨rfl, -, small⟩ := requirePositive_ok amount minor checked
        have delta : entry.deltaReservedMinor = -minor := congrArg Movement.deltaReserved moved
        have kept := posted.reservedNonneg
        rw [posted.reserved, delta] at kept
        exact ⟨small, by omega⟩
  · rintro ⟨small, reserved⟩
    have checked : (release (.int amount) (numberedKey (dispatchKey campaignId)
        (countCampaignEntries ledger campaignId .release (dispatchKey campaignId)))
        campaignId).checked = .ok amount := by
      simp only [release, requirePositive_int more, if_pos small]
    obtain ⟨write, later, posted⟩ := post_calm calm checked
      (releaseKey_nonempty _ _)
      (releaseKey_fresh ledger campaignId .dispatch good.numbered) rfl
      (by have := good.sound.availableNonneg; simp only [release]; omega)
      (by simp only [release]; omega) (by simp [release])
    refine ⟨amount, ?_⟩
    simp only [posted]

/-! ### The call -/

variable {session : Session} {ledger later : Ledger} {campaignId : Uuid} {billed : Billed}
variable {reachable : Nat}

theorem adjustAtDispatch_charged (session : Session) (ledger : Ledger) (campaignId : Uuid)
    (reachable : Nat) (priced : 0 < billed.per) :
    adjustAtDispatch session ledger campaignId billed reachable =
      if (reachable : Int) * billed.per ≤ campaignReservedOutstanding ledger campaignId then
        if 0 < surplus ledger campaignId billed.per reachable then
          match releaseCampaignRemainder session ledger campaignId (dispatchKey campaignId)
              (reachable * billed.per) with
          | (.error refusal, after) => (.error refusal, after)
          | (.ok _, after) => (.ok ⟨reachable, 0⟩, after)
        else (.ok ⟨reachable, 0⟩, ledger)
      else
        match reserveForCampaign session ledger campaignId
            (.int (uncovered ledger campaignId billed.per reachable * billed.per))
            (some (billed.per : Int)) with
        | (.error refusal, after) => (.error refusal, after)
        | (.ok extra, after) =>
            let allowed := campaignReservedOutstanding ledger campaignId / billed.per +
              extra / billed.per
            (.ok ⟨allowed, reachable - allowed⟩, after) := by
  have charged := (per_pos_iff billed).mp priced
  have compared : ((reachable : Int) ≤ campaignReservedOutstanding ledger campaignId / billed.per) ↔
      (reachable : Int) * billed.per ≤ campaignReservedOutstanding ledger campaignId :=
    Int.le_ediv_iff_mul_le (by omega)
  simp only [adjustAtDispatch, ← per_eq billed priced, compared, surplus, uncovered, gt_iff_lt]
  rw [if_neg (by rw [per_eq billed priced]; exact charged)]
  rfl

theorem extension_bounds (priced : 0 < billed.per) (available : 0 ≤ ledger.wallet.availableMinor)
    (short : campaignReservedOutstanding ledger campaignId < (reachable : Int) * billed.per) :
    0 < uncovered ledger campaignId billed.per reachable ∧
      0 ≤ ledger.wallet.availableMinor / billed.per ∧
      extension ledger campaignId billed.per reachable ≤ ledger.wallet.availableMinor := by
  have positive : (0 : Int) < billed.per := by omega
  have fewer : campaignReservedOutstanding ledger campaignId / billed.per < reachable :=
    (Int.ediv_lt_iff_lt_mul positive).mpr short
  refine ⟨by unfold uncovered; omega, Int.ediv_nonneg available (by omega), ?_⟩
  calc extension ledger campaignId billed.per reachable
      ≤ ledger.wallet.availableMinor / billed.per * billed.per :=
        Int.mul_le_mul_of_nonneg_right (Int.min_le_right _ _) (by omega)
    _ ≤ ledger.wallet.availableMinor := Int.ediv_mul_le _ (by omega)

theorem reserveForCampaign_extension (session : Session) (priced : 0 < billed.per)
    (more : 0 < uncovered ledger campaignId billed.per reachable) :
    reserveForCampaign session ledger campaignId
        (.int (uncovered ledger campaignId billed.per reachable * billed.per))
        (some (billed.per : Int)) =
      if extension ledger campaignId billed.per reachable ≤ 0 then (.ok 0, ledger)
      else reserveNext session ledger campaignId
        (.int (extension ledger campaignId billed.per reachable))
        (extension ledger campaignId billed.per reachable) := by
  have positive : (0 : Int) < billed.per := by omega
  rw [reserveForCampaign_fitted session ledger campaignId (Int.mul_pos more positive) positive]
  dsimp only
  rw [Int.mul_ediv_cancel _ (by omega)]
  rfl

theorem reserveForCampaign_extended {extra : Int} (good : Good ledger) (priced : 0 < billed.per)
    (short : campaignReservedOutstanding ledger campaignId < (reachable : Int) * billed.per)
    (answered : reserveForCampaign session ledger campaignId
        (.int (uncovered ledger campaignId billed.per reachable * billed.per))
        (some (billed.per : Int)) = (.ok extra, later)) :
    extra = extension ledger campaignId billed.per reachable ∧
      campaignReservedOutstanding later campaignId =
        campaignReservedOutstanding ledger campaignId + extra ∧
      later.wallet.availableMinor = ledger.wallet.availableMinor - extra := by
  obtain ⟨more, units, -⟩ := extension_bounds priced good.sound.availableNonneg short
  rw [reserveForCampaign_extension session priced more] at answered
  split at answered
  · rename_i empty
    cases answered
    have nonneg : 0 ≤ extension ledger campaignId billed.per reachable :=
      Int.mul_nonneg (by omega) (by omega)
    exact ⟨by omega, by omega, by omega⟩
  · obtain ⟨rfl, moved⟩ := reserveNext_moved _ _ _ _ _ _ good answered
    exact ⟨rfl, moved.here, reserveNext_available good answered⟩

theorem adjustAtDispatch_returns (calm : Calm session) (good : Good ledger)
    (priced : 0 < billed.per) :
    (∃ fitted, (adjustAtDispatch session ledger campaignId billed reachable).1 = .ok fitted) ↔
      Movable ledger campaignId billed.per reachable := by
  rw [adjustAtDispatch_charged session ledger campaignId reachable priced]
  unfold Movable
  split
  · split
    · rename_i enough more
      have returns := release_returns calm good
        (Int.mul_nonneg (Int.natCast_nonneg reachable) (Int.natCast_nonneg billed.per)) more
      rw [surplus, ← returns]
      cases releaseCampaignRemainder session ledger campaignId (dispatchKey campaignId)
          (reachable * billed.per) with
      | mk answer after => cases answer <;> simp
    · rename_i enough nothing
      have reserved := good.sound.reservedNonneg
      have large : (0 : Int) ≤ maxEntryAmountMinor := by decide
      exact ⟨fun _ => ⟨by omega, by omega⟩, fun _ => ⟨_, rfl⟩⟩
  · rename_i short
    obtain ⟨more, -, enough⟩ :=
      extension_bounds priced good.sound.availableNonneg (not_le.mp short)
    rw [reserveForCampaign_extension session priced more]
    by_cases empty : extension ledger campaignId billed.per reachable ≤ 0
    · have large : (0 : Int) ≤ maxEntryAmountMinor := by decide
      rw [if_pos empty]
      exact ⟨fun _ => by omega, fun _ => ⟨_, rfl⟩⟩
    · rw [if_neg empty, ← reserveNext_returns calm good (not_le.mp empty) enough]
      cases reserveNext session ledger campaignId
          (.int (extension ledger campaignId billed.per reachable))
          (extension ledger campaignId billed.per reachable) with
      | mk answer after => cases answer <;> simp

theorem adjustAtDispatch_fits {fitted : Fitted} (good : Good ledger) (priced : 0 < billed.per)
    (held : 0 ≤ campaignReservedOutstanding ledger campaignId)
    (answered : adjustAtDispatch session ledger campaignId billed reachable = (.ok fitted, later)) :
    Fits ledger later campaignId billed.per reachable fitted := by
  have positive : (0 : Int) < billed.per := by omega
  rw [adjustAtDispatch_charged session ledger campaignId reachable priced] at answered
  split at answered
  · rename_i enough
    -- Everyone is let through; what is left depends on whether there was a surplus.
    have whole : fitted = ⟨reachable, 0⟩ ∧
        campaignReservedOutstanding later campaignId = (reachable : Int) * billed.per := by
      split at answered
      · split at answered
        · cases answered
        · rename_i released after outcome
          cases answered
          have moved := releaseCampaignRemainder_moved session ledger later campaignId .dispatch _
            released (Int.mul_nonneg (Int.natCast_nonneg _) (Int.natCast_nonneg _)) good outcome
          refine ⟨rfl, ?_⟩
          rw [moved.here]
          omega
      · rename_i nothing
        cases answered
        refine ⟨rfl, ?_⟩
        unfold surplus at nothing
        omega
    obtain ⟨rfl, left⟩ := whole
    exact {
      divided := by simp
      allowed := Int.natCast_nonneg reachable
      capped := Int.le_refl 0
      covered := by rw [left]
      exact := fun _ => left
      maximal := fun capped => absurd capped (Int.lt_irrefl 0) }
  · rename_i short
    split at answered
    · cases answered
    · rename_i extra after outcome
      cases answered
      obtain ⟨rfl, left, available⟩ :=
        reserveForCampaign_extended good priced (not_le.mp short) outcome
      obtain ⟨more, units, -⟩ :=
        extension_bounds priced good.sound.availableNonneg (not_le.mp short)
      have floor : campaignReservedOutstanding ledger campaignId / billed.per * billed.per ≤
          campaignReservedOutstanding ledger campaignId := Int.ediv_mul_le _ (by omega)
      have covered : 0 ≤ campaignReservedOutstanding ledger campaignId / billed.per :=
        Int.ediv_nonneg held (by omega)
      have counted : extension ledger campaignId billed.per reachable / billed.per =
          min (uncovered ledger campaignId billed.per reachable)
            (ledger.wallet.availableMinor / billed.per) :=
        Int.mul_ediv_cancel _ (by omega)
      have wanted : uncovered ledger campaignId billed.per reachable =
          reachable - campaignReservedOutstanding ledger campaignId / billed.per := rfl
      rw [counted]
      refine ⟨by dsimp only; omega, by dsimp only; omega, by dsimp only; omega, ?_,
        fun enough => absurd enough short, ?_⟩
      · rw [left, Int.add_mul]
        exact Int.add_le_add_right floor _
      · intro capped
        -- Fewer units than wanted: the wallet's own were all taken.
        have all : min (uncovered ledger campaignId billed.per reachable)
            (ledger.wallet.availableMinor / billed.per) =
            ledger.wallet.availableMinor / billed.per := by
          dsimp only at capped
          omega
        rw [available, extension, all]
        have rest := Int.emod_lt_of_pos ledger.wallet.availableMinor positive
        rw [Int.emod_def, Int.mul_comm] at rest
        exact rest

theorem releaseCampaignRemainder_surplus (session : Session)
    (more : 0 < surplus ledger campaignId billed.per reachable) :
    releaseCampaignRemainder session ledger campaignId (dispatchKey campaignId)
        (reachable * billed.per) =
      match post session ledger (release (.int (surplus ledger campaignId billed.per reachable))
          (numberedKey (dispatchKey campaignId) (countCampaignEntries ledger campaignId .release
            (dispatchKey campaignId))) campaignId) with
      | (.error refusal, after) => (.error refusal, after)
      | (.ok _, after) => (.ok (surplus ledger campaignId billed.per reachable), after) := by
  unfold releaseCampaignRemainder
  rw [Int.max_eq_right (Int.mul_nonneg (Int.natCast_nonneg reachable)
    (Int.natCast_nonneg billed.per))]
  exact if_neg (not_le.mpr more)

theorem adjustAtDispatch_settled (session : Session) (ledger : Ledger) (campaignId : Uuid)
    (reachable : Nat) (priced : 0 < billed.per) :
    Settled ledger (adjustAtDispatch session ledger campaignId billed reachable) := by
  rw [adjustAtDispatch_charged session ledger campaignId reachable priced]
  split
  · split
    · have settled := releaseCampaignRemainder_settled session ledger campaignId
        (dispatchKey campaignId) (reachable * billed.per)
      generalize releaseCampaignRemainder session ledger campaignId (dispatchKey campaignId)
        (reachable * billed.per) = result at settled
      cases settled with
      | refused refusal => exact .refused refusal
      | unchanged answer => exact .unchanged _
      | posted answer entry after posted => exact .posted _ entry after posted
    · exact .unchanged _
  · have settled := reserveForCampaign_settled session ledger campaignId
      (.int (uncovered ledger campaignId billed.per reachable * billed.per)) (some (billed.per : Int))
    generalize reserveForCampaign session ledger campaignId
      (.int (uncovered ledger campaignId billed.per reachable * billed.per))
      (some (billed.per : Int)) = result at settled
    cases settled with
    | refused refusal => exact .refused refusal
    | unchanged answer => exact .unchanged _
    | posted answer entry after posted => exact .posted _ entry after posted

theorem adjustAtDispatch_not_insufficient (session : Session) (good : Good ledger)
    (priced : 0 < billed.per) (needed had : Int) :
    (adjustAtDispatch session ledger campaignId billed reachable).1 ≠
      .error (.insufficientCredits needed had) := by
  rw [adjustAtDispatch_charged session ledger campaignId reachable priced]
  have nonneg := good.sound.availableNonneg
  split
  · split
    · rename_i enough more
      have granted := post_not_insufficient session ledger
        (release (.int (surplus ledger campaignId billed.per reachable))
          (numberedKey (dispatchKey campaignId) (countCampaignEntries ledger campaignId .release
            (dispatchKey campaignId))) campaignId)
        (fun _ _ => requirePositive_not_insufficient _ _ _)
        (fun minor checked => by
          have := (requirePositive_ok _ minor checked).1
          simp only [release]
          omega) needed had
      rw [releaseCampaignRemainder_surplus session more]
      generalize post session ledger _ = result at granted
      obtain ⟨answer, after⟩ := result
      cases answer with
      | error refusal => simpa using granted
      | ok write => simp
    · simp
  · rename_i short
    obtain ⟨more, -, enough⟩ := extension_bounds priced nonneg (not_le.mp short)
    rw [reserveForCampaign_extension session priced more]
    by_cases empty : extension ledger campaignId billed.per reachable ≤ 0
    · simp [empty]
    · have granted := post_not_insufficient session ledger
        (reserve (.int (extension ledger campaignId billed.per reachable))
          (reserveKey campaignId (countCampaignEntries ledger campaignId .reserve [])) campaignId)
        (fun _ _ => requirePositive_not_insufficient _ _ _)
        (fun minor checked => by
          have := (requirePositive_ok _ minor checked).1
          simp only [reserve]
          omega) needed had
      rw [if_neg empty]
      simp only [reserveNext]
      generalize post session ledger _ = result at granted
      obtain ⟨answer, after⟩ := result
      cases answer with
      | error refusal => simpa using granted
      | ok write => simp

/-- The call never reports a lack of credits and never overdraws; what it refuses it leaves as it
was, and what it returns fits. Where nothing outside fails it returns just when the amount it
moves may be one entry and the reserved balance has the surplus. -/
theorem dispatch_fits (session : Session) (ledger : Ledger) (campaignId : Uuid) (billed : Billed)
    (reachable : Nat) (good : Good ledger)
    (held : 0 ≤ campaignReservedOutstanding ledger campaignId) (priced : 0 < billed.per) :
    let result := adjustAtDispatch session ledger campaignId billed reachable
    (∀ needed had, result.1 ≠ .error (.insufficientCredits needed had)) ∧
      0 ≤ result.2.wallet.availableMinor ∧
      (∀ refusal, result.1 = .error refusal → result.2 = ledger) ∧
      (∀ fitted, result.1 = .ok fitted →
        Fits ledger result.2 campaignId billed.per reachable fitted) ∧
      (Calm session →
        ((∃ fitted, result.1 = .ok fitted) ↔ Movable ledger campaignId billed.per reachable)) := by
  intro result
  have settled := adjustAtDispatch_settled session ledger campaignId reachable priced
  refine ⟨adjustAtDispatch_not_insufficient session good priced, ?_, ?_, ?_, ?_⟩
  · exact (settled_sound ledger result settled good.sound).availableNonneg
  · intro refusal refused
    change result.1 = _ at refused
    change Settled ledger result at settled
    generalize result = ended at settled refused
    cases settled with
    | refused _ => rfl
    | unchanged answer => rfl
    | posted answer entry later posted => cases refused
  · intro fitted answered
    exact adjustAtDispatch_fits good priced held (Prod.ext answered rfl)
  · exact fun calm => adjustAtDispatch_returns calm good priced

section Executed

def campaignC : Uuid := ⟨List.replicate 36 'c', rfl⟩
def campaignD : Uuid := ⟨List.replicate 36 'd', rfl⟩
def guestR : Uuid := ⟨List.replicate 36 'r', rfl⟩

def toppedUp (ledger : Ledger) (amount : Int) (key : String) : Ledger :=
  (post {} ledger (MasterCredits.walletRequest {}
    ⟨.topup, amount, [], none, none, false, none, key.toList⟩ campaignC)).2

theorem toppedUp_good {ledger : Ledger} (good : Good ledger) (amount : Int) (key : String) :
    Good (toppedUp ledger amount key) := by
  have settled := post_settled {} ledger (MasterCredits.walletRequest {}
    ⟨.topup, amount, [], none, none, false, none, key.toList⟩ campaignC)
  unfold toppedUp
  generalize outcome : post {} ledger (MasterCredits.walletRequest {}
    ⟨.topup, amount, [], none, none, false, none, key.toList⟩ campaignC) = result at settled
  cases settled with
  | refused refusal => exact good
  | unchanged answer => exact good
  | posted write entry later posted =>
      exact (postAdjustment_moved {} ledger later {} _ campaignC write campaignC good outcome).good

def reserved250 : Ledger :=
  (reserveNext {} (toppedUp .empty 500 "a") campaignC (.int 250) 250).2

theorem reserved250_good : Good reserved250 := by
  have answered : ∃ later, reserveNext {} (toppedUp .empty 500 "a") campaignC (.int 250) 250 =
      (.ok 250, later) := ⟨_, rfl⟩
  obtain ⟨later, answered⟩ := answered
  unfold reserved250
  rw [answered]
  exact (reserveNext_moved _ _ _ _ _ _ (toppedUp_good empty_good 500 "a") answered).2.good

/-- Two and a half guests are covered, six reachable and two more affordable: four are let through
and half a guest's cost stays in the wallet. -/
theorem dispatch_fits_partly :
    let billed : Billed := ⟨some ⟨100, 1⟩, false⟩
    let result := adjustAtDispatch {} reserved250 campaignC billed 6
    result.1 = .ok ⟨4, 2⟩ ∧ result.2.wallet.availableMinor = 50 ∧
      Fits reserved250 result.2 campaignC billed.per 6 ⟨4, 2⟩ ∧
      Movable reserved250 campaignC billed.per 6 := by
  intro billed result
  have answered : result.1 = .ok ⟨4, 2⟩ := by decide +kernel
  have fits := dispatch_fits {} reserved250 campaignC billed 6 reserved250_good
    (by decide +kernel) (by decide)
  exact ⟨answered, by decide +kernel, fits.2.2.2.1 ⟨4, 2⟩ answered,
    (fits.2.2.2.2 ⟨rfl, by simp⟩).mp ⟨_, answered⟩⟩

def rich : Ledger := toppedUp (toppedUp .empty 1000000000 "a") 1000000000 "b"

def spent : Ledger :=
  (debitRecipient {} (reserveNext {} (toppedUp .empty 100 "a") campaignC (.int 100) 100).2
    campaignD guestR ⟨some ⟨100, 1⟩, false⟩ 1).2

/-- An extension of two thousand million is no entry: the call raises. A campaign on the venue's own
provider returns the whole audience with nothing reserved, and where the reserved balance is less
than the surplus the call raises. -/
theorem dispatch_does_not_always_fit :
    (∃ message, (adjustAtDispatch {} rich campaignC ⟨some ⟨1000, 1⟩, false⟩ 2000000).1 =
      .error (.valueError message)) ∧
    rich.wallet.availableMinor = 2000000000 ∧ campaignReservedOutstanding rich campaignC = 0 ∧
    adjustAtDispatch {} .empty campaignC ⟨some ⟨1000, 1⟩, true⟩ 1 = (.ok ⟨1, 0⟩, .empty) ∧
    campaignReservedOutstanding .empty campaignC = 0 ∧
    ((∃ needed reserved, (adjustAtDispatch {} spent campaignC ⟨some ⟨100, 1⟩, false⟩ 0).1 =
        .error (.creditReservationExceeded needed reserved)) ∧
      campaignReservedOutstanding spent campaignC = 100 ∧ spent.wallet.reservedMinor = 0) := by
  refine ⟨⟨_, rfl⟩, by decide +kernel, by decide +kernel, rfl, rfl, ⟨_, _, rfl⟩, by decide +kernel,
    by decide +kernel⟩

end Executed

end CloudGuest.Marketing
