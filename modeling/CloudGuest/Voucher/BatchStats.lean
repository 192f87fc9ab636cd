import CloudGuest.Library.Tallies
import CloudGuest.Voucher.Redemption

/-!
The figures of a batch (`get_batch_stats`). They are read off the status column, in
which nothing ever writes EXPIRED and a revocation leaves no trace of whether the
voucher had been used. The rate is a quotient of doubles, of which the two integers that
are divided are kept: times the total, the double itself need not be an integer.
-/

namespace CloudGuest.Vouchers

open Calendar Tallies Runs

/-- The quotient in doubles of two integers. -/
structure Quotient where
  dividend : Nat
  divisor : Nat
  deriving DecidableEq

structure VoucherBatchStats where
  total : Nat
  unused : Nat
  active : Nat
  exhausted : Nat
  expired : Nat
  revoked : Nat
  redemptionRate : Quotient
  deriving DecidableEq

def getBatchStatusCounts (vouchers : List Voucher) : List (VoucherStatus × Nat) :=
  counts Voucher.status vouchers

def getBatchStats (vouchers : List Voucher) : VoucherBatchStats :=
  let statusCounts := getBatchStatusCounts vouchers
  let unused := countAt statusCounts .unused
  let active := countAt statusCounts .active
  let exhausted := countAt statusCounts .exhausted
  let expired := countAt statusCounts .expired
  let revoked := countAt statusCounts .revoked
  let total := unused + active + exhausted + expired + revoked
  let redeemed := total - unused
  { total, unused, active, exhausted, expired, revoked
    -- 0.0 for a batch without vouchers
    redemptionRate := if total = 0 then ⟨0, 1⟩ else ⟨redeemed, total⟩ }

/-! ### The status column -/

theorem total_length (vouchers : List Voucher) : (getBatchStats vouchers).total = vouchers.length := by
  simp only [getBatchStats, getBatchStatusCounts, countAt_counts]
  induction vouchers with
  | nil => rfl
  | cons voucher rest ih =>
      simp only [List.countP_cons, List.length_cons]
      cases status : voucher.status <;> simp <;> omega

theorem redeemed_status (voucher : Voucher) (maxUses : Nat) (fields : Option FirstUse) :
    (voucher.redeemed maxUses fields).status ≠ .expired := by
  simp only [Voucher.redeemed]
  split <;> simp

theorem revoked_status (voucher : Voucher) (held : voucher.status ≠ .expired) :
    voucher.revoked.status ≠ .expired := by
  unfold Voucher.revoked
  split
  · exact held
  · simp

inductive RowsBecome (before after : System) : Prop where
  | same (rows : after.vouchers = before.vouchers)
  | written (redemption : Redemption) (held : Voucher) (fields : Option FirstUse)
      (rows : after.vouchers = before.vouchers.set redemption.place
        (held.redeemed before.batch.maxUsesPerVoucher fields))
  | revoked (count : Nat) (rows : after.vouchers = revokeFirst count before.vouchers)
  | imported (codes : Nat) (rows : after.vouchers = before.vouchers ++ List.replicate codes Voucher.fresh)

theorem rowsBecome_step (system next : System) (action : Action) (sound : Sound system)
    (stepped : step system action = some next) : RowsBecome system next := by
  -- Commits, revocations and imports write rows; all else moves a redemption or a call on.
  cases action with
  | readVoucher place =>
      obtain ⟨voucher, -, rfl⟩ := Option.map_eq_some_iff.mp stepped
      exact .same rfl
  | checkBatch place refreshed now identifier =>
      obtain ⟨redemption, -, stepped⟩ := Option.bind_eq_some_iff.mp stepped
      split at stepped
      · split at stepped
        · split at stepped <;> cases stepped <;> exact .same rfl
        · cases stepped
          exact .same rfl
      · cases stepped
  | beginUpdate place =>
      obtain ⟨redemption, -, stepped⟩ := Option.bind_eq_some_iff.mp stepped
      split at stepped
      · cases stepped
        exact .same rfl
      · cases stepped
  | writeVoucher place =>
      obtain ⟨redemption, -, stepped⟩ := Option.bind_eq_some_iff.mp stepped
      split at stepped
      · split at stepped
        · cases stepped
        · obtain ⟨held, -, rfl⟩ := Option.map_eq_some_iff.mp stepped
          split <;> exact .same rfl
      · cases stepped
  | commitRedemption place =>
      obtain ⟨redemption, found, stepped⟩ := Option.bind_eq_some_iff.mp stepped
      split at stepped
      · rename_i fields written late phase
        cases stepped
        have now := sound.redemptions redemption (List.mem_of_getElem? found)
        simp only [RedemptionSound, phase] at now
        obtain ⟨-, held, -, -, rfl⟩ := now
        exact .written redemption held fields rfl
      · cases stepped
  | abortRedemption place =>
      cases stepped
      exact .same rfl
  | validateVoucher place now =>
      cases stepped
      exact .same rfl
  | readApprove now | readRevoke now | readExpiry now | readImport now =>
      obtain ⟨_, -, rfl⟩ := read_cases rfl stepped
      exact .same rfl
  | cascade place =>
      obtain ⟨_, -, -, -, rfl⟩ := cascade_cases stepped
      exact .same rfl
  | commitCall place codes =>
      obtain ⟨call, -, -, rfl⟩ := commit_cases stepped
      unfold System.commitBatchCall
      cases call.write with
      | approve => exact .same (sound_writeStatus [.approved, .active] system sound).2
      | revoke => exact .revoked _ rfl
      | expire => exact .same (sound_writeStatus [.expired] system sound).2
      | importing => exact .imported codes rfl
  | abortCall place =>
      cases stepped
      exact .same rfl

def NeverExpired (system : System) : Prop :=
  ∀ voucher ∈ system.vouchers, voucher.status ≠ .expired

theorem neverExpired_step (system next : System) (never : NeverExpired system)
    (rows : RowsBecome system next) : NeverExpired next := by
  intro voucher member
  cases rows with
  | same rows => exact never voucher (rows ▸ member)
  | written redemption held fields rows =>
      rw [rows] at member
      rcases List.mem_or_eq_of_mem_set member with old | rfl
      · exact never voucher old
      · exact redeemed_status held _ fields
  | revoked count rows =>
      rw [rows] at member
      obtain ⟨place, stored⟩ := List.getElem?_of_mem member
      rw [revokeFirst_getElem?] at stored
      obtain ⟨held, before, rfl⟩ := Option.map_eq_some_iff.mp stored
      have alive := never held (List.mem_of_getElem? before)
      split
      · exact revoked_status held alive
      · exact alive
  | imported codes rows =>
      rw [rows] at member
      rcases List.mem_append.mp member with old | new
      · exact never voucher old
      · rw [List.eq_of_mem_replicate new]
        decide

theorem statuses_reached (batch : Batch) (quantity : Nat) (system : System)
    (reached : Reached step (fun _ _ => True) (System.started batch quantity) system) :
    Sound system ∧ NeverExpired system := by
  refine reached.invariant (fun state => Sound state ∧ NeverExpired state) ⟨?_, ?_⟩ ?_
  · exact sound_started batch quantity
  · intro voucher member
    rw [List.eq_of_mem_replicate member]
    decide
  · rintro state action next ⟨sound, never⟩ _ stepped
    exact ⟨(sound_step state next action sound stepped).1,
      neverExpired_step state next never (rowsBecome_step state next action sound stepped)⟩

/-! ### What the figures say -/

def Voucher.redeemedOnce (voucher : Voucher) : Bool := 1 ≤ voucher.useCount

def Voucher.runOut (now : Moment) (voucher : Voucher) : Bool :=
  -- Its time is over, and it is neither used up nor revoked.
  voucher.isPostRedemptionExpired now && voucher.status ≠ .exhausted && voucher.status ≠ .revoked

structure CountsWhatHappened (now : Moment) (vouchers : List Voucher) : Prop where
  total : (getBatchStats vouchers).total = vouchers.length
  redeemed : (getBatchStats vouchers).redemptionRate.dividend =
    vouchers.countP Voucher.redeemedOnce
  divided : vouchers ≠ [] → (getBatchStats vouchers).redemptionRate.divisor =
    (getBatchStats vouchers).total
  expired : (getBatchStats vouchers).expired = vouchers.countP (Voucher.runOut now)

def Voucher.revokedUnused (voucher : Voucher) : Bool :=
  voucher.status = .revoked && voucher.useCount = 0

def Voucher.activeRunOut (now : Moment) (voucher : Voucher) : Bool :=
  voucher.status = .active && voucher.isPostRedemptionExpired now

theorem columns_reached (system : System) (sound : Sound system) (never : NeverExpired system)
    (now : Moment) (voucher : Voucher) (member : voucher ∈ system.vouchers) :
    (voucher.useCount = 0 ↔ voucher.status = .unused ∨ voucher.revokedUnused = true) ∧
      voucher.runOut now = voucher.activeRunOut now := by
  obtain ⟨place, stored⟩ := List.getElem?_of_mem member
  have exact := sound.exact place voucher stored
  constructor
  · constructor
    · intro none
      by_cases revoked : voucher.status = .revoked
      · exact .inr (by simp [Voucher.revokedUnused, revoked, none])
      · exact .inl (exact.unused.mpr ⟨none, revoked⟩)
    · rintro (unused | revoked)
      · exact (exact.unused.mp unused).1
      · simp only [Voucher.revokedUnused, Bool.and_eq_true, decide_eq_true_eq] at revoked
        exact revoked.2
  · have alive := never voucher member
    cases status : voucher.status with
    | unused =>
        -- A voucher nobody used has no time to run out.
        have uses := exact.uses.symm.trans (exact.unused.mp status).1
        have written := exact.written
        rw [List.length_eq_zero_iff.mp uses] at written
        simp only [FirstWritten, Voucher.columns, Prod.mk.injEq] at written
        simp [Voucher.runOut, Voucher.activeRunOut, Voucher.isPostRedemptionExpired, written.2.2]
    | active => simp [Voucher.runOut, Voucher.activeRunOut, status]
    | exhausted => simp [Voucher.runOut, Voucher.activeRunOut, status]
    | expired => exact absurd status alive
    | revoked => simp [Voucher.runOut, Voucher.activeRunOut, status]

theorem rate_eq (vouchers : List Voucher) : (getBatchStats vouchers).redemptionRate =
    if (getBatchStats vouchers).total = 0 then ⟨0, 1⟩
    else ⟨(getBatchStats vouchers).total - (getBatchStats vouchers).unused,
      (getBatchStats vouchers).total⟩ := rfl

theorem rate_dividend (vouchers : List Voucher) : (getBatchStats vouchers).redemptionRate.dividend =
    (getBatchStats vouchers).total - (getBatchStats vouchers).unused := by
  rw [rate_eq]
  split
  · rename_i none
    rw [none, Nat.zero_sub]
  · rfl

theorem rate_divisor (vouchers : List Voucher) (some : vouchers ≠ []) :
    (getBatchStats vouchers).redemptionRate.divisor = (getBatchStats vouchers).total := by
  have counted : (getBatchStats vouchers).total ≠ 0 := by
    rw [total_length]
    exact mt List.length_eq_zero_iff.mp some
  rw [rate_eq, if_neg counted]

theorem redeemed_count (system : System) (sound : Sound system) (never : NeverExpired system) :
    system.vouchers.countP Voucher.redeemedOnce + (getBatchStats system.vouchers).unused +
      system.vouchers.countP Voucher.revokedUnused = system.vouchers.length := by
  simp only [getBatchStats, getBatchStatusCounts, countAt_counts]
  have each : ∀ voucher ∈ system.vouchers,
      voucher.useCount = 0 ↔ voucher.status = .unused ∨ voucher.revokedUnused = true :=
    fun voucher member => (columns_reached system sound never ⟨0, by decide⟩ voucher member).1
  -- Only what each row says is needed, so the induction is over any rows that say it.
  generalize system.vouchers = vouchers at each
  induction vouchers with
  | nil => rfl
  | cons voucher rest ih =>
      have sum := ih fun other member => each other (List.mem_cons_of_mem _ member)
      have here := each voucher List.mem_cons_self
      simp only [List.countP_cons, List.length_cons]
      by_cases none : voucher.useCount = 0
      · rcases here.mp none with unused | revoked
        · simp [Voucher.redeemedOnce, Voucher.revokedUnused, none, unused]
          omega
        · have status : voucher.status = .revoked := by
            simp only [Voucher.revokedUnused, Bool.and_eq_true, decide_eq_true_eq] at revoked
            exact revoked.1
          simp [Voucher.redeemedOnce, Voucher.revokedUnused, none, status]
          omega
      · have used : ¬ (voucher.status = .unused ∨ voucher.revokedUnused = true) := mt here.mpr none
        rw [not_or] at used
        have some : voucher.redeemedOnce = true := by
          simp only [Voucher.redeemedOnce, decide_eq_true_eq]
          omega
        rw [Bool.not_eq_true] at used
        simp [some, used.1, used.2]
        omega

/-- The figures are right of a batch exactly where nothing was revoked unused and no voucher in
use has run out of time. -/
theorem batch_stats_iff (batch : Batch) (quantity : Nat) (system : System)
    (reached : Reached step (fun _ _ => True) (System.started batch quantity) system)
    (now : Moment) :
    CountsWhatHappened now system.vouchers ↔
      (∀ voucher ∈ system.vouchers, voucher.revokedUnused = false) ∧
        ∀ voucher ∈ system.vouchers, voucher.activeRunOut now = false := by
  obtain ⟨sound, never⟩ := statuses_reached batch quantity system reached
  have sum := redeemed_count system sound never
  have all := total_length system.vouchers
  -- No voucher ever has the status this figure counts.
  have none : (getBatchStats system.vouchers).expired = 0 := by
    simp only [getBatchStats, getBatchStatusCounts, countAt_counts, List.countP_eq_zero]
    intro voucher member expired
    exact never voucher member (of_decide_eq_true expired)
  have out : system.vouchers.countP (Voucher.runOut now) =
      system.vouchers.countP (Voucher.activeRunOut now) := by
    apply List.countP_congr
    intro voucher member
    rw [(columns_reached system sound never now voucher member).2]
  constructor
  · intro counts
    have redeemed := counts.redeemed
    rw [rate_dividend, all] at redeemed
    have expired := counts.expired
    rw [none, out] at expired
    constructor
    · have zero : system.vouchers.countP Voucher.revokedUnused = 0 := by omega
      intro voucher member
      simpa using List.countP_eq_zero.mp zero voucher member
    · intro voucher member
      simpa using List.countP_eq_zero.mp expired.symm voucher member
  · intro ⟨used, timely⟩
    have zero : system.vouchers.countP Voucher.revokedUnused = 0 := by
      rw [List.countP_eq_zero]
      intro voucher member
      simp [used voucher member]
    constructor
    · exact all
    · rw [rate_dividend, all]
      omega
    · exact rate_divisor system.vouchers
    · rw [none, out, eq_comm, List.countP_eq_zero]
      intro voucher member
      simp [timely voucher member]

section Executed

def twoHoursLater : Moment := ⟨7200000000, by decide⟩

def usedOnce : List Action :=
  [.readVoucher 0, .checkBatch 0 epoch epoch ['a'], .beginUpdate 0, .writeVoucher 0,
    .commitRedemption 0]

theorem batch_stats_used :
    ∃ system, Reached step (fun _ _ => True) (System.started (twoUses .active) 2) system ∧
      (getBatchStats system.vouchers).redemptionRate = ⟨1, 2⟩ ∧
      CountsWhatHappened epoch system.vouchers := by
  obtain ⟨system, reached, seen⟩ := run_observed step (System.started (twoUses .active) 2)
    (fun _ _ => true)
    (fun system => (getBatchStats system.vouchers).redemptionRate = ⟨1, 2⟩ &&
      system.vouchers.all fun voucher => !voucher.revokedUnused && !voucher.activeRunOut epoch)
    (fun _ _ _ => trivial) usedOnce (by decide +kernel)
  simp only [Bool.and_eq_true, decide_eq_true_eq, List.all_eq_true, Bool.not_eq_true'] at seen
  refine ⟨system, reached, seen.1, ?_⟩
  exact (batch_stats_iff (twoUses .active) 2 system reached epoch).mpr
    ⟨fun voucher member => (seen.2 voucher member).1, fun voucher member => (seen.2 voucher member).2⟩

/-- A batch revoked before anybody used it counts as redeemed; a voucher that has run out of time
does not count as expired. -/
theorem batch_stats_astray :
    (∃ system, Reached step (fun _ _ => True) (System.started (twoUses .active) 1) system ∧
      (getBatchStats system.vouchers).redemptionRate = ⟨1, 1⟩ ∧
      system.vouchers.countP Voucher.redeemedOnce = 0) ∧
    ∃ system, Reached step (fun _ _ => True) (System.started (twoUses .active) 1) system ∧
      (getBatchStats system.vouchers).expired = 0 ∧
      system.vouchers.countP (Voucher.runOut twoHoursLater) = 1 := by
  constructor
  · obtain ⟨system, reached, seen⟩ := run_observed step (System.started (twoUses .active) 1)
      (fun _ _ => true)
      (fun system => (getBatchStats system.vouchers).redemptionRate = ⟨1, 1⟩ &&
        system.vouchers.countP Voucher.redeemedOnce = 0)
      (fun _ _ _ => trivial) [.readRevoke epoch, .cascade 0, .commitCall 0 0] (by decide +kernel)
    simp only [Bool.and_eq_true, decide_eq_true_eq] at seen
    exact ⟨system, reached, seen⟩
  · obtain ⟨system, reached, seen⟩ := run_observed step (System.started (twoUses .active) 1)
      (fun _ _ => true)
      (fun system => (getBatchStats system.vouchers).expired = 0 &&
        system.vouchers.countP (Voucher.runOut twoHoursLater) = 1)
      (fun _ _ _ => trivial) usedOnce (by decide +kernel)
    simp only [Bool.and_eq_true, decide_eq_true_eq] at seen
    exact ⟨system, reached, seen⟩

end Executed

end CloudGuest.Vouchers
