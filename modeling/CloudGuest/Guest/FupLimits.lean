import CloudGuest.Guest.Accounting
import CloudGuest.Guest.QuotaResets
import CloudGuest.Guest.TimeAccrual

/-!
Where the caps of a fair usage policy are read (guest/service.py, `_enforce_fup_quota`,
`record_usage`, `run_fup_time_accrual`): a sign-in, a report of an open session and the
time sweep. A cap is reached when at least as much is used, one of zero at once. A
policy whose caps are all zero is taken for one that has none.
-/

namespace CloudGuest.Guest.FupLimits

open Calendar Zones QuotaPeriods QuotaResets TimeoutSweep
open TimeAccrual (Answers Books accrue accrueGuest accrueGuest_sessions connectedSince currentUsage
  expired_inactive find_full hasTimeLimit strictest violatedPeriod)

/-! ### Caps -/

def HasZero (caps : QuotaPeriodType → Option Nat) : Prop := ∃ period, caps period = some 0

def HasPositive (caps : QuotaPeriodType → Option Nat) : Prop :=
  ∃ period cap, caps period = some cap ∧ cap ≠ 0

def DataReached (limits : FupLimits) (usages : QuotaPeriodType → GuestQuotaUsage) : Prop :=
  ∃ period cap, limits.dataLimitMb period = some cap ∧
    cap * BYTES_PER_MB ≤ (usages period).bytesUsed

def TimeReached (limits : FupLimits) (usages : QuotaPeriodType → GuestQuotaUsage) : Prop :=
  ∃ period cap, limits.timeLimitMinutes period = some cap ∧ cap ≤ (usages period).minutesUsed

/-- The three checks of a policy's caps follow one rule. A report is of an ACTIVE session that has
no full cap of its own and that can be ended; the sweep is of a guest it does not skip. -/
structure CapsRead (limits : FupLimits) : Prop where
  signIn : ∀ starts quotas now,
    enforceFupQuota starts false (.answered limits) quotas now ≠ .ok () ↔
      DataReached limits (getOrResetQuotaUsages starts quotas now) ∨
        TimeReached limits (getOrResetQuotaUsages starts quotas now)
  report : ∀ starts account update uploadedDelta downloadedDelta,
    update.lookup = .answered limits → account.session.isActive = true →
    0 < uploadedDelta + downloadedDelta →
    let after := recordUsage starts false account update uploadedDelta downloadedDelta
    isQuotaExceeded after.session = false →
    (after.session.status = .expired ↔
      DataReached limits (getOrResetQuotaUsages starts after.quotas update.now))
  sweep : ∀ starts answers locationIds now books,
    strictest answers.timeLimitMinutes locationIds = limits.timeLimitMinutes →
    connectedSince answers books ≠ .skip →
    let usages := fun period =>
      accrue (connectedSince answers books) now (currentUsage starts books now period)
    let after := accrueGuest starts answers locationIds now books
    (TimeReached limits usages → after.activeSessions = []) ∧
      (¬TimeReached limits usages → after.sessions = books.sessions)

theorem any_positive (cap : Option Nat) :
    (cap.any (· ≠ 0)) = true ↔ ∃ limit, cap = some limit ∧ limit ≠ 0 := by
  cases cap <;> simp

theorem hasTimeLimit_iff (caps : QuotaPeriodType → Option Nat) :
    hasTimeLimit caps = true ↔ HasPositive caps := by
  unfold hasTimeLimit
  rw [List.any_eq_true]
  constructor
  · rintro ⟨period, -, positive⟩
    exact ⟨period, (any_positive _).mp positive⟩
  · rintro ⟨period, positive⟩
    exact ⟨period, period.mem_all, (any_positive _).mpr positive⟩

theorem isCapped_iff (limits : FupLimits) :
    limits.isCapped = true ↔
      HasPositive limits.dataLimitMb ∨ HasPositive limits.timeLimitMinutes := by
  unfold FupLimits.isCapped
  rw [List.any_eq_true]
  constructor
  · rintro ⟨period, -, positive⟩
    rcases Bool.or_eq_true_iff.mp positive with data | time
    · exact Or.inl ⟨period, (any_positive _).mp data⟩
    · exact Or.inr ⟨period, (any_positive _).mp time⟩
  · rintro (⟨period, positive⟩ | ⟨period, positive⟩)
    · refine ⟨period, period.mem_all, ?_⟩
      rw [(any_positive _).mpr positive, Bool.true_or]
    · refine ⟨period, period.mem_all, ?_⟩
      rw [(any_positive _).mpr positive, Bool.or_true]

/-! ### Sign-in -/

theorem exceededLimit_none (limits : FupLimits) (usage : GuestQuotaUsage)
    (period : QuotaPeriodType) :
    exceededLimit limits usage period = none ↔
      (∀ cap, limits.dataLimitMb period = some cap → usage.bytesUsed < cap * BYTES_PER_MB) ∧
        ∀ cap, limits.timeLimitMinutes period = some cap → usage.minutesUsed < cap := by
  simp only [exceededLimit, isFupUsageExceeded]
  -- The data cap is looked at first, and the time cap where it is not reached.
  split
  · rename_i cap found
    obtain ⟨given, full⟩ := Option.filter_eq_some_iff.mp found
    refine iff_of_false (fun absent => nomatch absent) ?_
    rintro ⟨below, -⟩
    exact absurd (of_decide_eq_true full) (not_le.mpr (below cap given))
  · rename_i cap free found
    obtain ⟨given, full⟩ := Option.filter_eq_some_iff.mp found
    refine iff_of_false (fun absent => nomatch absent) ?_
    rintro ⟨-, below⟩
    exact absurd (of_decide_eq_true full) (not_le.mpr (below cap given))
  · rename_i dataFree timeFree
    rw [Option.filter_eq_none_iff] at dataFree timeFree
    refine iff_of_true rfl ⟨?_, ?_⟩
    · intro cap given
      exact not_le.mp fun full => dataFree cap given (decide_eq_true full)
    · intro cap given
      exact not_le.mp fun full => timeFree cap given (decide_eq_true full)

theorem exceeded_iff (limits : FupLimits) (usages : QuotaPeriodType → GuestQuotaUsage) :
    (QuotaPeriodType.all.findSome? fun period => exceededLimit limits (usages period) period) ≠
        none ↔
      DataReached limits usages ∨ TimeReached limits usages := by
  rw [ne_eq, List.findSome?_eq_none_iff]
  constructor
  · intro exceeded
    by_contra within
    refine exceeded ?_
    intro period _
    rw [exceededLimit_none]
    constructor
    · intro cap given
      by_contra reached
      exact within (Or.inl ⟨period, cap, given, not_lt.mp reached⟩)
    · intro cap given
      by_contra reached
      exact within (Or.inr ⟨period, cap, given, not_lt.mp reached⟩)
  · rintro (⟨period, cap, given, reached⟩ | ⟨period, cap, given, reached⟩) within
    · have below := (exceededLimit_none limits _ period).mp (within period period.mem_all)
      exact absurd (below.1 cap given) (not_lt.mpr reached)
    · have below := (exceededLimit_none limits _ period).mp (within period period.mem_all)
      exact absurd (below.2 cap given) (not_lt.mpr reached)

theorem enforce_refuses (starts : QuotaPeriodType → Int → Int) (limits : FupLimits)
    (quotas : Quotas) (now : Int) :
    enforceFupQuota starts false (.answered limits) quotas now ≠ .ok () ↔
      limits.isCapped = true ∧
        (DataReached limits (getOrResetQuotaUsages starts quotas now) ∨
          TimeReached limits (getOrResetQuotaUsages starts quotas now)) := by
  have exceeded := exceeded_iff limits (getOrResetQuotaUsages starts quotas now)
  rw [← exceeded]
  simp only [enforceFupQuota, Bool.false_eq_true, if_false]
  cases limits.isCapped with
  | false => simp
  | true =>
      cases (QuotaPeriodType.all.findSome? fun period =>
        exceededLimit limits (getOrResetQuotaUsages starts quotas now period) period) with
      | none => simp
      | some fault => simp

/-! ### Reports -/

theorem track_violated (starts : QuotaPeriodType → Int → Int) (limits : FupLimits)
    (quotas : Quotas) (deltaBytes : Nat) (now : Int) (counts : 0 < deltaBytes) :
    (trackFupDataUsage starts (.answered limits) quotas deltaBytes now).2 ≠ none ↔
      DataReached limits (getOrResetQuotaUsages starts
        (trackFupDataUsage starts (.answered limits) quotas deltaBytes now).1 now) := by
  have counted (period : QuotaPeriodType) :
      (getOrResetQuotaUsages starts
          (trackFupDataUsage starts (.answered limits) quotas deltaBytes now).1
          now period).bytesUsed =
        (getOrResetQuotaUsages starts quotas now period).bytesUsed + deltaBytes :=
    bytesUsedIn_tracked starts limits quotas deltaBytes now period
  simp only [trackFupDataUsage, if_neg (Nat.pos_iff_ne_zero.mp counts)] at counted ⊢
  rw [ne_eq, find_full, not_not]
  simp only [DataReached, counted, isFupUsageExceeded, decide_eq_true_eq]

theorem recordUsageUpdate_ends (session : GuestSession) (uploadedDelta downloadedDelta : Int)
    (violated : Option Texts.Text) (isDispatched endedViaCloud : Bool) (now : Int)
    (active : session.status = .active) :
    let after := updateSession session (recordUsageUpdate session session uploadedDelta
      downloadedDelta ⟨violated, false, isDispatched, endedViaCloud⟩ now)
    isQuotaExceeded after = false → (after.status = .expired ↔ violated ≠ none) := by
  cases violated with
  | none =>
      simp only [recordUsageUpdate, Bool.and_false, Bool.false_eq_true, if_false,
        Option.isSome_none, Bool.or_false]
      split
      · rename_i full
        intro within
        -- The end of a session leaves its bytes and its cap.
        exact absurd (within.symm.trans full) Bool.false_ne_true
      · intro _
        simp [updateSession, active]
  | some period => simp [recordUsageUpdate, updateSession, Update.ending]

theorem report_ends (starts : QuotaPeriodType → Int → Int) (limits : FupLimits)
    (account : Account) (update : InterimUpdate) (uploadedDelta downloadedDelta : Nat)
    (answered : update.lookup = .answered limits) (active : account.session.isActive = true)
    (counts : 0 < uploadedDelta + downloadedDelta) :
    let after := recordUsage starts false account update uploadedDelta downloadedDelta
    isQuotaExceeded after.session = false →
    (after.session.status = .expired ↔
      DataReached limits (getOrResetQuotaUsages starts after.quotas update.now)) := by
  intro after within
  have violated := track_violated starts limits account.quotas (uploadedDelta + downloadedDelta)
    update.now counts
  have rows : after.quotas = (trackFupDataUsage starts (.answered limits) account.quotas
      (uploadedDelta + downloadedDelta) update.now).1 := by
    rw [← answered]
    exact (recordUsage_bytes starts false account update uploadedDelta downloadedDelta active).2.2
  rw [rows, ← violated]
  simp only [after, recordUsage, active, answered, Bool.not_true, Bool.false_eq_true, if_false]
    at within ⊢
  have ended := recordUsageUpdate_ends account.session uploadedDelta downloadedDelta _
    update.isDispatched update.endedViaCloud update.now (of_decide_eq_true active) within
  rw [ended, ne_eq, Option.map_eq_none_iff]

/-! ### The time sweep -/

theorem violatedPeriod_none (limits : FupLimits) (usages : QuotaPeriodType → GuestQuotaUsage) :
    violatedPeriod limits.timeLimitMinutes usages = none ↔ ¬TimeReached limits usages := by
  rw [violatedPeriod, find_full]
  simp only [TimeReached, isFupUsageExceeded, decide_eq_true_eq]

theorem sweep_ends (starts : QuotaPeriodType → Int → Int) (limits : FupLimits) (answers : Answers)
    (locationIds : List Nat) (now : Int) (books : Books)
    (same : strictest answers.timeLimitMinutes locationIds = limits.timeLimitMinutes)
    (looked : connectedSince answers books ≠ .skip)
    (limited : hasTimeLimit limits.timeLimitMinutes = true) :
    let usages := fun period =>
      accrue (connectedSince answers books) now (currentUsage starts books now period)
    let after := accrueGuest starts answers locationIds now books
    (TimeReached limits usages → after.activeSessions = []) ∧
      (¬TimeReached limits usages → after.sessions = books.sessions) := by
  intro usages after
  have violated := violatedPeriod_none limits usages
  have swept := accrueGuest_sessions starts answers locationIds now books
    (by rw [same]; exact limited) looked
  rw [same] at swept
  cases found : violatedPeriod limits.timeLimitMinutes usages with
  | none =>
      rw [found] at swept
      exact ⟨fun reached => absurd reached (violated.mp found), fun _ => swept⟩
  | some period =>
      rw [found] at swept
      constructor
      · intro _
        rw [Books.activeSessions, swept]
        exact expired_inactive period now books.sessions
      · intro free
        rw [violated.mpr free] at found
        cases found

/-! ### Policies whose caps are all zero -/

theorem HasZero.reached_data {limits : FupLimits} (zero : HasZero limits.dataLimitMb)
    (usages : QuotaPeriodType → GuestQuotaUsage) : DataReached limits usages := by
  obtain ⟨period, given⟩ := zero
  exact ⟨period, 0, given, by simp⟩

theorem HasZero.reached_time {limits : FupLimits} (zero : HasZero limits.timeLimitMinutes)
    (usages : QuotaPeriodType → GuestQuotaUsage) : TimeReached limits usages := by
  obtain ⟨period, given⟩ := zero
  exact ⟨period, 0, given, Nat.zero_le _⟩

theorem zero_or_positive {caps : QuotaPeriodType → Option Nat} {period : QuotaPeriodType}
    {cap : Nat} (given : caps period = some cap) : HasZero caps ∨ HasPositive caps := by
  by_cases zero : cap = 0
  · exact Or.inl ⟨period, zero ▸ given⟩
  · exact Or.inr ⟨period, cap, given, zero⟩

theorem strictest_one (timeLimitMinutes : QuotaPeriodType → Option Nat) :
    strictest (fun _ => timeLimitMinutes) [1] = timeLimitMinutes := by
  funext period
  simp only [strictest, List.foldl_cons, List.foldl_nil]
  cases timeLimitMinutes period <;> rfl

def online : Books :=
  ⟨[⟨⟨1, 1, none, 1, .otpSms, none, .active, 0, none, 0, none, 0, 0, none, none, none, none⟩, 1, 1,
    false⟩], fun _ => none⟩

theorem capsRead_iff (limits : FupLimits) :
    CapsRead limits ↔
      (HasZero limits.dataLimitMb ∨ HasZero limits.timeLimitMinutes →
        HasPositive limits.dataLimitMb ∨ HasPositive limits.timeLimitMinutes) ∧
      (HasZero limits.timeLimitMinutes → HasPositive limits.timeLimitMinutes) := by
  constructor
  · intro caps
    constructor
    · intro zero
      have refused := (caps.signIn (fun _ _ => 0) (fun _ => none) 0).mpr
        (zero.imp (fun data => data.reached_data _) fun time => time.reached_time _)
      exact (isCapped_iff limits).mp ((enforce_refuses _ limits _ _).mp refused).1
    · intro zero
      by_contra uncapped
      have swept := (caps.sweep (fun _ _ => 0) ⟨fun _ => limits.timeLimitMinutes, none⟩ [1] 0 online
        (strictest_one _) nofun).1 (zero.reached_time _)
      have unlimited : hasTimeLimit limits.timeLimitMinutes = false :=
        Bool.eq_false_iff.mpr fun limited => uncapped ((hasTimeLimit_iff _).mp limited)
      simp only [accrueGuest, strictest_one, unlimited, Bool.not_false, if_true] at swept
      exact absurd swept (by decide)
  · rintro ⟨signIn, sweep⟩
    refine ⟨?_, fun starts => report_ends starts limits, ?_⟩
    · intro starts quotas now
      rw [enforce_refuses]
      refine and_iff_right_of_imp fun reached => (isCapped_iff limits).mpr ?_
      rcases reached with ⟨period, cap, given, -⟩ | ⟨period, cap, given, -⟩
      · exact (zero_or_positive given).elim (fun zero => signIn (Or.inl zero)) Or.inl
      · exact (zero_or_positive given).elim (fun zero => signIn (Or.inr zero)) Or.inr
    · intro starts answers locationIds now books same looked usages after
      by_cases limited : hasTimeLimit limits.timeLimitMinutes = true
      · exact sweep_ends starts limits answers locationIds now books same looked limited
      · have uncapped : ¬HasPositive limits.timeLimitMinutes :=
          fun positive => limited ((hasTimeLimit_iff _).mpr positive)
        -- Nothing is done, and no cap is reached where there is none.
        have skipped : after = books := by
          simp only [after, accrueGuest, same, Bool.eq_false_iff.mpr limited, Bool.not_false,
            if_true]
        constructor
        · rintro ⟨period, cap, given, -⟩
          exact absurd ((zero_or_positive given).elim sweep id) uncapped
        · intro _
          rw [skipped]

/-! ### Periods and caps together -/

/-- Where no midnight that begins a period is repeated or skipped, the rows are reset once a period
and keep what is counted, and where zero is not the only cap, caps are read one way. -/
theorem fup_periods_and_caps (zone : Zone) (clock : Moment) (limits : FupLimits) :
    (∀ period, StartsOnce zone period) ∧
    (∀ final, Runs.Reached (step zone) (AtSettled zone) (World.start clock) final →
      ∀ period, ResetOnce zone period (final.books period)) ∧
    (CapsRead limits ↔
      (HasZero limits.dataLimitMb ∨ HasZero limits.timeLimitMinutes →
        HasPositive limits.dataLimitMb ∨ HasPositive limits.timeLimitMinutes) ∧
      (HasZero limits.timeLimitMinutes → HasPositive limits.timeLimitMinutes)) :=
  ⟨starts_once zone, resets_once zone clock, capsRead_iff limits⟩

def hour : Int := 3600000000

/-- New York in 2026, which sets its clocks on and back at two in the morning. -/
def newYork : Zone where
  first := -5 * hour
  changes := [⟨1772953200000000, -4 * hour⟩, ⟨1793512800000000, -5 * hour⟩]
  ordered := by decide

def havana : Zone where
  first := -4 * hour
  changes := [⟨1793509200000000, -5 * hour⟩]
  ordered := by decide

def thatNight (halfHours : Nat) (soon : halfHours ≤ 48) : Moment :=
  ⟨1793491200000000 + 1800000000 * halfHours, by unfold firstMicros lastMicros; omega⟩

def counts (now : Moment) : Event := ⟨now, .several [.daily] (fun _ => 100) fun _ => 0⟩

def allSettled (zone : Zone) (_ : World) (event : Event) : Bool :=
  QuotaPeriodType.all.all fun period => Settled zone period event.now

theorem allSettled_sound (zone : Zone) (world : World) (event : Event)
    (checked : allSettled zone world event = true) : AtSettled zone world event := by
  intro period _
  exact of_decide_eq_true (List.all_eq_true.mp checked period period.mem_all)

def noneOfAnHour : FupLimits :=
  ⟨fun period => if period = .daily then some 0 else none,
    fun period => if period = .daily then some 60 else none⟩

/-- The hour that comes twice in New York is of one day. -/
theorem fup_new_york :
    StartsOnce newYork .daily ∧
    (∃ final, Runs.Reached (step newYork) (AtSettled newYork)
        (World.start (thatNight 0 (by decide))) final ∧
      (final.books .daily).row = some ⟨1793505600000000, 200, 0, none⟩ ∧
      ResetOnce newYork .daily (final.books .daily)) ∧
    CapsRead noneOfAnHour := by
  obtain ⟨starts, resets, caps⟩ :=
    fup_periods_and_caps newYork (thatNight 0 (by decide)) noneOfAnHour
  obtain ⟨final, reached, row⟩ := Runs.run_observed (step newYork)
    (World.start (thatNight 0 (by decide))) (allSettled newYork)
    (fun final => (final.books .daily).row = some ⟨1793505600000000, 200, 0, none⟩)
    (allSettled_sound newYork)
    [counts (thatNight 11 (by decide)), counts (thatNight 13 (by decide))] (by decide +kernel)
  refine ⟨starts .daily, ⟨final, reached, of_decide_eq_true row, resets final reached .daily⟩, ?_⟩
  have positive : HasPositive noneOfAnHour.timeLimitMinutes := ⟨.daily, 60, rfl, by decide⟩
  exact caps.mpr ⟨fun _ => Or.inr positive, fun _ => positive⟩

/-- The first and the last time of a day's row are of one day, and the last began it anew. -/
def lostADay (zone : Zone) (final : World) : Bool :=
  match (final.books .daily).touches with
  | [last, first] => last.renewed && SamePeriod zone .daily first.instant last.instant
  | _ => false

/-- In Havana what is counted after midnight is lost an hour later, and a data cap of zero alone
refuses nobody. -/
theorem havana_resets_twice :
    (∃ final, Runs.Reached (step havana) (fun _ _ => True)
        (World.start (thatNight 0 (by decide))) final ∧
      ¬ResetOnce havana .daily (final.books .daily)) ∧
    ¬CapsRead ⟨fun period => if period = .daily then some 0 else none, fun _ => none⟩ := by
  constructor
  · obtain ⟨final, reached, lost⟩ := Runs.run_observed (step havana)
      (World.start (thatNight 0 (by decide))) (fun _ _ => true) (lostADay havana)
      (fun _ _ _ => trivial)
      [counts (thatNight 9 (by decide)), counts (thatNight 11 (by decide))] (by decide +kernel)
    refine ⟨final, reached, fun resets => ?_⟩
    simp only [lostADay] at lost
    split at lost
    · rename_i last first split
      obtain ⟨renewed, same⟩ := Bool.and_eq_true_iff.mp lost
      exact (resets.once [] last [first] split).mp renewed first List.mem_cons_self
        (of_decide_eq_true same)
    · cases lost
  · intro caps
    have refused := (caps.signIn (fun _ _ => 0) (fun _ => none) 0).mpr
      (Or.inl ⟨.daily, 0, rfl, Nat.zero_le _⟩)
    exact refused rfl

end CloudGuest.Guest.FupLimits
