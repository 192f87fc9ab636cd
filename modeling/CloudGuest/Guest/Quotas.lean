import CloudGuest.Guest.Sessions

/-!
A guest's cumulative usage under a fair usage policy (guest/service.py,
`get_or_reset_quota_usages`, `_track_fup_data_usage`, `_enforce_fup_quota`). One row a
period; a row of an earlier period counts as none. Where a period begins in the
venue's own time zone is an argument.
-/

namespace CloudGuest.Guest
open Texts

inductive QuotaPeriodType where
  | daily | weekly | monthly
  deriving DecidableEq

def QuotaPeriodType.value : QuotaPeriodType → Text
  | .daily => "daily".toList
  | .weekly => "weekly".toList
  | .monthly => "monthly".toList

def QuotaPeriodType.all : List QuotaPeriodType := [.daily, .weekly, .monthly]

theorem QuotaPeriodType.mem_all (period : QuotaPeriodType) : period ∈ QuotaPeriodType.all := by
  cases period <;> decide

structure GuestQuotaUsage where
  periodStart : Int
  bytesUsed : Nat
  minutesUsed : Nat
  lastAccruedAt : Option Int
  deriving DecidableEq

abbrev Quotas := QuotaPeriodType → Option GuestQuotaUsage

structure FupLimits where
  dataLimitMb : QuotaPeriodType → Option Nat
  timeLimitMinutes : QuotaPeriodType → Option Nat

/-- The policy of a guest: no lookup is wired, it fails, or it answers. -/
inductive FupLookup where
  | unwired
  | failed
  | answered (limits : FupLimits)

def isFupUsageExceeded (used limit : Nat) : Bool := limit ≤ used

def getOrResetQuotaUsage (usage : Option GuestQuotaUsage) (currentPeriodStart : Int) :
    GuestQuotaUsage :=
  match usage with
  | none => ⟨currentPeriodStart, 0, 0, none⟩
  | some usage =>
      if usage.periodStart < currentPeriodStart then ⟨currentPeriodStart, 0, 0, none⟩ else usage

variable (computePeriodStart : QuotaPeriodType → Int → Int)

def getOrResetQuotaUsages (quotas : Quotas) (now : Int) (period : QuotaPeriodType) :
    GuestQuotaUsage :=
  getOrResetQuotaUsage (quotas period) (computePeriodStart period now)

def trackFupDataUsage (lookup : FupLookup) (quotas : Quotas) (deltaBytes : Nat) (now : Int) :
    Quotas × Option QuotaPeriodType :=
  match lookup with
  | .unwired => (quotas, none)
  | .failed => (quotas, none)
  | .answered limits =>
      if deltaBytes = 0 then (quotas, none)
      else
        let usages := getOrResetQuotaUsages computePeriodStart quotas now
        let updated (period : QuotaPeriodType) : GuestQuotaUsage :=
          { usages period with bytesUsed := (usages period).bytesUsed + deltaBytes }
        (fun period => some (updated period),
          QuotaPeriodType.all.find? fun period => (limits.dataLimitMb period).any fun limit =>
            isFupUsageExceeded (updated period).bytesUsed (limit * BYTES_PER_MB))

/-- Why `_enforce_fup_quota` turns a sign-in away: the team's shared quota, the guest's own, or a
lookup that fails. -/
inductive QuotaFault where
  | guestTeamSharedQuotaExceeded
  | fairUsagePolicyExceeded (period : QuotaPeriodType) (metric : Text) (limit used : Nat)
  | lookupFailed
  deriving DecidableEq

def FupLimits.isCapped (limits : FupLimits) : Bool :=
  QuotaPeriodType.all.any fun period =>
    (limits.dataLimitMb period).any (· ≠ 0) || (limits.timeLimitMinutes period).any (· ≠ 0)

def exceededLimit (limits : FupLimits) (usage : GuestQuotaUsage) (period : QuotaPeriodType) :
    Option QuotaFault :=
  let data := (limits.dataLimitMb period).filter fun limit =>
    isFupUsageExceeded usage.bytesUsed (limit * BYTES_PER_MB)
  let time := (limits.timeLimitMinutes period).filter fun limit =>
    isFupUsageExceeded usage.minutesUsed limit
  match data, time with
  | some limit, _ =>
      some (.fairUsagePolicyExceeded period "data".toList limit (usage.bytesUsed / BYTES_PER_MB))
  | none, some limit =>
      some (.fairUsagePolicyExceeded period "time".toList limit usage.minutesUsed)
  | none, none => none

def enforceFupQuota (isOverSharedQuota : Bool) (lookup : FupLookup) (quotas : Quotas) (now : Int) :
    Except QuotaFault Unit :=
  if isOverSharedQuota then .error .guestTeamSharedQuotaExceeded
  else
    match lookup with
    | .unwired => .ok ()
    | .failed => .error .lookupFailed
    | .answered limits =>
        if !limits.isCapped then .ok ()
        else
          match QuotaPeriodType.all.findSome? fun period =>
            exceededLimit limits (getOrResetQuotaUsages computePeriodStart quotas now period)
              period with
          | some fault => .error fault
          | none => .ok ()

theorem enforceFupQuota_failed {isOverSharedQuota : Bool} {lookup : FupLookup} {quotas : Quotas}
    {now : Int}
    (failed : enforceFupQuota computePeriodStart isOverSharedQuota lookup quotas now =
      .error .lookupFailed) : lookup = .failed := by
  unfold enforceFupQuota at failed
  split at failed
  · cases failed
  · cases lookup with
    | unwired => cases failed
    | failed => rfl
    | answered limits =>
        dsimp only at failed
        split at failed
        · cases failed
        · split at failed
          · rename_i fault exceeded
            obtain ⟨period, -, raised⟩ := List.exists_of_findSome?_eq_some exceeded
            unfold exceededLimit at raised
            dsimp only at raised
            split at raised <;> cases raised <;> cases failed
          · cases failed

def bytesUsedIn (quotas : Quotas) (period : QuotaPeriodType) (start : Int) : Nat :=
  (getOrResetQuotaUsage (quotas period) start).bytesUsed

theorem getOrReset_idem (usage : Option GuestQuotaUsage) (start : Int) :
    ¬ (getOrResetQuotaUsage usage start).periodStart < start := by
  unfold getOrResetQuotaUsage
  cases usage with
  | none => exact lt_irrefl start
  | some usage =>
      dsimp only
      split
      · exact lt_irrefl start
      · assumption

theorem bytesUsedIn_tracked (limits : FupLimits) (quotas : Quotas) (deltaBytes : Nat) (now : Int)
    (period : QuotaPeriodType) :
    bytesUsedIn (trackFupDataUsage computePeriodStart (.answered limits) quotas deltaBytes now).1
        period (computePeriodStart period now) =
      bytesUsedIn quotas period (computePeriodStart period now) + deltaBytes := by
  by_cases nothing : deltaBytes = 0
  · simp [trackFupDataUsage, nothing]
  · have current := getOrReset_idem (quotas period) (computePeriodStart period now)
    simp only [trackFupDataUsage, if_neg nothing, bytesUsedIn, getOrResetQuotaUsages]
    rw [getOrResetQuotaUsage, if_neg current]

theorem trackFupDataUsage_kept (lookup : FupLookup) (quotas : Quotas) (deltaBytes : Nat)
    (now : Int) (kept : deltaBytes = 0 ∨ ∀ limits, lookup ≠ .answered limits) :
    (trackFupDataUsage computePeriodStart lookup quotas deltaBytes now).1 = quotas := by
  cases lookup with
  | unwired => rfl
  | failed => rfl
  | answered limits =>
      rcases kept with nothing | never
      · simp [trackFupDataUsage, nothing]
      · exact absurd rfl (never limits)

theorem trackFupDataUsage_uncapped (lookup : FupLookup) (quotas : Quotas) (deltaBytes : Nat)
    (now : Int)
    (uncapped : ∀ limits, lookup = .answered limits → ∀ period, limits.dataLimitMb period = none) :
    (trackFupDataUsage computePeriodStart lookup quotas deltaBytes now).2 = none := by
  cases lookup with
  | unwired => rfl
  | failed => rfl
  | answered limits =>
      by_cases nothing : deltaBytes = 0
      · simp [trackFupDataUsage, nothing]
      · simp [trackFupDataUsage, nothing, uncapped limits rfl]

end CloudGuest.Guest
