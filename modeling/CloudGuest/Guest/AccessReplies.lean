import CloudGuest.CaptivePortal.OpeningHours
import CloudGuest.Guest.AccountingTarget
import CloudGuest.Policies.LoginHours

/-!
What the NAS is told of an Access-Request (guest/service.py, `RadiusService.authorize`
and `GuestService.nas_only_authorize_standing`): whether the guest may go on, and for
how many seconds. The seconds are the least of what is left of the session and, at a
NAS-only router, of every allowance with an end of its own. A lookup that fails gives
no end, so that it keeps nobody out.

One instant is one request's clock. Wall clocks are offsets to it. Where reading a
tier's login hours raises, the request gets no Accept. Rate limits and logging are left
out.
-/

namespace CloudGuest.RadiusService
open AccountingTarget Deadlines Guest OpeningHours Texts

inductive Standing where
  | refused (reason : Text)
  | raised
  | within (seconds : Option Int)
  deriving DecidableEq

def Standing.andThen (standing : Standing) (next : Option Int → Standing) : Standing :=
  match standing with
  | .refused reason => .refused reason
  | .raised => .raised
  | .within seconds => next seconds

inductive VoucherLookup where
  | unavailable
  | found (isRevoked : Bool) (expiresAt : Option Int)
  deriving DecidableEq

inductive HoursLookup where
  | unavailable
  | answered (enabled : Bool) (schedule : Schedule)

/-- What an access tier says of time; login hours that cannot be read are none. -/
structure AccessTier where
  sessionTimeoutMinutes : Option Nat
  loginHours : Option LoginHours.Hours

structure Circumstances where
  isOverSharedQuota : Bool
  fup : FupLookup
  quotas : Quotas
  voucher : VoucherLookup
  hours : HoursLookup
  tier : Option AccessTier
  venueOffset : Int
  organizationOffset : Int

def remainingSessionSeconds (session : GuestSession) (now : Int) : Option Int :=
  (session.sessionTimeoutMinutes.filter (· ≠ 0)).map fun limit =>
    max (ceilSeconds (session.startedAt + minutes limit - now)) 1

def tierSessionSecondsLeft (session : GuestSession) (tier : Option AccessTier) (now : Int) :
    Option Int :=
  ((tier.bind AccessTier.sessionTimeoutMinutes).filter (· ≠ 0)).map fun limit =>
    ceilSeconds (session.startedAt + minutes limit - now)

def voucherStanding (session : GuestSession) (lookup : VoucherLookup) (now : Int) : Standing :=
  if session.voucherId.isNone then .within none
  else
    match lookup with
    | .unavailable => .within none
    | .found true _ => .refused "voucher_revoked".toList
    | .found false none => .within none
    | .found false (some expiresAt) =>
        if expiresAt - now ≤ 0 then .refused "voucher_expired".toList
        else .within (some (max (ceilSeconds (expiresAt - now)) 1))

def openHoursStanding (lookup : HoursLookup) (wall : Int) : Standing :=
  match lookup with
  | .unavailable => .within none
  | .answered enabled schedule =>
      if !enabled then .within none
      else if !isOpenNow schedule wall then .refused "venue_closed".toList
      else .within (secondsUntilClosing schedule wall)

def accessTierLoginHoursStanding (tier : Option AccessTier) (wall : Int) : Standing :=
  match tier.bind AccessTier.loginHours with
  | none => .within none
  | some hours =>
      match hours.standing wall with
      | .error _ => .raised
      | .ok .unrestricted => .within none
      | .ok .closed => .refused "access_tier_outside_login_hours".toList
      | .ok (.closesIn seconds) => .within (some seconds)

variable (computePeriodStart : QuotaPeriodType → Int → Int)

def minutesLeft (limits : FupLimits) (quotas : Quotas) (now : Int) (period : QuotaPeriodType) :
    Option Int :=
  ((limits.timeLimitMinutes period).filter (· ≠ 0)).map fun limit : Nat =>
    (limit : Int) - (getOrResetQuotaUsages computePeriodStart quotas now period).minutesUsed

def fupTimeRemainingSeconds (lookup : FupLookup) (quotas : Quotas) (now : Int) : Option Int :=
  match lookup with
  | .answered limits =>
      (minPresent (QuotaPeriodType.all.map (minutesLeft computePeriodStart limits quotas now))).map
        fun left => max (left * 60) 1
  | _ => none

def timeStanding (session : GuestSession) (circumstances : Circumstances) (now : Int) : Standing :=
  (voucherStanding session circumstances.voucher now).andThen fun voucher =>
    (openHoursStanding circumstances.hours (now + circumstances.venueOffset)).andThen fun hours =>
      (accessTierLoginHoursStanding circumstances.tier
        (now + circumstances.organizationOffset)).andThen fun tierHours =>
          let tierSession := tierSessionSecondsLeft session circumstances.tier now
          if tierSession.any (· ≤ 0) then .refused "access_tier_session_time_used".toList
          else .within (minPresent [fupTimeRemainingSeconds computePeriodStart circumstances.fup
            circumstances.quotas now, hours, voucher, tierHours, tierSession])

def nasOnlyAuthorizeStanding (session : GuestSession) (circumstances : Circumstances)
    (now : Int) : Standing :=
  if isQuotaExceeded session then .refused "session_data_limit_reached".toList
  else
    match enforceFupQuota computePeriodStart circumstances.isOverSharedQuota circumstances.fup
        circumstances.quotas now with
    | .error (.fairUsagePolicyExceeded period metric _ _) =>
        .refused ("fup_".toList ++ metric ++ "_quota_exhausted_".toList ++ period.value)
    | .error .guestTeamSharedQuotaExceeded => .refused "team_shared_quota_exhausted".toList
    | .error .lookupFailed => .within none
    | .ok _ => timeStanding computePeriodStart session circumstances now

/-! ### The session a request is about -/

structure AccessRequest where
  callingStationId : Option Text
  /-- The guests of the user name and of the station's own identity. -/
  user : Option Guest
  station : Option Guest
  /-- The session that MAC auto-connect signs in, if it does. -/
  autoConnected : Option GuestSession
  /-- The device a session without one is given. -/
  adoptedDevice : Option Nat
  isBlocklisted : GuestSession → Bool
  awaitsRequiredName : GuestSession → Bool
  /-- Also where no network has a tier. -/
  ssidTierAllows : GuestSession → Bool

def findActiveSessionForIdentifier (tables : Tables) (router : Router) (guest : Option Guest) :
    Option GuestSession :=
  guest.bind fun guest =>
    if guest.isBlocked then none
    else (getLatestSessionForGuest tables guest.id).filter fun candidate =>
      candidate.isActive && candidate.routerId = router.id

def adoptNasAssertedDevice (request : AccessRequest) (session : GuestSession) : GuestSession :=
  if session.deviceId.isNone && request.callingStationId.any (· ≠ []) then
    { session with deviceId := request.adoptedDevice }
  else session

variable (upper : Text → Text)

def boundSession (tables : Tables) (router : Router) (request : AccessRequest)
    (session : GuestSession) : Option GuestSession :=
  -- At a NAS-only router a session that knows its device is for that device alone.
  if session.deviceId.isSome && (canonicalMacKey upper request.callingStationId).isSome &&
      router.isNasOnly then
    (sessionForCallingStation upper tables session.guestId router.id
      request.callingStationId).filter GuestSession.isActive
  else some session

def sessionOf (tables : Tables) (router : Router) (request : AccessRequest) :
    Option GuestSession :=
  let named := findActiveSessionForIdentifier tables router request.user
  let session :=
    if named.isNone && request.callingStationId.any (· ≠ []) then
      (findActiveSessionForIdentifier tables router request.station).or request.autoConnected
    else named
  (session.map (adoptNasAssertedDevice request)).bind (boundSession upper tables router request)

/-! ### The reply -/

structure RadiusAuthorizeResult where
  session : GuestSession
  sessionTimeoutSeconds : Option Int
  idleTimeoutSeconds : Option Nat
  dataLimitMb : Option Nat
  deriving DecidableEq

def standing (router : Router) (circumstances : Circumstances) (session : GuestSession)
    (now : Int) : Standing :=
  if router.isNasOnly then nasOnlyAuthorizeStanding computePeriodStart session circumstances now
  else .within none

def reply (session : GuestSession) (cap : Option Int) (now : Int) :
    Option RadiusAuthorizeResult :=
  -- The verdict on a session that may go on: never an Accept without a second left.
  let seconds := minPresent [remainingSessionSeconds session now, cap]
  if seconds.any (· ≤ 0) then none
  else some ⟨session, seconds, (session.idleTimeoutMinutes.filter (· ≠ 0)).map (· * 60),
    session.dataLimitMb⟩

def isTurnedAway (request : AccessRequest) (session : GuestSession) (now : Int) : Bool :=
  hasSessionReachedTimeLimit session now || request.isBlocklisted session ||
    request.awaitsRequiredName session

def authorize (tables : Tables) (router : Router) (request : AccessRequest)
    (circumstances : Circumstances) (now : Int) : Option RadiusAuthorizeResult :=
  (sessionOf upper tables router request).bind fun session =>
    if isTurnedAway request session now then none
    else
      match standing computePeriodStart router circumstances session now with
      | .refused _ | .raised => none
      | .within cap =>
          if router.isNasOnly && !request.ssidTierAllows session then none
          else reply session cap now

/-! ### When access is to end -/

def endOf (session : GuestSession) (limit : Option Nat) : Option Int :=
  (limit.filter (· ≠ 0)).map fun limit => session.startedAt + minutes limit

def voucherEnd (session : GuestSession) (lookup : VoucherLookup) : Option Int :=
  if session.voucherId.isNone then none
  else
    match lookup with
    | .unavailable => none
    | .found _ expiresAt => expiresAt

def closingEnd (circumstances : Circumstances) (now : Int) : Option Int :=
  match circumstances.hours with
  | .answered true schedule =>
      (closesAt schedule (dayOf (now + circumstances.venueOffset))).map
        (· - circumstances.venueOffset)
  | _ => none

def loginHoursEnd (circumstances : Circumstances) (now : Int) : Option Int :=
  (circumstances.tier.bind AccessTier.loginHours).bind fun hours =>
    (hours.closesAt (now + circumstances.organizationOffset)).map
      (· - circumstances.organizationOffset)

def fixedEnds (session : GuestSession) (voucher : VoucherLookup) (tier : Option AccessTier) :
    List (Option Int) :=
  [voucherEnd session voucher, endOf session (tier.bind AccessTier.sessionTimeoutMinutes)]

def dailyEnds (circumstances : Circumstances) (now : Int) : List (Option Int) :=
  [closingEnd circumstances now, loginHoursEnd circumstances now]

theorem meets_shifted {now offset deadline : Int} {allowance : Option Int}
    (meets : Meets (now + offset) allowance deadline) : Meets now allowance (deadline - offset) := by
  obtain ⟨seconds, given, within⟩ := meets
  exact ⟨seconds, given, by omega⟩

theorem andThen_within {standing : Standing} {next : Option Int → Standing} {cap : Option Int}
    (left : standing.andThen next = .within cap) :
    ∃ seconds, standing = .within seconds ∧ next seconds = .within cap := by
  cases standing with
  | refused reason => cases left
  | raised => cases left
  | within seconds => exact ⟨seconds, rfl, left⟩

theorem voucherStanding_meets {session : GuestSession} {lookup : VoucherLookup} {now : Int}
    {seconds : Option Int} (left : voucherStanding session lookup now = .within seconds)
    {deadline : Int} (expires : voucherEnd session lookup = some deadline) :
    Meets now seconds deadline := by
  unfold voucherEnd at expires
  unfold voucherStanding at left
  split at expires
  · cases expires
  · rename_i redeemed
    rw [if_neg redeemed] at left
    cases lookup with
    | unavailable => cases expires
    | found isRevoked expiresAt =>
        dsimp only at expires
        subst expires
        cases isRevoked with
        | true => cases left
        | false =>
            dsimp only at left
            split at left
            · cases left
            · cases left
              exact max_ceil_meets (by omega)

theorem openHoursStanding_meets {circumstances : Circumstances} {now : Int} {seconds : Option Int}
    (left : openHoursStanding circumstances.hours (now + circumstances.venueOffset) =
      .within seconds)
    {deadline : Int} (closes : closingEnd circumstances now = some deadline) :
    Meets now seconds deadline := by
  unfold closingEnd at closes
  split at closes
  · rename_i schedule answered
    rw [answered] at left
    simp only [openHoursStanding, Bool.not_true, Bool.false_eq_true, ↓reduceIte] at left
    split at left
    · cases left
    · rename_i isOpen
      cases left
      obtain ⟨closing, known, meets⟩ := secondsUntilClosing_meets schedule
        (now + circumstances.venueOffset) (by simpa using isOpen)
      rw [known, Option.map_some] at closes
      obtain rfl := Option.some.inj closes
      exact meets_shifted meets
  · cases closes

theorem loginHoursStanding_within {circumstances : Circumstances} {now : Int}
    {seconds : Option Int}
    (left : accessTierLoginHoursStanding circumstances.tier
      (now + circumstances.organizationOffset) = .within seconds)
    {deadline : Int} (closes : loginHoursEnd circumstances now = some deadline) :
    Meets now seconds deadline := by
  obtain ⟨hours, restricted, known⟩ := Option.bind_eq_some_iff.mp closes
  obtain ⟨closing, found, rfl⟩ := Option.map_eq_some_iff.mp known
  simp only [accessTierLoginHoursStanding, restricted] at left
  cases answer : hours.standing (now + circumstances.organizationOffset) with
  | error fault =>
      rw [answer] at left
      cases left
  | ok standing =>
      obtain ⟨granted, rfl, meets⟩ := LoginHours.standing_meets hours _ answer found
      rw [answer] at left
      cases left
      exact meets_shifted meets

theorem tierSessionSecondsLeft_meets {session : GuestSession} {tier : Option AccessTier}
    (now : Int) {deadline : Int}
    (known : endOf session (tier.bind AccessTier.sessionTimeoutMinutes) = some deadline) :
    Meets now (tierSessionSecondsLeft session tier now) deadline := by
  obtain ⟨limit, given, rfl⟩ := Option.map_eq_some_iff.mp known
  rw [tierSessionSecondsLeft, given]
  exact ceil_meets now _

theorem timeStanding_meets {session : GuestSession} {circumstances : Circumstances} {now : Int}
    {cap : Option Int}
    (left : timeStanding computePeriodStart session circumstances now = .within cap) :
    ∀ deadline, some deadline ∈ fixedEnds session circumstances.voucher circumstances.tier ++
        dailyEnds circumstances now →
      Meets now cap deadline := by
  obtain ⟨voucher, voucherLeft, left⟩ := andThen_within left
  obtain ⟨hours, hoursLeft, left⟩ := andThen_within left
  obtain ⟨tierHours, tierHoursLeft, left⟩ := andThen_within left
  dsimp only at left
  split at left
  · cases left
  · cases left
    intro deadline known
    simp only [fixedEnds, dailyEnds, List.cons_append, List.nil_append, List.mem_cons,
      List.not_mem_nil, or_false] at known
    rcases known with expires | tierEnds | closes | tierCloses
    · refine minPresent_meets ?_ (voucherStanding_meets voucherLeft expires.symm)
      simp
    · refine minPresent_meets ?_ (tierSessionSecondsLeft_meets now tierEnds.symm)
      simp
    · refine minPresent_meets ?_ (openHoursStanding_meets hoursLeft closes.symm)
      simp
    · refine minPresent_meets ?_ (loginHoursStanding_within tierHoursLeft tierCloses.symm)
      simp

/-! ### The time of the fair usage policy -/

theorem minutesLeft_pos {isOverSharedQuota : Bool} {limits : FupLimits} {quotas : Quotas}
    {now : Int}
    (passed : enforceFupQuota computePeriodStart isOverSharedQuota (.answered limits) quotas now =
      .ok ())
    {period : QuotaPeriodType} {left : Int}
    (known : minutesLeft computePeriodStart limits quotas now period = some left) : 1 ≤ left := by
  -- A guest who is within the quota has a minute left of every period that has a limit.
  obtain ⟨limit, given, rfl⟩ := Option.map_eq_some_iff.mp known
  obtain ⟨limited, nonzero⟩ := Option.filter_eq_some_iff.mp given
  have capped : limits.isCapped = true := by
    refine List.any_eq_true.mpr ⟨period, QuotaPeriodType.mem_all period, ?_⟩
    rw [limited, Option.any_some, nonzero, Bool.or_true]
  unfold enforceFupQuota at passed
  split at passed
  · cases passed
  · dsimp only at passed
    rw [capped, Bool.not_true, if_neg Bool.false_ne_true] at passed
    split at passed
    · cases passed
    · rename_i unexceeded
      have within := List.findSome?_eq_none_iff.mp unexceeded period (QuotaPeriodType.mem_all period)
      by_contra none
      have used : isFupUsageExceeded
          (getOrResetQuotaUsages computePeriodStart quotas now period).minutesUsed limit = true := by
        refine decide_eq_true ?_
        omega
      simp only [exceededLimit, limited, Option.filter_some, used, if_true] at within
      split at within
      · cases within
      · cases within
      · rename_i absent
        cases absent

theorem fupTimeRemaining_le {isOverSharedQuota : Bool} {limits : FupLimits} {quotas : Quotas}
    {now : Int}
    (passed : enforceFupQuota computePeriodStart isOverSharedQuota (.answered limits) quotas now =
      .ok ())
    {period : QuotaPeriodType} {left : Int}
    (known : minutesLeft computePeriodStart limits quotas now period = some left) :
    ∃ seconds, fupTimeRemainingSeconds computePeriodStart (.answered limits) quotas now =
      some seconds ∧ seconds ≤ left * 60 := by
  have member : some left ∈
      QuotaPeriodType.all.map (minutesLeft computePeriodStart limits quotas now) :=
    List.mem_map.mpr ⟨period, QuotaPeriodType.mem_all period, known⟩
  obtain ⟨least, found, below⟩ := minPresent_le member
  have some := minutesLeft_pos computePeriodStart passed known
  refine ⟨max (least * 60) 1, ?_, ?_⟩
  · simp only [fupTimeRemainingSeconds, found, Option.map_some]
  · omega

theorem timeStanding_fup {session : GuestSession} {circumstances : Circumstances} {now : Int}
    {cap : Option Int}
    (left : timeStanding computePeriodStart session circumstances now = .within cap)
    {seconds : Int}
    (remaining : fupTimeRemainingSeconds computePeriodStart circumstances.fup circumstances.quotas
      now = some seconds) : ∃ most, cap = some most ∧ most ≤ seconds := by
  obtain ⟨voucher, -, left⟩ := andThen_within left
  obtain ⟨hours, -, left⟩ := andThen_within left
  obtain ⟨tierHours, -, left⟩ := andThen_within left
  dsimp only at left
  split at left
  · cases left
  · cases left
    refine minPresent_le ?_
    rw [remaining]
    exact List.mem_cons_self

/-! ### Accepted requests -/

structure Ask where
  tables : Tables
  request : AccessRequest
  circumstances : Circumstances
  now : Int

def Ask.authorize (router : Router) (ask : Ask) : Option RadiusAuthorizeResult :=
  RadiusService.authorize computePeriodStart upper ask.tables router ask.request ask.circumstances
    ask.now

def Circumstances.isAnswered (circumstances : Circumstances) : Bool :=
  match circumstances.fup with
  | .failed => false
  | _ => true

/-- The reply to an accepted request: some time, and no more than any limit leaves. -/
structure Accepted (router : Router) (circumstances : Circumstances) (now : Int)
    (result : RadiusAuthorizeResult) : Prop where
  positive : ∀ seconds, result.sessionTimeoutSeconds = some seconds → 0 < seconds
  session : ∀ limit, result.session.sessionTimeoutMinutes = some limit →
    (limit = 0 → result.session.startedAt ≤ now) →
      Meets now result.sessionTimeoutSeconds (result.session.startedAt + minutes limit)
  ends : router.isNasOnly = true → circumstances.isAnswered = true → ∀ deadline,
    some deadline ∈ fixedEnds result.session circumstances.voucher circumstances.tier ++
        dailyEnds circumstances now →
      Meets now result.sessionTimeoutSeconds deadline
  fup : router.isNasOnly = true → ∀ limits, circumstances.fup = .answered limits →
    ∀ period left, minutesLeft computePeriodStart limits circumstances.quotas now period =
      some left → ∃ seconds, result.sessionTimeoutSeconds = some seconds ∧ seconds ≤ left * 60

theorem authorize_cases {tables : Tables} {router : Router} {request : AccessRequest}
    {circumstances : Circumstances} {now : Int} {result : RadiusAuthorizeResult}
    (accepted : authorize computePeriodStart upper tables router request circumstances now =
      some result) :
    ∃ cap, hasSessionReachedTimeLimit result.session now = false ∧
      standing computePeriodStart router circumstances result.session now = .within cap ∧
      reply result.session cap now = some result := by
  obtain ⟨session, -, accepted⟩ := Option.bind_eq_some_iff.mp accepted
  split at accepted
  · cases accepted
  · rename_i admitted
    split at accepted
    · cases accepted
    · cases accepted
    · rename_i cap stands
      split at accepted
      · cases accepted
      · have same : result.session = session := by
          unfold reply at accepted
          dsimp only at accepted
          split at accepted
          · cases accepted
          · cases accepted
            rfl
        subst same
        refine ⟨cap, ?_, stands, accepted⟩
        simp only [isTurnedAway, Bool.or_eq_true, not_or, Bool.not_eq_true] at admitted
        exact admitted.1.1

theorem reply_cases {session : GuestSession} {cap : Option Int} {now : Int}
    {result : RadiusAuthorizeResult} (replied : reply session cap now = some result) :
    result.sessionTimeoutSeconds = minPresent [remainingSessionSeconds session now, cap] ∧
      ∀ seconds, result.sessionTimeoutSeconds = some seconds → 0 < seconds := by
  unfold reply at replied
  dsimp only at replied
  split at replied
  · cases replied
  · rename_i some
    cases replied
    refine ⟨rfl, ?_⟩
    intro seconds given
    dsimp only at given
    rw [given, Option.any_some] at some
    simpa using some

theorem remainingSessionSeconds_meets {session : GuestSession} {now : Int} {limit : Nat}
    (limited : session.sessionTimeoutMinutes = some limit)
    (running : hasSessionReachedTimeLimit session now = false)
    (begun : limit = 0 → session.startedAt ≤ now) :
    Meets now (remainingSessionSeconds session now) (session.startedAt + minutes limit) := by
  rw [hasSessionReachedTimeLimit, limited, Option.any_some, decide_eq_false_iff_not,
    not_le] at running
  have nonzero : limit ≠ 0 := by
    intro zero
    have started := begun zero
    rw [zero, minutes] at running
    omega
  rw [remainingSessionSeconds, limited, Option.filter_some, if_pos (by simpa using nonzero),
    Option.map_some]
  exact max_ceil_meets (by omega)

theorem authorize_accepted {router : Router} {ask : Ask} {result : RadiusAuthorizeResult}
    (accepted : ask.authorize computePeriodStart upper router = some result) :
    Accepted computePeriodStart router ask.circumstances ask.now result := by
  obtain ⟨cap, running, stands, replied⟩ := authorize_cases computePeriodStart upper accepted
  obtain ⟨least, positive⟩ := reply_cases replied
  have capped : router.isNasOnly = true →
      enforceFupQuota computePeriodStart ask.circumstances.isOverSharedQuota
        ask.circumstances.fup ask.circumstances.quotas ask.now = .error .lookupFailed ∨
      enforceFupQuota computePeriodStart ask.circumstances.isOverSharedQuota
        ask.circumstances.fup ask.circumstances.quotas ask.now = .ok () ∧
      timeStanding computePeriodStart result.session ask.circumstances ask.now = .within cap := by
    intro nasOnly
    rw [standing, if_pos nasOnly] at stands
    unfold nasOnlyAuthorizeStanding at stands
    split at stands
    · cases stands
    · split at stands
      · cases stands
      · cases stands
      · rename_i failed
        exact Or.inl failed
      · rename_i passed
        exact Or.inr ⟨passed, stands⟩
  constructor
  case positive => exact positive
  case session =>
    intro limit limited begun
    rw [least]
    refine minPresent_meets ?_ (remainingSessionSeconds_meets limited running begun)
    simp
  case ends =>
    intro nasOnly answered deadline known
    rcases capped nasOnly with failed | ⟨-, timed⟩
    · have failing := enforceFupQuota_failed computePeriodStart failed
      rw [Circumstances.isAnswered, failing] at answered
      cases answered
    · rw [least]
      refine minPresent_meets ?_ (timeStanding_meets computePeriodStart timed deadline known)
      simp
  case fup =>
    intro nasOnly limits answered period left known
    rcases capped nasOnly with failed | ⟨passed, timed⟩
    · have failing := enforceFupQuota_failed computePeriodStart failed
      rw [answered] at failing
      cases failing
    · rw [answered] at passed
      obtain ⟨remaining, found, below⟩ := fupTimeRemaining_le computePeriodStart passed known
      rw [← answered] at found
      obtain ⟨most, given, less⟩ := timeStanding_fup computePeriodStart timed found
      obtain ⟨seconds, told, lesser⟩ := minPresent_le
        (show some most ∈ [remainingSessionSeconds result.session ask.now, cap] by simp [given])
      exact ⟨seconds, least.trans told, lesser.trans (less.trans below)⟩

/-! ### Asking again -/

/-- Two versions of a session that end alike. -/
structure SameEnd (session other : GuestSession) : Prop where
  id : other.id = session.id
  startedAt : other.startedAt = session.startedAt
  sessionTimeoutMinutes : other.sessionTimeoutMinutes = session.sessionTimeoutMinutes
  voucherId : other.voucherId = session.voucherId

/-- Requests between which the end of the session, the voucher and the tier stay as they are. -/
structure Repeated (router : Router) (asks : List Ask) (session : GuestSession)
    (voucher : VoucherLookup) (tier : Option AccessTier) : Prop where
  voucher : ∀ ask ∈ asks, ask.circumstances.voucher = voucher
  tier : ∀ ask ∈ asks, ask.circumstances.tier = tier
  answered : ∀ ask ∈ asks, ask.circumstances.isAnswered = true
  session : ∀ ask ∈ asks, ∀ result,
    ask.authorize computePeriodStart upper router = some result → SameEnd session result.session

theorem SameEnd.fixedEnds_eq {session other : GuestSession} (same : SameEnd session other)
    (voucher : VoucherLookup) (tier : Option AccessTier) :
    fixedEnds other voucher tier = fixedEnds session voucher tier := by
  simp only [fixedEnds, voucherEnd, endOf, same.voucherId, same.startedAt]

def standingEnds (router : Router) (session : GuestSession) (voucher : VoucherLookup)
    (tier : Option AccessTier) : List (Option Int) :=
  endOf session session.sessionTimeoutMinutes ::
    if router.isNasOnly then fixedEnds session voucher tier else []

theorem repeated_meets {router : Router} {asks : List Ask} {session : GuestSession}
    {voucher : VoucherLookup} {tier : Option AccessTier}
    (repeats : Repeated computePeriodStart upper router asks session voucher tier) {first : Int}
    (known : minPresent (standingEnds router session voucher tier) = some first) {ask : Ask}
    (member : ask ∈ asks) {result : RadiusAuthorizeResult}
    (accepted : ask.authorize computePeriodStart upper router = some result) :
    Meets ask.now result.sessionTimeoutSeconds first := by
  have kept := authorize_accepted computePeriodStart upper accepted
  have same := repeats.session ask member result accepted
  rcases List.mem_cons.mp (minPresent_mem known) with own | other
  · obtain ⟨limit, given, rfl⟩ := Option.map_eq_some_iff.mp own.symm
    obtain ⟨limited, nonzero⟩ := Option.filter_eq_some_iff.mp given
    rw [← same.sessionTimeoutMinutes] at limited
    rw [← same.startedAt]
    refine kept.session limit limited fun zero => ?_
    rw [zero] at nonzero
    cases nonzero
  · by_cases nasOnly : router.isNasOnly = true
    · rw [if_pos nasOnly] at other
      refine kept.ends nasOnly (repeats.answered ask member) first (List.mem_append_left _ ?_)
      rw [same.fixedEnds_eq, repeats.voucher ask member, repeats.tier ask member]
      exact other
    · rw [if_neg nasOnly] at other
      exact absurd other List.not_mem_nil

/-- An Accept says nothing or some time, and never more than a limit leaves. Asked again, it does
not go past the first of the ends that stand, nor past the close of a window that is still the
same; and the end of the fair usage time moves by what has passed, less the minutes accrued. -/
theorem accept_ends (router : Router) :
    (∀ (ask : Ask) result, ask.authorize computePeriodStart upper router = some result →
      Accepted computePeriodStart router ask.circumstances ask.now result) ∧
    ∀ asks session voucher tier,
      Repeated computePeriodStart upper router asks session voucher tier →
      (∀ first, minPresent (standingEnds router session voucher tier) = some first →
        ∀ ask ∈ asks, ∀ result, ask.authorize computePeriodStart upper router = some result →
          Meets ask.now result.sessionTimeoutSeconds first) ∧
      (router.isNasOnly = true → ∀ daily, (∀ ask ∈ asks,
          dailyEnds ask.circumstances ask.now = daily) → ∀ first, minPresent daily = some first →
        ∀ ask ∈ asks, ∀ result, ask.authorize computePeriodStart upper router = some result →
          Meets ask.now result.sessionTimeoutSeconds first) ∧
      (router.isNasOnly = true → ∀ first ∈ asks, ∀ again ∈ asks, ∀ limits,
        first.circumstances.fup = .answered limits → again.circumstances.fup = .answered limits →
        ∀ period left less,
          minutesLeft computePeriodStart limits first.circumstances.quotas first.now period =
            some left →
          minutesLeft computePeriodStart limits again.circumstances.quotas again.now period =
            some less →
          ∀ result, again.authorize computePeriodStart upper router = some result →
            ∃ seconds, result.sessionTimeoutSeconds = some seconds ∧
              again.now + seconds * 1000000 ≤ first.now + left * 60000000 +
                ((again.now - first.now) - (left - less) * 60000000)) := by
  have each : ∀ (ask : Ask) result,
      ask.authorize computePeriodStart upper router = some result →
        Accepted computePeriodStart router ask.circumstances ask.now result :=
    fun ask result accepted => authorize_accepted computePeriodStart upper accepted
  refine ⟨each, ?_⟩
  intro asks session voucher tier repeats
  refine ⟨?_, ?_, ?_⟩
  · intro first known ask member result accepted
    exact repeated_meets computePeriodStart upper repeats known member accepted
  · intro nasOnly daily same first known ask member result accepted
    refine (each ask result accepted).ends nasOnly (repeats.answered ask member) first
      (List.mem_append_right _ ?_)
    rw [same ask member]
    exact minPresent_mem known
  · intro nasOnly first _ again _ limits _ answered period left less _ known result accepted
    obtain ⟨seconds, told, within⟩ :=
      (each again result accepted).fup nasOnly limits answered period less known
    exact ⟨seconds, told, by omega⟩

section Executed

def fromStart : QuotaPeriodType → Int → Int := fun _ _ => 0

def instantOn : Router := ⟨1, true⟩

def begun (limit : Option Nat) : GuestSession :=
  ⟨1, 1, none, 1, .voucher, some 7, .active, 0, none, 0, none, 0, 0, none, limit, none, none⟩

def asksFor (limit : Option Nat) (circumstances : Circumstances) (now : Int) : Ask :=
  ⟨⟨[begun limit], []⟩, ⟨none, some ⟨1, false⟩, none, none, none, fun _ => false, fun _ => false,
    fun _ => true⟩, circumstances, now⟩

def daily : FupLookup :=
  .answered ⟨fun _ => none, fun period => if period = .daily then some 20 else none⟩

def used : Quotas := fun _ => some ⟨0, 0, 10, none⟩

/-- A voucher that expires after 15 minutes, a venue open until 22:00, a tier of 25 minutes. -/
def restricted : Circumstances :=
  ⟨false, .unwired, used, .found false (some 900000000),
    .answered true fun _ => some ⟨0, 1320⟩, some ⟨some 25, none⟩, 0, 0⟩

def unrestricted : Circumstances :=
  ⟨false, daily, used, .unavailable, .unavailable, none, 0, 0⟩

/-- Asked at once and after five minutes, both replies end with the voucher. -/
theorem accept_ends_voucher :
    ((asksFor (some 30) restricted 0).authorize fromStart id instantOn).map
        RadiusAuthorizeResult.sessionTimeoutSeconds = some (some 900) ∧
    ((asksFor (some 30) restricted 300000000).authorize fromStart id instantOn).map
        RadiusAuthorizeResult.sessionTimeoutSeconds = some (some 600) ∧
    ∀ ask ∈ [asksFor (some 30) restricted 0, asksFor (some 30) restricted 300000000], ∀ result,
      ask.authorize fromStart id instantOn = some result →
        Meets ask.now result.sessionTimeoutSeconds 900000000 := by
  refine ⟨by decide +kernel, by decide +kernel, ?_⟩
  have repeats : Repeated fromStart id instantOn
      [asksFor (some 30) restricted 0, asksFor (some 30) restricted 300000000] (begun (some 30))
      restricted.voucher restricted.tier := by
    constructor
    case voucher => simp [asksFor]
    case tier => simp [asksFor]
    case answered => simp [asksFor, restricted, Circumstances.isAnswered]
    case session =>
      have both : ∀ ask ∈ [asksFor (some 30) restricted 0, asksFor (some 30) restricted 300000000],
          (ask.authorize fromStart id instantOn).all (·.session = begun (some 30)) = true := by
        intro ask member
        simp only [List.mem_cons, List.not_mem_nil, or_false] at member
        rcases member with rfl | rfl
        · decide +kernel
        · decide +kernel
      intro ask member result accepted
      have own := both ask member
      rw [accepted, Option.all_some] at own
      rw [of_decide_eq_true own]
      exact ⟨rfl, rfl, rfl, rfl⟩
  exact ((accept_ends fromStart id instantOn).2 _ _ _ _ repeats).1 900000000 (by decide +kernel)

/-- With ten minutes left of the day's, a guest who asks again after four is given ten again, and
ends four minutes after the first end; and half a minute before 22:00 a venue that closes then
gives 90 seconds. -/
theorem accept_ends_later :
    ((asksFor none unrestricted 0).authorize fromStart id instantOn).map
        RadiusAuthorizeResult.sessionTimeoutSeconds = some (some 600) ∧
    ((asksFor none unrestricted 240000000).authorize fromStart id instantOn).map
        RadiusAuthorizeResult.sessionTimeoutSeconds = some (some 600) ∧
    (0 : Int) + 600 * 1000000 + 1000000 < 240000000 + 600 * 1000000 ∧
    ((asksFor none { restricted with voucher := .unavailable, tier := none } 79170000000).authorize
        fromStart id instantOn).map RadiusAuthorizeResult.sessionTimeoutSeconds = some (some 90) ∧
    isOpenNow (fun _ => some ⟨0, 1320⟩) (79170000000 + 31 * 1000000) = false := by
  refine ⟨by decide +kernel, by decide +kernel, by decide, by decide +kernel, by decide +kernel⟩

end Executed

end CloudGuest.RadiusService
