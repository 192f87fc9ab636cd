import CloudGuest.Guest.AccountingTarget
import CloudGuest.Guest.SessionLifecycle
import CloudGuest.Guest.SessionReuse
import CloudGuest.Library.Lineages

/-!
Reconnects of one guest (guest/service.py, `reconnect`) among everything else that
becomes of the guest's sessions: sign-ins, usage reports, ends, pauses. A reconnect
makes a new session of the latest one, with its limits; what the latest one has used
of them it leaves behind.

Operations follow one another here. What the venue, the router and the access rules
say, and the guest's usage rows, are whatever they are at that instant.
-/

namespace CloudGuest.Reconnects
open Guest Lineages Runs Sorting Texts
open AccountingTarget (getLatestSessionForGuest)
open GuestTeams (GuestSessionStatus)
open SessionReuse (SignIn createSession findReusableActiveSession reuseSession)

inductive Portal where
  | unavailable
  | answered (isOpen isAdmitted : Bool)
  deriving DecidableEq

structure Request where
  isBlocked : Bool
  portal : Portal
  routerId : Nat
  isEligible : Bool
  /-- The device that `device_mac` names, found or made. -/
  namedDevice : Option Nat
  /-- Whether the device of the latest session is still there. -/
  isDeviceKept : Bool
  ipAddress : Option Text
  deriving DecidableEq

inductive Fault where
  | guestBlocked
  | sessionTerminationCooldown (retryAfterMinutes : Int)
  | noReconnectableSession
  | venueClosed
  | accessDenied
  | routerNotEligibleForGuestSession
  deriving DecidableEq

def getLatestTerminatedSessionForGuest (rows : List GuestSession) : Option GuestSession :=
  -- `ORDER BY ended_at DESC`, which lists NULL first.
  let terminated := rows.filter fun session => session.status = .terminated
  (terminated.find? fun session => session.endedAt.isNone).or
    (sortDescending (fun session => session.endedAt.getD 0) terminated).head?

def terminationCooldown (rows : List GuestSession) (now : Int) : Option Int :=
  (getLatestTerminatedSessionForGuest rows).bind fun latest =>
    latest.endedAt.bind fun endedAt =>
      let cooldownUntil := endedAt + minutes TERMINATION_RECONNECT_COOLDOWN_MINUTES
      if now < cooldownUntil then some (max ((cooldownUntil - now) / minutes 1 + 1) 1) else none

/-- Whether an ordinary end is too long ago. -/
def isGraceOver (prior : GuestSession) (now : Int) : Bool :=
  prior.status ≠ .terminated &&
    minutes RECONNECT_GRACE_MINUTES < now - prior.endedAt.getD prior.lastActivityAt

def Request.refusal (request : Request) : Option Fault :=
  let venue : Option Fault := match request.portal with
    | .unavailable => none
    | .answered isOpen isAdmitted =>
        if !isOpen then some .venueClosed
        else if !isAdmitted then some .accessDenied
        else none
  venue.or (if request.isEligible then none else some .routerNotEligibleForGuestSession)

def carriedForward (prior : GuestSession) (request : Request) : SignIn where
  routerId := request.routerId
  -- only a reuse asks for it
  isNasOnly := false
  deviceId := request.namedDevice.or (if request.isDeviceKept then prior.deviceId else none)
  authMethod := prior.authMethod
  voucherId := prior.voucherId
  ipAddress := request.ipAddress
  dataLimitMb := prior.dataLimitMb
  sessionTimeoutMinutes := prior.sessionTimeoutMinutes
  idleTimeoutMinutes := prior.idleTimeoutMinutes

/-- The session a guest has already, or a new one made of an earlier one. -/
inductive Reconnected where
  | already (prior : GuestSession)
  | continued (prior session : GuestSession)
  deriving DecidableEq

variable (guestId : Nat)

def reconnect (rows : List GuestSession) (request : Request) (now : Int) :
    Except Fault Reconnected :=
  if request.isBlocked then .error .guestBlocked
  else
    match terminationCooldown rows now with
    | some remaining => .error (.sessionTerminationCooldown remaining)
    | none =>
        match getLatestSessionForGuest ⟨rows, []⟩ guestId with
        | none => .error .noReconnectableSession
        | some prior =>
            if prior.isActive then .ok (.already prior)
            else if isGraceOver prior now then .error .noReconnectableSession
            else
              match request.refusal with
              | some fault => .error fault
              | none =>
                  .ok (.continued prior
                    (createSession guestId rows.length (carriedForward prior request) now))

structure Passes (rows : List GuestSession) (request : Request) (now : Int)
    (prior : GuestSession) : Prop where
  unblocked : request.isBlocked = false
  cooled : terminationCooldown rows now = none
  latest : getLatestSessionForGuest ⟨rows, []⟩ guestId = some prior
  ended : prior.isActive = false
  recent : isGraceOver prior now = false
  unrefused : request.refusal = none

theorem reconnect_continued (rows : List GuestSession) (request : Request) (now : Int)
    (prior session : GuestSession) :
    reconnect guestId rows request now = .ok (.continued prior session) ↔
      Passes guestId rows request now prior ∧
        session = createSession guestId rows.length (carriedForward prior request) now := by
  constructor
  · intro continued
    unfold reconnect at continued
    split at continued
    · cases continued
    · rename_i unblocked
      split at continued
      · cases continued
      · rename_i cooled
        split at continued
        · cases continued
        · rename_i latest
          split at continued
          · cases continued
          · rename_i ended
            split at continued
            · cases continued
            · rename_i recent
              split at continued
              · cases continued
              · rename_i unrefused
                cases continued
                exact ⟨⟨by simpa using unblocked, cooled, latest, by simpa using ended,
                  by simpa using recent, unrefused⟩, rfl⟩
  · rintro ⟨⟨unblocked, cooled, latest, ended, recent, unrefused⟩, rfl⟩
    simp [reconnect, unblocked, cooled, latest, ended, recent, unrefused]

/-! ### Runs -/

/-- A session, the one it was made from, its last usage report, and the minutes added to it. -/
structure Row where
  session : GuestSession
  continues : Option Nat
  lastReport : Nat
  extended : Nat

structure Fup where
  isOverSharedQuota : Bool
  lookup : FupLookup
  quotas : Quotas

structure System where
  rows : List Row
  fup : Fup
  now : Int

def System.started (fup : Fup) (now : Int) : System := ⟨[], fup, now⟩

def System.sessions (system : System) : List GuestSession := system.rows.map Row.session

inductive Action where
  | signIn (signIn : SignIn)
  | operate (session : Nat) (operation : Operation)
  | reconnect (request : Request)
  | fup (fup : Fup)
  | elapse (duration : Nat)

variable (computePeriodStart : QuotaPeriodType → Int → Int)

def System.quota (system : System) : Except QuotaFault Unit :=
  enforceFupQuota computePeriodStart system.fup.isOverSharedQuota system.fup.lookup
    system.fup.quotas system.now

def totalAfter (session : GuestSession) : Operation → Nat
  | .recordUsage uploadedDelta downloadedDelta _ =>
      session.totalBytes + uploadedDelta.toNat + downloadedDelta.toNat
  | .accountingStop uploadedTotal downloadedTotal isNasOnly _ =>
      stopped isNasOnly uploadedTotal session.bytesUploaded +
        stopped isNasOnly downloadedTotal session.bytesDownloaded
  | _ => session.totalBytes

def minutesAdded : Operation → Nat
  | .extend additionalMinutes => additionalMinutes.toNat
  | _ => 0

def Row.operated (row : Row) (operation : Operation) (now : Int) : Row :=
  let reported := totalAfter row.session operation - row.session.totalBytes
  { row with
    session := updateSession row.session (operation.update row.session now row.session now)
    lastReport := if reported = 0 then row.lastReport else reported
    extended := row.extended + minutesAdded operation }

def Row.reused (row : Row) (found : GuestSession) (signIn : SignIn) (now : Int) : Row :=
  { row with session := reuseSession found row.session signIn now }

def System.signedIn (system : System) (signIn : SignIn) : System :=
  match findReusableActiveSession system.sessions signIn system.now with
  | some found =>
      { system with
        rows := system.rows.modify found.id fun row => row.reused found signIn system.now }
  | none =>
      let session := createSession guestId system.rows.length signIn system.now
      { system with rows := system.rows ++ [⟨session, none, 0, 0⟩] }

def System.reconnected (system : System) (request : Request) : System :=
  match reconnect guestId system.sessions request system.now with
  | .ok (.continued prior session) =>
      { system with rows := system.rows ++ [⟨session, some prior.id, 0, 0⟩] }
  | _ => system

def step (system : System) : Action → Option System
  | .signIn signIn =>
      match system.quota computePeriodStart with
      | .error _ => some system
      | .ok _ => some (system.signedIn guestId signIn)
  | .operate place operation =>
      (system.rows[place]?).map fun row =>
        if operation.admits row.session system.now then
          { system with rows := system.rows.set place (row.operated operation system.now) }
        else system
  | .reconnect request => some (system.reconnected guestId request)
  | .fup fup => some { system with fup }
  | .elapse duration => some { system with now := system.now + duration }

/-! ### One entitlement -/

/-- The first session's limits bound the whole lineage: its bytes but for the last report, and the
instant at which the last session reaches its own time limit. -/
structure Bounded (first last : Row) (lineage : List Row) : Prop where
  bytes : ∀ limit, first.session.dataLimitMb = some limit →
    (lineage.map fun row => row.session.totalBytes).sum ≤ limit * BYTES_PER_MB + last.lastReport
  time : ∀ limit, first.session.sessionTimeoutMinutes = some limit →
    ∃ own, last.session.sessionTimeoutMinutes = some own ∧
      last.session.startedAt + minutes own ≤ first.session.startedAt +
        minutes (limit + (lineage.tail.map Row.extended).sum)

def Entitled (rows : List Row) : Prop :=
  ∀ first last lineage, Lineage Row.continues rows first last lineage →
    ∃ older newer, rows[first]? = some older ∧ rows[last]? = some newer ∧
      Bounded older newer lineage

/-- A session that nothing is left of to continue: it was given no time limit, and used none of its
data. -/
def isUntouched (session : GuestSession) : Bool :=
  session.sessionTimeoutMinutes.isNone && session.dataLimitMb.all fun _ => session.totalBytes = 0

def isRefusedForFup : Except QuotaFault Unit → Bool
  | .error (.fairUsagePolicyExceeded _ _ _ _) => true
  | _ => false

def System.isLast (system : System) (place : Nat) : Bool :=
  system.rows.all fun row => row.continues ≠ some place

/-- A sign-in that reuses a session grants no less than it has used, and to one that a reconnect
made no more than it has. -/
def isFitting (row : Row) (signIn : SignIn) : Bool :=
  (signIn.dataLimitMb.all fun limit =>
    row.session.totalBytes ≤ limit * BYTES_PER_MB + row.lastReport) &&
  (row.continues.isNone || row.session.dataLimitMb.all fun limit =>
    signIn.dataLimitMb.any (· ≤ limit))

/-- A reconnect goes on from a session that ended untouched, within the quota; bytes are added to
a session that has not reached its cap and that none continues, or that has no cap. -/
def calm (system : System) : Action → Bool
  | .signIn signIn =>
      match findReusableActiveSession system.sessions signIn system.now with
      | some found => (system.rows[found.id]?).all fun row => isFitting row signIn
      | none => true
  | .operate place operation =>
      (system.rows[place]?).all fun row =>
        totalAfter row.session operation ≤ row.session.totalBytes ||
          row.session.dataLimitMb.isNone ||
            (!isQuotaExceeded row.session && system.isLast place)
  | .reconnect request =>
      (getLatestSessionForGuest ⟨system.sessions, []⟩ guestId).all fun prior =>
        prior.isActive ||
          (prior.status ≠ .paused && isUntouched prior &&
            !isRefusedForFup (system.quota computePeriodStart)) ||
          request.isBlocked || (terminationCooldown system.sessions system.now).isSome ||
          isGraceOver prior system.now || request.refusal.isSome
  | _ => true

/-! ### What an operation leaves of a row -/

theorem operated_bytes (row : Row) (operation : Operation) (now : Int) :
    (row.operated operation now).session.totalBytes = totalAfter row.session operation := by
  cases operation with
  | recordUsage uploadedDelta downloadedDelta answers =>
      obtain ⟨uploaded, downloaded⟩ := recordUsageUpdate_bytes row.session row.session
        uploadedDelta downloadedDelta answers now
      simp only [Row.operated, Operation.update, updateSession, GuestSession.totalBytes, uploaded,
        downloaded, Option.getD_some, totalAfter]
      omega
  | accountingStop uploadedTotal downloadedTotal isNasOnly disconnectReason =>
      obtain ⟨uploaded, downloaded⟩ := accountingStopUpdate_bytes row.session row.session
        uploadedTotal downloadedTotal isNasOnly disconnectReason now
      simp only [Row.operated, Operation.update, updateSession, GuestSession.totalBytes, uploaded,
        downloaded, totalAfter]
      cases uploadedTotal <;> cases downloadedTotal <;> rfl
  | _ => rfl

theorem operated_terminal (row : Row) (operation : Operation) (now : Int)
    (terminal : isTerminal row.session.status = true)
    (admitted : operation.admits row.session now = true) :
    (row.operated operation now).session.status = row.session.status ∧
      (row.operated operation now).session.sessionTimeoutMinutes =
        row.session.sessionTimeoutMinutes := by
  have inactive : row.session.isActive = false := by
    unfold GuestSession.isActive
    cases status : row.session.status with
    | active =>
        rw [status] at terminal
        cases terminal
    | _ => rfl
  have closed : ∀ target, validateSessionStatusTransition row.session.status target = false := by
    intro target
    have none := of_decide_eq_true terminal
    simp [validateSessionStatusTransition, none]
  cases operation with
  | disconnect reason => exact absurd admitted (by simp [Operation.admits, closed])
  | terminate reason => exact absurd admitted (by simp [Operation.admits, closed])
  | pause reason => exact absurd admitted (by simp [Operation.admits, closed])
  | resume => exact absurd admitted (by simp [Operation.admits, closed])
  | extend additionalMinutes =>
      simp only [Operation.admits, Bool.and_eq_true, Bool.or_eq_true, decide_eq_true_eq] at admitted
      rcases admitted.2 with active | paused
      · rw [active] at terminal
        cases terminal
      · rw [paused] at terminal
        cases terminal
  | recordUsage uploadedDelta downloadedDelta answers =>
      exact absurd admitted (by simp [Operation.admits, inactive])
  | accountingStop uploadedTotal downloadedTotal isNasOnly disconnectReason =>
      -- the totals leave the status, and a session that is not ACTIVE is not ended again
      have totals : accountingStopUpdate row.session row.session uploadedTotal downloadedTotal
          isNasOnly disconnectReason now =
            accountingStopTotals row.session uploadedTotal downloadedTotal isNasOnly := by
        unfold accountingStopUpdate
        dsimp only
        rw [if_neg]
        split
        · change ¬ row.session.isActive = true
          simp [inactive]
        · simp [inactive]
      simp only [Row.operated, Operation.update, totals]
      exact ⟨rfl, rfl⟩
  | enforceTimeouts answers =>
      simp [Operation.admits, isListedTimedOut, inactive] at admitted
  | closeForNasRestart reason =>
      exact absurd admitted (by simp [Operation.admits, inactive])

theorem operated_ended (row : Row) (operation : Operation) (now : Int)
    (admitted : operation.admits row.session now = true)
    (ended : isTerminal row.session.status = true → row.session.endedAt.isSome = true) :
    isTerminal (row.operated operation now).session.status = true →
      (row.operated operation now).session.endedAt.isSome = true := by
  have ends : (operation.update row.session now row.session now).Ends :=
    (SessionLifecycle.update_names ⟨operation, row.session, now⟩ row.session now admitted).1
  unfold Update.Ends at ends
  simp only [Row.operated, updateSession]
  cases named : (operation.update row.session now row.session now).status with
  | none =>
      rw [named, Option.any_none] at ends
      have absent : (operation.update row.session now row.session now).endedAt = none := by
        simpa using ends
      rw [absent, Option.none_or, Option.getD_none]
      exact ended
  | some target =>
      rw [named, Option.any_some] at ends
      intro terminal
      rw [Option.getD_some] at terminal
      rw [terminal] at ends
      obtain ⟨moment, given⟩ := Option.isSome_iff_exists.mp ends
      simp [given]

/-! ### Every run -/

/-- A row's id is its place, and every session that has ended says when. -/
structure Kept (system : System) : Prop where
  ids : ∀ (place : Nat) (row : Row), system.rows[place]? = some row → row.session.id = place
  ended : ∀ row ∈ system.rows, isTerminal row.session.status = true →
    row.session.endedAt.isSome = true

theorem kept_started (fup : Fup) (now : Int) : Kept (System.started fup now) := by
  constructor <;> simp [System.started]

theorem kept_appended {system : System} (kept : Kept system) (signIn : SignIn)
    (continues : Option Nat) :
    Kept { system with rows := system.rows ++
      [⟨createSession guestId system.rows.length signIn system.now, continues, 0, 0⟩] } := by
  constructor
  · intro place row stored
    dsimp only at stored
    rcases lt_or_ge place system.rows.length with inside | outside
    · rw [List.getElem?_append_left inside] at stored
      exact kept.ids place row stored
    · rw [List.getElem?_append_right outside] at stored
      have zero : place - system.rows.length = 0 := by
        simpa using (List.getElem?_eq_some_iff.mp stored).1
      rw [zero] at stored
      obtain rfl := Option.some.inj stored
      exact Nat.le_antisymm outside (Nat.sub_eq_zero_iff_le.mp zero)
  · intro row member terminal
    rcases List.mem_append.mp member with earlier | last
    · exact kept.ended row earlier terminal
    · obtain rfl := List.mem_singleton.mp last
      cases terminal

theorem kept_replaced {system : System} (kept : Kept system) {place : Nat} {row next : Row}
    (stored : system.rows[place]? = some row) (same : next.session.id = row.session.id)
    (ended : isTerminal next.session.status = true → next.session.endedAt.isSome = true) :
    Kept { system with rows := system.rows.set place next } := by
  constructor
  · intro other held storedOther
    dsimp only at storedOther
    rcases Rows.replaced_cases storedOther with ⟨rfl, rfl⟩ | ⟨-, before⟩
    · exact same.trans (kept.ids place row stored)
    · exact kept.ids other held before
  · intro held member
    rcases List.mem_or_eq_of_mem_set member with other | rfl
    · exact kept.ended held other
    · exact ended

theorem kept_place {system : System} (kept : Kept system) {session : GuestSession}
    (member : session ∈ system.sessions) :
    ∃ row, system.rows[session.id]? = some row ∧ row.session = session := by
  obtain ⟨row, held, rfl⟩ := List.mem_map.mp member
  obtain ⟨place, stored⟩ := List.getElem?_of_mem held
  have here := kept.ids place row stored
  exact ⟨row, by rw [here]; exact stored, rfl⟩

theorem found_active {rows : List GuestSession} {signIn : SignIn} {now : Int}
    {found : GuestSession} (reusable : findReusableActiveSession rows signIn now = some found) :
    found ∈ rows ∧ found.isActive = true := by
  unfold findReusableActiveSession at reusable
  split at reusable
  · cases reusable
  · split at reusable
    · cases reusable
    · rename_i candidate listed
      split at reusable
      · cases reusable
      · cases reusable
        exact List.mem_filter.mp (List.mem_reverse.mp (List.mem_of_find?_eq_some listed))

theorem latest_mem {rows : List GuestSession} {prior : GuestSession}
    (latest : getLatestSessionForGuest ⟨rows, []⟩ guestId = some prior) : prior ∈ rows := by
  have listed := (head_sortDescending latest).holds
  exact (List.mem_filter.mp listed).1

theorem signedIn_cases {system : System} (kept : Kept system) (signIn : SignIn) :
    (∃ place row, system.rows[place]? = some row ∧ row.session.isActive = true ∧
      row.session.id = place ∧
      findReusableActiveSession system.sessions signIn system.now = some row.session ∧
      system.signedIn guestId signIn =
        { system with rows := system.rows.set place (row.reused row.session signIn system.now) }) ∨
    findReusableActiveSession system.sessions signIn system.now = none ∧
      system.signedIn guestId signIn = { system with rows := system.rows ++
        [⟨createSession guestId system.rows.length signIn system.now, none, 0, 0⟩] } := by
  unfold System.signedIn
  split
  · rename_i found reusable
    obtain ⟨member, active⟩ := found_active reusable
    obtain ⟨row, stored, rfl⟩ := kept_place kept member
    refine Or.inl ⟨row.session.id, row, stored, active, rfl, reusable, ?_⟩
    rw [List.modify_eq_set_getElem?, stored]
    rfl
  · rename_i unfound
    exact Or.inr ⟨unfound, rfl⟩

theorem reconnected_cases (system : System) (request : Request) :
    system.reconnected guestId request = system ∨
    ∃ prior, Passes guestId system.sessions request system.now prior ∧
      system.reconnected guestId request = { system with rows := system.rows ++
        [⟨createSession guestId system.rows.length (carriedForward prior request) system.now,
          some prior.id, 0, 0⟩] } := by
  unfold System.reconnected
  split
  · rename_i prior session continued
    obtain ⟨passes, rfl⟩ := (reconnect_continued guestId _ _ _ _ _).mp continued
    refine Or.inr ⟨prior, passes, ?_⟩
    simp [System.sessions]
  · exact Or.inl rfl

theorem kept_step (system next : System) (action : Action) (kept : Kept system)
    (stepped : step guestId computePeriodStart system action = some next) : Kept next := by
  cases action with
  | signIn signIn =>
      simp only [step] at stepped
      split at stepped
      · cases stepped
        exact kept
      · cases stepped
        rcases signedIn_cases guestId kept signIn with
          ⟨place, row, stored, active, -, -, same⟩ | ⟨-, same⟩
        · rw [same]
          refine kept_replaced kept stored rfl ?_
          intro terminal
          have running : row.session.status = .active := of_decide_eq_true active
          simp [Row.reused, reuseSession, running, isTerminal, GuestTeams.guestSessionStatusTransitions]
            at terminal
        · rw [same]
          exact kept_appended guestId kept signIn none
  | operate place operation =>
      obtain ⟨row, stored, operated⟩ := Option.map_eq_some_iff.mp stepped
      split at operated
      · rename_i admitted
        subst operated
        refine kept_replaced kept stored rfl ?_
        exact operated_ended row operation system.now admitted
          (kept.ended row (List.mem_of_getElem? stored))
      · subst operated
        exact kept
  | reconnect request =>
      cases stepped
      rcases reconnected_cases guestId system request with same | ⟨prior, -, same⟩
      · rw [same]
        exact kept
      · rw [same]
        exact kept_appended guestId kept _ _
  | fup fup =>
      cases stepped
      exact ⟨kept.ids, kept.ended⟩
  | elapse duration =>
      cases stepped
      exact ⟨kept.ids, kept.ended⟩

/-! ### The cooldown -/

def System.isCoolingDown (system : System) : Prop :=
  ∃ row ∈ system.rows, row.session.status = .terminated ∧ ∃ endedAt,
    row.session.endedAt = some endedAt ∧
      system.now < endedAt + minutes TERMINATION_RECONNECT_COOLDOWN_MINUTES

theorem cooldown_kept {system : System} (kept : Kept system) (cooling : system.isCoolingDown) :
    (terminationCooldown system.sessions system.now).isSome = true := by
  obtain ⟨row, member, status, endedAt, told, within⟩ := cooling
  have listed : row.session ∈ system.sessions.filter fun session => session.status = .terminated := by
    refine List.mem_filter.mpr ⟨List.mem_map_of_mem member, ?_⟩
    exact decide_eq_true status
  have dated : ∀ session ∈ system.sessions.filter fun session => session.status = .terminated,
      session.endedAt.isSome = true := by
    intro session among
    obtain ⟨held, terminated⟩ := List.mem_filter.mp among
    obtain ⟨other, stored, rfl⟩ := List.mem_map.mp held
    refine kept.ended other stored ?_
    rw [of_decide_eq_true terminated]
    rfl
  have undated : (system.sessions.filter fun session => session.status = .terminated).find?
      (fun session => session.endedAt.isNone) = none := by
    refine List.find?_eq_none.mpr fun session among => ?_
    have known := dated session among
    simp [Option.isSome_iff_ne_none.mp known]
  unfold terminationCooldown getLatestTerminatedSessionForGuest
  dsimp only
  rw [undated, Option.none_or]
  cases found : (sortDescending (fun session : GuestSession => session.endedAt.getD 0)
      (system.sessions.filter fun session => session.status = .terminated)).head? with
  | none =>
      have empty := List.head?_eq_none_iff.mp found
      have present := (mem_sortOn (fun session : GuestSession =>
        OrderDual.toDual (session.endedAt.getD 0)) _ _).mpr listed
      rw [← sortDescending, empty] at present
      exact absurd present List.not_mem_nil
  | some latest =>
      have greatest := head_sortDescending found
      have above := greatest.above row.session listed
      obtain ⟨last, lastTold⟩ := Option.isSome_iff_exists.mp (dated latest greatest.holds)
      rw [told, lastTold, Option.getD_some, Option.getD_some] at above
      have still : system.now < last + minutes TERMINATION_RECONNECT_COOLDOWN_MINUTES := by omega
      simp [lastTold, still]

/-! ### What is passed on -/

/-- A session that another was made from has ended, and left all of its limits, or a part. -/
structure Spent (older newer : Row) : Prop where
  ended : isTerminal older.session.status = true
  untimed : older.session.sessionTimeoutMinutes = none
  data : ∀ limit, older.session.dataLimitMb = some limit → older.session.totalBytes = 0 ∧
    ∃ less, newer.session.dataLimitMb = some less ∧ less ≤ limit

def Within (row : Row) : Prop :=
  ∀ limit, row.session.dataLimitMb = some limit →
    row.session.totalBytes ≤ limit * BYTES_PER_MB + row.lastReport

structure Sound (system : System) : Prop where
  within : ∀ row ∈ system.rows, Within row
  links : Linked Row.continues Spent system.rows

theorem lineage_bounded {rows : List Row} (within : ∀ row ∈ rows, Within row)
    (links : Linked Row.continues Spent rows) : Entitled rows := by
  intro first last lineage path
  -- with a data limit only the last session has bytes; a time limit stands alone
  let Holds : Row → Row → List Row → Prop := fun older newer chain =>
    (∀ limit, older.session.dataLimitMb = some limit →
      (∃ less, newer.session.dataLimitMb = some less ∧ less ≤ limit) ∧
      (chain.map fun row => row.session.totalBytes).sum = newer.session.totalBytes) ∧
    (older.session.sessionTimeoutMinutes = none ∨ older = newer ∧ chain = [newer])
  have single : ∀ row, Holds row row [row] := by
    intro row
    refine ⟨fun limit capped => ⟨⟨limit, capped, le_refl limit⟩, ?_⟩, Or.inr ⟨rfl, rfl⟩⟩
    simp
  have next : ∀ older newer row chain, Holds older newer chain → Spent newer row →
      Holds older row (chain ++ [row]) := by
    rintro older newer row chain ⟨data, time⟩ spent
    constructor
    · intro limit capped
      obtain ⟨⟨less, lessCapped, smaller⟩, whole⟩ := data limit capped
      obtain ⟨unused, least, leastCapped, smallest⟩ := spent.data less lessCapped
      refine ⟨⟨least, leastCapped, smallest.trans smaller⟩, ?_⟩
      rw [List.map_append, List.sum_append, whole, unused]
      simp
    · rcases time with untimed | ⟨rfl, -⟩
      · exact Or.inl untimed
      · exact Or.inl spent.untimed
  obtain ⟨older, newer, storedFirst, storedLast, data, time⟩ := path.induct links single next
  refine ⟨older, newer, storedFirst, storedLast, ?_, ?_⟩
  · intro limit capped
    obtain ⟨⟨less, lessCapped, smaller⟩, whole⟩ := data limit capped
    have own := within newer (List.mem_of_getElem? storedLast) less lessCapped
    have bytes := Nat.mul_le_mul_right BYTES_PER_MB smaller
    omega
  · intro limit timed
    rcases time with untimed | ⟨rfl, rfl⟩
    · rw [untimed] at timed
      cases timed
    · exact ⟨limit, timed, by simp⟩

/-! ### Calm steps -/

theorem sound_appended {system : System} (sound : Sound system) (signIn : SignIn)
    {continues : Option Nat}
    (new : ∀ prior, continues = some prior → ∃ older, system.rows[prior]? = some older ∧
      Spent older ⟨createSession guestId system.rows.length signIn system.now, continues, 0, 0⟩) :
    Sound { system with rows := system.rows ++
      [⟨createSession guestId system.rows.length signIn system.now, continues, 0, 0⟩] } := by
  constructor
  · exact Calls.each_started sound.within fun limit _ => Nat.zero_le _
  · exact linked_appended sound.links new

theorem sound_reused {system : System} (sound : Sound system) {place : Nat} {row : Row}
    (stored : system.rows[place]? = some row) (active : row.session.isActive = true)
    (signIn : SignIn) (fitting : isFitting row signIn = true) :
    Sound { system with
      rows := system.rows.set place (row.reused row.session signIn system.now) } := by
  have granted : (row.reused row.session signIn system.now).session.dataLimitMb =
      signIn.dataLimitMb := Calls.flushed_held _ _
  simp only [isFitting, Bool.and_eq_true, Bool.or_eq_true] at fitting
  obtain ⟨fits, inherited⟩ := fitting
  constructor
  · refine Calls.each_continued sound.within place ?_
    intro limit capped
    rw [granted] at capped
    rw [capped, Option.all_some] at fits
    exact of_decide_eq_true fits
  · refine linked_replaced sound.links stored rfl ?_ ?_
    · intro newer _ _ spent
      have ended := spent.ended
      rw [of_decide_eq_true active] at ended
      cases ended
    · intro older continued spent
      refine ⟨spent.ended, spent.untimed, ?_⟩
      intro limit capped
      obtain ⟨unused, less, lessCapped, smaller⟩ := spent.data limit capped
      have fewer := inherited.resolve_left (by simp [Option.isSome_iff_ne_none.mp continued])
      rw [lessCapped, Option.all_some] at fewer
      cases given : signIn.dataLimitMb with
      | none =>
          rw [given] at fewer
          cases fewer
      | some least =>
          rw [given, Option.any_some] at fewer
          exact ⟨unused, least, granted.trans given, (of_decide_eq_true fewer).trans smaller⟩

theorem reported_within {recorded reached cap : Nat} (room : recorded < cap) (last : Nat) :
    reached ≤ cap + if reached - recorded = 0 then last else reached - recorded := by
  split
  · omega
  · omega

theorem sound_operated {system : System} (sound : Sound system) {place : Nat} {row : Row}
    (stored : system.rows[place]? = some row) (operation : Operation)
    (admitted : operation.admits row.session system.now = true)
    (fair : totalAfter row.session operation ≤ row.session.totalBytes ∨
      row.session.dataLimitMb = none ∨
        isQuotaExceeded row.session = false ∧ system.isLast place = true) :
    Sound { system with rows := system.rows.set place (row.operated operation system.now) } := by
  have bytes := operated_bytes row operation system.now
  have capped : (row.operated operation system.now).session.dataLimitMb =
      row.session.dataLimitMb := rfl
  constructor
  · refine Calls.each_continued sound.within place ?_
    intro limit own
    rw [capped] at own
    have before := sound.within row (List.mem_of_getElem? stored) limit own
    rw [bytes]
    dsimp only [Row.operated]
    rcases fair with none | unlimited | ⟨under, -⟩
    · rw [if_pos (Nat.sub_eq_zero_of_le none)]
      exact none.trans before
    · rw [unlimited] at own
      cases own
    · -- the report that takes a session past its cap is what it is past it at most
      have room : row.session.totalBytes < limit * BYTES_PER_MB := by
        rw [isQuotaExceeded, own, Option.any_some] at under
        exact Nat.lt_of_not_le (of_decide_eq_false under)
      exact reported_within room _
  · refine linked_replaced sound.links stored rfl ?_ ?_
    · intro newer member continued spent
      obtain ⟨status, timeout⟩ := operated_terminal row operation system.now spent.ended admitted
      refine ⟨by rw [status]; exact spent.ended, timeout.trans spent.untimed, ?_⟩
      intro limit own
      obtain ⟨unused, fewer⟩ := spent.data limit own
      refine ⟨?_, fewer⟩
      rw [bytes]
      rcases fair with none | unlimited | ⟨-, last⟩
      · rw [unused] at none
        exact Nat.le_zero.mp none
      · rw [capped, unlimited] at own
        cases own
      · have other := List.all_eq_true.mp last newer member
        simp [continued] at other
    · intro older _ spent
      exact ⟨spent.ended, spent.untimed, spent.data⟩

theorem untouched_spent {prior : Row} {request : Request} {place : Nat} {now : Int}
    (ended : prior.session.isActive = false) (unpaused : prior.session.status ≠ .paused)
    (untouched : isUntouched prior.session = true) (continues : Option Nat) :
    Spent prior
      ⟨createSession guestId place (carriedForward prior.session request) now, continues, 0, 0⟩ := by
  simp only [isUntouched, Bool.and_eq_true] at untouched
  refine ⟨?_, Option.isNone_iff_eq_none.mp untouched.1, ?_⟩
  · cases status : prior.session.status with
    | active => simp [GuestSession.isActive, status] at ended
    | paused => exact absurd status unpaused
    | disconnected => rfl
    | expired => rfl
    | terminated => rfl
  · intro limit capped
    have unused := untouched.2
    rw [capped, Option.all_some] at unused
    exact ⟨of_decide_eq_true unused, limit, capped, le_refl limit⟩

theorem calm_reconnect {system : System} {request : Request} {prior : GuestSession}
    (calmly : calm guestId computePeriodStart system (.reconnect request) = true)
    (passes : Passes guestId system.sessions request system.now prior) :
    prior.status ≠ .paused ∧ isUntouched prior = true ∧
      isRefusedForFup (system.quota computePeriodStart) = false := by
  simp only [calm, passes.latest, Option.all_some, passes.ended, passes.unblocked, passes.cooled,
    passes.recent, passes.unrefused, Option.isSome_none, Bool.false_or, Bool.or_false,
    Bool.and_eq_true, Bool.not_eq_true', decide_eq_true_eq] at calmly
  exact ⟨calmly.1.1, calmly.1.2, calmly.2⟩

theorem sound_step (system next : System) (action : Action) (kept : Kept system)
    (sound : Sound system) (calmly : calm guestId computePeriodStart system action = true)
    (stepped : step guestId computePeriodStart system action = some next) : Sound next := by
  cases action with
  | signIn signIn =>
      simp only [step] at stepped
      split at stepped
      · cases stepped
        exact sound
      · cases stepped
        rcases signedIn_cases guestId kept signIn with
          ⟨place, row, stored, active, here, reusable, same⟩ | ⟨-, same⟩
        · rw [same]
          refine sound_reused sound stored active signIn ?_
          rw [calm, reusable] at calmly
          dsimp only at calmly
          rwa [here, stored, Option.all_some] at calmly
        · rw [same]
          exact sound_appended guestId sound signIn fun _ none => by cases none
  | operate place operation =>
      obtain ⟨row, stored, operated⟩ := Option.map_eq_some_iff.mp stepped
      split at operated
      · rename_i admitted
        subst operated
        refine sound_operated sound stored operation admitted ?_
        simp only [calm, stored, Option.all_some, Bool.or_eq_true, Bool.and_eq_true,
          Bool.not_eq_true', decide_eq_true_eq, Option.isNone_iff_eq_none] at calmly
        rwa [or_assoc] at calmly
      · subst operated
        exact sound
  | reconnect request =>
      cases stepped
      rcases reconnected_cases guestId system request with same | ⟨prior, passes, same⟩
      · rw [same]
        exact sound
      · obtain ⟨unpaused, untouched, -⟩ := calm_reconnect guestId computePeriodStart calmly passes
        obtain ⟨row, stored, rfl⟩ := kept_place kept (latest_mem guestId passes.latest)
        rw [same]
        refine sound_appended guestId sound _ ?_
        rintro place ⟨⟩
        exact ⟨row, stored, untouched_spent guestId passes.ended unpaused untouched _⟩
  | fup fup =>
      cases stepped
      exact ⟨sound.within, sound.links⟩
  | elapse duration =>
      cases stepped
      exact ⟨sound.within, sound.links⟩

/-! ### What a reconnect may not do -/

/-- The guest's latest session is paused, or a fresh sign-in would be refused for the quota. -/
def System.isBarred (system : System) : Prop :=
  (∃ prior, getLatestSessionForGuest ⟨system.sessions, []⟩ guestId = some prior ∧
    prior.status = .paused) ∨
  isRefusedForFup (system.quota computePeriodStart) = true

theorem cooling_keeps {system : System} (kept : Kept system) (request : Request)
    (cooling : system.isCoolingDown) : system.reconnected guestId request = system := by
  rcases reconnected_cases guestId system request with same | ⟨prior, passes, -⟩
  · exact same
  · have refused := cooldown_kept kept cooling
    rw [passes.cooled] at refused
    cases refused

theorem barred_keeps {system : System} (request : Request)
    (calmly : calm guestId computePeriodStart system (.reconnect request) = true)
    (barred : system.isBarred guestId computePeriodStart) :
    system.reconnected guestId request = system := by
  rcases reconnected_cases guestId system request with same | ⟨prior, passes, -⟩
  · exact same
  · obtain ⟨unpaused, -, unrefused⟩ := calm_reconnect guestId computePeriodStart calmly passes
    rcases barred with ⟨latest, found, paused⟩ | refused
    · obtain rfl := Option.some.inj (found.symm.trans passes.latest)
      exact absurd paused unpaused
    · rw [unrefused] at refused
      cases refused

theorem kept_reached {admitted : System → Action → Prop} (fup : Fup) (now : Int) (system : System)
    (reached : Reached (step guestId computePeriodStart) admitted (System.started fup now) system) :
    Kept system := by
  refine Reached.invariant Kept (kept_started fup now) ?_ reached
  intro state action next kept _ stepped
  exact kept_step guestId computePeriodStart state next action kept stepped

theorem entitled_reached (fup : Fup) (now : Int) (system : System)
    (reached : Reached (step guestId computePeriodStart)
      (fun system action => calm guestId computePeriodStart system action = true)
      (System.started fup now) system) : Entitled system.rows := by
  have both : Kept system ∧ Sound system := by
    refine Reached.invariant (fun state => Kept state ∧ Sound state)
      ⟨kept_started fup now, by simp [System.started], by simp [System.started, Linked]⟩ ?_ reached
    rintro state action next ⟨kept, sound⟩ calmly stepped
    exact ⟨kept_step guestId computePeriodStart state next action kept stepped,
      sound_step guestId computePeriodStart state next action kept sound calmly stepped⟩
  exact lineage_bounded both.2.within both.2.links

def Cooled (taken : Taken System Action) : Prop :=
  ∀ request, taken.action = .reconnect request → taken.before.isCoolingDown →
    taken.after.rows = taken.before.rows

/-- Nor while the guest's latest session is paused, or the quota is used up. -/
def Unbarred (taken : Taken System Action) : Prop :=
  ∀ request, taken.action = .reconnect request →
    taken.before.isBarred guestId computePeriodStart → taken.after.rows = taken.before.rows

/-- No run leaves the cooldown early. In a calm one, what is recorded and granted along reconnects
keeps within the first session's limits, and no reconnect is made of a paused session, or while a
sign-in would be refused for the quota. -/
theorem entitlement_continued (fup : Fup) (now : Int) :
    (∀ trace final, Traced (step guestId computePeriodStart) (fun _ _ => True)
        (System.started fup now) trace final → ∀ taken ∈ trace, Cooled taken) ∧
    ∀ trace final, Traced (step guestId computePeriodStart)
        (fun system action => calm guestId computePeriodStart system action = true)
        (System.started fup now) trace final →
      Entitled final.rows ∧ ∀ taken ∈ trace, Unbarred guestId computePeriodStart taken := by
  constructor
  · intro trace final traced
    refine Traced.always Cooled ?_ traced
    rintro state action next reached - stepped request rfl cooling
    cases stepped
    have kept := kept_reached guestId computePeriodStart fup now state reached
    rw [cooling_keeps guestId kept request cooling]
  · intro trace final traced
    refine ⟨entitled_reached guestId computePeriodStart fup now final traced.reached, ?_⟩
    refine Traced.always (Unbarred guestId computePeriodStart) ?_ traced
    rintro state action next - calmly stepped request rfl barred
    cases stepped
    rw [barred_keeps guestId computePeriodStart request calmly barred]

section Executed

def welcome : Request := ⟨false, .answered true true, 1, true, none, true, none⟩

def signedIn (dataLimitMb sessionTimeoutMinutes : Option Nat) : SignIn :=
  ⟨1, false, some 1, .otpSms, none, none, dataLimitMb, sessionTimeoutMinutes, none⟩

def unlimited : Fup := ⟨false, .unwired, fun _ => none⟩
def usedUp : Fup :=
  ⟨false, .answered ⟨fun period => if period = .daily then some 1 else none, fun _ => none⟩,
    fun _ => some ⟨0, 1048576, 0, none⟩⟩

def report (bytes : Int) : Operation := .recordUsage bytes 0 ⟨none, false, false, false⟩

def fromStart : QuotaPeriodType → Int → Int := fun _ _ => 0

/-- A session that ended unused is continued, and keeps to its one megabyte; and a reconnect right
after a termination makes none. -/
theorem entitlement_continued_unused :
    (∃ trace final, Traced (step 1 fromStart)
        (fun system action => calm 1 fromStart system action = true)
        (System.started unlimited 0) trace final ∧
      final.rows.map (fun row => row.session.totalBytes) = [0, 1200000] ∧
      final.rows.map Row.continues = [none, some 0] ∧
      final.rows.map (fun row => row.session.status) = [.disconnected, .expired] ∧
      Entitled final.rows ∧ ∀ taken ∈ trace, Unbarred 1 fromStart taken) ∧
    ∃ trace final, Traced (step 1 fromStart) (fun _ _ => True) (System.started unlimited 0) trace
        final ∧
      final.rows.map (fun row => row.session.status) = [.terminated] ∧
      ∀ taken ∈ trace, Cooled taken := by
  constructor
  · obtain ⟨system, reached, seen⟩ := run_observed (step 1 fromStart) (System.started unlimited 0)
      (calm 1 fromStart)
      (fun system => system.rows.map (fun row => row.session.totalBytes) = [0, 1200000] &&
        system.rows.map Row.continues = [none, some 0] &&
        system.rows.map (fun row => row.session.status) = [.disconnected, .expired])
      (fun _ _ checked => checked)
      [.signIn (signedIn (some 1) none), .operate 0 (.disconnect none), .elapse 300000000,
        .reconnect welcome, .operate 1 (report 600000), .operate 1 (report 600000)]
      (by decide +kernel)
    obtain ⟨trace, traced⟩ := reached.traced
    simp only [Bool.and_eq_true, decide_eq_true_eq] at seen
    have held := (entitlement_continued 1 fromStart unlimited 0).2 trace system traced
    exact ⟨trace, system, traced, seen.1.1, seen.1.2, seen.2, held.1, held.2⟩
  · obtain ⟨system, reached, seen⟩ := run_observed (step 1 fromStart) (System.started unlimited 0)
      (fun _ _ => true)
      (fun system => system.rows.map (fun row => row.session.status) = [.terminated])
      (fun _ _ _ => trivial)
      [.signIn (signedIn none none), .operate 0 (.terminate none), .elapse 300000000,
        .reconnect welcome] (by decide +kernel)
    obtain ⟨trace, traced⟩ := reached.traced
    have held := (entitlement_continued 1 fromStart unlimited 0).1 trace system traced
    exact ⟨trace, system, traced, of_decide_eq_true seen, held⟩

/-- One megabyte and 30 minutes are granted again after they are used up; a paused session is
continued; and so is one whose guest has used up the day's quota. -/
theorem entitlement_renewed :
    (∃ system, Reached (step 1 fromStart) (fun _ _ => True) (System.started unlimited 0) system ∧
      ∃ older newer, system.rows = [older, newer] ∧ newer.continues = some 0 ∧
        older.session.dataLimitMb = some 1 ∧ newer.lastReport = 1 ∧
        older.session.totalBytes + newer.session.totalBytes = 2 * BYTES_PER_MB ∧
        older.session.sessionTimeoutMinutes = some 30 ∧
        newer.session.sessionTimeoutMinutes = some 30 ∧
        older.session.startedAt < newer.session.startedAt ∧ ¬ Entitled system.rows) ∧
    (∃ system next, Reached (step 1 fromStart) (fun _ _ => True) (System.started unlimited 0) system ∧
      step 1 fromStart system (.reconnect welcome) = some next ∧
      system.isBarred 1 fromStart ∧ next.rows.length = system.rows.length + 1) ∧
    ∃ system next, Reached (step 1 fromStart) (fun _ _ => True) (System.started unlimited 0) system ∧
      step 1 fromStart system (.reconnect welcome) = some next ∧
      isRefusedForFup (system.quota fromStart) = true ∧
      next.rows.length = system.rows.length + 1 := by
  refine ⟨?_, ?_, ?_⟩
  · obtain ⟨system, reached, seen⟩ := run_observed (step 1 fromStart) (System.started unlimited 0)
      (fun _ _ => true)
      (fun system => system.rows.length = 2 &&
        (system.rows[0]?.any fun older => system.rows[1]?.any fun newer =>
          newer.continues = some 0 && older.session.dataLimitMb = some 1 &&
            newer.lastReport = 1 &&
            older.session.totalBytes + newer.session.totalBytes = 2 * BYTES_PER_MB &&
            older.session.sessionTimeoutMinutes = some 30 &&
            newer.session.sessionTimeoutMinutes = some 30 &&
            older.session.startedAt < newer.session.startedAt))
      (fun _ _ _ => trivial)
      [.signIn (signedIn (some 1) (some 30)), .operate 0 (report 1048576), .elapse 60000000,
        .reconnect welcome, .operate 1 (report 1048575), .operate 1 (report 1)] (by decide +kernel)
    rw [Bool.and_eq_true, decide_eq_true_eq] at seen
    obtain ⟨two, held⟩ := seen
    obtain ⟨older, newer, rows⟩ := List.length_eq_two.mp two
    simp only [rows, List.getElem?_cons_zero, List.getElem?_cons_succ, Option.any_some,
      Bool.and_eq_true, decide_eq_true_eq] at held
    obtain ⟨⟨⟨⟨⟨⟨continues, data⟩, report⟩, bytes⟩, time⟩, again⟩, began⟩ := held
    refine ⟨system, reached, older, newer, rows, continues, data, report, bytes, time, again,
      began, ?_⟩
    intro entitled
    have lineage : Lineage Row.continues system.rows 0 1 ([older] ++ [newer]) :=
      .next (.single (by rw [rows]; rfl)) (by rw [rows]; rfl) continues
    obtain ⟨first, last, storedFirst, storedLast, bounded⟩ := entitled 0 1 _ lineage
    rw [rows] at storedFirst storedLast
    obtain rfl := Option.some.inj storedFirst
    obtain rfl := Option.some.inj storedLast
    have within := bounded.bytes 1 data
    have whole : (([older] ++ [newer]).map fun row => row.session.totalBytes).sum =
        older.session.totalBytes + newer.session.totalBytes := by simp
    rw [whole, bytes, report] at within
    exact absurd within (by decide)
  · obtain ⟨system, reached, seen⟩ := run_observed (step 1 fromStart) (System.started unlimited 0)
      (fun _ _ => true)
      (fun system => (getLatestSessionForGuest ⟨system.sessions, []⟩ 1).any (·.status = .paused) &&
        (system.reconnected 1 welcome).rows.length = system.rows.length + 1)
      (fun _ _ _ => trivial)
      [.signIn (signedIn none none), .operate 0 (.pause none)] (by decide +kernel)
    simp only [Bool.and_eq_true, decide_eq_true_eq] at seen
    refine ⟨system, _, reached, rfl, Or.inl ?_, seen.2⟩
    cases found : getLatestSessionForGuest ⟨system.sessions, []⟩ 1 with
    | none =>
        rw [found] at seen
        cases seen.1
    | some prior =>
        rw [found, Option.any_some] at seen
        exact ⟨prior, rfl, of_decide_eq_true seen.1⟩
  · obtain ⟨system, reached, seen⟩ := run_observed (step 1 fromStart) (System.started unlimited 0)
      (fun _ _ => true)
      (fun system => isRefusedForFup (system.quota fromStart) &&
        (system.reconnected 1 welcome).rows.length = system.rows.length + 1)
      (fun _ _ _ => trivial)
      [.signIn (signedIn none none), .operate 0 (.disconnect none), .fup usedUp]
      (by decide +kernel)
    simp only [Bool.and_eq_true, decide_eq_true_eq] at seen
    exact ⟨system, _, reached, rfl, seen.1, seen.2⟩

end Executed

end CloudGuest.Reconnects
