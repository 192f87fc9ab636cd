import CloudGuest.GuestTeams.Teams
import CloudGuest.Library.Texts

/-!
Guest sessions (guest/models.py, guest/validators.py): the row, its limits, and
when a session counts as stale. Ints are microseconds on one clock, and elapsed
minutes are compared exactly. Columns that nothing here reads are left out.
-/

namespace CloudGuest.Guest
open GuestTeams (GuestSessionStatus guestSessionStatusTransitions)
open Texts

def BYTES_PER_MB : Nat := 1024 * 1024
def DEFAULT_IDLE_TIMEOUT_MINUTES : Nat := 30
def SESSION_ACTIVITY_GRACE_MINUTES : Nat := 10
def RECONNECT_GRACE_MINUTES : Nat := 30
def TERMINATION_RECONNECT_COOLDOWN_MINUTES : Nat := 60
def RADIUS_ACCOUNTING_DEVICE_MATCH_SCAN_LIMIT : Nat := 20

inductive GuestAuthMethod where
  | otpSms | otpEmail | otpWhatsapp | voucher | usernamePassword | macWhitelist | pin
  deriving DecidableEq

def minutes (count : Nat) : Int := count * 60000000

structure GuestSession where
  id : Nat
  guestId : Nat
  deviceId : Option Nat
  routerId : Nat
  authMethod : GuestAuthMethod
  voucherId : Option Nat
  status : GuestSessionStatus
  startedAt : Int
  endedAt : Option Int
  lastActivityAt : Int
  ipAddress : Option Text
  bytesUploaded : Nat
  bytesDownloaded : Nat
  dataLimitMb : Option Nat
  sessionTimeoutMinutes : Option Nat
  idleTimeoutMinutes : Option Nat
  disconnectReason : Option Text
  deriving DecidableEq

def GuestSession.isActive (session : GuestSession) : Bool := session.status = .active

def GuestSession.totalBytes (session : GuestSession) : Nat :=
  session.bytesUploaded + session.bytesDownloaded

def isQuotaExceeded (session : GuestSession) : Bool :=
  session.dataLimitMb.any fun limit => limit * BYTES_PER_MB ≤ session.totalBytes

def isTerminal (status : GuestSessionStatus) : Bool := guestSessionStatusTransitions status = []

def validateSessionStatusTransition (current target : GuestSessionStatus) : Bool :=
  target ∈ guestSessionStatusTransitions current

/-! ### Limits in time -/

def sessionIdleCutoffMinutes (session : GuestSession) : Nat :=
  match session.idleTimeoutMinutes, session.sessionTimeoutMinutes with
  | some idle, some limit => min idle limit
  | some idle, none => idle
  | none, some limit => limit
  | none, none => DEFAULT_IDLE_TIMEOUT_MINUTES

def isSessionTimedOut (session : GuestSession) (now : Int) : Bool :=
  minutes (sessionIdleCutoffMinutes session + SESSION_ACTIVITY_GRACE_MINUTES) ≤
    now - session.lastActivityAt

def hasSessionOverrunTimeLimit (session : GuestSession) (now : Int) : Bool :=
  session.sessionTimeoutMinutes.any fun limit =>
    minutes (limit + SESSION_ACTIVITY_GRACE_MINUTES) ≤ now - session.startedAt

def isSessionStale (session : GuestSession) (now : Int) (activityIsObservable : Bool) : Bool :=
  if activityIsObservable then
    isSessionTimedOut session now || hasSessionOverrunTimeLimit session now
  else hasSessionOverrunTimeLimit session now

def hasSessionReachedTimeLimit (session : GuestSession) (now : Int) : Bool :=
  session.sessionTimeoutMinutes.any fun limit => minutes limit ≤ now - session.startedAt

def isListedTimedOut (session : GuestSession) (now : Int) : Bool :=
  let idleExpired := session.lastActivityAt +
    minutes (sessionIdleCutoffMinutes session + SESSION_ACTIVITY_GRACE_MINUTES) < now
  let timeLimitOverrun := session.sessionTimeoutMinutes.any fun limit =>
    session.startedAt + minutes (limit + SESSION_ACTIVITY_GRACE_MINUTES) < now
  session.isActive && (idleExpired || timeLimitOverrun)

structure RouterActivityRead where
  applies : Bool
  readAt : Option Int
  deriving DecidableEq

def idleVerdictIsEvidenced (session : GuestSession) : Option RouterActivityRead → Bool
  | none => true
  | some read =>
      if !read.applies then true
      else if 0 < session.totalBytes then true
      else read.readAt.any fun readAt =>
        session.lastActivityAt + minutes (sessionIdleCutoffMinutes session) ≤ readAt

theorem minutes_le {less more : Nat} (le : less ≤ more) : minutes less ≤ minutes more := by
  unfold minutes
  omega

theorem minutes_pos (count : Nat) : 0 < minutes count ↔ count ≠ 0 := by
  unfold minutes
  omega

theorem reached_later {session : GuestSession} {now later : Int} (passed : now ≤ later)
    (reached : hasSessionReachedTimeLimit session now = true) :
    hasSessionReachedTimeLimit session later = true := by
  unfold hasSessionReachedTimeLimit at reached ⊢
  cases limit : session.sessionTimeoutMinutes with
  | none => simp [limit] at reached
  | some count =>
      simp only [limit, Option.any_some, decide_eq_true_eq] at reached ⊢
      omega

end CloudGuest.Guest
