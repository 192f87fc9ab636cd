import CloudGuest.Guest.Sessions

/-!
What the writers of a guest session write (guest/service.py). Each reads the row,
checks it, and names some columns of it in an UPDATE. What a transaction writes
after its first UPDATE it writes under that row's lock, so an operation's updates
are one.

What the venue, the FUP tracker, the router and the cloud answer on the way are
arguments of the operations. Audit rows, logging and packets to the router are left out.
-/

namespace CloudGuest.Guest
open Texts
open GuestTeams (GuestSessionStatus guestSessionStatusTransitions)

structure Update where
  status : Option GuestSessionStatus := none
  endedAt : Option Int := none
  lastActivityAt : Option Int := none
  bytesUploaded : Option Nat := none
  bytesDownloaded : Option Nat := none
  sessionTimeoutMinutes : Option Nat := none
  disconnectReason : Option (Option Text) := none

def updateSession (row : GuestSession) (update : Update) : GuestSession :=
  { row with
    status := update.status.getD row.status
    endedAt := update.endedAt.or row.endedAt
    lastActivityAt := update.lastActivityAt.getD row.lastActivityAt
    bytesUploaded := update.bytesUploaded.getD row.bytesUploaded
    bytesDownloaded := update.bytesDownloaded.getD row.bytesDownloaded
    sessionTimeoutMinutes := update.sessionTimeoutMinutes.or row.sessionTimeoutMinutes
    disconnectReason := update.disconnectReason.getD row.disconnectReason }

/-- What `record_usage` is told beside its deltas: the period `_track_fup_data_usage` found used up,
whether the router is NAS-only, whether a worker is asked to cut the guest off there, and else
whether the cloud confirmed it. -/
structure UsageAnswers where
  violatedFupPeriod : Option Text
  isNasOnly : Bool
  isDispatched : Bool
  endedViaCloud : Bool
  deriving DecidableEq

/-- What the sweep is told about a session's venue and router. -/
structure ActivityAnswers where
  isReported : Bool
  read : Option RouterActivityRead
  deriving DecidableEq

inductive Operation where
  | disconnect (reason : Option Text)
  | terminate (reason : Option Text)
  | pause (reason : Option Text)
  | resume
  | extend (additionalMinutes : Int)
  | recordUsage (uploadedDelta downloadedDelta : Int) (answers : UsageAnswers)
  | accountingStop (uploadedTotal downloadedTotal : Option Nat) (isNasOnly : Bool)
      (disconnectReason : Option Text)
  | enforceTimeouts (answers : ActivityAnswers)
  | closeForNasRestart (reason : Text)
  deriving DecidableEq

def ActivityAnswers.observable (answers : ActivityAnswers) (session : GuestSession) : Bool :=
  answers.isReported && idleVerdictIsEvidenced session answers.read

def Operation.admits (found : GuestSession) (now : Int) : Operation → Bool
  | .disconnect _ => validateSessionStatusTransition found.status .disconnected
  | .terminate _ => validateSessionStatusTransition found.status .terminated
  | .pause _ => validateSessionStatusTransition found.status .paused
  | .resume => validateSessionStatusTransition found.status .active
  | .extend additionalMinutes =>
      0 < additionalMinutes && (found.status = .active || found.status = .paused)
  | .recordUsage _ _ _ => found.isActive
  | .accountingStop uploadedTotal downloadedTotal _ _ =>
      uploadedTotal.isSome || downloadedTotal.isSome || found.isActive
  | .enforceTimeouts answers =>
      isListedTimedOut found now && isSessionStale found now (answers.observable found)
  | .closeForNasRestart _ => found.isActive

def Update.ending (update : Update) (status : GuestSessionStatus) (now : Int)
    (reason : Option Text) : Update :=
  { update with status := some status, endedAt := some now, disconnectReason := some reason }

def recordUsageUpdate (found row : GuestSession) (uploadedDelta downloadedDelta : Int)
    (answers : UsageAnswers) (now : Int) : Update :=
  let usage : Update :=
    { bytesUploaded := some (found.bytesUploaded + uploadedDelta.toNat)
      bytesDownloaded := some (found.bytesDownloaded + downloadedDelta.toNat)
      lastActivityAt := some now }
  let sessionCapReached := isQuotaExceeded (updateSession row usage)
  let reason :=
    if sessionCapReached then some "data_limit_exceeded".toList
    else answers.violatedFupPeriod.map ("fup_data_quota_exceeded_".toList ++ ·)
  let expiry := usage.ending .expired now reason
  if (sessionCapReached || answers.violatedFupPeriod.isSome) && answers.isNasOnly then
    if answers.isDispatched then usage
    else if answers.endedViaCloud then expiry
    else usage
  else if sessionCapReached || answers.violatedFupPeriod.isSome then expiry
  else usage

def accountingStopTotals (found : GuestSession) (uploadedTotal downloadedTotal : Option Nat)
    (isNasOnly : Bool) : Update :=
  let kept (total recorded : Nat) := if isNasOnly then max total recorded else total
  { bytesUploaded := uploadedTotal.map fun total => kept total found.bytesUploaded
    bytesDownloaded := downloadedTotal.map fun total => kept total found.bytesDownloaded }

def accountingStopUpdate (found row : GuestSession) (uploadedTotal downloadedTotal : Option Nat)
    (isNasOnly : Bool) (disconnectReason : Option Text) (now : Int) : Update :=
  -- `accounting_stop`: the totals, and the end of a session that is still ACTIVE: by the row as
  -- the totals' UPDATE returned it, or as it was read if there were none.
  let totals := accountingStopTotals found uploadedTotal downloadedTotal isNasOnly
  let session :=
    if uploadedTotal.isSome || downloadedTotal.isSome then updateSession row totals else found
  let reason := match disconnectReason with
    | some (char :: rest) => char :: rest
    | _ => "radius_accounting_stop".toList
  if session.isActive then totals.ending .disconnected now (some reason) else totals

/-- What an operation writes that read `found` at `readAt` and finds `row` at its UPDATE. -/
def Operation.update (found : GuestSession) (readAt : Int) (row : GuestSession) (now : Int) :
    Operation → Update
  | .disconnect reason => Update.ending {} .disconnected now reason
  | .terminate reason => Update.ending {} .terminated now reason
  | .pause reason => { status := some .paused, disconnectReason := some reason }
  | .resume =>
      { status := some .active, disconnectReason := some none, lastActivityAt := some now }
  | .extend additionalMinutes =>
      { sessionTimeoutMinutes :=
          some ((found.sessionTimeoutMinutes.getD 0 : Nat) + additionalMinutes).toNat
        lastActivityAt := some now }
  | .recordUsage uploadedDelta downloadedDelta answers =>
      recordUsageUpdate found row uploadedDelta downloadedDelta answers now
  | .accountingStop uploadedTotal downloadedTotal isNasOnly disconnectReason =>
      accountingStopUpdate found row uploadedTotal downloadedTotal isNasOnly disconnectReason now
  | .enforceTimeouts answers =>
      Update.ending {} .expired readAt (some
        (if answers.observable found then "inactivity_timeout".toList
        else "session_time_limit_reached".toList))
  | .closeForNasRestart reason => Update.ending {} .disconnected readAt (some reason)

/-! ### What a write names -/

def Update.Ends (update : Update) : Prop :=
  update.endedAt.isSome = update.status.any isTerminal

theorem ending_ends (update : Update) {status : GuestSessionStatus} (now : Int)
    (reason : Option Text) (terminal : isTerminal status = true) :
    (update.ending status now reason).Ends := by
  simp [Update.Ends, Update.ending, terminal]

theorem recordUsage_names (found row : GuestSession) (uploadedDelta downloadedDelta : Int)
    (answers : UsageAnswers) (now : Int) :
    let update := recordUsageUpdate found row uploadedDelta downloadedDelta answers now
    update.Ends ∧ (update.status = none ∨ update.status = some .expired) := by
  dsimp only [recordUsageUpdate]
  split
  · split
    · exact ⟨rfl, Or.inl rfl⟩
    · split
      · exact ⟨ending_ends _ _ _ rfl, Or.inr rfl⟩
      · exact ⟨rfl, Or.inl rfl⟩
  · split
    · exact ⟨ending_ends _ _ _ rfl, Or.inr rfl⟩
    · exact ⟨rfl, Or.inl rfl⟩

theorem accountingStopUpdate_bytes (found row : GuestSession)
    (uploadedTotal downloadedTotal : Option Nat) (isNasOnly : Bool)
    (disconnectReason : Option Text) (now : Int) :
    let update :=
      accountingStopUpdate found row uploadedTotal downloadedTotal isNasOnly disconnectReason now
    let totals := accountingStopTotals found uploadedTotal downloadedTotal isNasOnly
    update.bytesUploaded = totals.bytesUploaded ∧
      update.bytesDownloaded = totals.bytesDownloaded := by
  dsimp only [accountingStopUpdate]
  generalize GuestSession.isActive _ = active
  cases active <;> exact ⟨rfl, rfl⟩

theorem accountingStop_names (found row : GuestSession) (uploadedTotal downloadedTotal : Option Nat)
    (isNasOnly : Bool) (disconnectReason : Option Text) (now : Int) :
    let update :=
  -- After its totals, `accounting_stop` ends the session only if the row is ACTIVE by then.
      accountingStopUpdate found row uploadedTotal downloadedTotal isNasOnly disconnectReason now
    update.Ends ∧ (update.status = none ∨ update.status = some .disconnected ∧
      (row.status = .active ∨ found.status = .active)) := by
  dsimp only [accountingStopUpdate]
  by_cases told : (uploadedTotal.isSome || downloadedTotal.isSome) = true
  · rw [if_pos told]
    split
    · rename_i active
      exact ⟨ending_ends _ _ _ rfl, Or.inr ⟨rfl, Or.inl (of_decide_eq_true active)⟩⟩
    · exact ⟨rfl, Or.inl rfl⟩
  · rw [if_neg told]
    split
    · rename_i active
      exact ⟨ending_ends _ _ _ rfl, Or.inr ⟨rfl, Or.inr (of_decide_eq_true active)⟩⟩
    · exact ⟨rfl, Or.inl rfl⟩

end CloudGuest.Guest
