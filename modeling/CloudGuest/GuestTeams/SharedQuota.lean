import CloudGuest.GuestTeams.Teams
import CloudGuest.Library.Rows
import CloudGuest.Library.Runs

/-!
The shared data limit of a guest team. Three places compute a team's pooled usage:
the gate that every login passes (guest_teams/quota.py) and `check_shared_quota`
sum the ACTIVE sessions of the active members, `get_team_summary` sums all of their
sessions. The gate and the check always agree. The summary's verdict, once
reached, is never taken back; the gate's is, when a session ends.

Teams, guests and sessions are known by their places. The order in which
sessions are listed does not matter to a sum and is left out.
-/

namespace CloudGuest.GuestTeams
open Calendar Rows Runs

def bytesPerMb : Nat := 1024 * 1024

structure Guest where
  organization : Nat
  location : Option Nat
  deriving DecidableEq

structure GuestTeamMember where
  team : Nat
  guest : Nat
  isActive : Bool
  deriving DecidableEq

structure GuestSession where
  guest : Nat
  status : GuestSessionStatus
  bytesUploaded : Nat
  bytesDownloaded : Nat
  deriving DecidableEq

def GuestSession.totalBytes (session : GuestSession) : Nat :=
  session.bytesUploaded + session.bytesDownloaded

/-- The rows that a run of logins and accounting leaves alone. `join_team` takes or creates the
guest it adds within the team's organization. -/
structure Venue where
  teams : List GuestTeam
  guests : List Guest
  members : List GuestTeamMember
  native : ∀ member ∈ members, ∀ team, teams[member.team]? = some team →
    ∃ guest, guests[member.guest]? = some guest ∧ guest.organization = team.organization

/-- On whose behalf a service answers: an organization and a set of locations, or no limit. -/
structure Caller where
  organization : Option Nat
  locations : Option (List Nat)

inductive Fault where
  | guestTeamNotFound
  | crossOrganizationGuestTeamAccess
  | crossLocationGuestTeamAccess
  | guestNotFound
  | crossOrganizationGuestAccess
  | crossLocationGuestAccess
  deriving DecidableEq

def enforceTenantScope (organization : Nat) : Option Nat → Bool
  | none => true
  | some requesting => organization = requesting

def enforceEntityLocation : Option Nat → Option (List Nat) → Bool
  | _, none => true
  | none, some _ => true
  | some location, some scope => location ∈ scope

def getTeam (venue : Venue) (caller : Caller) (now : Moment) (id : Nat) : Except Fault GuestTeam :=
  match venue.teams[id]? with
  | none => .error .guestTeamNotFound
  | some team =>
      if enforceTenantScope team.organization caller.organization = false then
        .error .crossOrganizationGuestTeamAccess
      else if enforceEntityLocation team.location caller.locations = false then
        .error .crossLocationGuestTeamAccess
      else .ok (team.refreshTeamExpiry now)

def listSessionsForGuest (sessions : List GuestSession) (guest : Nat) : List GuestSession :=
  sessions.filter fun session => session.guest = guest

def getGuestSessions (venue : Venue) (caller : Caller) (sessions : List GuestSession)
    (organization guest : Nat) : Except Fault (List GuestSession) :=
  match venue.guests[guest]? with
  | none => .error .guestNotFound
  | some found =>
      if enforceTenantScope found.organization (some organization) = false then
        .error .crossOrganizationGuestAccess
      else if enforceEntityLocation found.location caller.locations = false then
        .error .crossLocationGuestAccess
      else .ok (listSessionsForGuest sessions guest)

def listActiveMembers (venue : Venue) (team : Nat) : List GuestTeamMember :=
  venue.members.filter fun member => member.team = team && member.isActive

def listActiveMembershipsForGuest (venue : Venue) (guest : Nat) : List GuestTeamMember :=
  venue.members.filter fun member => member.guest = guest && member.isActive

def membersSessions (venue : Venue) (caller : Caller) (sessions : List GuestSession)
    (organization : Nat) : List GuestTeamMember → Except Fault (List GuestSession)
  | [] => .ok []
  | member :: rest =>
      match getGuestSessions venue caller sessions organization member.guest with
      | .error fault => .error fault
      | .ok own =>
          match membersSessions venue caller sessions organization rest with
          | .error fault => .error fault
          | .ok others => .ok (own ++ others)

def isActiveSession (session : GuestSession) : Bool := session.status = .active

def sumBytes (sessions : List GuestSession) : Nat := (sessions.map GuestSession.totalBytes).sum

/-! ### The gate (quota.py) -/

def teamUsageBytes (venue : Venue) (sessions : List GuestSession) (team : Nat) : Nat :=
  ((listActiveMembers venue team).map fun member =>
    sumBytes ((listSessionsForGuest sessions member.guest).filter isActiveSession)).sum

def isOverSharedQuota (venue : Venue) (sessions : List GuestSession) (guest : Nat) : Bool :=
  (listActiveMembershipsForGuest venue guest).any fun membership =>
    match venue.teams[membership.team]? with
    | none => false
    | some team =>
        match team.sharedDataLimitMb with
        | none => false
        | some limit => limit * bytesPerMb ≤ teamUsageBytes venue sessions membership.team

/-! ### The check and the summary (service.py) -/

structure SharedQuotaCheckResult where
  sharedDataLimitMb : Option Nat
  currentUsageBytes : Nat
  exceeded : Bool

def checkSharedQuota (venue : Venue) (caller : Caller) (now : Moment)
    (sessions : List GuestSession) (id : Nat) : Except Fault SharedQuotaCheckResult :=
  match getTeam venue caller now id with
  | .error fault => .error fault
  | .ok team =>
      match team.sharedDataLimitMb with
      | none => .ok { sharedDataLimitMb := none, currentUsageBytes := 0, exceeded := false }
      | some limit =>
          match membersSessions venue caller sessions team.organization
              (listActiveMembers venue id) with
          | .error fault => .error fault
          | .ok found =>
              let currentUsageBytes := sumBytes (found.filter isActiveSession)
              .ok {
                sharedDataLimitMb := some limit
                currentUsageBytes
                exceeded := limit * bytesPerMb ≤ currentUsageBytes }

structure GuestTeamSummary where
  memberCount : Nat
  activeSessionCount : Nat
  totalBandwidthBytes : Nat
  sharedDataLimitMb : Option Nat
  remainingSharedQuotaMb : Option ℚ
  quotaExceeded : Bool

def getTeamSummary (venue : Venue) (caller : Caller) (now : Moment)
    (sessions : List GuestSession) (id : Nat) : Except Fault GuestTeamSummary :=
  -- `get_team_summary`. Dividing by a power of two is exact in the source's doubles below any
  -- limit a column of 32 bits holds, so the quotient is a rational number here.
  match getTeam venue caller now id with
  | .error fault => .error fault
  | .ok team =>
      let members := listActiveMembers venue id
      match membersSessions venue caller sessions team.organization members with
      | .error fault => .error fault
      | .ok found =>
          let usedMb : ℚ := sumBytes found / bytesPerMb
          .ok {
            memberCount := members.length
            activeSessionCount := (found.filter isActiveSession).length
            totalBandwidthBytes := sumBytes found
            sharedDataLimitMb := team.sharedDataLimitMb
            remainingSharedQuotaMb :=
              team.sharedDataLimitMb.map fun limit : Nat => max ((limit : ℚ) - usedMb) 0
            quotaExceeded := team.sharedDataLimitMb.any fun limit : Nat => (limit : ℚ) ≤ usedMb }

/-! ### What the three sum -/

def teamTotalBytes (venue : Venue) (sessions : List GuestSession) (team : Nat) : Nat :=
  ((listActiveMembers venue team).map fun member =>
    sumBytes (listSessionsForGuest sessions member.guest)).sum

def anyone : Caller := ⟨none, none⟩

theorem getTeam_ok {venue : Venue} {caller : Caller} {now : Moment} {id : Nat} {read : GuestTeam}
    (answered : getTeam venue caller now id = .ok read) :
    ∃ team, venue.teams[id]? = some team ∧ read = team.refreshTeamExpiry now := by
  unfold getTeam at answered
  split at answered
  · cases answered
  · rename_i team stored
    split at answered
    · cases answered
    · split at answered
      · cases answered
      · cases answered
        exact ⟨team, stored, rfl⟩

theorem getTeam_anyone {venue : Venue} {now : Moment} {id : Nat} {team : GuestTeam}
    (stored : venue.teams[id]? = some team) :
    getTeam venue anyone now id = .ok (team.refreshTeamExpiry now) := by
  simp [getTeam, stored, anyone, enforceTenantScope, enforceEntityLocation]

theorem sumBytes_append (front back : List GuestSession) :
    sumBytes (front ++ back) = sumBytes front + sumBytes back := by
  simp [sumBytes]

theorem getGuestSessions_ok {venue : Venue} {caller : Caller} {sessions found : List GuestSession}
    {organization guest : Nat}
    (answered : getGuestSessions venue caller sessions organization guest = .ok found) :
    found = listSessionsForGuest sessions guest := by
  unfold getGuestSessions at answered
  split at answered
  · cases answered
  · split at answered
    · cases answered
    · split at answered <;> cases answered
      rfl

theorem membersSessions_ok {venue : Venue} {caller : Caller} {sessions found : List GuestSession}
    {organization : Nat} {members : List GuestTeamMember}
    (answered : membersSessions venue caller sessions organization members = .ok found) :
    found = members.flatMap fun member => listSessionsForGuest sessions member.guest := by
  induction members generalizing found with
  | nil =>
      cases answered
      rfl
  | cons member rest ih =>
      simp only [membersSessions] at answered
      split at answered
      · cases answered
      · rename_i own ownFound
        split at answered
        · cases answered
        · rename_i others othersFound
          cases answered
          rw [getGuestSessions_ok ownFound, ih othersFound, List.flatMap_cons]

theorem sumBytes_flatMap (members : List GuestTeamMember)
    (listed : GuestTeamMember → List GuestSession) :
    sumBytes (members.flatMap listed) =
      (members.map fun member => sumBytes (listed member)).sum := by
  induction members with
  | nil => rfl
  | cons member rest ih => simp [sumBytes_append, ih]

theorem membersSessions_total {venue : Venue} {caller : Caller} {sessions found : List GuestSession}
    {organization team : Nat}
    (answered : membersSessions venue caller sessions organization
      (listActiveMembers venue team) = .ok found) :
    sumBytes found = teamTotalBytes venue sessions team ∧
      sumBytes (found.filter isActiveSession) = teamUsageBytes venue sessions team := by
  obtain rfl := membersSessions_ok answered
  constructor
  · exact sumBytes_flatMap _ _
  · rw [List.filter_flatMap]
    exact sumBytes_flatMap _ _

theorem membersSessions_anyone (venue : Venue) (sessions : List GuestSession) {organization : Nat}
    {members : List GuestTeamMember}
    (native : ∀ member ∈ members, ∃ guest, venue.guests[member.guest]? = some guest ∧
      guest.organization = organization) :
    ∃ found, membersSessions venue anyone sessions organization members = .ok found := by
  -- The members of a team are guests of its organization, so no lookup of them raises.
  induction members with
  | nil => exact ⟨[], rfl⟩
  | cons member rest ih =>
      obtain ⟨guest, stored, same⟩ := native member List.mem_cons_self
      obtain ⟨others, found⟩ := ih fun member listed => native member (List.mem_cons_of_mem _ listed)
      refine ⟨listSessionsForGuest sessions member.guest ++ others, ?_⟩
      simp [membersSessions, getGuestSessions, stored, same, anyone, enforceTenantScope,
        enforceEntityLocation] at found ⊢
      rw [found]

def reaches (limitMb : Option Nat) (bytes : Nat) : Bool :=
  limitMb.any fun limit => limit * bytesPerMb ≤ bytes

theorem reaches_some (limit bytes : Nat) :
    reaches (some limit) bytes = decide (limit * bytesPerMb ≤ bytes) := by
  rw [reaches, Option.any_some]

theorem checkSharedQuota_ok {venue : Venue} {caller : Caller} {now : Moment}
    {sessions : List GuestSession} {id : Nat} {result : SharedQuotaCheckResult}
    (answered : checkSharedQuota venue caller now sessions id = .ok result) :
    ∃ team, venue.teams[id]? = some team ∧
      result.exceeded = reaches team.sharedDataLimitMb (teamUsageBytes venue sessions id) := by
  unfold checkSharedQuota at answered
  split at answered
  · cases answered
  · rename_i read readOk
    obtain ⟨team, stored, rfl⟩ := getTeam_ok readOk
    refine ⟨team, stored, ?_⟩
    rw [refreshTeamExpiry_sharedDataLimitMb] at answered
    split at answered
    · rename_i unlimited
      cases answered
      simp [reaches, unlimited]
    · rename_i limit limited
      split at answered
      · cases answered
      · rename_i found foundOk
        cases answered
        rw [limited, reaches_some, ← (membersSessions_total foundOk).2]

theorem checkSharedQuota_anyone {venue : Venue} (now : Moment) (sessions : List GuestSession)
    {id : Nat} {team : GuestTeam} (stored : venue.teams[id]? = some team) :
    ∃ result, checkSharedQuota venue anyone now sessions id = .ok result := by
  have native : ∀ member ∈ listActiveMembers venue id, ∃ guest,
      venue.guests[member.guest]? = some guest ∧ guest.organization = team.organization := by
    intro member listed
    obtain ⟨row, here⟩ := List.mem_filter.mp listed
    obtain ⟨rfl, -⟩ : member.team = id ∧ member.isActive = true := by simpa using here
    exact venue.native member row team stored
  obtain ⟨found, foundOk⟩ := membersSessions_anyone venue sessions native
  unfold checkSharedQuota
  rw [getTeam_anyone stored]
  cases limited : team.sharedDataLimitMb with
  | none => simp [limited]
  | some limit => simp [limited, foundOk]

theorem getTeamSummary_ok {venue : Venue} {caller : Caller} {now : Moment}
    {sessions : List GuestSession} {id : Nat} {summary : GuestTeamSummary}
    (answered : getTeamSummary venue caller now sessions id = .ok summary) :
    ∃ team, venue.teams[id]? = some team ∧
      summary.quotaExceeded = reaches team.sharedDataLimitMb (teamTotalBytes venue sessions id) := by
  unfold getTeamSummary at answered
  split at answered
  · cases answered
  · rename_i read readOk
    obtain ⟨team, stored, rfl⟩ := getTeam_ok readOk
    refine ⟨team, stored, ?_⟩
    dsimp only at answered
    split at answered
    · cases answered
    · rename_i found foundOk
      cases answered
      rw [← (membersSessions_total foundOk).1]
      have positive : (0 : ℚ) < (bytesPerMb : ℚ) := by norm_num [bytesPerMb]
      have exact_quotient : ∀ limit : Nat, (limit : ℚ) ≤ sumBytes found / bytesPerMb ↔
          limit * bytesPerMb ≤ sumBytes found := by
        intro limit
        rw [le_div_iff₀ positive]
        norm_cast
      simp only [refreshTeamExpiry_sharedDataLimitMb, reaches, exact_quotient]

theorem isOverSharedQuota_iff (venue : Venue) (sessions : List GuestSession) (guest : Nat) :
    isOverSharedQuota venue sessions guest = true ↔
      ∃ membership ∈ listActiveMembershipsForGuest venue guest, ∃ team,
        venue.teams[membership.team]? = some team ∧
          reaches team.sharedDataLimitMb (teamUsageBytes venue sessions membership.team) = true := by
  simp only [isOverSharedQuota, List.any_eq_true]
  constructor
  · rintro ⟨membership, listed, verdict⟩
    refine ⟨membership, listed, ?_⟩
    split at verdict
    · cases verdict
    · rename_i team stored
      refine ⟨team, stored, ?_⟩
      split at verdict
      · cases verdict
      · rename_i limit limited
        rw [limited, reaches_some]
        exact verdict
  · rintro ⟨membership, listed, team, stored, reached⟩
    refine ⟨membership, listed, ?_⟩
    cases limited : team.sharedDataLimitMb with
    | none => simp [reaches, limited] at reached
    | some limit =>
        rw [limited, reaches_some] at reached
        simp only [stored, limited]
        exact reached

/-! ### Runs of logins, logouts, timeouts, terminations and accounting -/

inductive SessionAction where
  -- A login by any method, behind the gate.
  | login (guest : Nat)
  -- `reconnect` opens a new session without the gate.
  | reconnect (guest : Nat)
  -- A disconnect, a timeout, a termination, a pause or a resume.
  | moveSession (place : Nat) (target : GuestSessionStatus)
  | recordUsage (place : Nat) (bytesUploadedDelta bytesDownloadedDelta : Int)

def opened (guest : Nat) : GuestSession :=
  { guest, status := .active, bytesUploaded := 0, bytesDownloaded := 0 }

def GuestSession.recorded (session : GuestSession) (uploadedDelta downloadedDelta : Int) :
    GuestSession :=
  if session.status = .active then
    { session with
      bytesUploaded := session.bytesUploaded + (max uploadedDelta 0).toNat
      bytesDownloaded := session.bytesDownloaded + (max downloadedDelta 0).toNat }
  else session

def sessionStep (venue : Venue) (sessions : List GuestSession) :
    SessionAction → Option (List GuestSession)
  | .login guest =>
      if isOverSharedQuota venue sessions guest then none else some (sessions ++ [opened guest])
  | .reconnect guest =>
      (listSessionsForGuest sessions guest).getLast?.map fun prior =>
        if prior.status = .active then sessions else sessions ++ [opened guest]
  | .moveSession place target =>
      (sessions[place]?).bind fun session =>
        if target ∈ guestSessionStatusTransitions session.status then
          some (sessions.set place { session with status := target })
        else none
  | .recordUsage place uploadedDelta downloadedDelta =>
      (sessions[place]?).map fun session =>
        sessions.set place (session.recorded uploadedDelta downloadedDelta)

def anyAction (_ : List GuestSession) (_ : SessionAction) : Prop := True

def keepsActive (sessions : List GuestSession) : SessionAction → Bool
  | .moveSession place _ => (sessions[place]?).all fun session => session.status ≠ .active
  | _ => true

/-- A session is its guest's for good and its counters never decrease. -/
def Grows (before after : GuestSession) : Prop :=
  after.guest = before.guest ∧ before.totalBytes ≤ after.totalBytes

def StaysUp (before after : GuestSession) : Prop :=
  Grows before after ∧ (before.status = .active → after.status = .active)

theorem staysUp_refl (session : GuestSession) : StaysUp session session :=
  ⟨⟨rfl, le_rfl⟩, id⟩

theorem staysUp_trans (first second third : GuestSession) (early : StaysUp first second)
    (late : StaysUp second third) : StaysUp first third :=
  ⟨⟨late.1.1.trans early.1.1, early.1.2.trans late.1.2⟩, late.2 ∘ early.2⟩

theorem staysUp_recorded (session : GuestSession) (uploadedDelta downloadedDelta : Int) :
    StaysUp session (session.recorded uploadedDelta downloadedDelta) := by
  unfold GuestSession.recorded
  split
  · refine ⟨⟨rfl, ?_⟩, id⟩
    simp only [GuestSession.totalBytes]
    omega
  · exact staysUp_refl session

theorem step_evolves (venue : Venue) (sessions next : List GuestSession) (action : SessionAction)
    (stepped : sessionStep venue sessions action = some next) :
    Evolves Grows sessions next ∧
      (keepsActive sessions action = true → Evolves StaysUp sessions next) := by
  have still : ∀ later, Evolves StaysUp sessions later →
      Evolves Grows sessions later ∧
        (keepsActive sessions action = true → Evolves StaysUp sessions later) := by
    intro later evolves
    refine ⟨?_, fun _ => evolves⟩
    intro place row stored
    obtain ⟨later, storedLater, changes⟩ := evolves place row stored
    exact ⟨later, storedLater, changes.1⟩
  cases action with
  | login guest =>
      simp only [sessionStep] at stepped
      split at stepped <;> cases stepped
      exact still _ (.appended staysUp_refl _)
  | reconnect guest =>
      obtain ⟨prior, -, rfl⟩ := Option.map_eq_some_iff.mp stepped
      apply still
      split
      · exact .refl staysUp_refl
      · exact .appended staysUp_refl _
  | moveSession place target =>
      obtain ⟨session, found, stepped⟩ := Option.bind_eq_some_iff.mp stepped
      split at stepped
      · cases stepped
        constructor
        · exact .replaced (fun _ => ⟨rfl, le_rfl⟩) found ⟨rfl, le_rfl⟩
        · -- Only a paused session moves, and what it becomes is free.
          intro kept
          have inactive : session.status ≠ .active := by simpa [keepsActive, found] using kept
          exact .replaced staysUp_refl found ⟨⟨rfl, le_rfl⟩, fun up => absurd up inactive⟩
      · cases stepped
  | recordUsage place uploadedDelta downloadedDelta =>
      obtain ⟨session, found, rfl⟩ := Option.map_eq_some_iff.mp stepped
      exact still _ (.replaced staysUp_refl found (staysUp_recorded session _ _))

theorem run_grows {venue : Venue} {start final : List GuestSession}
    (reached : Reached (sessionStep venue) anyAction start final) :
    Evolves Grows start final := by
  apply reached.invariant (Evolves Grows start)
  · exact .refl fun _ => ⟨rfl, le_rfl⟩
  · intro sessions action next earlier _ stepped
    refine earlier.trans ?_ (step_evolves venue sessions next action stepped).1
    rintro first second third ⟨guest, bytes⟩ ⟨sameGuest, moreBytes⟩
    exact ⟨sameGuest.trans guest, bytes.trans moreBytes⟩

theorem run_staysUp {venue : Venue} {start final : List GuestSession}
    (reached : Reached (sessionStep venue) (fun sessions action =>
      keepsActive sessions action = true) start final) :
    Evolves StaysUp start final := by
  apply reached.invariant (Evolves StaysUp start)
  · exact .refl staysUp_refl
  · intro sessions action next earlier kept stepped
    exact earlier.trans staysUp_trans ((step_evolves venue sessions next action stepped).2 kept)

theorem teamTotalBytes_le (venue : Venue) {before after : List GuestSession}
    (evolves : Evolves Grows before after) (team : Nat) :
    teamTotalBytes venue before team ≤ teamTotalBytes venue after team := by
  apply List.sum_le_sum
  intro member _
  apply evolves.weight_le
  rintro row later ⟨sameGuest, bytes⟩ own
  exact ⟨by simpa [sameGuest] using own, bytes⟩

theorem teamUsageBytes_le (venue : Venue) {before after : List GuestSession}
    (evolves : Evolves StaysUp before after) (team : Nat) :
    teamUsageBytes venue before team ≤ teamUsageBytes venue after team := by
  apply List.sum_le_sum
  intro member _
  simp only [listSessionsForGuest, List.filter_filter]
  apply evolves.weight_le
  rintro row later ⟨⟨sameGuest, bytes⟩, up⟩ own
  obtain ⟨active, guest⟩ := Bool.and_eq_true_iff.mp own
  refine ⟨?_, bytes⟩
  simp only [isActiveSession, decide_eq_true_eq, Bool.and_eq_true] at active guest ⊢
  exact ⟨up active, sameGuest.trans guest⟩

theorem teamUsageBytes_le_total (venue : Venue) (sessions : List GuestSession) (team : Nat) :
    teamUsageBytes venue sessions team ≤ teamTotalBytes venue sessions team := by
  apply List.sum_le_sum
  intro member _
  exact (List.filter_sublist.map _).sum_le_sum fun _ _ => Nat.zero_le _

theorem reaches_le {limitMb : Option Nat} {fewer more : Nat} (le : fewer ≤ more)
    (reached : reaches limitMb fewer = true) : reaches limitMb more = true := by
  cases limitMb with
  | none => simp [reaches] at reached
  | some limit =>
      rw [reaches_some] at reached ⊢
      exact decide_eq_true ((of_decide_eq_true reached).trans le)

def NothingEnded (venue : Venue) (sessions : List GuestSession) (team : Nat) : Prop :=
  ∀ member ∈ listActiveMembers venue team, ∀ session ∈ sessions,
    session.guest = member.guest → session.status ≠ .active → session.totalBytes = 0

theorem sumBytes_active {sessions : List GuestSession}
    (ended : ∀ session ∈ sessions, isActiveSession session = false → session.totalBytes = 0) :
    sumBytes (sessions.filter isActiveSession) = sumBytes sessions := by
  induction sessions with
  | nil => rfl
  | cons session rest ih =>
      have tail := ih fun other own => ended other (List.mem_cons_of_mem _ own)
      simp only [sumBytes] at tail ⊢
      cases up : isActiveSession session with
      | true => simp [up, tail]
      | false => simp [up, tail, ended session List.mem_cons_self up]

theorem teamUsageBytes_eq_total {venue : Venue} {sessions : List GuestSession} {team : Nat}
    (nothing : NothingEnded venue sessions team) :
    teamUsageBytes venue sessions team = teamTotalBytes venue sessions team := by
  unfold teamUsageBytes teamTotalBytes
  congr 1
  apply List.map_congr_left
  intro member listed
  apply sumBytes_active
  intro session own inactive
  obtain ⟨stored, guest⟩ := List.mem_filter.mp own
  exact nothing member listed session stored (by simpa using guest)
    (by simpa [isActiveSession] using inactive)

/-- The gate is the check, for every member and in every state. It counts what ACTIVE sessions
used: it implies the summary's verdict, which counts all sessions, and is it where nothing used
has ended. The summary never takes its verdict back; the gate keeps it as long as no session
leaves ACTIVE. -/
theorem shared_quota_verdicts (venue : Venue) (start final : List GuestSession)
    (reached : Reached (sessionStep venue) anyAction start final) :
    (∀ now guest, isOverSharedQuota venue final guest = true ↔
      ∃ membership ∈ listActiveMembershipsForGuest venue guest, ∃ result,
        checkSharedQuota venue anyone now final membership.team = .ok result ∧
          result.exceeded = true) ∧
    (∀ caller now id result summary,
      checkSharedQuota venue caller now final id = .ok result →
      getTeamSummary venue caller now final id = .ok summary →
      (result.exceeded = true → summary.quotaExceeded = true) ∧
        (NothingEnded venue final id → result.exceeded = summary.quotaExceeded)) ∧
    (∀ caller now id team limit summary, venue.teams[id]? = some team →
      team.sharedDataLimitMb = some limit → limit * bytesPerMb ≤ teamTotalBytes venue start id →
      getTeamSummary venue caller now final id = .ok summary → summary.quotaExceeded = true) ∧
    (∀ guest, isOverSharedQuota venue start guest = true →
      Reached (sessionStep venue) (fun sessions action => keepsActive sessions action = true)
        start final →
      isOverSharedQuota venue final guest = true) := by
  refine ⟨?_, ?_, ?_, ?_⟩
  · intro now guest
    rw [isOverSharedQuota_iff]
    constructor
    · rintro ⟨membership, listed, team, stored, used⟩
      obtain ⟨result, answered⟩ := checkSharedQuota_anyone now final stored
      obtain ⟨same, storedSame, verdict⟩ := checkSharedQuota_ok answered
      obtain rfl : team = same := Option.some.inj (stored.symm.trans storedSame)
      exact ⟨membership, listed, result, answered, verdict.trans used⟩
    · rintro ⟨membership, listed, result, answered, exceeded⟩
      obtain ⟨team, stored, verdict⟩ := checkSharedQuota_ok answered
      exact ⟨membership, listed, team, stored, verdict.symm.trans exceeded⟩
  · intro caller now id result summary checked summed
    obtain ⟨team, stored, verdict⟩ := checkSharedQuota_ok checked
    obtain ⟨same, storedSame, total⟩ := getTeamSummary_ok summed
    obtain rfl : team = same := Option.some.inj (stored.symm.trans storedSame)
    rw [verdict, total]
    constructor
    · exact reaches_le (teamUsageBytes_le_total venue final id)
    · intro nothing
      rw [teamUsageBytes_eq_total nothing]
  · intro caller now id team limit summary stored limited enough summed
    obtain ⟨same, storedSame, total⟩ := getTeamSummary_ok summed
    obtain rfl : team = same := Option.some.inj (stored.symm.trans storedSame)
    rw [total]
    apply reaches_le (teamTotalBytes_le venue (run_grows reached) id)
    rw [limited, reaches_some]
    exact decide_eq_true enough
  · intro guest shut kept
    rw [isOverSharedQuota_iff] at shut ⊢
    obtain ⟨membership, listed, team, stored, limit⟩ := shut
    exact ⟨membership, listed, team, stored,
      reaches_le (teamUsageBytes_le venue (run_staysUp kept) _) limit⟩

section Executed

/-- One team of two guests, who share 10 MB. -/
def familyVenue : Venue where
  teams := [{
    organization := 0, location := none, status := .active, maxMembers := none
    sharedDataLimitMb := some 10, expiresAt := none }]
  guests := [⟨0, none⟩, ⟨0, none⟩]
  members := [⟨0, 0, true⟩, ⟨0, 1, true⟩]
  native := by simp

def usedUp : List GuestSession :=
  [{ guest := 0, status := .active, bytesUploaded := 4 * bytesPerMb, bytesDownloaded := 6 * bytesPerMb }]

def loggedOut : List GuestSession :=
  [{ guest := 0, status := .disconnected, bytesUploaded := 4 * bytesPerMb,
     bytesDownloaded := 6 * bytesPerMb }]

theorem usedUp_reached : Reached (sessionStep familyVenue) anyAction [] usedUp :=
  run_reached (fun _ _ => true) (fun _ _ _ => trivial)
    [.login 0, .recordUsage 0 (4 * bytesPerMb) (6 * bytesPerMb)] .start (by decide +kernel)

theorem loggedOut_reached : Reached (sessionStep familyVenue) anyAction usedUp loggedOut :=
  run_reached (fun _ _ => true) (fun _ _ _ => trivial) [.moveSession 0 .disconnected] .start
    (by decide +kernel)

def firstMoment : Moment := ⟨0, epoch_inRange⟩

/-- The team has used up its limit and the gate is shut for both. One of them logs out: the gate
opens, while the summary still finds the limit exceeded. -/
theorem logout_opens_the_gate :
    10 * bytesPerMb ≤ teamTotalBytes familyVenue usedUp 0 ∧
      Reached (sessionStep familyVenue) anyAction [] usedUp ∧
      Reached (sessionStep familyVenue) anyAction usedUp loggedOut ∧
      isOverSharedQuota familyVenue usedUp 1 = true ∧
      isOverSharedQuota familyVenue loggedOut 1 = false ∧
      (∃ result, checkSharedQuota familyVenue anyone firstMoment loggedOut 0 = .ok result ∧
        result.exceeded = false) ∧
      ∃ summary, getTeamSummary familyVenue anyone firstMoment loggedOut 0 = .ok summary ∧
        summary.quotaExceeded = true := by
  refine ⟨by decide +kernel, usedUp_reached, loggedOut_reached, by decide +kernel,
    by decide +kernel, ⟨_, rfl, by decide +kernel⟩, ⟨_, rfl, by decide +kernel⟩⟩

theorem shared_quota_verdicts_used_up :
    isOverSharedQuota familyVenue usedUp 1 = true ∧
      ∀ summary, getTeamSummary familyVenue anyone firstMoment loggedOut 0 = .ok summary →
        summary.quotaExceeded = true :=
  ⟨((shared_quota_verdicts familyVenue [] usedUp usedUp_reached).1 firstMoment 1).mpr
      ⟨⟨0, 1, true⟩, by decide, _, rfl, by decide +kernel⟩,
    fun summary => (shared_quota_verdicts familyVenue usedUp loggedOut loggedOut_reached).2.2.1
      anyone firstMoment 0 _ 10 summary rfl rfl (by decide +kernel)⟩

end Executed

end CloudGuest.GuestTeams
