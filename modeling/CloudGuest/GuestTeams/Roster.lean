import CloudGuest.GuestTeams.Teams
import CloudGuest.Library.Calls
import CloudGuest.Library.Runs

/-!
Requests on one guest team that overlap (guest_teams/service.py: `join_team`,
`remove_team_member`, `revoke_team` and the reads that flip an expired team). Every
request is one transaction: what it reads is what is committed at that statement,
what it writes is flushed at once, is locked against other writers until it
ends, and is seen by others when it commits. A request that raises is rolled back.

A request that fails for a reason of its own (a blocked guest, another tenant, a lost
connection) is one that aborts. How a guest is found or made from the identifier that
joins belongs to the guest domain: a join names the guest.
-/

namespace CloudGuest.TeamRoster
open Calendar Calls Runs GuestTeams

/-- `GuestTeamMember`. `afterRevoke` is not a column: it says that a `revoke_team` had committed
when the row was inserted. -/
structure Member where
  guest : Nat
  isActive : Bool
  afterRevoke : Bool
  deriving DecidableEq

structure Session where
  guest : Nat
  status : GuestSessionStatus
  deriving DecidableEq

structure Visit where
  guest : Nat
  left : List Nat
  memberFailed : Bool
  deriving DecidableEq

/-- The loop over members and their ACTIVE sessions that `revoke_team` runs for all active members
and `remove_team_member` for the one it removes. -/
structure Sweep where
  todo : List Nat
  visit : Option Visit
  written : List Nat
  failed : List Nat
  deriving DecidableEq

def Sweep.across (guests : List Nat) : Sweep := ⟨guests, none, [], []⟩

def Sweep.isDone (sweep : Sweep) : Bool := sweep.todo = [] && sweep.visit = none

/-- How a call of `terminate_session` ends. One that raises may have written the row before. -/
inductive Termination where
  | terminated
  | raised (written : Bool)
  deriving DecidableEq

def Termination.writes : Termination → Bool
  | .terminated => true
  | .raised written => written

def Termination.fails : Termination → Bool
  | .terminated => false
  | .raised _ => true

def Sweep.listed (sweep : Sweep) (guest : Nat) (rest left : List Nat) : Sweep :=
  { sweep with todo := rest, visit := if left = [] then none else some ⟨guest, left, false⟩ }

def Sweep.unlisted (sweep : Sweep) (guest : Nat) (rest : List Nat) : Sweep :=
  { sweep with todo := rest, failed := sweep.failed ++ [guest] }

def Sweep.visited (sweep : Sweep) (visit : Visit) (session : Nat) (more : List Nat)
    (outcome : Termination) : Sweep :=
  let memberFailed := visit.memberFailed || outcome.fails
  { sweep with
    written := if outcome.writes then sweep.written ++ [session] else sweep.written
    visit := if more = [] then none else some { visit with left := more, memberFailed }
    failed := if more = [] && memberFailed then sweep.failed ++ [visit.guest] else sweep.failed }

inductive Owner where
  | removal (flipped : Bool) (row : Nat)
  | revocation
  deriving DecidableEq

/-- A `join_team` with what it read of the team. `revokedBefore` is no column: it says that a
`revoke_team` had committed by then. -/
structure Join where
  guest : Nat
  maxMembers : Option Nat
  revokedBefore : Bool
  deriving DecidableEq

def Join.isFull (join : Join) (members : Nat) : Bool := join.maxMembers.any (· ≤ members)

inductive Call where
  -- `join_team`: the team was read as ACTIVE; the guest is no member; there is room; the row is in.
  | joining (join : Join)
  | absent (join : Join)
  | counted (join : Join) (members : Nat)
  | inserted (join : Join) (members : Nat) (afterRevoke : Bool)
  -- A read that found the team ACTIVE past its expiry, before and after it writes EXPIRED.
  | expiring (seen : GuestTeamStatus)
  | expired
  -- `remove_team_member`: such a flip is still to be written; the member is to be found; he is.
  | removing (seen : GuestTeamStatus) (guest : Nat)
  | seeking (guest : Nat) (flipped : Bool)
  | found (guest : Nat) (flipped : Bool) (row : Nat)
  -- `revoke_team`: the transition was checked; REVOKED is written.
  | revoking (seen : GuestTeamStatus)
  | revoked
  | sweeping (owner : Owner) (sweep : Sweep)
  deriving DecidableEq

/-- The row of the team, a membership, a session, or a key of the partial unique index. -/
inductive Row where
  | team
  | member (place : Nat)
  | session (place : Nat)
  | activeMember (guest : Nat)
  deriving DecidableEq

def flippedRow (flipped : Bool) : List Row := if flipped then [.team] else []

def Call.rows : Call → List Row
  | .inserted join _ _ => [.activeMember join.guest]
  | .expired => [.team]
  | .seeking _ flipped => flippedRow flipped
  | .found _ flipped _ => flippedRow flipped
  | .revoked => [.team]
  | .sweeping (.removal flipped row) sweep =>
      flippedRow flipped ++ .member row :: sweep.written.map .session
  | .sweeping .revocation sweep => .team :: sweep.written.map .session
  | _ => []

/-- `failed_member_ids` of a `revoke_team` that returned, and the active members at its commit who
then had an ACTIVE session. -/
structure Revocation where
  failedMemberIds : List Nat
  online : List Nat
  deriving DecidableEq

structure System where
  team : GuestTeam
  members : List Member
  sessions : List Session
  calls : List Call
  changes : List (GuestTeamStatus × GuestTeamStatus)
  everRevoked : Bool
  revocations : List Revocation

def System.started (team : GuestTeam) (sessions : List Session) : System :=
  ⟨team, [], sessions, [], [], false, []⟩

def System.activeGuests (system : System) : List Nat :=
  (system.members.filter Member.isActive).map Member.guest

def System.getActiveMembership (system : System) (guest : Nat) : Option Nat :=
  system.members.findIdx? fun member => member.guest = guest && member.isActive

def System.countActiveMembers (system : System) : Nat := system.activeGuests.length

def System.activeSessions (system : System) (guest : Nat) : List Nat :=
  (List.range system.sessions.length).filter fun place =>
    system.sessions[place]? = some ⟨guest, .active⟩

def System.free (system : System) (row : Row) : Bool :=
  system.calls.all fun call => row ∉ call.rows

def System.starts (system : System) (call : Call) : System :=
  { system with calls := system.calls ++ [call] }

def System.goesOn (system : System) (place : Nat) (call : Call) : System :=
  { system with calls := system.calls.set place call }

def System.ends (system : System) (place : Nat) : System :=
  { system with calls := system.calls.eraseIdx place }

def System.writeStatus (system : System) (status : GuestTeamStatus) : System :=
  { system with
    team := { system.team with status }
    changes := if system.team.status = status then system.changes
      else system.changes ++ [(system.team.status, status)] }

def terminate (written : List Nat) (sessions : List Session) : List Session :=
  sessions.mapIdx fun place session =>
    if place ∈ written then { session with status := .terminated } else session

def System.isOnline (system : System) (guest : Nat) : Bool :=
  system.sessions.any fun session => session = ⟨guest, .active⟩

def System.addMember (system : System) (guest : Nat) (afterRevoke : Bool) : System :=
  { system with members := system.members ++ [⟨guest, true, afterRevoke⟩] }

def System.removeMember (system : System) (flipped : Bool) (row : Nat) (written : List Nat) :
    System :=
  let removed := { system with
    members := system.members.modify row fun member => { member with isActive := false }
    sessions := terminate written system.sessions }
  if flipped then removed.writeStatus .expired else removed

def System.revoke (system : System) (sweep : Sweep) : System :=
  let revoked := { system.writeStatus .revoked with
    sessions := terminate sweep.written system.sessions
    everRevoked := true }
  { revoked with
    revocations := revoked.revocations ++
      [⟨sweep.failed, revoked.activeGuests.filter revoked.isOnline⟩] }

inductive Action where
  | readJoin (guest : Nat) (now : Moment)
  | checkMembership (place : Nat)
  | countMembers (place : Nat)
  | insertMember (place : Nat)
  | readTeam (now : Moment)
  | readRemove (guest : Nat) (now : Moment)
  | findMember (place : Nat)
  | writeMember (place : Nat)
  | readRevoke (now : Moment)
  | writeTeam (place : Nat)
  | listMembers (place : Nat)
  | listSessions (place : Nat) (answered : Bool)
  | terminateSession (place : Nat) (outcome : Termination)
  | commit (place : Nat)
  | abort (place : Nat)
  | login (guest : Nat)
  -- Another request on a session, which it read as `read` and wrote by its id.
  | moveSession (place : Nat) (read target : GuestSessionStatus)

structure Writing where
  seen : GuestTeamStatus
  target : GuestTeamStatus
  next : Call

def Call.writing : Call → Option Writing
  | .expiring seen => some ⟨seen, .expired, .expired⟩
  | .removing seen guest => some ⟨seen, .expired, .seeking guest true⟩
  | .revoking seen => some ⟨seen, .revoked, .revoked⟩
  | _ => none

def System.insert (system : System) (place : Nat) (join : Join) (members : Nat) : Option System :=
  match system.getActiveMembership join.guest with
  -- The unique index waits for a removal of that row, and refuses once there is none.
  | some row => if system.free (.member row) then some (system.ends place) else none
  | none =>
      if system.free (.activeMember join.guest) then
        some (system.goesOn place (.inserted join members system.everRevoked))
      else none

def System.list (system : System) (place : Nat) (owner : Owner) (sweep : Sweep) (answered : Bool) :
    Option System :=
  match sweep.visit, sweep.todo with
  | none, guest :: rest =>
      if answered then
        some (system.goesOn place
          (.sweeping owner (sweep.listed guest rest (system.activeSessions guest))))
      else some (system.goesOn place (.sweeping owner (sweep.unlisted guest rest)))
  | _, _ => none

def System.terminateNext (system : System) (place : Nat) (owner : Owner) (sweep : Sweep)
    (outcome : Termination) : Option System :=
  match sweep.visit with
  | some visit =>
      match visit.left with
      | session :: more =>
          if outcome.writes = true ∧ system.free (.session session) = false then none
          else some (system.goesOn place
            (.sweeping owner (sweep.visited visit session more outcome)))
      | [] => none
  | none => none

def System.commitCall (system : System) : Call → Option System
  | .inserted join _ afterRevoke => some (system.addMember join.guest afterRevoke)
  | .expired => some (system.writeStatus .expired)
  | .sweeping (.removal flipped row) sweep =>
      if sweep.isDone then some (system.removeMember flipped row sweep.written) else none
  | .sweeping .revocation sweep => if sweep.isDone then some (system.revoke sweep) else none
  | _ => none

/-- One statement of one request. `none`: not possible now, or it raises before it writes. -/
def step (system : System) : Action → Option System
  | .readJoin guest now =>
      let team := system.team.refreshTeamExpiry now
      if team.status = .active then
        some (system.starts (.joining ⟨guest, team.maxMembers, system.everRevoked⟩))
      else none
  | .checkMembership place =>
      match system.calls[place]? with
      | some (.joining join) =>
          some (if (system.getActiveMembership join.guest).isSome then system.ends place
            else system.goesOn place (.absent join))
      | _ => none
  | .countMembers place =>
      match system.calls[place]? with
      | some (.absent join) =>
          some (if join.isFull system.countActiveMembers then system.ends place
            else system.goesOn place (.counted join system.countActiveMembers))
      | _ => none
  | .insertMember place =>
      match system.calls[place]? with
      | some (.counted join members) => system.insert place join members
      | _ => none
  | .readTeam now =>
      if (system.team.refreshTeamExpiry now).status = system.team.status then none
      else some (system.starts (.expiring system.team.status))
  | .readRemove guest now =>
      if (system.team.refreshTeamExpiry now).status = system.team.status then
        some (system.starts (.seeking guest false))
      else some (system.starts (.removing system.team.status guest))
  | .findMember place =>
      match system.calls[place]? with
      | some (.seeking guest flipped) =>
          match system.getActiveMembership guest with
          | none => some (system.ends place)
          | some row => some (system.goesOn place (.found guest flipped row))
      | _ => none
  | .writeMember place =>
      match system.calls[place]? with
      | some (.found guest flipped row) =>
          if system.free (.member row) then
            some (system.goesOn place (.sweeping (.removal flipped row) (.across [guest])))
          else none
      | _ => none
  | .readRevoke now =>
      if validateTeamStatusTransition (system.team.refreshTeamExpiry now).status .revoked then
        some (system.starts (.revoking (system.team.refreshTeamExpiry now).status))
      else none
  | .writeTeam place =>
      match (system.calls[place]?).bind Call.writing with
      | some writing =>
          if system.free .team then some (system.goesOn place writing.next) else none
      | none => none
  | .listMembers place =>
      match system.calls[place]? with
      | some .revoked => some (system.goesOn place (.sweeping .revocation (.across system.activeGuests)))
      | _ => none
  | .listSessions place answered =>
      match system.calls[place]? with
      | some (.sweeping owner sweep) => system.list place owner sweep answered
      | _ => none
  | .terminateSession place outcome =>
      match system.calls[place]? with
      | some (.sweeping owner sweep) => system.terminateNext place owner sweep outcome
      | _ => none
  | .commit place =>
      (system.calls[place]?).bind fun call => (system.commitCall call).map (·.ends place)
  | .abort place => some (system.ends place)
  | .login guest => some { system with sessions := system.sessions ++ [⟨guest, .active⟩] }
  | .moveSession place read target =>
      if target ∈ guestSessionStatusTransitions read ∧ system.free (.session place) = true then
        some { system with
          sessions := system.sessions.modify place fun session => { session with status := target } }
      else none

end CloudGuest.TeamRoster
