import CloudGuest.Library.Calendar

/-!
Guest teams and the sessions of their members (guest_teams/models.py,
guest_teams/constants.py, guest/constants.py).
-/

namespace CloudGuest.GuestTeams
open Calendar

inductive GuestTeamStatus where
  | active | expired | revoked
  deriving DecidableEq

def guestTeamStatusTransitions : GuestTeamStatus → List GuestTeamStatus
  | .active => [.expired, .revoked]
  | .expired => []
  | .revoked => []

def validateTeamStatusTransition (current target : GuestTeamStatus) : Bool :=
  target ∈ guestTeamStatusTransitions current

inductive GuestSessionStatus where
  | active | disconnected | expired | terminated | paused
  deriving DecidableEq

def guestSessionStatusTransitions : GuestSessionStatus → List GuestSessionStatus
  | .active => [.disconnected, .expired, .terminated, .paused]
  | .paused => [.active, .disconnected, .terminated]
  | .disconnected => []
  | .expired => []
  | .terminated => []

structure GuestTeam where
  organization : Nat
  location : Option Nat
  status : GuestTeamStatus
  maxMembers : Option Nat
  sharedDataLimitMb : Option Nat
  expiresAt : Option Moment
  deriving DecidableEq

def GuestTeam.isTeamExpired (team : GuestTeam) (now : Moment) : Bool :=
  match team.expiresAt with
  | none => false
  | some expiry => expiry < now

def GuestTeam.refreshTeamExpiry (team : GuestTeam) (now : Moment) : GuestTeam :=
  if team.status = .active ∧ team.isTeamExpired now = true then { team with status := .expired }
  else team

@[simp] theorem refreshTeamExpiry_organization (team : GuestTeam) (now : Moment) :
    (team.refreshTeamExpiry now).organization = team.organization := by
  unfold GuestTeam.refreshTeamExpiry
  split <;> rfl

@[simp] theorem refreshTeamExpiry_location (team : GuestTeam) (now : Moment) :
    (team.refreshTeamExpiry now).location = team.location := by
  unfold GuestTeam.refreshTeamExpiry
  split <;> rfl

@[simp] theorem refreshTeamExpiry_sharedDataLimitMb (team : GuestTeam) (now : Moment) :
    (team.refreshTeamExpiry now).sharedDataLimitMb = team.sharedDataLimitMb := by
  unfold GuestTeam.refreshTeamExpiry
  split <;> rfl

end CloudGuest.GuestTeams
