import CloudGuest.GuestTeams.Roster
import CloudGuest.Library.Rows

/-!
What overlapping requests leave of a team. The partial unique index alone keeps
one active membership a guest. The rest is checked on rows that may have changed
by the time it matters: two joins that count the same members pass `max_members`
together, a join that read the team before it was revoked adds its member after, a
read that found the team expired writes EXPIRED over REVOKED, and a revocation
does not see who joins or logs in behind it. Where what a request read and counted is
still so when it writes, or its own check passes again, and nobody comes in behind a
revocation, the team keeps its limit and its final status, and a revocation that
reports no failure leaves no member online.
-/

namespace CloudGuest.TeamRoster
open Calendar Calls Runs GuestTeams

def Sweep.pending (sweep : Sweep) (guest : Nat) : Bool :=
  guest ∈ sweep.todo || guest ∈ sweep.failed ||
    sweep.visit.any fun visit => visit.guest = guest && visit.memberFailed

def Sweep.Covers (sweep : Sweep) (sessions : List Session) (guest : Nat) : Prop :=
  sweep.pending guest = true ∨ ∀ place, sessions[place]? = some ⟨guest, .active⟩ →
    place ∈ sweep.written ∨ ∃ visit, sweep.visit = some visit ∧ visit.guest = guest ∧
      place ∈ visit.left

structure Law (system : System) : Prop where
  room : ∀ maximum, system.team.maxMembers = some maximum → system.countActiveMembers ≤ maximum
  single : system.activeGuests.Nodup
  final : ∀ change ∈ system.changes, change.1 = .active
  early : ∀ member ∈ system.members, member.afterRevoke = false
  offline : ∀ revocation ∈ system.revocations, revocation.failedMemberIds = [] →
    revocation.online = []

/-! ### The condition -/

def System.missed (system : System) (guest : Nat) : Bool :=
  system.calls.any fun call =>
    match call with
    | .sweeping .revocation sweep => !sweep.pending guest
    | _ => false

/-- No more members than the join had counted, or its check of the limit passes again. -/
def Join.stillFits (join : Join) (members now : Nat) : Bool := now ≤ members || !join.isFull now

def Join.stillOpen (join : Join) (system : System) : Bool :=
  -- No `revoke_team` has committed since the join read the team, or its check passes again.
  join.revokedBefore = system.everRevoked || system.team.status = .active

def Writing.stillValid (writing : Writing) (held : GuestTeamStatus) : Bool :=
  -- The team has the status that was read, or one from which the same write is valid, or the
  -- status to be written.
  held = writing.seen || validateTeamStatusTransition held writing.target || held = writing.target

/-- What a request has read still stands, or would pass its check, when it writes; no revocation
under way has passed by a guest who joins while he is online; and no member comes online behind a
revocation. -/
def orderly (system : System) : Action → Bool
  | .commit place =>
      match system.calls[place]? with
      | some (.inserted join members _) => join.stillFits members system.countActiveMembers &&
          !(system.missed join.guest && system.isOnline join.guest)
      | _ => true
  | .insertMember place =>
      match system.calls[place]? with
      | some (.counted join _) => join.stillOpen system
      | _ => true
  | .writeTeam place =>
      ((system.calls[place]?).bind Call.writing).all fun writing =>
        writing.stillValid system.team.status
  | .login guest => !(system.missed guest && guest ∈ system.activeGuests)
  | .moveSession place _ target =>
      target ≠ .active || (system.sessions[place]?).all fun session =>
        !(system.missed session.guest && session.guest ∈ system.activeGuests)
  | _ => true

/-! ### What the checks say of what was read -/

def Call.join : Call → Option Join
  | .joining join => some join
  | .absent join => some join
  | .counted join _ => some join
  | .inserted join _ _ => some join
  | _ => none

def Call.count : Call → Option (Join × Nat)
  | .counted join members => some (join, members)
  | .inserted join members _ => some (join, members)
  | _ => none

structure Passed (maxMembers : Option Nat) (call : Call) : Prop where
  join : ∀ join, call.join = some join → join.revokedBefore = false ∧ join.maxMembers = maxMembers
  room : ∀ counted, call.count = some counted → counted.1.isFull counted.2 = false
  valid : ∀ writing, call.writing = some writing →
    validateTeamStatusTransition writing.seen writing.target = true

/-- A team that was revoked is ACTIVE no more, and every call has passed its checks so far. -/
structure Admitted (system : System) : Prop where
  spent : system.everRevoked = true → system.team.status ≠ .active
  calls : ∀ call ∈ system.calls, Passed system.team.maxMembers call

theorem passed_plain {maxMembers : Option Nat} {call : Call} (other : call.join = none)
    (uncounted : call.count = none) (settled : call.writing = none) : Passed maxMembers call := by
  constructor
  · intro join same
    rw [other] at same
    cases same
  · intro counted same
    rw [uncounted] at same
    cases same
  · intro writing same
    rw [settled] at same
    cases same

theorem transition_active {current target : GuestTeamStatus}
    (valid : validateTeamStatusTransition current target = true) : current = .active := by
  cases current with
  | active => rfl
  | expired | revoked => cases target <;> cases valid

theorem refresh_active {team : GuestTeam} {now : Moment}
    (flips : (team.refreshTeamExpiry now).status ≠ team.status) : team.status = .active := by
  unfold GuestTeam.refreshTeamExpiry at flips
  split at flips
  · rename_i expired
    exact expired.1
  · exact absurd rfl flips

theorem active_of_refresh {team : GuestTeam} {now : Moment}
    (active : (team.refreshTeamExpiry now).status = .active) :
    team.status = .active ∧ (team.refreshTeamExpiry now).maxMembers = team.maxMembers := by
  unfold GuestTeam.refreshTeamExpiry at active ⊢
  split at active
  · cases active
  · rename_i kept
    rw [if_neg kept]
    exact ⟨active, rfl⟩

section Statements

variable {system : System} (admitted : Admitted system)
include admitted

theorem admitted_starts {call : Call} (passed : Passed system.team.maxMembers call) :
    Admitted (system.starts call) := ⟨admitted.spent, each_started admitted.calls passed⟩

theorem admitted_goesOn (place : Nat) {next : Call} (passed : Passed system.team.maxMembers next) :
    Admitted (system.goesOn place next) :=
  ⟨admitted.spent, each_continued admitted.calls place passed⟩

theorem admitted_ends (place : Nat) : Admitted (system.ends place) :=
  ⟨admitted.spent, each_ended admitted.calls place⟩

theorem admitted_writeStatus {status : GuestTeamStatus} (final : status ≠ .active) :
    Admitted (system.writeStatus status) := ⟨fun _ => final, admitted.calls⟩

theorem admitted_commit {after : System} {call : Call}
    (committed : system.commitCall call = some after) : Admitted after := by
  unfold System.commitCall at committed
  split at committed
  · cases committed
    exact ⟨admitted.spent, admitted.calls⟩
  · cases committed
    exact admitted_writeStatus admitted nofun
  · split at committed <;> cases committed
    unfold System.removeMember
    split
    · exact ⟨fun _ => nofun, admitted.calls⟩
    · exact ⟨admitted.spent, admitted.calls⟩
  · split at committed <;> cases committed
    exact ⟨fun _ => nofun, admitted.calls⟩
  · cases committed

theorem admitted_step (next : System) (action : Action) (stepped : step system action = some next) :
    Admitted next := by
  cases action with
  | readJoin guest now =>
      simp only [step] at stepped
      split at stepped
      · rename_i active
        cases stepped
        obtain ⟨stored, same⟩ := active_of_refresh active
        refine admitted_starts admitted ⟨?_, nofun, nofun⟩
        rintro join ⟨⟩
        refine ⟨?_, same⟩
        -- A team that had been revoked would not be read as ACTIVE.
        exact Bool.eq_false_of_not_eq_true fun ever => admitted.spent ever stored
      · cases stepped
  | checkMembership place =>
      simp only [step] at stepped
      split at stepped
      · rename_i join found
        cases stepped
        split
        · exact admitted_ends admitted place
        · exact admitted_goesOn admitted place
            ⟨(found_holds admitted.calls found).join, nofun, nofun⟩
      · cases stepped
  | countMembers place =>
      simp only [step] at stepped
      split at stepped
      · rename_i join found
        cases stepped
        split
        · exact admitted_ends admitted place
        · rename_i room
          refine admitted_goesOn admitted place
            ⟨(found_holds admitted.calls found).join, ?_, nofun⟩
          rintro counted ⟨⟩
          exact Bool.eq_false_of_not_eq_true room
      · cases stepped
  | insertMember place =>
      simp only [step] at stepped
      split at stepped
      · rename_i join members found
        have old := found_holds admitted.calls found
        unfold System.insert at stepped
        split at stepped
        · split at stepped <;> cases stepped
          exact admitted_ends admitted place
        · split at stepped <;> cases stepped
          exact admitted_goesOn admitted place ⟨old.join, old.room, nofun⟩
      · cases stepped
  | readTeam now =>
      simp only [step] at stepped
      split at stepped
      · cases stepped
      · rename_i flips
        cases stepped
        refine admitted_starts admitted ⟨nofun, nofun, ?_⟩
        rintro writing ⟨⟩
        rw [refresh_active flips]
        rfl
  | readRemove guest now =>
      simp only [step] at stepped
      split at stepped
      · cases stepped
        exact admitted_starts admitted (passed_plain rfl rfl rfl)
      · rename_i flips
        cases stepped
        refine admitted_starts admitted ⟨nofun, nofun, ?_⟩
        rintro writing ⟨⟩
        rw [refresh_active flips]
        rfl
  | findMember place =>
      simp only [step] at stepped
      split at stepped
      · split at stepped <;> cases stepped
        · exact admitted_ends admitted place
        · exact admitted_goesOn admitted place (passed_plain rfl rfl rfl)
      · cases stepped
  | writeMember place =>
      simp only [step] at stepped
      split at stepped
      · split at stepped <;> cases stepped
        exact admitted_goesOn admitted place (passed_plain rfl rfl rfl)
      · cases stepped
  | readRevoke now =>
      simp only [step] at stepped
      split at stepped
      · rename_i valid
        cases stepped
        refine admitted_starts admitted ⟨nofun, nofun, ?_⟩
        rintro writing ⟨⟩
        exact valid
      · cases stepped
  | writeTeam place =>
      simp only [step] at stepped
      split at stepped
      · rename_i writing found
        split at stepped <;> cases stepped
        obtain ⟨call, -, writes⟩ := Option.bind_eq_some_iff.mp found
        refine admitted_goesOn admitted place ?_
        cases call <;> cases writes <;> exact passed_plain rfl rfl rfl
      · cases stepped
  | listMembers place =>
      simp only [step] at stepped
      split at stepped <;> cases stepped
      exact admitted_goesOn admitted place (passed_plain rfl rfl rfl)
  | listSessions place answered =>
      simp only [step] at stepped
      split at stepped
      · unfold System.list at stepped
        split at stepped
        · split at stepped <;> cases stepped <;>
            exact admitted_goesOn admitted place (passed_plain rfl rfl rfl)
        · cases stepped
      · cases stepped
  | terminateSession place outcome =>
      simp only [step] at stepped
      split at stepped
      · unfold System.terminateNext at stepped
        split at stepped
        · split at stepped
          · split at stepped <;> cases stepped
            exact admitted_goesOn admitted place (passed_plain rfl rfl rfl)
          · cases stepped
        · cases stepped
      · cases stepped
  | commit place =>
      obtain ⟨call, -, stepped⟩ := Option.bind_eq_some_iff.mp stepped
      obtain ⟨after, committed, rfl⟩ := Option.map_eq_some_iff.mp stepped
      exact admitted_ends (admitted_commit admitted committed) place
  | abort place =>
      cases stepped
      exact admitted_ends admitted place
  | login guest =>
      cases stepped
      exact ⟨admitted.spent, admitted.calls⟩
  | moveSession place read target =>
      simp only [step] at stepped
      split at stepped <;> cases stepped
      exact ⟨admitted.spent, admitted.calls⟩

end Statements

/-! ### What is locked -/

def Call.insertedKey : Call → Option Nat
  | .inserted join _ _ => some join.guest
  | _ => none

def Call.teamTarget : Call → Option GuestTeamStatus
  | .expired => some .expired
  | .seeking _ true => some .expired
  | .found _ true _ => some .expired
  | .revoked => some .revoked
  | .sweeping (.removal true _) _ => some .expired
  | .sweeping .revocation _ => some .revoked
  | _ => none

def Call.teamLock (call : Call) : Option Unit := call.teamTarget.map fun _ => ()

theorem teamTarget_row {call : Call} {status : GuestTeamStatus}
    (target : call.teamTarget = some status) : .team ∈ call.rows := by
  fun_cases Call.teamTarget call <;> simp_all [Call.teamTarget, Call.rows, flippedRow]

theorem free_team {system : System} (free : system.free .team = true) :
    () ∉ locks Call.teamLock system.calls := by
  intro taken
  obtain ⟨call, member, lock⟩ := mem_locks.mp taken
  obtain ⟨status, target, -⟩ := Option.map_eq_some_iff.mp lock
  have untouched := List.all_eq_true.mp free call member
  exact absurd (teamTarget_row target) (by simpa using untouched)

theorem free_key {system : System} {guest : Nat} (free : system.free (.activeMember guest) = true) :
    guest ∉ locks Call.insertedKey system.calls := by
  intro taken
  obtain ⟨call, member, lock⟩ := mem_locks.mp taken
  have untouched := List.all_eq_true.mp free call member
  cases call <;> simp_all [Call.insertedKey, Call.rows]

/-! ### The invariant -/

structure CallSound (status : GuestTeamStatus) (guests : List Nat) (sessions : List Session)
    (call : Call) : Prop where
  target : ∀ written, call.teamTarget = some written → status = .active ∨ status = written
  early : ∀ join members afterRevoke, call = .inserted join members afterRevoke →
    afterRevoke = false
  covers : ∀ sweep, call = .sweeping .revocation sweep → ∀ guest ∈ guests,
    sweep.Covers sessions guest

structure Sound (system : System) : Prop where
  room : ∀ maximum, system.team.maxMembers = some maximum → system.countActiveMembers ≤ maximum
  keys : (system.activeGuests ++ locks Call.insertedKey system.calls).Nodup
  final : ∀ change ∈ system.changes, change.1 = .active
  early : ∀ member ∈ system.members, member.afterRevoke = false
  offline : ∀ revocation ∈ system.revocations, revocation.failedMemberIds = [] →
    revocation.online = []
  exclusive : (locks Call.teamLock system.calls).Nodup
  revoked : system.everRevoked = true → system.team.status = .revoked
  calls : ∀ call ∈ system.calls,
    CallSound system.team.status system.activeGuests system.sessions call

theorem Sound.law {system : System} (sound : Sound system) : Law system :=
  ⟨sound.room, (List.nodup_append.mp sound.keys).1, sound.final, sound.early, sound.offline⟩

theorem sound_started (team : GuestTeam) (sessions : List Session) :
    Sound (.started team sessions) := by
  constructor <;> simp [System.started, System.countActiveMembers, System.activeGuests, locks]

theorem callSound_plain {status : GuestTeamStatus} {guests : List Nat} {sessions : List Session}
    {call : Call} (unkeyed : call.insertedKey = none) (untaken : call.teamTarget = none) :
    CallSound status guests sessions call := by
  constructor
  · intro written target
    rw [untaken] at target
    cases target
  · rintro join members afterRevoke rfl
    cases unkeyed
  · rintro sweep rfl
    cases untaken

theorem sound_starts {system : System} (sound : Sound system) {call : Call}
    (unkeyed : call.insertedKey = none) (untaken : call.teamTarget = none) :
    Sound (system.starts call) := by
  constructor
  · exact sound.room
  · simp only [System.starts]
    rw [locks_started call unkeyed]
    exact sound.keys
  · exact sound.final
  · exact sound.early
  · exact sound.offline
  · exact exclusive_started sound.exclusive (by simp [Call.teamLock, untaken])
  · exact sound.revoked
  · exact each_started sound.calls (callSound_plain unkeyed untaken)

theorem sound_ends {system : System} (sound : Sound system) (place : Nat) :
    Sound (system.ends place) := by
  constructor
  · exact sound.room
  · refine sound.keys.sublist (List.Sublist.append (List.Sublist.refl _) ?_)
    exact (List.eraseIdx_sublist system.calls place).filterMap _
  · exact sound.final
  · exact sound.early
  · exact sound.offline
  · exact exclusive_ended sound.exclusive place
  · exact sound.revoked
  · exact each_ended sound.calls place

theorem sound_goesOn {system : System} (sound : Sound system) {place : Nat} {call next : Call}
    (found : system.calls[place]? = some call) (key : next.insertedKey = call.insertedKey)
    (target : next.teamTarget = call.teamTarget)
    (new : CallSound system.team.status system.activeGuests system.sessions next) :
    Sound (system.goesOn place next) := by
  constructor
  · exact sound.room
  · simp only [System.goesOn]
    rw [locks_kept place found key]
    exact sound.keys
  · exact sound.final
  · exact sound.early
  · exact sound.offline
  · simp only [System.goesOn]
    rw [locks_kept place found (by simp [Call.teamLock, target])]
    exact sound.exclusive
  · exact sound.revoked
  · exact each_continued sound.calls place new

theorem sound_goesOn_plain {system : System} (sound : Sound system) {place : Nat} {call next : Call}
    (found : system.calls[place]? = some call) (key : next.insertedKey = call.insertedKey)
    (target : next.teamTarget = call.teamTarget) (unkeyed : call.insertedKey = none)
    (untaken : call.teamTarget = none) : Sound (system.goesOn place next) :=
  sound_goesOn sound found key target (callSound_plain (key.trans unkeyed) (target.trans untaken))

/-! ### Writes -/

theorem getActiveMembership_none {system : System} {guest : Nat}
    (absent : system.getActiveMembership guest = none) : guest ∉ system.activeGuests := by
  intro listed
  obtain ⟨member, stored, rfl⟩ := List.mem_map.mp listed
  obtain ⟨row, active⟩ := List.mem_filter.mp stored
  have other := List.findIdx?_eq_none_iff.mp absent member row
  simp [active] at other

theorem sound_inserted {system : System} (sound : Sound system) (admitted : Admitted system)
    {place members : Nat} {join : Join} (found : system.calls[place]? = some (.counted join members))
    (absent : system.getActiveMembership join.guest = none)
    (free : system.free (.activeMember join.guest) = true) (still : join.stillOpen system = true) :
    Sound (system.goesOn place (.inserted join members system.everRevoked)) := by
  have before : system.everRevoked = false := by
    simp only [Join.stillOpen, Bool.or_eq_true, decide_eq_true_eq] at still
    rcases still with same | active
    · have read := ((found_holds admitted.calls found).join join rfl).1
      rw [← same, read]
    · exact Bool.eq_false_of_not_eq_true fun ever => admitted.spent ever active
  constructor
  · exact sound.room
  · have taken : (locks Call.insertedKey (system.goesOn place
        (.inserted join members system.everRevoked)).calls).Perm
          ([join.guest] ++ locks Call.insertedKey system.calls) := locks_continued place found rfl
    refine ((List.Perm.append_left system.activeGuests taken).trans List.perm_middle).nodup_iff.mpr ?_
    refine List.nodup_cons.mpr ⟨?_, sound.keys⟩
    intro known
    rcases List.mem_append.mp known with member | inserting
    · exact getActiveMembership_none absent member
    · exact free_key free inserting
  · exact sound.final
  · exact sound.early
  · exact sound.offline
  · have kept : locks Call.teamLock (system.goesOn place
        (.inserted join members system.everRevoked)).calls = locks Call.teamLock system.calls :=
      locks_kept place found rfl
    rw [kept]
    exact sound.exclusive
  · exact sound.revoked
  · refine each_continued sound.calls place ⟨nofun, ?_, nofun⟩
    rintro _ _ _ ⟨rfl, rfl, rfl⟩
    exact before

theorem sound_writeTeam {system : System} (sound : Sound system) (admitted : Admitted system)
    {place : Nat} {call : Call} {writing : Writing} (found : system.calls[place]? = some call)
    (writes : call.writing = some writing) (free : system.free .team = true)
    (still : writing.stillValid system.team.status = true) :
    Sound (system.goesOn place writing.next) := by
  have allowed : system.team.status = .active ∨ system.team.status = writing.target := by
    simp only [Writing.stillValid, Bool.or_eq_true, decide_eq_true_eq] at still
    rcases still with (same | valid) | written
    · -- What was read is still so: the transition was checked on it.
      rw [same]
      exact .inl (transition_active ((found_holds admitted.calls found).valid writing writes))
    · exact .inl (transition_active valid)
    · exact .inr written
  have unkeyed : writing.next.insertedKey = call.insertedKey := by
    cases call <;> cases writes <;> rfl
  have untaken : call.teamLock = none := by
    cases call <;> cases writes <;> rfl
  have taken : writing.next.teamTarget = some writing.target := by
    cases call <;> cases writes <;> rfl
  constructor
  · exact sound.room
  · simp only [System.goesOn]
    rw [locks_kept place found unkeyed]
    exact sound.keys
  · exact sound.final
  · exact sound.early
  · exact sound.offline
  · exact exclusive_taken sound.exclusive place found untaken (by simp [Call.teamLock, taken])
      (free_team free)
  · exact sound.revoked
  · apply each_continued sound.calls place
    constructor
    · intro written same
      obtain rfl : writing.target = written := Option.some.inj (taken.symm.trans same)
      exact allowed
    · intro join members afterRevoke inserted
      cases call <;> cases writes <;> cases inserted
    · intro sweep going
      cases call <;> cases writes <;> cases going

/-! ### The loop over members and sessions -/

theorem mem_activeSessions {system : System} {guest place : Nat} :
    place ∈ system.activeSessions guest ↔ system.sessions[place]? = some ⟨guest, .active⟩ := by
  simp only [System.activeSessions, List.mem_filter, List.mem_range, decide_eq_true_eq]
  constructor
  · exact And.right
  · intro stored
    exact ⟨(List.getElem?_eq_some_iff.mp stored).1, stored⟩

theorem covers_across {guests : List Nat} (sessions : List Session) {guest : Nat}
    (listed : guest ∈ guests) : (Sweep.across guests).Covers sessions guest :=
  .inl (by simp [Sweep.pending, Sweep.across, listed])

theorem covers_listed {system : System} {sweep : Sweep} {next guest : Nat} {rest : List Nat}
    (idle : sweep.visit = none) (todo : sweep.todo = next :: rest)
    (covers : sweep.Covers system.sessions guest) :
    (sweep.listed next rest (system.activeSessions next)).Covers system.sessions guest := by
  by_cases here : guest = next
  · -- All that he has ACTIVE is on the list now.
    subst here
    refine .inr ?_
    intro place stored
    have listed := mem_activeSessions.mpr stored
    have nonempty : system.activeSessions guest ≠ [] := List.ne_nil_of_mem listed
    exact .inr ⟨⟨guest, system.activeSessions guest, false⟩, by simp [Sweep.listed, nonempty], rfl,
      listed⟩
  · rcases covers with pending | written
    · refine .inl ?_
      simp only [Sweep.pending, todo, idle, Sweep.listed] at pending ⊢
      simp [here] at pending
      rcases pending with later | failed
      · simp [later]
      · simp [failed]
    · refine .inr fun place stored => .inl ?_
      rcases written place stored with done | ⟨visit, going, -⟩
      · exact done
      · rw [idle] at going
        cases going

theorem covers_unlisted {sessions : List Session} {sweep : Sweep} {next guest : Nat}
    {rest : List Nat} (idle : sweep.visit = none) (todo : sweep.todo = next :: rest)
    (covers : sweep.Covers sessions guest) : (sweep.unlisted next rest).Covers sessions guest := by
  rcases covers with pending | written
  · refine .inl ?_
    simp only [Sweep.pending, todo, idle, Sweep.unlisted] at pending ⊢
    simp at pending ⊢
    tauto
  · refine .inr fun place stored => .inl ?_
    rcases written place stored with done | ⟨visit, going, -⟩
    · exact done
    · rw [idle] at going
      cases going

theorem covers_visited {sessions : List Session} {sweep : Sweep} {visit : Visit} {guest session : Nat}
    {more : List Nat} {outcome : Termination} (going : sweep.visit = some visit)
    (left : visit.left = session :: more) (covers : sweep.Covers sessions guest) :
    (sweep.visited visit session more outcome).Covers sessions guest := by
  by_cases failing : visit.guest = guest ∧ (visit.memberFailed || outcome.fails) = true
  · -- The member has failed: he is, or after his last session will be, among the failed.
    obtain ⟨rfl, failed⟩ := failing
    refine .inl ?_
    by_cases last : more = []
    · simp [Sweep.pending, Sweep.visited, last, failed]
    · simp [Sweep.pending, Sweep.visited, last, failed]
  · rcases covers with pending | written
    · refine .inl ?_
      simp only [Sweep.pending, going, Option.any_some, Bool.or_eq_true, Bool.and_eq_true,
        decide_eq_true_eq] at pending
      rcases pending with (todo | failed) | ⟨same, failed⟩
      · simp [Sweep.pending, Sweep.visited, todo]
      · have kept : guest ∈ (sweep.visited visit session more outcome).failed := by
          simp only [Sweep.visited]
          split
          · exact List.mem_append_left _ failed
          · exact failed
        simp [Sweep.pending, kept]
      · exact absurd ⟨same, by simp [failed]⟩ failing
    · refine .inr fun place stored => ?_
      rcases written place stored with done | ⟨other, same, mine, waiting⟩
      · refine .inl ?_
        simp only [Sweep.visited]
        split
        · exact List.mem_append_left _ done
        · exact done
      · obtain rfl : visit = other := Option.some.inj (going.symm.trans same)
        rw [left] at waiting
        rcases List.mem_cons.mp waiting with rfl | later
        · -- This one was terminated: otherwise the member would have failed.
          have writes : outcome.writes = true := by
            cases outcome with
            | terminated => rfl
            | raised written => exact absurd ⟨mine, by simp [Termination.fails]⟩ failing
          exact .inl (by simp [Sweep.visited, writes])
        · have unfinished : more ≠ [] := List.ne_nil_of_mem later
          refine .inr ⟨{ visit with left := more, memberFailed := visit.memberFailed || outcome.fails },
            ?_, mine, later⟩
          simp [Sweep.visited, unfinished]

theorem sound_sweep {system : System} (sound : Sound system) {place : Nat} {owner : Owner}
    {sweep next : Sweep} (found : system.calls[place]? = some (.sweeping owner sweep))
    (covers : ∀ guest, sweep.Covers system.sessions guest → next.Covers system.sessions guest) :
    Sound (system.goesOn place (.sweeping owner next)) := by
  -- The loop goes on; for a revocation, everyone is still accounted for.
  have old := found_holds sound.calls found
  have target : (Call.sweeping owner next).teamTarget = (Call.sweeping owner sweep).teamTarget := by
    rcases owner with ⟨flipped, row⟩ | _
    · cases flipped <;> rfl
    · rfl
  have new : CallSound system.team.status system.activeGuests system.sessions
      (.sweeping owner next) := by
    constructor
    · intro written same
      exact old.target written (target.symm.trans same)
    · nofun
    · rintro sweep' ⟨rfl, rfl⟩ guest member
      exact covers guest (old.covers sweep rfl guest member)
  exact sound_goesOn sound found rfl target new

/-! ### Commits -/

theorem callSound_fewer {status : GuestTeamStatus} {guests fewer : List Nat}
    {sessions later : List Session} {call : Call} (sound : CallSound status guests sessions call)
    (members : ∀ guest ∈ fewer, guest ∈ guests)
    (active : ∀ (place guest : Nat), later[place]? = some ⟨guest, .active⟩ →
      sessions[place]? = some ⟨guest, .active⟩) :
    CallSound status fewer later call := by
  constructor
  · exact sound.target
  · exact sound.early
  · intro sweep going guest member
    rcases sound.covers sweep going guest (members guest member) with pending | written
    · exact .inl pending
    · exact .inr fun place stored => written place (active place guest stored)

theorem terminate_active {written : List Nat} {sessions : List Session} {place guest : Nat}
    (stored : (terminate written sessions)[place]? = some ⟨guest, .active⟩) :
    sessions[place]? = some ⟨guest, .active⟩ ∧ place ∉ written := by
  simp only [terminate, List.getElem?_mapIdx] at stored
  obtain ⟨session, held, became⟩ := Option.map_eq_some_iff.mp stored
  split at became
  · cases became
  · rename_i kept
    exact ⟨became ▸ held, kept⟩

theorem sound_written {system : System} (sound : Sound system) {place : Nat} {call : Call}
    {status : GuestTeamStatus} (found : system.calls[place]? = some call)
    (target : call.teamTarget = some status) :
    Sound ((system.ends place).writeStatus status) := by
  have allowed := (found_holds sound.calls found).target status target
  have ended := sound_ends sound place
  have nobody : () ∉ locks Call.teamLock (system.ends place).calls :=
    locks_ended_free sound.exclusive found (by simp [Call.teamLock, target])
  constructor
  · exact ended.room
  · exact ended.keys
  · simp only [System.writeStatus]
    split
    · exact ended.final
    · rename_i changed
      exact each_started ended.final (allowed.resolve_right changed)
  · exact ended.early
  · exact ended.offline
  · exact ended.exclusive
  · intro ever
    have revoked : system.team.status = .revoked := sound.revoked ever
    rcases allowed with active | same
    · rw [active] at revoked
      cases revoked
    · exact same.symm.trans revoked
  · intro other member
    have old := ended.calls other member
    refine ⟨?_, old.early, old.covers⟩
    intro written holds
    exact absurd (mem_locks.mpr ⟨other, member, by simp [Call.teamLock, holds]⟩) nobody

theorem sound_fewer {system : System} (sound : Sound system) {members : List Member}
    {sessions : List Session}
    (fewer : ((members.filter Member.isActive).map Member.guest).Sublist system.activeGuests)
    (early : ∀ member ∈ members, member.afterRevoke = false)
    (active : ∀ (place guest : Nat), sessions[place]? = some ⟨guest, .active⟩ →
      system.sessions[place]? = some ⟨guest, .active⟩) :
    Sound { system with members, sessions } := by
  constructor
  · intro maximum limited
    exact fewer.length_le.trans (sound.room maximum limited)
  · exact sound.keys.sublist (List.Sublist.append fewer (List.Sublist.refl _))
  · exact sound.final
  · exact early
  · exact sound.offline
  · exact sound.exclusive
  · exact sound.revoked
  · intro call member
    exact callSound_fewer (sound.calls call member) (fun guest => fewer.mem) active

def Member.left (member : Member) : Member := { member with isActive := false }

theorem left_sublist (members : List Member) (row : Nat) :
    (((members.modify row Member.left).filter Member.isActive).map Member.guest).Sublist
      ((members.filter Member.isActive).map Member.guest) := by
  induction members generalizing row with
  | nil => simp
  | cons member rest ih =>
      cases row with
      | zero =>
          apply List.Sublist.map
          have gone : (member.left).isActive = false := rfl
          simp only [List.modify_zero_cons, List.filter_cons, gone, Bool.false_eq_true, if_false]
          split
          · exact List.sublist_cons_self _ _
          · exact List.Sublist.refl _
      | succ row =>
          simp only [List.modify_succ_cons, List.filter_cons]
          split
          · exact (ih row).cons_cons _
          · exact ih row

theorem left_early {members : List Member} (early : ∀ member ∈ members, member.afterRevoke = false)
    (row : Nat) : ∀ member ∈ members.modify row Member.left, member.afterRevoke = false := by
  intro member stored
  obtain ⟨place, held⟩ := List.mem_iff_getElem?.mp stored
  rw [List.getElem?_modify] at held
  obtain ⟨before, was, became⟩ := Option.map_eq_some_iff.mp held
  have old := early before (List.mem_of_getElem? was)
  split at became <;> subst became <;> exact old

theorem sound_removeMember {system : System} (sound : Sound system) {place row : Nat}
    {flipped : Bool} {sweep : Sweep}
    (found : system.calls[place]? = some (.sweeping (.removal flipped row) sweep)) :
    Sound ((system.removeMember flipped row sweep.written).ends place) := by
  cases flipped with
  | false =>
      have ended := sound_ends sound place
      exact sound_fewer ended (left_sublist _ row) (left_early ended.early row)
        fun place guest stored => (terminate_active stored).1
  | true =>
      have written := sound_written sound found rfl
      exact sound_fewer written (left_sublist _ row) (left_early written.early row)
        fun place guest stored => (terminate_active stored).1

theorem sound_revoke {system : System} (sound : Sound system) {place : Nat} {sweep : Sweep}
    (found : system.calls[place]? = some (.sweeping .revocation sweep)) (done : sweep.isDone = true) :
    Sound ((system.revoke sweep).ends place) := by
  -- Everyone who is a member now was on the list; if nobody failed, what he had ACTIVE is
  -- terminated by this commit.
  have written := sound_written sound found rfl
  have swept : Sound { (system.ends place).writeStatus .revoked with
      sessions := terminate sweep.written system.sessions } :=
    sound_fewer written (List.Sublist.refl _) written.early
      fun place guest stored => (terminate_active stored).1
  have covers := (found_holds sound.calls found).covers sweep rfl
  obtain ⟨todo, visit⟩ : sweep.todo = [] ∧ sweep.visit = none := by simpa [Sweep.isDone] using done
  refine ⟨swept.room, swept.keys, swept.final, swept.early, ?_, swept.exclusive, fun _ => rfl,
    swept.calls⟩
  apply each_started swept.offline
  intro nobody
  apply List.filter_eq_nil_iff.mpr
  intro guest member online
  obtain ⟨session, stored, same⟩ := List.any_eq_true.mp online
  obtain rfl : session = ⟨guest, .active⟩ := by simpa using same
  obtain ⟨slot, held⟩ := List.mem_iff_getElem?.mp stored
  obtain ⟨before, kept⟩ := terminate_active held
  rcases covers guest member with pending | terminated
  · simp only [Sweep.pending, todo, visit] at pending
    simp [show sweep.failed = [] from nobody] at pending
  · rcases terminated slot before with done | ⟨visit', going, -⟩
    · exact kept done
    · rw [visit] at going
      cases going

theorem online_of_active {system : System} {place guest : Nat}
    (stored : system.sessions[place]? = some ⟨guest, .active⟩) : system.isOnline guest = true :=
  List.any_eq_true.mpr ⟨_, List.mem_of_getElem? stored, by simp⟩

theorem missed_of_sweep {system : System} {sweep : Sweep} {guest : Nat}
    (member : .sweeping .revocation sweep ∈ system.calls) (unpending : sweep.pending guest = false) :
    system.missed guest = true :=
  List.any_eq_true.mpr ⟨_, member, by simp [unpending]⟩

theorem sound_joined {system : System} (sound : Sound system) (admitted : Admitted system)
    {place members : Nat} {join : Join} {afterRevoke : Bool}
    (found : system.calls[place]? = some (.inserted join members afterRevoke))
    (still : join.stillFits members system.countActiveMembers = true)
    (seen : (!(system.missed join.guest && system.isOnline join.guest)) = true) :
    Sound ((system.addMember join.guest afterRevoke).ends place) := by
  -- A member is added where there is room. A revocation will come to him, or he is offline.
  have ended := sound_ends sound place
  have passed := found_holds admitted.calls found
  have early := (found_holds sound.calls found).early join members afterRevoke rfl
  have added : ((system.addMember join.guest afterRevoke).ends place).activeGuests =
      system.activeGuests ++ [join.guest] := by
    simp [System.activeGuests, System.ends, System.addMember]
  constructor
  · intro maximum limited
    have limited : system.team.maxMembers = some maximum := limited
    have below : system.countActiveMembers < maximum := by
      have room := passed.room (join, members) rfl
      have limit := (passed.join join rfl).2
      simp only [Join.stillFits, Join.isFull, limit, limited, Option.any_some, Bool.or_eq_true,
        decide_eq_true_eq, Bool.not_eq_true', decide_eq_false_iff_not] at still room
      omega
    simp only [System.countActiveMembers] at below ⊢
    rw [added, List.length_append]
    exact below
  · have moved : ((Call.insertedKey (.inserted join members afterRevoke)).toList ++
        locks Call.insertedKey (system.calls.eraseIdx place)).Perm
          (locks Call.insertedKey system.calls) := locks_ended place found
    rw [added, List.append_assoc]
    exact (List.Perm.append_left system.activeGuests moved).nodup_iff.mpr sound.keys
  · exact ended.final
  · exact each_started ended.early early
  · exact ended.offline
  · exact ended.exclusive
  · exact ended.revoked
  · intro call member
    have old := ended.calls call member
    refine ⟨old.target, old.early, ?_⟩
    rw [added]
    rintro sweep rfl other known
    rcases List.mem_append.mp known with earlier | last
    · exact old.covers sweep rfl other earlier
    · obtain rfl := List.mem_singleton.mp last
      cases pending : sweep.pending join.guest with
      | true => exact .inl pending
      | false =>
          have missed : system.missed join.guest = true :=
            missed_of_sweep (List.mem_of_mem_eraseIdx member) pending
          refine .inr fun slot stored => ?_
          have online : system.isOnline join.guest = true := online_of_active stored
          simp [missed, online] at seen

/-! ### Sessions that others write -/

theorem sound_sessions {system : System} (sound : Sound system) {sessions : List Session}
    (seen : ∀ (place guest : Nat), sessions[place]? = some ⟨guest, .active⟩ →
      system.sessions[place]? = some ⟨guest, .active⟩ ∨
        (!(system.missed guest && guest ∈ system.activeGuests)) = true) :
    Sound { system with sessions } := by
  refine ⟨sound.room, sound.keys, sound.final, sound.early, sound.offline, sound.exclusive,
    sound.revoked, ?_⟩
  intro call member
  have old := sound.calls call member
  refine ⟨old.target, old.early, ?_⟩
  rintro sweep rfl guest known
  rcases old.covers sweep rfl guest known with pending | written
  · exact .inl pending
  · cases pending : sweep.pending guest with
    | true => exact .inl pending
    | false =>
        refine .inr fun place stored => ?_
        rcases seen place guest stored with before | unseen
        · exact written place before
        · have known : guest ∈ system.activeGuests := known
          have missed : system.missed guest = true := missed_of_sweep member pending
          simp [missed, known] at unseen

theorem sound_login {system : System} (sound : Sound system) {guest : Nat}
    (seen : (!(system.missed guest && guest ∈ system.activeGuests)) = true) :
    Sound { system with sessions := system.sessions ++ [⟨guest, .active⟩] } := by
  apply sound_sessions sound
  intro place other stored
  rcases Rows.appended_cases stored with before | ⟨-, new⟩
  · exact .inl before
  · obtain rfl : other = guest := by simpa using new
    exact .inr seen

theorem sound_moveSession {system : System} (sound : Sound system) {place : Nat}
    {target : GuestSessionStatus}
    (seen : target = .active → ∀ session, system.sessions[place]? = some session →
      (!(system.missed session.guest && session.guest ∈ system.activeGuests)) = true) :
    Sound { system with
      sessions := system.sessions.modify place fun session => { session with status := target } } := by
  apply sound_sessions sound
  intro slot guest stored
  rw [List.getElem?_modify] at stored
  obtain ⟨before, held, became⟩ := Option.map_eq_some_iff.mp stored
  split at became
  · rename_i here
    subst here
    obtain ⟨rfl, rfl⟩ : before.guest = guest ∧ target = .active := by
      simpa using became
    exact .inr (seen rfl before held)
  · exact .inl (became ▸ held)

/-! ### Every step, every run -/

theorem sound_insert {system next : System} (sound : Sound system) (admitted : Admitted system)
    {place members : Nat} {join : Join} (found : system.calls[place]? = some (.counted join members))
    (still : join.stillOpen system = true)
    (stepped : system.insert place join members = some next) : Sound next := by
  unfold System.insert at stepped
  split at stepped
  · split at stepped <;> cases stepped
    exact sound_ends sound place
  · rename_i absent
    split at stepped
    · rename_i free
      cases stepped
      exact sound_inserted sound admitted found absent free still
    · cases stepped

theorem sound_list {system next : System} (sound : Sound system) {place : Nat} {owner : Owner}
    {sweep : Sweep} {answered : Bool} (found : system.calls[place]? = some (.sweeping owner sweep))
    (stepped : system.list place owner sweep answered = some next) : Sound next := by
  unfold System.list at stepped
  split at stepped
  · rename_i guest rest idle todo
    split at stepped <;> cases stepped
    · exact sound_sweep sound found fun _ => covers_listed idle todo
    · exact sound_sweep sound found fun _ => covers_unlisted idle todo
  · cases stepped

theorem sound_terminateNext {system next : System} (sound : Sound system) {place : Nat}
    {owner : Owner} {sweep : Sweep} {outcome : Termination}
    (found : system.calls[place]? = some (.sweeping owner sweep))
    (stepped : system.terminateNext place owner sweep outcome = some next) : Sound next := by
  unfold System.terminateNext at stepped
  split at stepped
  · rename_i visit going
    split at stepped
    · rename_i session more left
      split at stepped <;> cases stepped
      exact sound_sweep sound found fun _ => covers_visited going left
    · cases stepped
  · cases stepped

theorem sound_commit {system after : System} (sound : Sound system) (admitted : Admitted system)
    {place : Nat} {call : Call} (found : system.calls[place]? = some call) (allowed : orderly system (.commit place) = true)
    (committed : system.commitCall call = some after) : Sound (after.ends place) := by
  unfold System.commitCall at committed
  split at committed
  · rename_i join members afterRevoke
    cases committed
    simp only [orderly, found, Bool.and_eq_true] at allowed
    exact sound_joined sound admitted found allowed.1 allowed.2
  · cases committed
    exact sound_written sound found rfl
  · split at committed <;> cases committed
    exact sound_removeMember sound found
  · split at committed
    · rename_i done
      cases committed
      exact sound_revoke sound found done
    · cases committed
  · cases committed

theorem sound_step (system next : System) (action : Action) (sound : Sound system)
    (admitted : Admitted system) (allowed : orderly system action = true) (stepped : step system action = some next) :
    Sound next := by
  cases action with
  | readJoin guest now =>
      simp only [step] at stepped
      split at stepped <;> cases stepped
      exact sound_starts sound rfl rfl
  | checkMembership place =>
      simp only [step] at stepped
      split at stepped
      · rename_i join found
        cases stepped
        split
        · exact sound_ends sound place
        · exact sound_goesOn_plain sound found rfl rfl rfl rfl
      · cases stepped
  | countMembers place =>
      simp only [step] at stepped
      split at stepped
      · rename_i join found
        cases stepped
        split
        · exact sound_ends sound place
        · exact sound_goesOn_plain sound found rfl rfl rfl rfl
      · cases stepped
  | insertMember place =>
      simp only [step] at stepped
      split at stepped
      · rename_i join members found
        exact sound_insert sound admitted found (by simpa [orderly, found] using allowed) stepped
      · cases stepped
  | readTeam now =>
      simp only [step] at stepped
      split at stepped <;> cases stepped
      exact sound_starts sound rfl rfl
  | readRemove guest now =>
      simp only [step] at stepped
      split at stepped <;> cases stepped <;> exact sound_starts sound rfl rfl
  | findMember place =>
      simp only [step] at stepped
      split at stepped
      · rename_i guest flipped found
        split at stepped <;> cases stepped
        · exact sound_ends sound place
        · have old := found_holds sound.calls found
          refine sound_goesOn sound found rfl (by cases flipped <;> rfl) ⟨?_, nofun, nofun⟩
          cases flipped with
          | false => nofun
          | true => exact old.target
      · cases stepped
  | writeMember place =>
      simp only [step] at stepped
      split at stepped
      · rename_i guest flipped row found
        split at stepped <;> cases stepped
        have old := found_holds sound.calls found
        refine sound_goesOn sound found rfl (by cases flipped <;> rfl) ⟨?_, nofun, nofun⟩
        cases flipped with
        | false => nofun
        | true => exact old.target
      · cases stepped
  | readRevoke now =>
      simp only [step] at stepped
      split at stepped <;> cases stepped
      exact sound_starts sound rfl rfl
  | writeTeam place =>
      simp only [step] at stepped
      split at stepped
      · rename_i writing under
        obtain ⟨call, found, writes⟩ := Option.bind_eq_some_iff.mp under
        split at stepped
        · rename_i free
          cases stepped
          exact sound_writeTeam sound admitted found writes free
            (by simpa [orderly, found, writes] using allowed)
        · cases stepped
      · cases stepped
  | listMembers place =>
      simp only [step] at stepped
      split at stepped
      · rename_i found
        cases stepped
        have old := found_holds sound.calls found
        refine sound_goesOn sound found rfl rfl ⟨old.target, nofun, ?_⟩
        rintro sweep ⟨rfl, rfl⟩ guest member
        exact covers_across _ member
      · cases stepped
  | listSessions place answered =>
      simp only [step] at stepped
      split at stepped
      · rename_i owner sweep found
        exact sound_list sound found stepped
      · cases stepped
  | terminateSession place outcome =>
      simp only [step] at stepped
      split at stepped
      · rename_i owner sweep found
        exact sound_terminateNext sound found stepped
      · cases stepped
  | commit place =>
      obtain ⟨call, found, stepped⟩ := Option.bind_eq_some_iff.mp stepped
      obtain ⟨after, committed, rfl⟩ := Option.map_eq_some_iff.mp stepped
      exact sound_commit sound admitted found allowed committed
  | abort place =>
      cases stepped
      exact sound_ends sound place
  | login guest =>
      cases stepped
      exact sound_login sound (by simpa [orderly] using allowed)
  | moveSession place read target =>
      simp only [step] at stepped
      split at stepped <;> cases stepped
      apply sound_moveSession sound
      rintro rfl session held
      simpa [orderly, held] using allowed

/-- In every run of overlapping requests that write while what they read still stands or passes
their checks again, and behind none of whose revocations a member comes in or online, the team
keeps its limit, one membership a guest and its final status, and a revocation leaves nobody in or
online. -/
theorem team_membership (team : GuestTeam) (sessions : List Session) (system : System)
    (reached : Reached step (fun system action => orderly system action = true)
      (.started team sessions) system) : Law system := by
  have both := reached.invariant (fun state => Sound state ∧ Admitted state)
    ⟨sound_started team sessions, by simp [System.started], by simp [System.started]⟩
    fun state action next held allowed stepped =>
      ⟨sound_step state next action held.1 held.2 allowed stepped,
        admitted_step held.2 next action stepped⟩
  exact both.1.law

section Executed

def noon : Moment := ⟨0, epoch_inRange⟩

def evening : Moment := ⟨2, by decide⟩

def dayTeam (maximum : Nat) : GuestTeam :=
  { organization := 0, location := none, status := .active, maxMembers := some maximum
    sharedDataLimitMb := none, expiresAt := some ⟨1, by decide⟩ }

/-- Two guests join, one is removed, and the team is revoked while the other is online. -/
theorem team_membership_revoked :
    ∃ system, Reached step (fun system action => orderly system action = true)
        (.started (dayTeam 2) [⟨0, .active⟩]) system ∧
      system.activeGuests = [0] ∧ system.sessions = [⟨0, .terminated⟩] ∧
      system.changes = [(.active, .revoked)] ∧ system.revocations = [⟨[], []⟩] ∧ Law system := by
  obtain ⟨system, reached, seen⟩ := run_observed step (.started (dayTeam 2) [⟨0, .active⟩])
    (fun system action => orderly system action)
    (fun system => system.activeGuests = [0] && system.sessions = [⟨0, .terminated⟩] &&
      system.changes = [(.active, .revoked)] && system.revocations = [⟨[], []⟩])
    (fun _ _ checked => checked)
    [.readJoin 0 noon, .checkMembership 0, .countMembers 0, .insertMember 0, .commit 0,
      .readJoin 1 noon, .checkMembership 0, .countMembers 0, .insertMember 0, .commit 0,
      .readRemove 1 noon, .findMember 0, .writeMember 0, .listSessions 0 true, .commit 0,
      .readRevoke noon, .writeTeam 0, .listMembers 0, .listSessions 0 true,
      .terminateSession 0 .terminated, .commit 0] (by decide +kernel)
  simp only [Bool.and_eq_true, decide_eq_true_eq] at seen
  obtain ⟨⟨⟨guests, sessions⟩, changes⟩, revocations⟩ := seen
  exact ⟨system, reached, guests, sessions, changes, revocations,
    team_membership (dayTeam 2) [⟨0, .active⟩] system reached⟩

/-- Three joins overlap on a team for one; a revocation misses a member who logs in behind it,
the third member is inserted after it, and a read that had found the team expired replaces its
status. -/
theorem overtaken_requests_break_the_team :
    ∃ system, Reached step (fun _ _ => True) (.started (dayTeam 1) []) system ∧
      ¬ Law system ∧ system.team.maxMembers = some 1 ∧ system.countActiveMembers = 3 ∧
      system.changes = [(.active, .revoked), (.revoked, .expired)] ∧
      system.members.map Member.afterRevoke = [false, false, true] ∧
      system.revocations = [⟨[], [0]⟩] := by
  obtain ⟨system, reached, seen⟩ := run_observed step (.started (dayTeam 1) []) (fun _ _ => true)
    (fun system => system.team.maxMembers = some 1 && system.countActiveMembers = 3 &&
      system.changes = [(.active, .revoked), (.revoked, .expired)] &&
      system.members.map Member.afterRevoke = [false, false, true] &&
      system.revocations = [⟨[], [0]⟩])
    (fun _ _ _ => trivial)
    [.readJoin 0 noon, .readJoin 1 noon, .readJoin 2 noon, .readRevoke noon, .readTeam evening,
      .checkMembership 0, .checkMembership 1, .checkMembership 2, .countMembers 0, .countMembers 1,
      .countMembers 2, .insertMember 0, .commit 0, .insertMember 0, .commit 0,
      -- The third join, the revocation and the read that found the team expired are left.
      .writeTeam 1, .listMembers 1, .listSessions 1 true, .listSessions 1 true, .login 0, .commit 1,
      .insertMember 0, .commit 0, .writeTeam 0, .commit 0] (by decide +kernel)
  simp only [Bool.and_eq_true, decide_eq_true_eq] at seen
  obtain ⟨⟨⟨⟨maximum, count⟩, changes⟩, after⟩, revocations⟩ := seen
  refine ⟨system, reached, ?_, maximum, count, changes, after, revocations⟩
  intro law
  have room := law.room 1 maximum
  omega

end Executed

end CloudGuest.TeamRoster
