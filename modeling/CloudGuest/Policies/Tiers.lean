import CloudGuest.Library.Faults
import CloudGuest.Library.Runs
import CloudGuest.Policies.Assignments

/-!
The members of access tiers (policy/service.py): assignments are created and
deactivated, and a policy that is taken off a location lets its members there go. A
call reads the committed tables, and what it writes is committed later.

`isSettled` keeps a run to the requests that name a location where the policy is offered,
and to the commits that find what the call has read: the memberships in other tiers, and
the assignments of a location. `Admitted` is what the checks of a request have then left of
it, and the two invariants follow from that.
-/

namespace CloudGuest.Policies.Tiers
open Texts Uuids Tables Rbac Sorting Runs

/-! ### Calls -/

structure Directory where
  hasUser : Uuid → Bool
  /-- The organization of a role, which a role of the platform has not. -/
  roleOrganization : Uuid → Option (Option Uuid)
  guestOrganization : Uuid → Option Uuid

def ensure (fault : Fault) (test : Bool) : Except Fault Unit :=
  if test then .ok () else .error fault

variable (db : Database)

def getPolicy (id : Uuid) (requesting : Option Uuid) : Except Fault Policy :=
  match db.getPolicyById id with
  | none => .error .policyNotFound
  | some policy => do
      ensure .crossOrganizationPolicyAccess
        (policy.organizationId = none || requesting = none || policy.organizationId = requesting)
      return policy

def isOwnedBy (target owner : Uuid) : Bool :=
  target = owner ||
    match db.getOrganization target false with
    | .ok organization => organization.parentOrganizationId = some owner
    | .error _ => false

def activeTargetAssignments (policyType : PolicyType) (targetType : TargetType) (target : Uuid)
    (excluded : Uuid) (organization : Option Uuid) : List PolicyAssignment :=
  -- Where no organization is given, the filter on it is left out.
  db.assignments.rows.filter fun row =>
    row.isActive && !row.isDeleted && row.targetType = targetType && row.targetId = some target &&
    row.policyId ≠ excluded &&
    (db.policies.find row.policyId).any fun policy => policy.isActive && !policy.isDeleted &&
      policy.policyType = policyType &&
      (organization = none || policy.organizationId = organization)

def findActiveTargetAssignment (policyType : PolicyType) (targetType : TargetType) (target : Uuid)
    (excluded : Uuid) (organization : Option Uuid) : Option PolicyAssignment :=
  -- `find_active_target_assignment`, the oldest one.
  (sortOn (fun row : PolicyAssignment => row.createdAt.getD 0)
    (activeTargetAssignments db policyType targetType target excluded organization)).head?

structure NewAssignment where
  id : Uuid
  policyId : Uuid
  scopeType : ScopeType
  scopeId : Option Uuid
  priority : Int
  targetType : TargetType
  targetId : Option Uuid
  createdAt : Moment

def validateAssignmentScope (data : NewAssignment) : Except Fault Unit :=
  if data.scopeType = .global then ensure .scopeIdNotAllowed data.scopeId.isNone
  else ensure .scopeIdRequired data.scopeId.isSome

def validateAssignmentTarget (data : NewAssignment) : Except Fault Unit :=
  if data.targetType = .none ∨ data.targetType = .members then ensure .targetIdNotAllowed data.targetId.isNone
  else ensure .targetIdRequired data.targetId.isSome

def assertScopeOwned (data : NewAssignment) (owner : Option Uuid) : Except Fault Unit :=
  match data.scopeType, data.scopeId with
  | .organization, some scope => do
      let _ ← db.getOrganization scope false
      ensure .crossOrganizationPolicyAccess (owner.all fun owner => isOwnedBy db scope owner)
  | .location, some scope => do
      let _ ← db.getLocation scope owner
      return ()
  | _, _ => .ok ()

def assertTargetOwned (directory : Directory) (data : NewAssignment) (owner : Option Uuid) :
    Except Fault Unit :=
  match data.targetType, data.targetId with
  | .user, some user => ensure .targetUserNotFound (directory.hasUser user)
  | .role, some role =>
      ensure .targetRoleNotFound ((directory.roleOrganization role).any fun organization =>
        owner.all fun owner => organization.all fun organization => isOwnedBy db organization owner)
  | .guest, some guest =>
      ensure .targetGuestNotFound ((directory.guestOrganization guest).any fun organization =>
        owner.all fun owner => isOwnedBy db organization owner)
  | _, _ => .ok ()

def assertNotMapped (policy : Policy) (data : NewAssignment) : Except Fault Unit :=
  match data.targetType, data.targetId with
  | .guest, some guest =>
      ensure .guestAlreadyMapped (policy.policyType ≠ .bandwidth ||
        (findActiveTargetAssignment db .bandwidth .guest guest policy.id policy.organizationId).isNone)
  | _, _ => .ok ()

def createAssignment (directory : Directory) (data : NewAssignment) (requesting : Option Uuid) :
    Except Fault PolicyAssignment := do
  let policy ← getPolicy db data.policyId requesting
  ensure .requiresPublishedVersion policy.currentVersionId.isSome
  let owner := policy.organizationId <|> requesting
  validateAssignmentScope data
  validateAssignmentTarget data
  ensure .crossOrganizationPolicyAccess
    !(data.scopeType = .global && data.targetType = .none && owner.isSome)
  assertScopeOwned db data owner
  assertTargetOwned db directory data owner
  assertNotMapped db policy data
  return ⟨data.id, policy.id, data.scopeType, data.scopeId, data.targetType, data.targetId, data.priority,
    true, false, some data.createdAt⟩

def assignmentToDeactivate (policyId assignmentId : Uuid) (requesting : Option Uuid) :
    Except Fault PolicyAssignment := do
  let policy ← getPolicy db policyId requesting
  match (db.assignments.find assignmentId).filter (!·.isDeleted) with
  | none => .error .assignmentNotFound
  | some assignment => do
      ensure .assignmentNotFound (assignment.policyId = policy.id)
      return assignment

/-- A policy is offered at a scope, to everyone or to its members. -/
def isMapping (targetType : TargetType) : Bool := targetType = .none || targetType = .members

def isOffered (policyId location : Uuid) : Bool :=
  db.assignments.rows.any fun row => row.policyId = policyId && row.isActive && !row.isDeleted &&
    row.scopeType = .location && row.scopeId = some location && isMapping row.targetType

/-- What the check of a new assignment reads: where the guest is a member beside this policy. -/
def mappedElsewhere (policy : Policy) (row : PolicyAssignment) : List PolicyAssignment :=
  row.targetId.elim [] fun guest =>
    activeTargetAssignments db .bandwidth .guest guest policy.id policy.organizationId

def siblings (unmapped : PolicyAssignment) : List PolicyAssignment :=
  db.assignments.rows.filter fun row => row.policyId = unmapped.policyId && !row.isDeleted && row.isActive &&
    row.id ≠ unmapped.id && row.scopeType = unmapped.scopeType && row.scopeId = unmapped.scopeId

def releasedMembers (unmapped : PolicyAssignment) (siblings : List PolicyAssignment) : List Uuid :=
  if !isMapping unmapped.targetType || unmapped.scopeId.isNone then []
  else if siblings.any fun row => isMapping row.targetType then []
  else (siblings.filter fun row => row.targetType = .guest).map PolicyAssignment.id

/-! ### Runs -/

inductive Call where
  /-- `elsewhere` are the memberships that the check has read. -/
  | creating (policy : Policy) (row : PolicyAssignment) (elsewhere : List PolicyAssignment)
  | unmapping (unmapped : PolicyAssignment)
  | releasing (unmapped : PolicyAssignment) (siblings : List PolicyAssignment)
  | closing (policyId : Uuid)

structure System where
  db : Database
  calls : List Call

inductive Action where
  | create (data : NewAssignment) (requesting : Option Uuid)
  | deactivate (policyId assignmentId : Uuid) (requesting : Option Uuid)
  | release (place : Nat)
  | close (policyId : Uuid) (requesting : Option Uuid)
  | commit (place : Nat)
  | rollback (place : Nat)

def deactivateRow : Change PolicyAssignment.id where
  apply := fun row => { row with isActive := false }
  keeps := fun _ => rfl

def deactivatePolicy : Change Policy.id where
  apply := fun policy => { policy with isActive := false }
  keeps := fun _ => rfl

def committed : Call → Option Database
  -- The tables after a commit, none while the call has more to read.
  | .creating _ row _ =>
      if (db.assignments.find row.id).isNone then
        some { db with assignments := db.assignments.insertNew row }
      else none
  | .unmapping _ => none
  | .releasing unmapped siblings =>
      some { db with
        assignments := db.assignments.updateWhere
          (fun row => row.id ∈ unmapped.id :: releasedMembers unmapped siblings) deactivateRow }
  | .closing policyId =>
      some { db with policies := db.policies.updateWhere (fun policy => policy.id = policyId) deactivatePolicy }

def step (directory : Directory) (system : System) : Action → Option System
  | .create data requesting =>
      match createAssignment system.db directory data requesting with
      | .ok row => do
          let policy ← system.db.getPolicyById data.policyId
          some { system with
            calls := system.calls ++ [.creating policy row (mappedElsewhere system.db policy row)] }
      | .error _ => none
  | .deactivate policyId assignmentId requesting =>
      match assignmentToDeactivate system.db policyId assignmentId requesting with
      | .ok assignment => some { system with calls := system.calls ++ [.unmapping assignment] }
      | .error _ => none
  | .release place =>
      match system.calls[place]? with
      | some (.unmapping unmapped) =>
          some { system with calls := system.calls.set place (.releasing unmapped (siblings system.db unmapped)) }
      | _ => none
  | .close policyId requesting =>
      match getPolicy system.db policyId requesting with
      | .ok policy => some { system with calls := system.calls ++ [.closing policy.id] }
      | .error _ => none
  | .commit place => do
      let call ← system.calls[place]?
      let db ← committed system.db call
      some { system with db, calls := system.calls.eraseIdx place }
  | .rollback place =>
      if place < system.calls.length then some { system with calls := system.calls.eraseIdx place }
      else none

/-! ### Tiers -/

def isMembership (row : PolicyAssignment) : Bool := row.isActive && !row.isDeleted && row.targetType = .guest

def isTierOf (organization : Uuid) (policy : Policy) : Bool :=
  policy.isActive && !policy.isDeleted && policy.policyType = .bandwidth &&
    (policy.organizationId = none || policy.organizationId = some organization)

def OneTier (organization : Uuid) : Prop :=
  ∀ left ∈ db.assignments.rows, ∀ right ∈ db.assignments.rows, isMembership left = true →
    isMembership right = true → left.targetId = right.targetId →
    ∀ first ∈ db.policies.rows, ∀ second ∈ db.policies.rows, first.id = left.policyId →
      second.id = right.policyId → isTierOf organization first = true → isTierOf organization second = true →
      left.policyId = right.policyId

def Mapped : Prop :=
  ∀ row ∈ db.assignments.rows, isMembership row = true → row.scopeType = .location →
    ∀ location ∈ row.scopeId, isOffered db row.policyId location = true

def isInPlatformTier (row : PolicyAssignment) : Bool :=
  db.assignments.rows.any fun other => isMembership other && other.targetId = row.targetId &&
    other.policyId ≠ row.policyId &&
    (db.policies.find other.policyId).any fun policy => policy.isActive && !policy.isDeleted &&
      policy.policyType = .bandwidth && policy.organizationId = none

/-- The memberships are as the check has read them, or the check passes on them again; and where the
check leaves out the platform's policies, the guest is in none of them. -/
def isStanding (policy : Policy) (row : PolicyAssignment) (elsewhere : List PolicyAssignment) : Bool :=
  policy.policyType ≠ .bandwidth ||
    (mappedElsewhere db policy row = elsewhere || (mappedElsewhere db policy row).isEmpty) &&
    (policy.organizationId = none || !isInPlatformTier db row)

/-- A guest is being mapped where the mapping is taken off. -/
def mapsInto (unmapped : PolicyAssignment) : Call → Bool
  | .creating _ row _ => row.targetType = .guest && row.policyId = unmapped.policyId &&
      row.scopeType = unmapped.scopeType && row.scopeId = unmapped.scopeId
  | _ => false

def isSettled (system : System) : Action → Bool
  | .create data _ => data.targetType ≠ .guest || data.scopeType ≠ .location ||
      data.scopeId.all fun location => isOffered system.db data.policyId location
  | .commit place =>
      (system.calls[place]?).all fun call =>
        match call with
        | .creating policy row elsewhere =>
            row.targetType ≠ .guest || isStanding system.db policy row elsewhere
        | .releasing unmapped read =>
            siblings system.db unmapped = read && !system.calls.any (mapsInto unmapped)
        | _ => true
  | _ => true

/-! ### Checks -/

section Checks

variable {db : Database} {directory : Directory} {requesting : Option Uuid}

theorem ensure_ok {fault : Fault} {test : Bool} {result : Unit} :
    ensure fault test = .ok result ↔ test = true := by
  cases test <;> simp [ensure]

theorem policy_read {id : Uuid} {policy : Policy} (read : getPolicy db id requesting = .ok policy) :
    db.getPolicyById id = some policy := by
  unfold getPolicy at read
  split at read
  · cases read
  · next stored located =>
      obtain ⟨_, -, returned⟩ := Faults.bind_ok.mp read
      exact located.trans (congrArg some (Except.ok.inj returned))

theorem not_mapped_elsewhere {policy : Policy} {data : NewAssignment} {guest : Uuid} {result : Unit}
    (target : data.targetType = .guest) (named : data.targetId = some guest)
    (bandwidth : policy.policyType = .bandwidth) (passed : assertNotMapped db policy data = .ok result) :
    activeTargetAssignments db .bandwidth .guest guest policy.id policy.organizationId = [] := by
  rw [assertNotMapped, target, named, ensure_ok] at passed
  simp only [bandwidth, ne_eq, not_true, decide_false, Bool.false_or, findActiveTargetAssignment,
    Option.isNone_iff_eq_none, List.head?_eq_none_iff] at passed
  exact List.Perm.nil_eq (passed ▸ sortOn_perm _ _) |>.symm

theorem create_checked {data : NewAssignment} {row : PolicyAssignment}
    (passed : createAssignment db directory data requesting = .ok row) :
    ∃ policy, db.getPolicyById data.policyId = some policy ∧ row.policyId = policy.id ∧
      row.scopeType = data.scopeType ∧ row.scopeId = data.scopeId ∧ row.targetType = data.targetType ∧
      (row.targetType = .guest → policy.policyType = .bandwidth → row.targetId.isSome = true ∧
        mappedElsewhere db policy row = []) := by
  obtain ⟨policy, read, passed⟩ := Faults.bind_ok.mp passed
  simp only [Faults.bind_ok] at passed
  obtain ⟨_, -, _, -, _, targeted, _, -, _, -, _, -, _, free, returned⟩ := passed
  obtain rfl := Except.ok.inj returned
  refine ⟨policy, policy_read read, rfl, rfl, rfl, rfl, ?_⟩
  intro target bandwidth
  rw [validateAssignmentTarget, if_neg (by simp [show data.targetType = .guest from target]), ensure_ok]
    at targeted
  obtain ⟨guest, named⟩ := Option.isSome_iff_exists.mp targeted
  refine ⟨targeted, ?_⟩
  simp only [mappedElsewhere, named, Option.elim_some]
  exact not_mapped_elsewhere target named bandwidth free

end Checks

/-! ### Commits -/

/-- No other tier that some organization uses beside the row's has the guest. -/
def isSoleTier (row : PolicyAssignment) : Bool :=
  db.assignments.rows.all fun other => !(isMembership other && other.targetId = row.targetId &&
    other.policyId ≠ row.policyId &&
    (db.policies.find row.policyId).any fun policy => (db.policies.find other.policyId).any fun another =>
      policy.isActive && another.isActive && !policy.isDeleted && !another.isDeleted &&
      policy.policyType = .bandwidth && another.policyType = .bandwidth &&
      (policy.organizationId = none || another.organizationId = none ||
        policy.organizationId = another.organizationId))

section Commits

variable {db : Database} {organization : Uuid} {row : PolicyAssignment}

theorem sole_tier (sole : isSoleTier db row = true) {other : PolicyAssignment}
    (listed : other ∈ db.assignments.rows) (member : isMembership other = true)
    (guest : other.targetId = row.targetId) {first second : Policy} (inFirst : first ∈ db.policies.rows)
    (inSecond : second ∈ db.policies.rows) (firstId : first.id = row.policyId)
    (secondId : second.id = other.policyId) (firstTier : isTierOf organization first = true)
    (secondTier : isTierOf organization second = true) : other.policyId = row.policyId := by
  by_contra apart
  have conflict := List.all_eq_true.mp sole other listed
  have foundFirst : db.policies.find row.policyId = some first := firstId ▸ find_of_mem db.policies first inFirst
  have foundSecond : db.policies.find other.policyId = some second :=
    secondId ▸ find_of_mem db.policies second inSecond
  simp only [isTierOf, Bool.and_eq_true, Bool.or_eq_true, Bool.not_eq_true', decide_eq_true_eq]
    at firstTier secondTier
  obtain ⟨⟨⟨active, kept⟩, bandwidth⟩, owner⟩ := firstTier
  obtain ⟨⟨⟨alsoActive, alsoKept⟩, alsoBandwidth⟩, alsoOwner⟩ := secondTier
  have tenants : first.organizationId = none ∨ second.organizationId = none ∨
      first.organizationId = second.organizationId := by
    rcases owner with platform | own
    · exact .inl platform
    · rcases alsoOwner with platform | alsoOwn
      · exact .inr (.inl platform)
      · exact .inr (.inr (own.trans alsoOwn.symm))
  simp [member, guest, apart, foundFirst, foundSecond, active, alsoActive, kept, alsoKept, bandwidth,
    alsoBandwidth] at conflict
  rcases tenants with platform | platform | same
  · exact conflict.1.1 platform
  · exact conflict.1.2 platform
  · exact conflict.2 same

theorem rows_inserted (fresh : (db.assignments.find row.id).isNone = true) :
    (db.assignments.insertNew row).rows = db.assignments.rows ++ [row] := by
  have absent : row.id ∉ db.assignments.rows.map PolicyAssignment.id := by
    intro present
    obtain ⟨other, listed, same⟩ := List.mem_map.mp present
    have found := find_of_mem db.assignments other listed
    rw [same] at found
    rw [found] at fresh
    cases fresh
  rw [Table.insertNew, dif_neg absent]

theorem active_before {selected : PolicyAssignment → Bool}
    (listed : row ∈ (db.assignments.updateWhere selected deactivateRow).rows) (active : row.isActive = true) :
    row ∈ db.assignments.rows ∧ selected row = false := by
  obtain ⟨before, present, same⟩ := List.mem_map.mp listed
  unfold changeRow at same
  split at same
  · rw [← same] at active
    cases active
  · next unselected => exact same ▸ ⟨present, by simpa using unselected⟩

theorem unselected_after {selected : PolicyAssignment → Bool} (listed : row ∈ db.assignments.rows)
    (unselected : selected row = false) :
    row ∈ (db.assignments.updateWhere selected deactivateRow).rows :=
  List.mem_map.mpr ⟨row, listed, by simp [changeRow, unselected]⟩

theorem isMembership_active (member : isMembership row = true) : row.isActive = true := by
  simp only [isMembership, Bool.and_eq_true] at member
  exact member.1.1

theorem OneTier.fewer {after : Database} (one : OneTier db organization)
    (members : ∀ row ∈ after.assignments.rows, isMembership row = true → row ∈ db.assignments.rows)
    (tiers : ∀ policy ∈ after.policies.rows, isTierOf organization policy = true → policy ∈ db.policies.rows) :
    OneTier after organization := by
  intro left inLeft right inRight leftMember rightMember guest first inFirst second inSecond firstId secondId
    firstTier secondTier
  exact one left (members left inLeft leftMember) right (members right inRight rightMember) leftMember rightMember
    guest first (tiers first inFirst firstTier) second (tiers second inSecond secondTier) firstId secondId
    firstTier secondTier

theorem oneTier_created (one : OneTier db organization) (fresh : (db.assignments.find row.id).isNone = true)
    (sole : row.targetType = .guest → isSoleTier db row = true) :
    OneTier { db with assignments := db.assignments.insertNew row } organization := by
  intro left inLeft right inRight leftMember rightMember guest first inFirst second inSecond firstId secondId
    firstTier secondTier
  rw [rows_inserted fresh, List.mem_append, List.mem_singleton] at inLeft inRight
  have settled : isMembership row = true → isSoleTier db row = true := by
    intro member
    simp only [isMembership, Bool.and_eq_true, decide_eq_true_eq] at member
    exact sole member.2
  rcases inLeft with earlier | rfl
  · rcases inRight with present | rfl
    · exact one left earlier right present leftMember rightMember guest first inFirst second inSecond firstId
        secondId firstTier secondTier
    · exact sole_tier (settled rightMember) earlier leftMember guest inSecond inFirst secondId firstId
        secondTier firstTier
  · rcases inRight with present | rfl
    · exact (sole_tier (settled leftMember) present rightMember guest.symm inFirst inSecond firstId secondId
        firstTier secondTier).symm
    · rfl

theorem offered_created {policyId location : Uuid} (fresh : (db.assignments.find row.id).isNone = true)
    (offered : isOffered db policyId location = true) :
    isOffered { db with assignments := db.assignments.insertNew row } policyId location = true := by
  rw [isOffered, rows_inserted fresh, List.any_append, Bool.or_eq_true]
  exact .inl offered

theorem mapped_created (mapped : Mapped db) (fresh : (db.assignments.find row.id).isNone = true)
    (offered : row.targetType = .guest → row.scopeType = .location →
      ∀ location ∈ row.scopeId, isOffered db row.policyId location = true) :
    Mapped { db with assignments := db.assignments.insertNew row } := by
  intro member listed isMember scope location placed
  refine offered_created fresh ?_
  rw [rows_inserted fresh, List.mem_append, List.mem_singleton] at listed
  rcases listed with earlier | rfl
  · exact mapped member earlier isMember scope location placed
  · simp only [isMembership, Bool.and_eq_true, decide_eq_true_eq] at isMember
    exact offered isMember.2 scope location placed

def place (row : PolicyAssignment) : Uuid × ScopeType × Option Uuid × TargetType :=
  -- What a row says of its policy, place and target does not change.
  (row.policyId, row.scopeType, row.scopeId, row.targetType)

/-- The assignments after a mapping and the members of its place have been deactivated. -/
def released (db : Database) (unmapped : PolicyAssignment) : Database :=
  { db with
    assignments := db.assignments.updateWhere
      (fun row => row.id ∈ unmapped.id :: releasedMembers unmapped (siblings db unmapped)) deactivateRow }

theorem offered_released {unmapped mapping : PolicyAssignment} {policyId location : Uuid}
    (inside : mapping ∈ db.assignments.rows) (policy : mapping.policyId = policyId)
    (active : mapping.isActive = true) (kept : mapping.isDeleted = false)
    (atLocation : mapping.scopeType = .location) (inLocation : mapping.scopeId = some location)
    (offers : isMapping mapping.targetType = true) (apart : mapping.id ≠ unmapped.id) :
    isOffered (released db unmapped) policyId location = true := by
  -- Only guests are released, so a mapping that goes is the one that is taken off.
  have outside : mapping.id ∉ unmapped.id :: releasedMembers unmapped (siblings db unmapped) := by
    rw [List.mem_cons, not_or]
    refine ⟨apart, fun listed => ?_⟩
    unfold releasedMembers at listed
    split at listed
    · simp at listed
    · split at listed
      · simp at listed
      · obtain ⟨guest, chosen, same⟩ := List.mem_map.mp listed
        obtain ⟨sibling, target⟩ := List.mem_filter.mp chosen
        have one : guest = mapping := List.inj_on_of_nodup_map db.assignments.unique
          (List.mem_filter.mp sibling).1 inside same
        rw [← one, of_decide_eq_true target] at offers
        cases offers
  refine List.any_eq_true.mpr ⟨mapping, unselected_after inside (decide_eq_false outside), ?_⟩
  simp [policy, active, kept, atLocation, inLocation, offers]

theorem mapped_released {unmapped : PolicyAssignment} (mapped : Mapped db)
    (known : ∃ row ∈ db.assignments.rows, row.id = unmapped.id ∧ place row = place unmapped) :
    Mapped (released db unmapped) := by
  intro member listed isMember scope location placed
  obtain ⟨present, unselected⟩ := active_before listed (isMembership_active isMember)
  obtain ⟨mapping, inside, holds⟩ := List.any_eq_true.mp (mapped member present isMember scope location placed)
  simp only [Bool.and_eq_true, decide_eq_true_eq, Bool.not_eq_true'] at holds
  obtain ⟨⟨⟨⟨⟨policy, active⟩, kept⟩, atLocation⟩, inLocation⟩, offers⟩ := holds
  by_cases own : mapping.id = unmapped.id
  · obtain ⟨row, known, id, same⟩ := known
    have one : row = mapping :=
      List.inj_on_of_nodup_map db.assignments.unique known inside (id.trans own.symm)
    rw [one] at same
    simp only [place, Prod.mk.injEq] at same
    obtain ⟨samePolicy, sameScope, sameId, sameTarget⟩ := same
    have target : member.targetType = .guest := by
      simp only [isMembership, Bool.and_eq_true, decide_eq_true_eq] at isMember
      exact isMember.2
    have alive : member.isDeleted = false := by
      simp only [isMembership, Bool.and_eq_true, Bool.not_eq_true'] at isMember
      exact isMember.1.2
    have apart : member.id ≠ unmapped.id := by
      intro equal
      have same : member = mapping :=
        List.inj_on_of_nodup_map db.assignments.unique present inside (equal.trans own.symm)
      rw [← same, target] at offers
      cases offers
    have beside : member ∈ siblings db unmapped := by
      refine List.mem_filter.mpr ⟨present, ?_⟩
      have placedAt : member.scopeId = some location := placed
      simp [← samePolicy, policy, alive, isMembership_active isMember, apart, ← sameScope, scope, atLocation,
        ← sameId, placedAt, inLocation]
    have leaves : (!isMapping unmapped.targetType || unmapped.scopeId.isNone) = false := by
      rw [← sameTarget, offers, ← sameId, inLocation]
      rfl
    by_cases another : (siblings db unmapped).any fun row => isMapping row.targetType
    · obtain ⟨other, sibling, offersToo⟩ := List.any_eq_true.mp another
      obtain ⟨listedToo, matched⟩ := List.mem_filter.mp sibling
      simp only [Bool.and_eq_true, decide_eq_true_eq, Bool.not_eq_true'] at matched
      obtain ⟨⟨⟨⟨⟨policyToo, keptToo⟩, activeToo⟩, apartToo⟩, scopeToo⟩, idToo⟩ := matched
      exact offered_released listedToo (policyToo.trans (samePolicy.symm.trans policy)) activeToo keptToo
        (scopeToo.trans (sameScope.symm.trans atLocation)) (idToo.trans (sameId.symm.trans inLocation)) offersToo
        apartToo
    · have gone : member.id ∈ releasedMembers unmapped (siblings db unmapped) := by
        rw [releasedMembers, leaves, if_neg (by simp), if_neg another]
        exact List.mem_map_of_mem (List.mem_filter.mpr ⟨beside, decide_eq_true target⟩)
      exact absurd (List.mem_cons_of_mem _ gone) (of_decide_eq_false unselected)
  · exact offered_released inside policy active kept atLocation inLocation offers own

theorem offered_elsewhere {unmapped : PolicyAssignment} {policyId location : Uuid}
    (known : ∃ row ∈ db.assignments.rows, row.id = unmapped.id ∧ place row = place unmapped)
    (beside : ¬ (policyId = unmapped.policyId ∧ unmapped.scopeType = .location ∧
      unmapped.scopeId = some location))
    (offered : isOffered db policyId location = true) :
    isOffered (released db unmapped) policyId location = true := by
  obtain ⟨mapping, inside, holds⟩ := List.any_eq_true.mp offered
  simp only [Bool.and_eq_true, decide_eq_true_eq, Bool.not_eq_true'] at holds
  obtain ⟨⟨⟨⟨⟨policy, active⟩, kept⟩, atLocation⟩, inLocation⟩, offers⟩ := holds
  refine offered_released inside policy active kept atLocation inLocation offers ?_
  intro own
  obtain ⟨row, listed, id, same⟩ := known
  have one : row = mapping :=
    List.inj_on_of_nodup_map db.assignments.unique listed inside (id.trans own.symm)
  rw [one] at same
  simp only [place, Prod.mk.injEq] at same
  obtain ⟨samePolicy, sameScope, sameId, -⟩ := same
  exact beside ⟨policy.symm.trans samePolicy, sameScope.symm.trans atLocation, sameId.symm.trans inLocation⟩

end Commits

theorem assignment_read {db : Database} {policyId assignmentId : Uuid} {requesting : Option Uuid}
    {row : PolicyAssignment} (read : assignmentToDeactivate db policyId assignmentId requesting = .ok row) :
    row ∈ db.assignments.rows := by
  cases checked : getPolicy db policyId requesting with
  | error fault =>
      rw [assignmentToDeactivate, checked] at read
      cases read
  | ok policy =>
      rw [assignmentToDeactivate, checked] at read
      cases found : (db.assignments.find assignmentId).filter (!·.isDeleted) with
      | none =>
          simp only [bind, Except.bind, found] at read
          cases read
      | some assignment =>
          simp only [bind, Except.bind, found, ensure] at read
          split at read
          · cases read
          · obtain rfl := Except.ok.inj read
            exact (find_mem db.assignments assignmentId assignment (Option.filter_eq_some_iff.mp found).1).1

/-! ### Reached states -/

/-- What the checks have left of an assignment that waits for its commit. -/
structure Admitted (db : Database) (policy : Policy) (row : PolicyAssignment)
    (elsewhere : List PolicyAssignment) : Prop where
  named : row.policyId = policy.id
  stored : ∃ later ∈ db.policies.rows, later.id = policy.id ∧
    later.organizationId = policy.organizationId ∧ later.policyType = policy.policyType
  free : row.targetType = .guest → policy.policyType = .bandwidth → row.targetId.isSome = true ∧ elsewhere = []
  offered : row.targetType = .guest → row.scopeType = .location →
    ∀ location ∈ row.scopeId, isOffered db row.policyId location = true

theorem Admitted.later {db after : Database} {policy : Policy} {row : PolicyAssignment}
    {elsewhere : List PolicyAssignment} (admitted : Admitted db policy row elsewhere)
    (policies : ∀ before ∈ db.policies.rows, ∃ later ∈ after.policies.rows, later.id = before.id ∧
      later.organizationId = before.organizationId ∧ later.policyType = before.policyType)
    (offers : ∀ location, row.targetType = .guest → row.scopeType = .location → row.scopeId = some location →
      isOffered db row.policyId location = true → isOffered after row.policyId location = true) :
    Admitted after policy row elsewhere := by
  refine ⟨admitted.named, ?_, admitted.free, ?_⟩
  · obtain ⟨before, listed, id, organization, kind⟩ := admitted.stored
    obtain ⟨later, present, sameId, sameOrganization, sameKind⟩ := policies before listed
    exact ⟨later, present, sameId.trans id, sameOrganization.trans organization, sameKind.trans kind⟩
  · intro guest scope location placed
    exact offers location guest scope placed (admitted.offered guest scope location placed)

theorem Admitted.sole {db : Database} {policy : Policy} {row : PolicyAssignment}
    {elsewhere : List PolicyAssignment} (admitted : Admitted db policy row elsewhere)
    (target : row.targetType = .guest) (standing : isStanding db policy row elsewhere = true) :
    isSoleTier db row = true := by
  -- A check that found nothing, and still stands, leaves the guest in no other tier.
  refine List.all_eq_true.mpr fun other listed => ?_
  rw [Bool.not_eq_true']
  by_contra conflict
  rw [Bool.not_eq_false] at conflict
  simp only [Bool.and_eq_true, Bool.or_eq_true, Bool.not_eq_true', decide_eq_true_eq, Option.any_eq_true]
    at conflict
  obtain ⟨⟨⟨member, guest⟩, apart⟩, found, foundRow, another, anotherRow, ⟨⟨⟨⟨⟨-, active⟩, -⟩, kept⟩, bandwidth⟩,
    alsoBandwidth⟩, tenants⟩ := conflict
  obtain ⟨later, present, id, organization, kind⟩ := admitted.stored
  have one : later = found := Option.some.inj
    ((find_of_mem db.policies later present).symm.trans ((id.trans admitted.named.symm) ▸ foundRow))
  rw [one] at organization kind
  obtain ⟨named, nothing⟩ := admitted.free target (kind.symm.trans bandwidth)
  obtain ⟨person, personRow⟩ := Option.isSome_iff_exists.mp named
  simp only [isStanding, kind.symm.trans bandwidth, nothing, List.isEmpty_iff, ne_eq, not_true, decide_false,
    Bool.false_or, Bool.and_eq_true, Bool.or_eq_true, or_self, decide_eq_true_eq, Bool.not_eq_true']
    at standing
  obtain ⟨alone, outside⟩ := standing
  have unseen : ¬ (policy.organizationId = none ∨ another.organizationId = policy.organizationId) := by
    intro own
    simp only [isMembership, Bool.and_eq_true, Bool.not_eq_true', decide_eq_true_eq] at member
    have seen : other ∈ mappedElsewhere db policy row := by
      simp only [mappedElsewhere, personRow, Option.elim_some]
      refine List.mem_filter.mpr ⟨listed, ?_⟩
      simp [member, guest, personRow, ← admitted.named, apart, anotherRow, active, kept, alsoBandwidth, own]
    rw [alone] at seen
    exact List.not_mem_nil seen
  rcases tenants with (platform | platform) | same
  · exact unseen (.inl (organization.symm.trans platform))
  · -- the check of an organization's policy does not read the platform's tiers
    rcases outside with own | outside
    · exact unseen (.inl own)
    · have inside : isInPlatformTier db row = true := by
        refine List.any_eq_true.mpr ⟨other, listed, ?_⟩
        simp [member, guest, apart, anotherRow, active, kept, alsoBandwidth, platform]
      rw [outside] at inside
      cases inside
  · exact unseen (.inr (same.symm.trans organization))

/-- The row that is taken off is one of the table, where it was. -/
def IsStored (db : Database) (unmapped : PolicyAssignment) : Prop :=
  ∃ row ∈ db.assignments.rows, row.id = unmapped.id ∧ place row = place unmapped

def Known (db : Database) : Call → Prop
  | .creating policy row elsewhere => Admitted db policy row elsewhere
  | .unmapping unmapped => IsStored db unmapped
  | .releasing unmapped _ => IsStored db unmapped
  | .closing _ => True

theorem Known.later {db after : Database} {call : Call} (known : Known db call)
    (stays : ∀ row ∈ db.assignments.rows,
      ∃ later ∈ after.assignments.rows, later.id = row.id ∧ place later = place row)
    (policies : ∀ before ∈ db.policies.rows, ∃ later ∈ after.policies.rows, later.id = before.id ∧
      later.organizationId = before.organizationId ∧ later.policyType = before.policyType)
    (offers : ∀ policy row elsewhere, call = .creating policy row elsewhere → ∀ location,
      row.targetType = .guest → row.scopeType = .location → row.scopeId = some location →
      isOffered db row.policyId location = true → isOffered after row.policyId location = true) :
    Known after call := by
  have stored : ∀ unmapped, IsStored db unmapped → IsStored after unmapped := by
    rintro unmapped ⟨row, present, id, before⟩
    obtain ⟨later, held, sameId, samePlace⟩ := stays row present
    exact ⟨later, held, sameId.trans id, samePlace.trans before⟩
  cases call with
  | creating policy row elsewhere => exact Admitted.later known policies (offers policy row elsewhere rfl)
  | unmapping unmapped => exact stored unmapped known
  | releasing unmapped read => exact stored unmapped known
  | closing policyId => trivial

structure Sound (system : System) : Prop where
  oneTier : ∀ organization, OneTier system.db organization
  mapped : Mapped system.db
  known : ∀ call ∈ system.calls, Known system.db call

theorem sound_calls {system : System} (sound : Sound system) {calls : List Call}
    (known : ∀ call ∈ calls, call ∈ system.calls ∨ Known system.db call) : Sound { system with calls } := by
  refine ⟨sound.oneTier, sound.mapped, ?_⟩
  intro call listed
  rcases known call listed with earlier | fresh
  · exact sound.known call earlier
  · exact fresh

theorem sound_append {system : System} (sound : Sound system) {call : Call} (known : Known system.db call) :
    Sound { system with calls := system.calls ++ [call] } := by
  refine sound_calls sound ?_
  intro other listed
  rcases List.mem_append.mp listed with earlier | last
  · exact .inl earlier
  · exact .inr (List.mem_singleton.mp last ▸ known)

/-- An assignment that passes its checks, for a location where the policy is offered. -/
theorem admitted_create {directory : Directory} {db : Database} {data : NewAssignment} {requesting : Option Uuid}
    {row : PolicyAssignment} {policy : Policy}
    (passed : createAssignment db directory data requesting = .ok row)
    (read : db.getPolicyById data.policyId = some policy)
    (settled : (data.targetType ≠ .guest || data.scopeType ≠ .location ||
      data.scopeId.all fun location => isOffered db data.policyId location) = true) :
    Admitted db policy row (mappedElsewhere db policy row) := by
  obtain ⟨stored, located, named, scope, scopeId, target, free⟩ := create_checked passed
  obtain rfl := Option.some.inj (located.symm.trans read)
  obtain ⟨listed, id⟩ := find_mem db.policies _ _ (Option.filter_eq_some_iff.mp located).1
  refine ⟨named, ⟨stored, listed, rfl, rfl, rfl⟩, free, ?_⟩
  intro guest placed location inLocation
  simp only [← target, guest, ← scope, placed, ← scopeId, Option.mem_def.mp inLocation, ← id, ← named, ne_eq,
    not_true, decide_false, Bool.false_or, Option.all_some] at settled
  exact settled

theorem sound_created {system : System} {policy : Policy} {row : PolicyAssignment}
    {elsewhere : List PolicyAssignment} {position : Nat} (sound : Sound system)
    (admitted : Admitted system.db policy row elsewhere) (fresh : (system.db.assignments.find row.id).isNone = true)
    (settled : row.targetType = .guest → isStanding system.db policy row elsewhere = true) :
    Sound ⟨{ system.db with assignments := system.db.assignments.insertNew row },
      system.calls.eraseIdx position⟩ := by
  refine ⟨?_, mapped_created sound.mapped fresh admitted.offered, ?_⟩
  · intro organization
    exact oneTier_created (sound.oneTier organization) fresh fun guest => admitted.sole guest (settled guest)
  · intro call listed
    refine (sound.known call (List.mem_of_mem_eraseIdx listed)).later ?_
      (fun before present => ⟨before, present, rfl, rfl, rfl⟩)
      (fun _ _ _ _ _ _ _ _ offered => offered_created fresh offered)
    intro other present
    refine ⟨other, ?_, rfl, rfl⟩
    rw [rows_inserted fresh]
    exact List.mem_append_left _ present

theorem sound_released {system : System} {unmapped : PolicyAssignment} {position : Nat} (sound : Sound system)
    (stored : IsStored system.db unmapped)
    (apart : ∀ call ∈ system.calls, mapsInto unmapped call = false) :
    Sound ⟨released system.db unmapped, system.calls.eraseIdx position⟩ := by
  refine ⟨?_, mapped_released sound.mapped stored, ?_⟩
  · intro organization
    refine (sound.oneTier organization).fewer ?_ (fun _ listed _ => listed)
    exact fun row listed member => (active_before listed (isMembership_active member)).1
  · intro call listed
    have waiting := List.mem_of_mem_eraseIdx listed
    refine (sound.known call waiting).later ?_ (fun before present => ⟨before, present, rfl, rfl, rfl⟩) ?_
    · intro row listed
      refine ⟨_, List.mem_map_of_mem listed, idOf_changeRow _ deactivateRow row, ?_⟩
      unfold changeRow
      split <;> rfl
    · rintro policy row elsewhere rfl location guest scope placed offered
      refine offered_elsewhere stored ?_ offered
      rintro ⟨same, atLocation, inLocation⟩
      have misses := apart _ waiting
      simp [mapsInto, guest, same, scope, atLocation, placed, inLocation] at misses

theorem sound_closed {system : System} {policyId : Uuid} {position : Nat} (sound : Sound system) :
    Sound ⟨{ system.db with
      policies := system.db.policies.updateWhere (fun policy => policy.id = policyId) deactivatePolicy },
      system.calls.eraseIdx position⟩ := by
  refine ⟨?_, sound.mapped, ?_⟩
  · intro organization
    refine (sound.oneTier organization).fewer (fun _ listed _ => listed) ?_
    intro policy listed tier
    obtain ⟨before, present, same⟩ := List.mem_map.mp listed
    unfold changeRow at same
    split at same
    · rw [← same] at tier
      simp [isTierOf, deactivatePolicy] at tier
    · exact same ▸ present
  · intro call listed
    refine (sound.known call (List.mem_of_mem_eraseIdx listed)).later (fun row present => ⟨row, present, rfl, rfl⟩)
      ?_ (fun _ _ _ _ _ _ _ _ offered => offered)
    intro before present
    refine ⟨_, List.mem_map_of_mem present, idOf_changeRow _ deactivatePolicy before, ?_⟩
    unfold changeRow
    split <;> exact ⟨rfl, rfl⟩

theorem sound_commit {directory : Directory} {position : Nat} {system next : System} (sound : Sound system)
    (settled : isSettled system (.commit position) = true)
    (stepped : step directory system (.commit position) = some next) : Sound next := by
  simp only [step, Option.bind_eq_bind, Option.bind_eq_some_iff] at stepped
  obtain ⟨call, located, db, done, stepped⟩ := stepped
  obtain rfl := Option.some.inj stepped
  have known := sound.known call (List.mem_of_getElem? located)
  simp only [isSettled, located, Option.all_some] at settled
  cases call with
  | creating policy row elsewhere =>
      simp only [committed] at done
      split at done
      · next fresh =>
          obtain rfl := Option.some.inj done
          simp only [Bool.or_eq_true, decide_eq_true_eq] at settled
          exact sound_created sound known fresh fun guest => settled.resolve_left fun other => other guest
      · cases done
  | unmapping unmapped => cases done
  | releasing unmapped read =>
      obtain rfl := Option.some.inj done
      simp only [Bool.and_eq_true, decide_eq_true_eq, Bool.not_eq_true', List.any_eq_false, Bool.not_eq_true]
        at settled
      obtain ⟨rfl, apart⟩ := settled
      exact sound_released sound known apart
  | closing policyId =>
      obtain rfl := Option.some.inj done
      exact sound_closed sound

theorem sound_step (directory : Directory) (system : System) (action : Action) (next : System)
    (sound : Sound system) (settled : isSettled system action = true)
    (stepped : step directory system action = some next) : Sound next := by
  cases action with
  | create data requesting =>
      simp only [step] at stepped
      split at stepped
      · next row passed =>
          obtain ⟨policy, read, stepped⟩ := Option.bind_eq_some_iff.mp stepped
          obtain rfl := Option.some.inj stepped
          exact sound_append sound (admitted_create passed read settled)
      · cases stepped
  | deactivate policyId assignmentId requesting =>
      simp only [step] at stepped
      split at stepped
      · next assignment passed =>
          obtain rfl := Option.some.inj stepped
          exact sound_append sound ⟨assignment, assignment_read passed, rfl, rfl⟩
      · cases stepped
  | release position =>
      simp only [step] at stepped
      split at stepped
      · next unmapped located =>
          obtain rfl := Option.some.inj stepped
          refine sound_calls sound ?_
          intro call listed
          rcases List.mem_or_eq_of_mem_set listed with earlier | rfl
          · exact .inl earlier
          · exact .inr (sound.known (.unmapping unmapped) (List.mem_of_getElem? located))
      · cases stepped
  | close policyId requesting =>
      simp only [step] at stepped
      split at stepped
      · obtain rfl := Option.some.inj stepped
        exact sound_append sound trivial
      · cases stepped
  | commit position => exact sound_commit sound settled stepped
  | rollback position =>
      simp only [step] at stepped
      split at stepped
      · obtain rfl := Option.some.inj stepped
        exact sound_calls sound fun call listed => .inl (List.mem_of_mem_eraseIdx listed)
      · cases stepped

/-- In a settled run a guest has one tier, and a tier has members only where it is offered. -/
theorem tier_membership (directory : Directory) (db : Database)
    (oneTier : ∀ organization, OneTier db organization) (mapped : Mapped db) (system : System)
    (reached : Reached (step directory) (fun system action => isSettled system action = true) ⟨db, []⟩ system) :
    (∀ organization, OneTier system.db organization) ∧ Mapped system.db := by
  have start : Sound ⟨db, []⟩ := ⟨oneTier, mapped, by simp⟩
  have sound := reached.invariant Sound start (sound_step directory)
  exact ⟨sound.oneTier, sound.mapped⟩

section Executed

def tier (id : Uuid) (organizationId : Option Uuid) : Policy :=
  ⟨id, organizationId, .bandwidth, "Premium".toList, true, false, some (id + 100)⟩

theorem oneLocation_nodup : (List.map Location.id [⟨30, 10, false⟩]).Nodup :=
  List.nodup_singleton _

def threeTiers : Database where
  organizations := ⟨[⟨10, none, false⟩], by decide⟩
  locations := ⟨[⟨30, 10, false⟩], oneLocation_nodup⟩
  policies := ⟨[tier 1 (some 10), tier 2 (some 10), tier 3 none], by decide⟩
  versions := ⟨[], by decide⟩
  assignments := ⟨[], by decide⟩

def oneGuest : Directory := ⟨fun _ => false, fun _ => none, fun guest => if guest = 50 then some 10 else none⟩

def offering (id policyId : Uuid) : NewAssignment := ⟨id, policyId, .location, some 30, 0, .members, none, 0⟩

def mapping (id policyId : Uuid) : NewAssignment := ⟨id, policyId, .location, some 30, 0, .guest, some 50, 0⟩

theorem threeTiers_oneTier (organization : Uuid) : OneTier threeTiers organization := by
  simp [OneTier, threeTiers]

theorem threeTiers_mapped : Mapped threeTiers := by
  simp [Mapped, threeTiers]

/-- A guest is mapped into a tier, is let go when it is taken off the location, and is mapped into the
next. -/
theorem tier_membership_moved :
    ∃ system, Reached (step oneGuest) (fun system action => isSettled system action = true) ⟨threeTiers, []⟩
        system ∧
      (system.db.assignments.rows.map fun row => (row.id, isMembership row)) =
        [(41, false), (42, false), (43, false), (44, true)] ∧
      (∀ organization, OneTier system.db organization) ∧ Mapped system.db := by
  obtain ⟨system, reached, seen⟩ := run_observed (step oneGuest) ⟨threeTiers, []⟩ isSettled
    (fun system => (system.db.assignments.rows.map fun row => (row.id, isMembership row)) =
      [(41, false), (42, false), (43, false), (44, true)])
    (fun _ _ checked => checked)
    [.create (offering 41 1) (some 10), .commit 0, .create (mapping 42 1) (some 10), .commit 0,
      .create (offering 43 2) (some 10), .commit 0, .deactivate 1 41 (some 10), .release 0, .commit 0,
      .create (mapping 44 2) (some 10), .commit 0] (by decide +kernel)
  exact ⟨system, reached, of_decide_eq_true seen,
    tier_membership oneGuest threeTiers threeTiers_oneTier threeTiers_mapped system reached⟩

def hasTwoTiers (db : Database) (organization : Uuid) : Bool :=
  db.assignments.rows.any fun left => db.assignments.rows.any fun right =>
    isMembership left && isMembership right && left.targetId = right.targetId &&
      left.policyId ≠ right.policyId && (db.policies.find left.policyId).any (isTierOf organization) &&
      (db.policies.find right.policyId).any (isTierOf organization)

theorem not_oneTier {db : Database} {organization : Uuid} (two : hasTwoTiers db organization = true) :
    ¬ OneTier db organization := by
  intro one
  obtain ⟨left, inLeft, others⟩ := List.any_eq_true.mp two
  obtain ⟨right, inRight, holds⟩ := List.any_eq_true.mp others
  simp only [Bool.and_eq_true, decide_eq_true_eq, Option.any_eq_true] at holds
  obtain ⟨⟨⟨⟨⟨leftMember, rightMember⟩, guest⟩, apart⟩, first, foundFirst, firstTier⟩, second, foundSecond,
    secondTier⟩ := holds
  obtain ⟨inFirst, firstId⟩ := find_mem db.policies left.policyId first foundFirst
  obtain ⟨inSecond, secondId⟩ := find_mem db.policies right.policyId second foundSecond
  exact apart (one left inLeft right inRight leftMember rightMember guest first inFirst second inSecond firstId
    secondId firstTier secondTier)

def hasStray (db : Database) : Bool :=
  db.assignments.rows.any fun row => isMembership row && row.scopeType = .location &&
    row.scopeId.any fun location => !isOffered db row.policyId location

theorem not_mapped {db : Database} (stray : hasStray db = true) : ¬ Mapped db := by
  intro mapped
  obtain ⟨row, listed, holds⟩ := List.any_eq_true.mp stray
  simp only [Bool.and_eq_true, decide_eq_true_eq, Option.any_eq_true, Bool.not_eq_true'] at holds
  obtain ⟨⟨member, scope⟩, location, placed, missing⟩ := holds
  have offered := mapped row listed member scope location placed
  rw [missing] at offered
  cases offered

/-- A guest is mapped into two tiers at once; into the platform's, and then into the organization's; or
into a tier after it has been taken off the location. -/
theorem guests_in_two_tiers :
    (∀ organization, OneTier threeTiers organization) ∧ Mapped threeTiers ∧
    (∃ system, Reached (step oneGuest) (fun _ _ => True) ⟨threeTiers, []⟩ system ∧ ¬ OneTier system.db 10) ∧
    (∃ system, Reached (step oneGuest) (fun _ _ => True) ⟨threeTiers, []⟩ system ∧ ¬ OneTier system.db 10) ∧
    ∃ system, Reached (step oneGuest) (fun _ _ => True) ⟨threeTiers, []⟩ system ∧ ¬ Mapped system.db := by
  refine ⟨threeTiers_oneTier, threeTiers_mapped, ?_, ?_, ?_⟩
  · obtain ⟨system, reached, seen⟩ := run_observed (step oneGuest) ⟨threeTiers, []⟩ (fun _ _ => true)
      (fun system => hasTwoTiers system.db 10) (fun _ _ _ => trivial)
      [.create (offering 41 1) (some 10), .commit 0, .create (offering 42 2) (some 10), .commit 0,
        .create (mapping 43 1) (some 10), .create (mapping 44 2) (some 10), .commit 0, .commit 0]
      (by decide +kernel)
    exact ⟨system, reached, not_oneTier seen⟩
  · obtain ⟨system, reached, seen⟩ := run_observed (step oneGuest) ⟨threeTiers, []⟩ (fun _ _ => true)
      (fun system => hasTwoTiers system.db 10) (fun _ _ _ => trivial)
      [.create (offering 41 3) (some 10), .commit 0, .create (offering 42 1) (some 10), .commit 0,
        .create (mapping 43 3) (some 10), .commit 0, .create (mapping 44 1) (some 10), .commit 0]
      (by decide +kernel)
    exact ⟨system, reached, not_oneTier seen⟩
  · obtain ⟨system, reached, seen⟩ := run_observed (step oneGuest) ⟨threeTiers, []⟩ (fun _ _ => true)
      (fun system => hasStray system.db) (fun _ _ _ => trivial)
      [.create (offering 41 1) (some 10), .commit 0, .deactivate 1 41 (some 10), .release 0, .commit 0,
        .create (mapping 42 1) (some 10), .commit 0] (by decide +kernel)
    exact ⟨system, reached, not_mapped seen⟩

end Executed

end CloudGuest.Policies.Tiers
