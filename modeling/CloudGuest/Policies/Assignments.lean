import CloudGuest.Library.Sorting
import CloudGuest.Library.Tables
import CloudGuest.Rbac.Grants

/-!
Policies, their versions, and the assignments that say whom a policy applies to and
where (policy/models.py), with the reads that resolution makes of them
(policy/repository.py).
-/

namespace CloudGuest.Policies
open Texts Uuids Tables Rbac

inductive PolicyType where
  | authn | session | bandwidth | fup | businessHours | access | vlan | qos | routing | voucher | device
  deriving DecidableEq

/-- `PolicyAssignmentTargetType`. `members` says that a policy is offered at a scope, and applies it to
nobody. -/
inductive TargetType where
  | none | user | role | guest | members
  deriving DecidableEq

abbrev Rules := List (Text × Json.Value)

structure Organization where
  id : Uuid
  parentOrganizationId : Option Uuid
  isDeleted : Bool
  deriving DecidableEq

structure Location where
  id : Uuid
  organizationId : Uuid
  isDeleted : Bool
  deriving DecidableEq

structure Policy where
  id : Uuid
  /-- None for a policy of the platform. -/
  organizationId : Option Uuid
  policyType : PolicyType
  name : Text
  isActive : Bool
  isDeleted : Bool
  currentVersionId : Option Uuid
  deriving DecidableEq

structure PolicyVersion where
  id : Uuid
  policyId : Uuid
  rules : Rules
  isDeleted : Bool

structure PolicyAssignment where
  id : Uuid
  policyId : Uuid
  scopeType : ScopeType
  scopeId : Option Uuid
  targetType : TargetType
  targetId : Option Uuid
  priority : Int
  isActive : Bool
  isDeleted : Bool
  /-- None before the row is flushed. -/
  createdAt : Option Moment
  deriving DecidableEq

structure Database where
  organizations : Table Organization.id
  locations : Table Location.id
  policies : Table Policy.id
  versions : Table PolicyVersion.id
  assignments : Table PolicyAssignment.id

inductive Fault where
  | organizationNotFound
  | locationNotFound
  | crossOrganizationLocationAccess
  | policyNotFound
  | assignmentNotFound
  | crossOrganizationPolicyAccess
  | requiresPublishedVersion
  | scopeIdNotAllowed
  | scopeIdRequired
  | targetIdNotAllowed
  | targetIdRequired
  | targetUserNotFound
  | targetRoleNotFound
  | targetGuestNotFound
  | guestAlreadyMapped
  deriving DecidableEq

/-! ### Reads -/

variable (db : Database)

def Database.getPolicyById (id : Uuid) : Option Policy := (db.policies.find id).filter (!·.isDeleted)

def Database.getVersionById (id : Uuid) : Option PolicyVersion := (db.versions.find id).filter (!·.isDeleted)

def Database.getOrganization (id : Uuid) (includeDeleted : Bool) : Except Fault Organization :=
  match (db.organizations.find id).filter fun row => includeDeleted || !row.isDeleted with
  | some organization => .ok organization
  | none => .error .organizationNotFound

def Database.getLocation (id : Uuid) (requesting : Option Uuid) : Except Fault Location :=
  match (db.locations.find id).filter (!·.isDeleted), requesting with
  | none, _ => .error .locationNotFound
  | some location, none => .ok location
  | some location, some organization =>
      if location.organizationId = organization then .ok location
      else do
        let owner ← db.getOrganization location.organizationId true
        if owner.parentOrganizationId = some organization then .ok location
        else .error .crossOrganizationLocationAccess

structure Request where
  policyType : PolicyType
  organizationId : Option Uuid
  locationId : Option Uuid
  userId : Option Uuid
  roleIds : List Uuid
  guestId : Option Uuid

/-- A condition on a column that is left out where there is no value to compare with. -/
def names (value column : Option Uuid) : Bool := value.isSome && column = value

def Request.matchesScope (request : Request) (assignment : PolicyAssignment) : Bool :=
  match assignment.scopeType with
  | .global => true
  | .organization => names request.organizationId assignment.scopeId
  | .location => names request.locationId assignment.scopeId
  | _ => false

def Request.matchesTarget (request : Request) (assignment : PolicyAssignment) : Bool :=
  match assignment.targetType with
  | .none => true
  | .user => names request.userId assignment.targetId
  | .guest => names request.guestId assignment.targetId
  | .role => assignment.targetId.any fun role => role ∈ request.roleIds
  | .members => false

def Policy.isUsable (policyType : PolicyType) (policy : Policy) : Bool :=
  policy.isActive && !policy.isDeleted && policy.policyType = policyType && policy.currentVersionId.isSome

def Database.isCandidate (request : Request) (assignment : PolicyAssignment) : Bool :=
  assignment.isActive && !assignment.isDeleted &&
    (db.policies.find assignment.policyId).any (Policy.isUsable request.policyType) &&
    request.matchesScope assignment && request.matchesTarget assignment

def Database.listCandidateAssignments (request : Request) : List PolicyAssignment :=
  db.assignments.rows.filter (db.isCandidate request)

/-! ### Precedence (service.py) -/

def TargetType.specificity : TargetType → Int
  | .none => 0
  | .role => 1
  | .user => 2
  | .guest => 3
  | .members => -1

def scopeSpecificity : ScopeType → Int
  | .global => 0
  | .organization => 1
  | .location => 2
  | _ => -1

/-- Whom, where, the operator's priority, when, and the id; compared in that order. -/
abbrev ResolutionKey := Int ×ₗ Int ×ₗ Int ×ₗ Moment ×ₗ Text

def resolutionKey (assignment : PolicyAssignment) : ResolutionKey :=
  toLex (assignment.targetType.specificity, toLex (scopeSpecificity assignment.scopeType,
    toLex (assignment.priority, toLex (assignment.createdAt.getD 0, uuidText assignment.id))))

theorem uuidText_injective {left right : Uuid} (same : uuidText left = uuidText right) : left = right := by
  have read := congrArg readUuid same
  rw [readUuid_uuidText, readUuid_uuidText] at read
  exact Option.some.inj read

theorem resolutionKey_id {left right : PolicyAssignment} (same : resolutionKey left = resolutionKey right) :
    left.id = right.id := by
  simp only [resolutionKey, EmbeddingLike.apply_eq_iff_eq, Prod.mk.injEq] at same
  exact uuidText_injective same.2.2.2.2

theorem specificity_le {left right : PolicyAssignment} (below : resolutionKey left ≤ resolutionKey right) :
    left.targetType.specificity ≤ right.targetType.specificity := by
  rcases Prod.Lex.le_iff.mp below with less | ⟨same, -⟩
  · exact le_of_lt less
  · exact le_of_eq same

theorem separates_assignments {items : List PolicyAssignment} (listed : ∀ item ∈ items, item ∈ db.assignments.rows) :
    Sorting.Separates resolutionKey items := by
  intro left first right second same
  exact List.inj_on_of_nodup_map db.assignments.unique (listed left first) (listed right second)
    (resolutionKey_id same)

end CloudGuest.Policies
