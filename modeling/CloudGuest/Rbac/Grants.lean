import CloudGuest.Library.FirstSeen
import CloudGuest.Library.Uuids

/-!
Who may do what (rbac/authorization.py): the tables of roles and assignments, the
walk along the parents of a role, the grants that a user's assignments and overrides
come to, and the check of one permission in one scope.

A table has the rows that are not deleted, except for roles and permissions, whose
deletion is a mark that some of the readers look at and some do not.
-/

namespace CloudGuest.Rbac
open Texts Uuids FirstSeen

abbrev Moment := Nat

/-! ### Scopes (context.py) -/

inductive ScopeType where
  | global | organization | location | router | device
  deriving DecidableEq

def ScopeType.order : ScopeType → Nat
  | .global => 0
  | .organization => 1
  | .location => 2
  | .router => 3
  | .device => 4

structure ScopeContext where
  organizationId : Option Uuid
  locationId : Option Uuid
  routerId : Option Uuid
  deriving DecidableEq

def ScopeContext.globalScope : ScopeContext := ⟨none, none, none⟩

structure GrantScope where
  scopeType : ScopeType
  organizationId : Option Uuid
  locationId : Option Uuid
  routerId : Option Uuid
  mspId : Option Uuid
  deriving DecidableEq

def namesSame (granted requested : Option Uuid) : Bool :=
  granted.isSome && requested.isSome && granted = requested

def satisfies (grant : GrantScope) (requestedScopeType : ScopeType) (requested : ScopeContext) : Bool :=
  if grant.scopeType = .global then true
  else if requestedScopeType.order < grant.scopeType.order then false
  else
    match grant.scopeType with
    | .organization => namesSame grant.organizationId requested.organizationId
    | .location => namesSame grant.locationId requested.locationId
    | .router => namesSame grant.routerId requested.routerId
    | _ => false

/-! ### Tables (models.py) -/

structure Permission where
  id : Uuid
  key : Text
  isActive : Bool
  isDeleted : Bool
  /-- Where the permission applies; empty for everywhere. -/
  scopeTypes : List ScopeType
  deriving DecidableEq

structure Role where
  id : Uuid
  slug : Text
  isSystemRole : Bool
  isTemplate : Bool
  isActive : Bool
  isDeleted : Bool
  scopeType : ScopeType
  organizationId : Option Uuid
  parentRoleId : Option Uuid
  /-- The further scopes that the role may be assigned at. -/
  scopeTypes : List ScopeType
  deriving DecidableEq

structure RolePermission where
  roleId : Uuid
  permissionId : Uuid
  deriving DecidableEq

structure UserRole where
  id : Uuid
  userId : Uuid
  roleId : Uuid
  scope : GrantScope
  expiresAt : Option Moment
  isActive : Bool
  deriving DecidableEq

inductive OverrideEffect where
  | allow | deny
  deriving DecidableEq

structure PermissionOverride where
  id : Uuid
  userId : Uuid
  permissionId : Uuid
  effect : OverrideEffect
  scope : GrantScope
  expiresAt : Option Moment
  isActive : Bool
  deriving DecidableEq

structure OrganizationRole where
  organizationId : Uuid
  roleId : Uuid
  isEnabled : Bool
  deriving DecidableEq

structure Database where
  permissions : List Permission
  roles : List Role
  rolePermissions : List RolePermission
  userRoles : List UserRole
  overrides : List PermissionOverride
  organizationRoles : List OrganizationRole

/-! ### Reads (repository.py) -/

variable (db : Database)

def Database.getRoleById (id : Uuid) : Option Role :=
  db.roles.find? fun role => role.id = id && !role.isDeleted

def Database.permissionOf (id : Uuid) : Option Permission :=
  db.permissions.find? fun permission => permission.id = id

def Database.roleOf (id : Uuid) : Option Role := db.roles.find? fun role => role.id = id

def Database.getRolePermissions (roleId : Uuid) : List RolePermission :=
  db.rolePermissions.filter fun row => row.roleId = roleId

def Database.parentsFrom : Nat → List Uuid → Role → List Role
  -- The walk of `get_parent_chain` from a role, with the ids it has seen.
  | 0, _, _ => []
  | depth + 1, seen, current =>
      match current.parentRoleId.bind db.getRoleById with
      | none => []
      | some parent =>
          if parent.id ∈ seen then []
          else parent :: Database.parentsFrom depth (parent.id :: seen) parent

def Database.getParentChain (roleId : Uuid) (maxDepth : Nat) : List Role :=
  match db.getRoleById roleId with
  | none => []
  | some role => db.parentsFrom maxDepth [roleId] role

def isCurrent (expiresAt : Option Moment) (now : Moment) : Bool := expiresAt.all (now < ·)

def Database.getActiveUserRoles (userId : Uuid) (now : Moment) : List UserRole :=
  db.userRoles.filter fun row => row.userId = userId && row.isActive && isCurrent row.expiresAt now

def Database.getActiveOverridesForUser (userId : Uuid) (now : Moment) : List PermissionOverride :=
  db.overrides.filter fun row => row.userId = userId && row.isActive && isCurrent row.expiresAt now

/-! ### Grants (authorization.py) -/

structure EffectiveGrant where
  permissionKey : Text
  effect : OverrideEffect
  scope : GrantScope
  source : Text
  deriving DecidableEq

structure EffectiveGrants where
  allow : List EffectiveGrant
  deny : List EffectiveGrant
  deriving DecidableEq

def Database.getActiveAssignments (userId : Uuid) (now : Moment) : List (UserRole × Role) :=
  (db.getActiveUserRoles userId now).filterMap fun row =>
    ((db.roleOf row.roleId).filter fun role => role.isActive && !role.isDeleted).map fun role =>
      (row, role)

/-- The keys of a role's own rows whose permission is in use. -/
def Database.ownKeys (roleId : Uuid) : List Text :=
  (db.getRolePermissions roleId).filterMap fun row =>
    ((db.permissionOf row.permissionId).filter fun permission =>
      permission.isActive && !permission.isDeleted).map Permission.key

def Database.resolveRolePermissionKeys (maxParentRoleDepth : Nat) (roleId : Uuid) : List Text :=
  firstSeen (db.ownKeys roleId ++
    (db.getParentChain roleId maxParentRoleDepth).flatMap fun parent => db.ownKeys parent.id)

def roleGrants (keys : List Text) (row : UserRole) (role : Role) : List EffectiveGrant :=
  keys.map fun key => ⟨key, .allow, row.scope, "role:".toList ++ uuidText role.id⟩

def Database.overrideGrants (userId : Uuid) (now : Moment) : List EffectiveGrant :=
  (db.getActiveOverridesForUser userId now).filterMap fun override =>
    ((db.permissionOf override.permissionId).filter fun permission => !permission.isDeleted).map
      fun permission => ⟨permission.key, override.effect, { override.scope with mspId := none },
        "override".toList⟩

def Database.resolve (maxParentRoleDepth : Nat) (userId : Uuid) (now : Moment) : EffectiveGrants :=
  let overridden := db.overrideGrants userId now
  { allow :=
      ((db.getActiveAssignments userId now).flatMap fun item =>
        roleGrants (db.resolveRolePermissionKeys maxParentRoleDepth item.2.id) item.1 item.2) ++
      overridden.filter fun grant => grant.effect ≠ .deny
    deny := overridden.filter fun grant => grant.effect = .deny }

def EffectiveGrant.covers (grant : EffectiveGrant) (permissionKey : Text) (scopeType : ScopeType)
    (context : ScopeContext) : Bool :=
  grant.permissionKey = permissionKey && satisfies grant.scope scopeType context

def EffectiveGrants.hasPermission (grants : EffectiveGrants) (permissionKey : Text)
    (scopeType : ScopeType) (context : ScopeContext) : Bool :=
  if grants.deny.any fun grant => grant.covers permissionKey scopeType context then false
  else grants.allow.any fun grant => grant.covers permissionKey scopeType context

end CloudGuest.Rbac
