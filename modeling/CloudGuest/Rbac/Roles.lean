import CloudGuest.Library.Faults
import CloudGuest.Rbac.Grants

/-!
The writes of the RBAC service (rbac/service.py): roles and their permissions, the
copy that an organization gets of a shared role, assignments and overrides. A call
that raises leaves the tables as they were.
-/

namespace CloudGuest.Rbac
open Texts Uuids FirstSeen

inductive Fault where
  | roleNotFound
  | crossTenantAccess
  | duplicateRole
  | roleInactive
  | roleInUse
  | roleNotCloneable
  | systemRoleImmutable
  | sharedRoleImmutable
  | ownerRoleProtected
  | circularRoleHierarchy
  | permissionNotFound
  | invalidScopeAssignment
  | permissionDenied
  | roleEscalation
  | overrideEscalation
  | assignmentNotFound
  | lastOrganizationOwner
  | lastGlobalAdmin
  /-- A constraint of the database. -/
  | conflict
  deriving DecidableEq

def require (fault : Fault) (test : Bool) : Except Fault Unit :=
  if test then .ok () else .error fault

def found {Row : Type} (fault : Fault) (row : Option Row) : Except Fault Row :=
  match row with
  | some row => .ok row
  | none => .error fault

def organizationOwnerRoleSlug : Text := "organization-owner".toList

def superAdminRoleSlug : Text := "super-admin".toList

def roleAssignPermission : Text := "roles.assign".toList

def permissionOverrideAssignPermission : Text := "permissions.assign".toList

def permissionManageBypassPermission : Text := "permissions.manage".toList

/-! ### Rows (repository.py) -/

variable (db : Database)

def Database.getRoleBySlug (slug : Text) (organizationId : Option Uuid) : Option Role :=
  db.roles.find? fun role =>
    role.slug = slug && !role.isDeleted && (organizationId = none || role.organizationId = organizationId)

def Database.createRole (role : Role) : Except Fault Database := do
  -- An insert into the roles, of a fresh id and a slug that the organization has no row of.
  require .conflict (db.roles.all fun other => other.id ≠ role.id &&
    (role.organizationId = none || other.slug ≠ role.slug || other.organizationId ≠ role.organizationId))
  return { db with roles := db.roles ++ [role] }

def Database.changeRole (id : Uuid) (change : Role → Role) : Database :=
  { db with roles := db.roles.map fun role => if role.id = id then change role else role }

def Database.addRolePermission (roleId permissionId : Uuid) : Except Fault Database := do
  require .conflict (decide (RolePermission.mk roleId permissionId ∉ db.rolePermissions))
  return { db with rolePermissions := db.rolePermissions ++ [⟨roleId, permissionId⟩] }

def Database.removeRolePermission (roleId permissionId : Uuid) : Database :=
  { db with rolePermissions := db.rolePermissions.filter (· ≠ ⟨roleId, permissionId⟩) }

def Database.getPermissionByKey (key : Text) : Option Permission :=
  db.permissions.find? fun permission => permission.key = key && !permission.isDeleted

def Database.hasHolder (roleId : Uuid) : Bool :=
  -- `get_user_ids_with_role`: its active rows, expired or not.
  db.userRoles.any fun row => row.roleId = roleId && row.isActive

def Database.countActiveRoleAssignmentsInOrganization (roleId organizationId : Uuid)
    (excluded : Option Uuid) : Nat :=
  db.userRoles.countP fun row => row.roleId = roleId && row.scope.organizationId = some organizationId &&
    row.isActive && some row.id ≠ excluded

def Database.countActiveGlobalRoleAssignments (roleId : Uuid) (excluded : Option Uuid) : Nat :=
  db.userRoles.countP fun row => row.roleId = roleId && row.scope.scopeType = .global &&
    row.scope.organizationId = none && row.isActive && some row.id ≠ excluded

def Database.reassignRoleAssignmentsInOrganization (fromRoleId toRoleId organizationId : Uuid) :
    Database :=
  { db with
    userRoles := db.userRoles.map fun row =>
      if row.roleId = fromRoleId ∧ row.scope.organizationId = some organizationId ∧ row.isActive = true then
        { row with roleId := toRoleId }
      else row }

def Database.upsertOrganizationRole (entry : OrganizationRole) : Database :=
  if db.organizationRoles.any fun row =>
      row.organizationId = entry.organizationId && row.roleId = entry.roleId then
    { db with
      organizationRoles := db.organizationRoles.map fun row =>
        if row.organizationId = entry.organizationId ∧ row.roleId = entry.roleId then entry else row }
  else { db with organizationRoles := db.organizationRoles ++ [entry] }

/-! ### Roles -/

def Database.isHidden (organizationId roleId : Uuid) : Bool :=
  db.organizationRoles.any fun row =>
    row.organizationId = organizationId && row.roleId = roleId && !row.isEnabled

def Database.getRole (roleId : Uuid) (requesting : Option Uuid) : Except Fault Role := do
  let role ← found .roleNotFound (db.getRoleById roleId)
  require .crossTenantAccess (role.organizationId = none || role.organizationId = requesting)
  require .roleNotFound (role.organizationId.isSome ||
    requesting.all fun organization => !db.isHidden organization role.id)
  return role

def isSharedRoleInTenantContext (role : Role) (requesting : Option Uuid) : Bool :=
  requesting.isSome && role.organizationId = none

def Database.attachPermission (role : Role) (key : Text) : Except Fault Database := do
  let permission ← found .permissionNotFound (db.getPermissionByKey key)
  require .invalidScopeAssignment (permission.scopeTypes = [] || role.scopeType ∈ permission.scopeTypes)
  db.addRolePermission role.id permission.id

def attachAll (role : Role) : List Text → Database → Except Fault Database
  | [], db => .ok db
  | key :: rest, db => do attachAll role rest (← db.attachPermission role key)

def addAll (roleId : Uuid) : List Uuid → Database → Except Fault Database
  | [], db => .ok db
  | permissionId :: rest, db => do addAll roleId rest (← db.addRolePermission roleId permissionId)

structure RoleCreate where
  slug : Text
  scopeType : ScopeType
  organizationId : Option Uuid
  parentRoleId : Option Uuid
  isTemplate : Bool
  permissionKeys : List Text
  allowedScopeTypes : List ScopeType

def createRole (newId : Uuid) (data : RoleCreate) (requesting : Option Uuid) (db : Database) :
    Except Fault Database := do
  require .crossTenantAccess
    (data.organizationId = none || requesting = none || data.organizationId = requesting)
  require .duplicateRole (db.getRoleBySlug data.slug data.organizationId).isNone
  require .roleNotFound (data.parentRoleId.all fun parent => (db.getRoleById parent).isSome)
  let role : Role := ⟨newId, data.slug, false, data.isTemplate, true, false, data.scopeType,
    data.organizationId, data.parentRoleId, data.allowedScopeTypes⟩
  attachAll role data.permissionKeys (← db.createRole role)

/-- The bound of the walk that looks for a cycle, and of the one that flattens a role. -/
def maxChainDepth : Nat := 50

def Database.assertNoCycle (roleId proposed : Uuid) : Except Fault Unit := do
  require .circularRoleHierarchy (proposed ≠ roleId)
  require .circularRoleHierarchy
    ((db.getParentChain proposed maxChainDepth).all fun ancestor => ancestor.id ≠ roleId)

def Database.flattenedPermissions (role : Role) : List Uuid :=
  -- `_flattened_permission_rows`, by the permissions of the rows. A deleted permission that is
  -- active is among them.
  firstSeen ((role :: db.getParentChain role.id maxChainDepth).flatMap fun member =>
    ((db.getRolePermissions member.id).map RolePermission.permissionId).filter fun id =>
      (db.permissionOf id).any Permission.isActive)

def Role.copied (source : Role) (newId organizationId : Uuid) : Role :=
  { source with
    id := newId, isSystemRole := false, isTemplate := false, isActive := true, isDeleted := false
    organizationId := some organizationId, parentRoleId := none }

def copySharedRoleIntoOrganization (newId : Uuid) (source : Role) (organizationId : Uuid)
    (db : Database) : Except Fault Database := do
  require .crossTenantAccess (source.scopeType ≠ .global)
  require .ownerRoleProtected (source.slug ≠ organizationOwnerRoleSlug)
  require .duplicateRole (db.getRoleBySlug source.slug (some organizationId)).isNone
  let created ← db.createRole (source.copied newId organizationId)
  let filled ← addAll newId (db.flattenedPermissions source) created
  return (filled.reassignRoleAssignmentsInOrganization source.id newId organizationId)
    |>.upsertOrganizationRole ⟨organizationId, source.id, false⟩

/-- The fields of a request to update a role; `none` where it does not set one. -/
structure RoleUpdate where
  renames : Bool
  isTemplate : Option Bool
  parentRoleId : Option (Option Uuid)
  permissionKeys : Option (List Text)

def Database.rowKeys (roleId : Uuid) : List Text :=
  (db.getRolePermissions roleId).filterMap fun row => (db.permissionOf row.permissionId).map Permission.key

def Database.detachKey (roleId : Uuid) (key : Text) : Database :=
  match db.getPermissionByKey key with
  | some permission => db.removeRolePermission roleId permission.id
  | none => db

def Database.reconcileRolePermissions (role : Role) (keys : List Text) : Except Fault Database := do
  let current := firstSeen (db.rowKeys role.id)
  let attached ← attachAll role ((firstSeen keys).filter (· ∉ current)) db
  return (current.filter (· ∉ keys)).foldl (fun db key => db.detachKey role.id key) attached

def Database.assertParent (roleId : Uuid) (parent : Option Uuid) : Except Fault Unit :=
  -- What `update_role` tests of a new parent, which the foreign key has to find as well.
  match parent with
  | none => .ok ()
  | some proposed => do
      db.assertNoCycle roleId proposed
      require .conflict (db.roleOf proposed).isSome

def Role.updated (data : RoleUpdate) (role : Role) : Role :=
  { role with
    isTemplate := data.isTemplate.getD role.isTemplate
    parentRoleId := data.parentRoleId.getD role.parentRoleId }

def Database.editRole (role : Role) (data : RoleUpdate) : Except Fault Database := do
  -- The part of `update_role` that changes one row, the organization's own or the copy.
  require .systemRoleImmutable (!(role.isSystemRole && data.renames))
  require .systemRoleImmutable (!(role.isSystemRole && data.permissionKeys.isSome))
  db.assertParent role.id data.parentRoleId.join
  let updated := db.changeRole role.id (Role.updated data)
  match data.permissionKeys with
  | some keys => updated.reconcileRolePermissions role keys
  | none => return updated

def updateRole (newId roleId : Uuid) (data : RoleUpdate) (requesting : Option Uuid) (db : Database) :
    Except Fault Database := do
  let role ← db.getRole roleId requesting
  match requesting with
  | some organization =>
      if role.organizationId = none then
        let copied ← copySharedRoleIntoOrganization newId role organization db
        copied.editRole (role.copied newId organization) data
      else db.editRole role data
  | none => db.editRole role data

def hideSharedRoleForOrganization (role : Role) (organizationId : Uuid) (db : Database) :
    Except Fault Database := do
  require .crossTenantAccess (role.scopeType ≠ .global)
  require .ownerRoleProtected (role.slug ≠ organizationOwnerRoleSlug)
  require .roleInUse (db.countActiveRoleAssignmentsInOrganization role.id organizationId none = 0)
  return db.upsertOrganizationRole ⟨organizationId, role.id, false⟩

def deleteRole (roleId : Uuid) (requesting : Option Uuid) (db : Database) : Except Fault Database := do
  let role ← db.getRole roleId requesting
  match requesting with
  | some organization =>
      if role.organizationId = none then hideSharedRoleForOrganization role organization db
      else do
        require .systemRoleImmutable !role.isSystemRole
        require .roleInUse !db.hasHolder role.id
        return db.changeRole role.id fun row => { row with isDeleted := true }
  | none => do
      require .systemRoleImmutable !role.isSystemRole
      require .roleInUse !db.hasHolder role.id
      return db.changeRole role.id fun row => { row with isDeleted := true }

def setRoleActive (roleId : Uuid) (isActive : Bool) (requesting : Option Uuid) (db : Database) :
    Except Fault Database := do
  let role ← db.getRole roleId requesting
  require .sharedRoleImmutable !isSharedRoleInTenantContext role requesting
  require .systemRoleImmutable (!role.isSystemRole || isActive)
  return db.changeRole role.id fun row => { row with isActive }

def Role.cloned (source : Role) (newId : Uuid) (slug : Text) (target : Option Uuid) : Role :=
  { source with
    id := newId, slug, isSystemRole := false, isTemplate := false, isActive := true, isDeleted := false
    organizationId := target, parentRoleId := some source.id }

def cloneRole (newId sourceId : Uuid) (slug : Text) (target requesting : Option Uuid) (db : Database) :
    Except Fault Database := do
  let source ← db.getRole sourceId requesting
  require .roleNotCloneable (source.isSystemRole || source.isTemplate)
  require .crossTenantAccess (target = none || requesting = none || target = requesting)
  require .duplicateRole (db.getRoleBySlug slug target).isNone
  let created ← db.createRole (source.cloned newId slug target)
  addAll newId (((db.getRolePermissions source.id).map RolePermission.permissionId).filter fun id =>
    (db.permissionOf id).any Permission.isActive) created

def Database.editableRole (roleId : Uuid) (requesting : Option Uuid) : Except Fault Role := do
  let role ← db.getRole roleId requesting
  require .sharedRoleImmutable !isSharedRoleInTenantContext role requesting
  require .systemRoleImmutable !role.isSystemRole
  return role

def assignPermissionToRole (roleId : Uuid) (key : Text) (requesting : Option Uuid) (db : Database) :
    Except Fault Database := do
  let role ← db.editableRole roleId requesting
  db.attachPermission role key

def removePermissionFromRole (roleId : Uuid) (key : Text) (requesting : Option Uuid) (db : Database) :
    Except Fault Database := do
  let role ← db.editableRole roleId requesting
  let permission ← found .permissionNotFound (db.getPermissionByKey key)
  require .permissionNotFound (decide (RolePermission.mk role.id permission.id ∈ db.rolePermissions))
  return db.removeRolePermission role.id permission.id

/-! ### Assignments and overrides -/

structure Setting where
  maxParentRoleDepth : Nat
  now : Moment

def Database.accepts (setting : Setting) (userId : Uuid) (key : Text) (scopeType : ScopeType)
    (context : ScopeContext) : Bool :=
  (db.resolve setting.maxParentRoleDepth userId setting.now).hasPermission key scopeType context

structure NamedScope where
  scopeType : ScopeType
  organizationId : Option Uuid
  locationId : Option Uuid
  routerId : Option Uuid
  deriving DecidableEq

def NamedScope.context (scope : NamedScope) : ScopeContext :=
  ⟨scope.organizationId, scope.locationId, scope.routerId⟩

def NamedScope.granted (scope : NamedScope) : GrantScope :=
  ⟨scope.scopeType, scope.organizationId, scope.locationId, scope.routerId, none⟩

def validateScopeAssignment (role : Role) (scope : NamedScope) : Except Fault Unit := do
  require .invalidScopeAssignment (scope.scopeType = role.scopeType || scope.scopeType ∈ role.scopeTypes)
  require .invalidScopeAssignment (match scope.scopeType with
    | .organization => scope.organizationId.isSome
    | .location => scope.locationId.isSome
    | .router => scope.routerId.isSome
    | _ => true)

def Database.assertNoRoleEscalation (setting : Setting) (actor : Uuid) (role : Role)
    (scope : NamedScope) : Except Fault Unit :=
  require .roleEscalation ((db.resolveRolePermissionKeys setting.maxParentRoleDepth role.id).all fun key =>
    db.accepts setting actor key scope.scopeType scope.context)

def assignRoleToUser (setting : Setting) (actor newId target roleId : Uuid) (scope : NamedScope)
    (expiresAt : Option Moment) (requesting : Option Uuid) (db : Database) : Except Fault Database := do
  let role ← db.getRole roleId requesting
  require .roleInactive role.isActive
  require .crossTenantAccess
    (scope.organizationId = none || requesting = none || scope.organizationId = requesting)
  validateScopeAssignment role scope
  require .permissionDenied
    (db.accepts setting actor roleAssignPermission scope.scopeType scope.context)
  db.assertNoRoleEscalation setting actor role scope
  require .conflict (db.userRoles.all fun row => row.id ≠ newId)
  return { db with
    userRoles := db.userRoles ++ [⟨newId, target, role.id, scope.granted, expiresAt, true⟩] }

def Database.getUserRoleAssignment (id : Uuid) : Option UserRole :=
  db.userRoles.find? fun row => row.id = id

def Database.assertNotLastOrganizationOwner (row : UserRole) : Except Fault Unit :=
  match row.scope.organizationId with
  | none => .ok ()
  | some organization =>
      if !row.isActive then .ok ()
      else if (db.getRoleById row.roleId).all fun role => role.slug ≠ organizationOwnerRoleSlug then .ok ()
      else require .lastOrganizationOwner
        (db.countActiveRoleAssignmentsInOrganization row.roleId organization (some row.id) ≠ 0)

def Database.assertNotLastGlobalAdmin (row : UserRole) : Except Fault Unit :=
  if row.scope.organizationId.isSome || !row.isActive then .ok ()
  else if row.scope.scopeType ≠ .global then .ok ()
  else if (db.getRoleById row.roleId).all fun role => role.slug ≠ superAdminRoleSlug then .ok ()
  else require .lastGlobalAdmin (db.countActiveGlobalRoleAssignments row.roleId (some row.id) ≠ 0)

def Database.assertRevocable (row : UserRole) (requesting : Option Uuid) : Except Fault Unit := do
  require .crossTenantAccess
    (row.scope.organizationId = none || requesting = none || row.scope.organizationId = requesting)
  db.assertNotLastOrganizationOwner row
  db.assertNotLastGlobalAdmin row

def Database.deactivateUserRole (id : Uuid) : Database :=
  { db with
    userRoles := db.userRoles.map fun row => if row.id = id then { row with isActive := false } else row }

def revokeRoleFromUser (assignmentId : Uuid) (requesting : Option Uuid) (db : Database) :
    Except Fault Database := do
  let row ← found .assignmentNotFound (db.getUserRoleAssignment assignmentId)
  db.assertRevocable row requesting
  return db.deactivateUserRole row.id

def grantPermissionOverride (setting : Setting) (actor newId target : Uuid) (key : Text)
    (effect : OverrideEffect) (scope : NamedScope) (expiresAt : Option Moment) (db : Database) :
    Except Fault Database := do
  let permission ← found .permissionNotFound (db.getPermissionByKey key)
  require .permissionDenied
    (db.accepts setting actor permissionOverrideAssignPermission scope.scopeType scope.context)
  require .overrideEscalation (effect ≠ .allow ||
    db.accepts setting actor key scope.scopeType scope.context ||
    db.accepts setting actor permissionManageBypassPermission .global .globalScope)
  require .conflict (db.overrides.all fun row => row.id ≠ newId)
  return { db with
    overrides := db.overrides ++ [⟨newId, target, permission.id, effect, scope.granted, expiresAt, true⟩] }

def Database.getPermissionOverrideById (id : Uuid) : Option PermissionOverride :=
  db.overrides.find? fun row => row.id = id

def revokePermissionOverride (setting : Setting) (actor overrideId : Uuid) (db : Database) :
    Except Fault Database := do
  let row ← found .permissionNotFound (db.getPermissionOverrideById overrideId)
  require .permissionDenied (db.accepts setting actor permissionOverrideAssignPermission row.scope.scopeType
    ⟨row.scope.organizationId, row.scope.locationId, row.scope.routerId⟩)
  return { db with
    overrides := db.overrides.map fun other =>
      if other.id = overrideId then { other with isActive := false } else other }

/-! ### What the tests of a call let through -/

theorem require_ok {fault : Fault} {test : Bool} {value : Unit} :
    require fault test = .ok value ↔ test = true := by
  unfold require
  split <;> simp_all

theorem found_ok {Row : Type} {fault : Fault} {row : Option Row} {value : Row} :
    found fault row = .ok value ↔ row = some value := by
  unfold found
  split <;> simp_all

end CloudGuest.Rbac
