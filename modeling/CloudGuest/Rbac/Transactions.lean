import CloudGuest.Library.Calls
import CloudGuest.Rbac.Roles

/-!
The RBAC service's writes as transactions. A request reads the committed tables and
computes its writes; when it commits, a field that it has changed is written on the
row as it then is, and its new rows are inserted.
-/

namespace CloudGuest.Rbac
open Texts Uuids Calls

inductive Mutation where
  | createRole (newId : Uuid) (data : RoleCreate)
  | updateRole (newId roleId : Uuid) (data : RoleUpdate)
  | deleteRole (roleId : Uuid)
  | setRoleActive (roleId : Uuid) (isActive : Bool)
  | cloneRole (newId sourceId : Uuid) (slug : Text) (target : Option Uuid)
  | assignPermissionToRole (roleId : Uuid) (key : Text)
  | removePermissionFromRole (roleId : Uuid) (key : Text)
  | assignRoleToUser (newId target roleId : Uuid) (scope : NamedScope) (expiresAt : Option Moment)
  | revokeRoleFromUser (assignmentId : Uuid)
  | grantPermissionOverride (newId target : Uuid) (key : Text) (effect : OverrideEffect)
      (scope : NamedScope) (expiresAt : Option Moment)
  | revokePermissionOverride (overrideId : Uuid)

structure Caller where
  actor : Uuid
  requesting : Option Uuid

def Mutation.run (setting : Setting) (caller : Caller) : Mutation → Database → Except Fault Database
  | .createRole newId data => Rbac.createRole newId data caller.requesting
  | .updateRole newId roleId data => Rbac.updateRole newId roleId data caller.requesting
  | .deleteRole roleId => Rbac.deleteRole roleId caller.requesting
  | .setRoleActive roleId isActive => Rbac.setRoleActive roleId isActive caller.requesting
  | .cloneRole newId sourceId slug target => Rbac.cloneRole newId sourceId slug target caller.requesting
  | .assignPermissionToRole roleId key => Rbac.assignPermissionToRole roleId key caller.requesting
  | .removePermissionFromRole roleId key => Rbac.removePermissionFromRole roleId key caller.requesting
  | .assignRoleToUser newId target roleId scope expiresAt =>
      Rbac.assignRoleToUser setting caller.actor newId target roleId scope expiresAt caller.requesting
  | .revokeRoleFromUser assignmentId => Rbac.revokeRoleFromUser assignmentId caller.requesting
  | .grantPermissionOverride newId target key effect scope expiresAt =>
      Rbac.grantPermissionOverride setting caller.actor newId target key effect scope expiresAt
  | .revokePermissionOverride overrideId => Rbac.revokePermissionOverride setting caller.actor overrideId

/-! ### Commits -/

section Merging

variable {Row Key : Type} [DecidableEq Key] (keyOf : Row → Key) (write : Row → Row → Row → Row)

def mergeRow (base mine : List Row) (row : Row) : Row :=
  match base.find? fun other => keyOf other = keyOf row, mine.find? fun other => keyOf other = keyOf row with
  | some read, some written => write read written row
  | _, _ => row

def mergeRows (base mine current : List Row) : List Row :=
  -- The rows of a table that knows them by a key: changed ones are written on the rows as they
  -- are, new ones are added.
  current.map (mergeRow keyOf write base mine) ++
    mine.filter fun row => base.all fun other => keyOf other ≠ keyOf row

end Merging

def mergeSets {Row : Type} [DecidableEq Row] (base mine current : List Row) : List Row :=
  (current.filter fun row => decide (row ∉ base) || decide (row ∈ mine)) ++
    mine.filter fun row => row ∉ base

def Role.write (read written row : Role) : Role :=
  { row with
    isTemplate := flushed read.isTemplate written.isTemplate row.isTemplate
    isActive := flushed read.isActive written.isActive row.isActive
    isDeleted := flushed read.isDeleted written.isDeleted row.isDeleted
    parentRoleId := flushed read.parentRoleId written.parentRoleId row.parentRoleId }

def UserRole.write (read written row : UserRole) : UserRole :=
  { row with
    roleId := flushed read.roleId written.roleId row.roleId
    isActive := flushed read.isActive written.isActive row.isActive }

def PermissionOverride.write (read written row : PermissionOverride) : PermissionOverride :=
  { row with isActive := flushed read.isActive written.isActive row.isActive }

def OrganizationRole.write (read written row : OrganizationRole) : OrganizationRole :=
  { row with isEnabled := flushed read.isEnabled written.isEnabled row.isEnabled }

/-- What is committed of a request that read `base` and left `mine`. -/
def Database.merge (base mine current : Database) : Database where
  permissions := current.permissions
  roles := mergeRows Role.id Role.write base.roles mine.roles current.roles
  rolePermissions := mergeSets base.rolePermissions mine.rolePermissions current.rolePermissions
  userRoles := mergeRows UserRole.id UserRole.write base.userRoles mine.userRoles current.userRoles
  overrides :=
    mergeRows PermissionOverride.id PermissionOverride.write base.overrides mine.overrides current.overrides
  organizationRoles := mergeRows (fun row => (row.organizationId, row.roleId)) OrganizationRole.write
    base.organizationRoles mine.organizationRoles current.organizationRoles

/-- The unique constraints and the foreign keys of roles, which a commit cannot break. -/
structure Database.Consistent (db : Database) : Prop where
  roles : (db.roles.map Role.id).Nodup
  slugs : ((db.roles.filter fun role => role.organizationId.isSome).map fun role =>
    (role.slug, role.organizationId)).Nodup
  rolePermissions : db.rolePermissions.Nodup
  userRoles : (db.userRoles.map UserRole.id).Nodup
  overrides : (db.overrides.map PermissionOverride.id).Nodup
  assigned : ∀ row ∈ db.userRoles, row.roleId ∈ db.roles.map Role.id
  parents : ∀ role ∈ db.roles, ∀ parent ∈ role.parentRoleId, parent ∈ db.roles.map Role.id

def Database.isConsistent (db : Database) : Bool :=
  decide (db.roles.map Role.id).Nodup &&
    decide ((db.roles.filter fun role => role.organizationId.isSome).map fun role =>
      (role.slug, role.organizationId)).Nodup &&
    decide db.rolePermissions.Nodup && decide (db.userRoles.map UserRole.id).Nodup &&
    decide (db.overrides.map PermissionOverride.id).Nodup &&
    db.userRoles.all (fun row => db.roles.any fun role => role.id = row.roleId) &&
    db.roles.all fun role => role.parentRoleId.all fun parent => db.roles.any fun other => other.id = parent

theorem consistent_of_check {db : Database} (check : db.isConsistent = true) : db.Consistent := by
  have known : ∀ id : Uuid, (db.roles.any fun role => role.id = id) = true → id ∈ db.roles.map Role.id := by
    intro id present
    obtain ⟨role, listed, same⟩ := List.any_eq_true.mp present
    exact List.mem_map.mpr ⟨role, listed, of_decide_eq_true same⟩
  simp only [Database.isConsistent, Bool.and_eq_true, decide_eq_true_eq, List.all_eq_true] at check
  obtain ⟨⟨⟨⟨⟨⟨roles, slugs⟩, rolePermissions⟩, userRoles⟩, overrides⟩, assigned⟩, parents⟩ := check
  refine ⟨roles, slugs, rolePermissions, userRoles, overrides,
    fun row listed => known _ (assigned row listed), ?_⟩
  intro role listed parent named
  have present := parents role listed
  rw [Option.mem_def.mp named, Option.all_some] at present
  exact known parent present

structure Pending where
  mutation : Mutation
  caller : Caller
  base : Database
  mine : Database

/-! ### Rows that a request leaves alone -/

section Untouched

variable {Row Key : Type} [DecidableEq Key] {keyOf : Row → Key} {write : Row → Row → Row → Row}

theorem mergeRow_kept (blind : ∀ read row, write read read row = row) {base mine : List Row} {row : Row}
    (same : (mine.find? fun other => keyOf other = keyOf row) =
      base.find? fun other => keyOf other = keyOf row) : mergeRow keyOf write base mine row = row := by
  rw [mergeRow, same]
  cases base.find? fun other => decide (keyOf other = keyOf row) with
  | none => rfl
  | some read => exact blind read row

theorem keyOf_mergeRow (keeps : ∀ read written row, keyOf (write read written row) = keyOf row)
    (base mine : List Row) (row : Row) : keyOf (mergeRow keyOf write base mine row) = keyOf row := by
  unfold mergeRow
  split
  · rw [keeps]
  · rfl

theorem mergeRows_same (blind : ∀ read row, write read read row = row) (base current : List Row) :
    mergeRows keyOf write base base current = current := by
  have added : (base.filter fun row => base.all fun other => keyOf other ≠ keyOf row) = [] := by
    rw [List.filter_eq_nil_iff]
    intro row listed fresh
    exact of_decide_eq_true (List.all_eq_true.mp fresh row listed) rfl
  have kept : mergeRow keyOf write base base = id := funext fun _ => mergeRow_kept blind rfl
  rw [mergeRows, added, List.append_nil, kept, List.map_id]

theorem mem_mergeRows (blind : ∀ read row, write read read row = row) {base mine current : List Row}
    {row : Row} (listed : row ∈ current)
    (same : (mine.find? fun other => keyOf other = keyOf row) =
      base.find? fun other => keyOf other = keyOf row) :
    row ∈ mergeRows keyOf write base mine current :=
  List.mem_append_left _ (List.mem_map.mpr ⟨row, listed, mergeRow_kept blind same⟩)

theorem find_of_mem {rows : List Row} {row : Row} (distinct : (rows.map keyOf).Nodup) (listed : row ∈ rows) :
    (rows.find? fun other => keyOf other = keyOf row) = some row := by
  cases located : rows.find? fun other => decide (keyOf other = keyOf row) with
  | none => simpa using List.find?_eq_none.mp located row listed
  | some other =>
      have same : keyOf other = keyOf row := by simpa using List.find?_some located
      exact congrArg some (List.inj_on_of_nodup_map distinct (List.mem_of_find?_eq_some located) listed same)

theorem find_changed (change : Row → Row) (keeps : ∀ row, keyOf (change row) = keyOf row)
    {key other : Key} (apart : other ≠ key) (rows : List Row) :
    ((rows.map fun row => if keyOf row = key then change row else row).find? fun row =>
      keyOf row = other) = rows.find? fun row => keyOf row = other := by
  induction rows with
  | nil => rfl
  | cons row rest ih =>
      rw [List.map_cons, List.find?_cons, List.find?_cons, ih]
      by_cases changed : keyOf row = key
      · have missed : keyOf row ≠ other := fun same => apart (same.symm.trans changed)
        simp [changed, keeps, changed ▸ missed]
      · simp [changed]

end Untouched

theorem Role.write_same (read row : Role) : Role.write read read row = row := by
  simp [Role.write, flushed_same]

theorem UserRole.write_same (read row : UserRole) : UserRole.write read read row = row := by
  simp [UserRole.write, flushed_same]

theorem PermissionOverride.write_same (read row : PermissionOverride) :
    PermissionOverride.write read read row = row := by
  simp [PermissionOverride.write, flushed_same]

theorem Role.write_id (read written row : Role) : (Role.write read written row).id = row.id := rfl

theorem UserRole.write_id (read written row : UserRole) : (UserRole.write read written row).id = row.id := rfl

theorem PermissionOverride.write_id (read written row : PermissionOverride) :
    (PermissionOverride.write read written row).id = row.id := rfl

end CloudGuest.Rbac
