import CloudGuest.Rbac.Transactions

/-!
What a call of the service can change: the ids of the roles, of the roles whose parent,
deletion or permissions change, of the assignments and of the overrides. Everything
else is read after the call as it was before.
-/

namespace CloudGuest.Rbac
open Texts Uuids FirstSeen

def Role.lineage (role : Role) : Bool × Option Uuid := (role.isDeleted, role.parentRoleId)

structure Footprint (before after : Database) (roles lineage rows overrides : List Uuid) : Prop where
  samePermissions : after.permissions = before.permissions
  sameRoles : ∀ id ∉ roles, after.roleOf id = before.roleOf id
  sameLineage : ∀ id ∉ lineage, (after.roleOf id).map Role.lineage = (before.roleOf id).map Role.lineage
  sameKeys : ∀ row, row.roleId ∉ lineage → (row ∈ after.rolePermissions ↔ row ∈ before.rolePermissions)
  sameRows : ∀ id ∉ rows, after.getUserRoleAssignment id = before.getUserRoleAssignment id
  sameOverrides : ∀ id ∉ overrides,
    after.getPermissionOverrideById id = before.getPermissionOverrideById id

variable {db before middle after : Database} {roles lineage rows overrides : List Uuid}

theorem Footprint.refl : Footprint db db roles lineage rows overrides :=
  ⟨rfl, fun _ _ => rfl, fun _ _ => rfl, fun _ _ => Iff.rfl, fun _ _ => rfl, fun _ _ => rfl⟩

theorem Footprint.trans (first : Footprint before middle roles lineage rows overrides)
    (second : Footprint middle after roles lineage rows overrides) :
    Footprint before after roles lineage rows overrides where
  samePermissions := second.samePermissions.trans first.samePermissions
  sameRoles := fun id outside => (second.sameRoles id outside).trans (first.sameRoles id outside)
  sameLineage := fun id outside => (second.sameLineage id outside).trans (first.sameLineage id outside)
  sameKeys := fun row outside => (second.sameKeys row outside).trans (first.sameKeys row outside)
  sameRows := fun id outside => (second.sameRows id outside).trans (first.sameRows id outside)
  sameOverrides := fun id outside => (second.sameOverrides id outside).trans (first.sameOverrides id outside)

/-! ### Single writes -/

theorem find_map_change {Row : Type} {keyOf : Row → Uuid} {change : Row → Row}
    (keeps : ∀ row, keyOf (change row) = keyOf row) (id : Uuid) (list : List Row) :
    (list.map change).find? (fun row => keyOf row = id) = (list.find? fun row => keyOf row = id).map change := by
  rw [List.find?_map]
  congr 2
  funext row
  simp [keeps]

theorem find_append_apart {Row : Type} {keyOf : Row → Uuid} {row : Row} {id : Uuid}
    (apart : keyOf row ≠ id) (list : List Row) :
    (list ++ [row]).find? (fun other => keyOf other = id) = list.find? fun other => keyOf other = id := by
  simp [List.find?_append, apart]

theorem roleOf_changeRole (id other : Uuid) {change : Role → Role}
    (keeps : ∀ role, (change role).id = role.id) :
    (db.changeRole id change).roleOf other =
      (db.roleOf other).map fun role => if role.id = id then change role else role := by
  apply find_map_change
  intro role
  split
  · exact keeps role
  · rfl

theorem roleOf_id {id : Uuid} {role : Role} (located : db.roleOf id = some role) : role.id = id := by
  simpa using List.find?_some located

theorem Footprint.changeRole {id : Uuid} {change : Role → Role}
    (keeps : ∀ role, (change role).id = role.id) (touched : id ∈ roles)
    (kept : id ∈ lineage ∨ ∀ role, (change role).lineage = role.lineage) :
    Footprint db (db.changeRole id change) roles lineage rows overrides where
  samePermissions := rfl
  sameRoles := by
    intro other outside
    rw [roleOf_changeRole id other keeps]
    cases located : db.roleOf other with
    | none => rfl
    | some role =>
        have apart : role.id ≠ id := fun same => outside (by rw [← roleOf_id located, same]; exact touched)
        simp [apart]
  sameLineage := by
    intro other outside
    rw [roleOf_changeRole id other keeps]
    cases located : db.roleOf other with
    | none => rfl
    | some role =>
        rcases kept with listed | same
        · have apart : role.id ≠ id := fun same => outside (by rw [← roleOf_id located, same]; exact listed)
          simp [apart]
        · by_cases changed : role.id = id <;> simp [changed, same]
  sameKeys := fun _ _ => Iff.rfl
  sameRows := fun _ _ => rfl
  sameOverrides := fun _ _ => rfl

theorem Footprint.createRole {role : Role} (created : db.createRole role = .ok after)
    (touched : role.id ∈ roles) (listed : role.id ∈ lineage) :
    Footprint db after roles lineage rows overrides := by
  simp only [Database.createRole, Faults.bind_ok] at created
  obtain ⟨_, _, made⟩ := created
  obtain rfl := Except.ok.inj made
  have others : ∀ id, role.id ≠ id →
      Database.roleOf { db with roles := db.roles ++ [role] } id = db.roleOf id :=
    fun id apart => find_append_apart apart db.roles
  refine ⟨rfl, ?_, ?_, fun _ _ => Iff.rfl, fun _ _ => rfl, fun _ _ => rfl⟩
  · intro id outside
    exact others id (ne_of_mem_of_not_mem touched outside)
  · intro id outside
    rw [others id (ne_of_mem_of_not_mem listed outside)]

theorem Footprint.rolePermissions {list : List RolePermission} {roleId : Uuid}
    (same : ∀ row : RolePermission, row.roleId ≠ roleId → (row ∈ list ↔ row ∈ db.rolePermissions))
    (listed : roleId ∈ lineage) :
    Footprint db { db with rolePermissions := list } roles lineage rows overrides :=
  ⟨rfl, fun _ _ => rfl, fun _ _ => rfl,
    fun row outside => same row (fun equal => outside (equal ▸ listed)), fun _ _ => rfl, fun _ _ => rfl⟩

theorem Footprint.addRolePermission {roleId permissionId : Uuid}
    (added : db.addRolePermission roleId permissionId = .ok after) (listed : roleId ∈ lineage) :
    Footprint db after roles lineage rows overrides := by
  simp only [Database.addRolePermission, Faults.bind_ok] at added
  obtain ⟨_, _, made⟩ := added
  obtain rfl := Except.ok.inj made
  apply Footprint.rolePermissions _ listed
  intro row apart
  rw [List.mem_append, List.mem_singleton]
  constructor
  · rintro (earlier | rfl)
    · exact earlier
    · exact absurd rfl apart
  · exact Or.inl

theorem Footprint.removeRolePermission {roleId permissionId : Uuid} (listed : roleId ∈ lineage) :
    Footprint db (db.removeRolePermission roleId permissionId) roles lineage rows overrides := by
  apply Footprint.rolePermissions _ listed
  intro row apart
  rw [List.mem_filter]
  constructor
  · exact fun kept => kept.1
  · intro present
    refine ⟨present, decide_eq_true ?_⟩
    rintro rfl
    exact apart rfl

/-! ### Loops over permissions -/

theorem Footprint.attachPermission {role : Role} {key : Text}
    (attached : db.attachPermission role key = .ok after) (listed : role.id ∈ lineage) :
    Footprint db after roles lineage rows overrides := by
  simp only [Database.attachPermission, Faults.bind_ok] at attached
  obtain ⟨_, _, _, _, added⟩ := attached
  exact .addRolePermission added listed

theorem Footprint.attachAll {role : Role} (listed : role.id ∈ lineage) (keys : List Text) :
    ∀ db : Database, Rbac.attachAll role keys db = .ok after →
      Footprint db after roles lineage rows overrides := by
  induction keys with
  | nil =>
      intro db attached
      obtain rfl := Except.ok.inj attached
      exact .refl
  | cons key rest ih =>
      intro db attached
      simp only [Rbac.attachAll, Faults.bind_ok] at attached
      obtain ⟨next, first, others⟩ := attached
      exact (Footprint.attachPermission first listed).trans (ih next others)

theorem Footprint.addAll {roleId : Uuid} (listed : roleId ∈ lineage) (ids : List Uuid) :
    ∀ db : Database, Rbac.addAll roleId ids db = .ok after →
      Footprint db after roles lineage rows overrides := by
  induction ids with
  | nil =>
      intro db added
      obtain rfl := Except.ok.inj added
      exact .refl
  | cons id rest ih =>
      intro db added
      simp only [Rbac.addAll, Faults.bind_ok] at added
      obtain ⟨next, first, others⟩ := added
      exact (Footprint.addRolePermission first listed).trans (ih next others)

theorem Footprint.detachKey {roleId : Uuid} {key : Text} (listed : roleId ∈ lineage) :
    Footprint db (db.detachKey roleId key) roles lineage rows overrides := by
  unfold Database.detachKey
  split
  · exact .removeRolePermission listed
  · exact .refl

theorem Footprint.detachAll {roleId : Uuid} (listed : roleId ∈ lineage) (keys : List Text) :
    ∀ db : Database, Footprint db (keys.foldl (fun db key => db.detachKey roleId key) db)
      roles lineage rows overrides := by
  induction keys with
  | nil => exact fun _ => .refl
  | cons key rest ih =>
      intro db
      exact (Footprint.detachKey listed).trans (ih (db.detachKey roleId key))

theorem Footprint.reconcile {role : Role} {keys : List Text}
    (reconciled : db.reconcileRolePermissions role keys = .ok after) (listed : role.id ∈ lineage) :
    Footprint db after roles lineage rows overrides := by
  simp only [Database.reconcileRolePermissions, Faults.bind_ok] at reconciled
  obtain ⟨attached, first, made⟩ := reconciled
  obtain rfl := Except.ok.inj made
  exact (Footprint.attachAll listed _ db first).trans (Footprint.detachAll listed _ attached)

/-! ### Tables that the loops leave alone -/

structure KeysOnly (before after : Database) : Prop where
  roles : after.roles = before.roles
  userRoles : after.userRoles = before.userRoles

theorem KeysOnly.trans (first : KeysOnly before middle) (second : KeysOnly middle after) :
    KeysOnly before after :=
  ⟨second.roles.trans first.roles, second.userRoles.trans first.userRoles⟩

theorem KeysOnly.addRolePermission {roleId permissionId : Uuid}
    (added : db.addRolePermission roleId permissionId = .ok after) : KeysOnly db after := by
  simp only [Database.addRolePermission, Faults.bind_ok] at added
  obtain ⟨_, _, made⟩ := added
  obtain rfl := Except.ok.inj made
  exact ⟨rfl, rfl⟩

theorem KeysOnly.attachAll {role : Role} (keys : List Text) :
    ∀ db : Database, Rbac.attachAll role keys db = .ok after → KeysOnly db after := by
  induction keys with
  | nil =>
      intro db attached
      obtain rfl := Except.ok.inj attached
      exact ⟨rfl, rfl⟩
  | cons key rest ih =>
      intro db attached
      simp only [Rbac.attachAll, Database.attachPermission, Faults.bind_ok] at attached
      obtain ⟨next, ⟨_, _, _, _, added⟩, others⟩ := attached
      exact (KeysOnly.addRolePermission added).trans (ih next others)

theorem KeysOnly.addAll {roleId : Uuid} (ids : List Uuid) :
    ∀ db : Database, Rbac.addAll roleId ids db = .ok after → KeysOnly db after := by
  induction ids with
  | nil =>
      intro db added
      obtain rfl := Except.ok.inj added
      exact ⟨rfl, rfl⟩
  | cons id rest ih =>
      intro db added
      simp only [Rbac.addAll, Faults.bind_ok] at added
      obtain ⟨next, first, others⟩ := added
      exact (KeysOnly.addRolePermission first).trans (ih next others)

theorem KeysOnly.detachAll {roleId : Uuid} (keys : List Text) :
    ∀ db : Database, KeysOnly db (keys.foldl (fun db key => db.detachKey roleId key) db) := by
  induction keys with
  | nil => exact fun _ => ⟨rfl, rfl⟩
  | cons key rest ih =>
      intro db
      have first : KeysOnly db (db.detachKey roleId key) := by
        unfold Database.detachKey
        split
        · exact ⟨rfl, rfl⟩
        · exact ⟨rfl, rfl⟩
      exact first.trans (ih (db.detachKey roleId key))

theorem KeysOnly.reconcile {role : Role} {keys : List Text}
    (reconciled : db.reconcileRolePermissions role keys = .ok after) : KeysOnly db after := by
  simp only [Database.reconcileRolePermissions, Faults.bind_ok] at reconciled
  obtain ⟨attached, first, made⟩ := reconciled
  obtain rfl := Except.ok.inj made
  exact (KeysOnly.attachAll _ db first).trans (KeysOnly.detachAll _ attached)

theorem createRole_ok {role : Role} (created : db.createRole role = .ok after) :
    after.roles = db.roles ++ [role] ∧ after.userRoles = db.userRoles ∧ role.id ∉ db.roles.map Role.id := by
  simp only [Database.createRole, Faults.bind_ok, require_ok] at created
  obtain ⟨_, fresh, made⟩ := created
  obtain rfl := Except.ok.inj made
  refine ⟨rfl, rfl, ?_⟩
  intro listed
  obtain ⟨other, present, same⟩ := List.mem_map.mp listed
  have apart := List.all_eq_true.mp fresh other present
  simp [same] at apart

theorem ids_changeRole (id : Uuid) {change : Role → Role} (keeps : ∀ role, (change role).id = role.id) :
    (db.changeRole id change).roles.map Role.id = db.roles.map Role.id := by
  rw [Database.changeRole, List.map_map]
  apply List.map_congr_left
  intro role _
  simp only [Function.comp_apply]
  split
  · exact keeps role
  · rfl

theorem editRole_ok {role : Role} {data : RoleUpdate} (edited : db.editRole role data = .ok after) :
    db.assertParent role.id data.parentRoleId.join = .ok () ∧
      KeysOnly (db.changeRole role.id (Role.updated data)) after := by
  simp only [Database.editRole, Faults.bind_ok] at edited
  obtain ⟨_, _, _, _, _, parent, rest⟩ := edited
  refine ⟨parent, ?_⟩
  cases keys : data.permissionKeys with
  | none =>
      rw [keys] at rest
      obtain rfl := Except.ok.inj rest
      exact ⟨rfl, rfl⟩
  | some keys =>
      simp only [keys] at rest
      exact .reconcile rest

/-! ### Assignments and overrides -/

theorem Footprint.appendRow {row : UserRole} (listed : row.id ∈ rows) :
    Footprint db { db with userRoles := db.userRoles ++ [row] } roles lineage rows overrides :=
  ⟨rfl, fun _ _ => rfl, fun _ _ => rfl, fun _ _ => Iff.rfl,
    fun _ outside => find_append_apart (ne_of_mem_of_not_mem listed outside) db.userRoles,
    fun _ _ => rfl⟩

theorem Footprint.changeRows {selected : UserRole → Bool} {change : UserRole → UserRole}
    (keeps : ∀ row, (change row).id = row.id)
    (listed : ∀ row ∈ db.userRoles, selected row = true → row.id ∈ rows) :
    Footprint db { db with
      userRoles := db.userRoles.map fun row => if selected row then change row else row }
      roles lineage rows overrides where
  samePermissions := rfl
  sameRoles := fun _ _ => rfl
  sameLineage := fun _ _ => rfl
  sameKeys := fun _ _ => Iff.rfl
  sameRows := by
    intro id outside
    have located : ∀ row : UserRole, (if selected row then change row else row).id = row.id := by
      intro row
      split
      · exact keeps row
      · rfl
    refine (find_map_change located id db.userRoles).trans ?_
    cases found : db.userRoles.find? fun row => decide (row.id = id) with
    | none =>
        rw [Database.getUserRoleAssignment, found]
        rfl
    | some row =>
        have same : row.id = id := by simpa using List.find?_some found
        have apart : selected row = false := by
          rw [Bool.eq_false_iff]
          intro chosen
          exact outside (same ▸ listed row (List.mem_of_find?_eq_some found) chosen)
        rw [Database.getUserRoleAssignment, found]
        simp [apart]
  sameOverrides := fun _ _ => rfl

theorem Footprint.deactivateUserRole {id : Uuid} (listed : id ∈ rows) :
    Footprint db (db.deactivateUserRole id) roles lineage rows overrides := by
  have changed : db.deactivateUserRole id = { db with
      userRoles := db.userRoles.map fun row =>
        if decide (row.id = id) then { row with isActive := false } else row } := by
    simp only [Database.deactivateUserRole, decide_eq_true_eq]
  rw [changed]
  refine Footprint.changeRows (fun _ => rfl) ?_
  intro row _ selected
  rw [of_decide_eq_true selected]
  exact listed

def isMoved (roleId organizationId : Uuid) (row : UserRole) : Bool :=
  row.roleId = roleId && row.scope.organizationId = some organizationId && row.isActive

theorem reassign_eq (fromRoleId toRoleId organizationId : Uuid) :
    db.reassignRoleAssignmentsInOrganization fromRoleId toRoleId organizationId =
      { db with
        userRoles := db.userRoles.map fun row =>
          if isMoved fromRoleId organizationId row then { row with roleId := toRoleId } else row } := by
  simp only [Database.reassignRoleAssignmentsInOrganization, isMoved, Bool.and_eq_true, decide_eq_true_eq,
    and_assoc]

theorem Footprint.organizationRoles {list : List OrganizationRole} :
    Footprint db { db with organizationRoles := list } roles lineage rows overrides :=
  ⟨rfl, fun _ _ => rfl, fun _ _ => rfl, fun _ _ => Iff.rfl, fun _ _ => rfl, fun _ _ => rfl⟩

theorem Footprint.upsertOrganizationRole {entry : OrganizationRole} :
    Footprint db (db.upsertOrganizationRole entry) roles lineage rows overrides := by
  unfold Database.upsertOrganizationRole
  split
  · exact .organizationRoles
  · exact .organizationRoles

theorem Footprint.appendOverride {row : PermissionOverride} (listed : row.id ∈ overrides) :
    Footprint db { db with overrides := db.overrides ++ [row] } roles lineage rows overrides :=
  ⟨rfl, fun _ _ => rfl, fun _ _ => rfl, fun _ _ => Iff.rfl, fun _ _ => rfl,
    fun _ outside => find_append_apart (ne_of_mem_of_not_mem listed outside) db.overrides⟩

theorem Footprint.deactivateOverride {id : Uuid} (listed : id ∈ overrides) :
    Footprint db { db with
      overrides := db.overrides.map fun other =>
        if other.id = id then { other with isActive := false } else other }
      roles lineage rows overrides :=
  ⟨rfl, fun _ _ => rfl, fun _ _ => rfl, fun _ _ => Iff.rfl, fun _ _ => rfl,
    fun _ outside => find_changed (fun row : PermissionOverride => { row with isActive := false })
      (fun _ => rfl) (ne_of_mem_of_not_mem listed outside).symm db.overrides⟩

/-! ### Calls -/

/-- The edit of a role changes its lineage only where it sets a parent or permissions. -/
def RoleUpdate.isDeep (data : RoleUpdate) : Bool := data.parentRoleId.isSome || data.permissionKeys.isSome

theorem Footprint.editRole {role : Role} {data : RoleUpdate} (edited : db.editRole role data = .ok after)
    (touched : role.id ∈ roles) (listed : data.isDeep = true → role.id ∈ lineage) :
    Footprint db after roles lineage rows overrides := by
  simp only [Database.editRole, Faults.bind_ok] at edited
  obtain ⟨_, _, _, _, _, _, rest⟩ := edited
  have changed : Footprint db (db.changeRole role.id (Role.updated data)) roles lineage rows overrides := by
    refine Footprint.changeRole (fun _ => rfl) touched ?_
    cases parent : data.parentRoleId with
    | some _ => exact .inl (listed (by simp [RoleUpdate.isDeep, parent]))
    | none => exact .inr fun _ => by simp [Role.updated, Role.lineage, parent]
  cases keys : data.permissionKeys with
  | none =>
      rw [keys] at rest
      obtain rfl := Except.ok.inj rest
      exact changed
  | some keys =>
      simp only [keys] at rest
      exact changed.trans (Footprint.reconcile rest (listed (by simp_all [RoleUpdate.isDeep])))

theorem Footprint.copy {newId organizationId : Uuid} {source : Role}
    (copied : copySharedRoleIntoOrganization newId source organizationId db = .ok after)
    (touched : newId ∈ roles) (listed : newId ∈ lineage)
    (moved : ∀ row ∈ db.userRoles, isMoved source.id organizationId row = true → row.id ∈ rows) :
    Footprint db after roles lineage rows overrides := by
  simp only [copySharedRoleIntoOrganization, Faults.bind_ok] at copied
  obtain ⟨_, _, _, _, _, _, created, first, filled, second, made⟩ := copied
  obtain rfl := Except.ok.inj made
  have start : Footprint db created roles lineage rows overrides := .createRole first touched listed
  have filling : Footprint created filled roles lineage rows overrides := .addAll listed _ created second
  have assigned : filled.userRoles = db.userRoles :=
    (KeysOnly.addAll _ created second).userRoles.trans (createRole_ok first).2.1
  refine ((start.trans filling).trans ?_).trans .upsertOrganizationRole
  rw [reassign_eq]
  refine Footprint.changeRows (fun _ => rfl) ?_
  rw [assigned]
  exact moved

theorem copy_ok {newId organizationId : Uuid} {source : Role}
    (copied : copySharedRoleIntoOrganization newId source organizationId db = .ok after) :
    after.roles = db.roles ++ [source.copied newId organizationId] ∧ newId ∉ db.roles.map Role.id ∧
      after.userRoles = db.userRoles.map fun row =>
        if isMoved source.id organizationId row then { row with roleId := newId } else row := by
  simp only [copySharedRoleIntoOrganization, Faults.bind_ok] at copied
  obtain ⟨_, _, _, _, _, _, created, first, filled, second, made⟩ := copied
  obtain rfl := Except.ok.inj made
  obtain ⟨roles, rows, fresh⟩ := createRole_ok first
  have filling := KeysOnly.addAll _ created second
  have upserted : ∀ (left : Database) (entry : OrganizationRole),
      KeysOnly left (left.upsertOrganizationRole entry) := by
    intro left entry
    unfold Database.upsertOrganizationRole
    split
    · exact ⟨rfl, rfl⟩
    · exact ⟨rfl, rfl⟩
  refine ⟨?_, fresh, ?_⟩
  · rw [(upserted _ _).roles, reassign_eq]
    exact filling.roles.trans roles
  · rw [(upserted _ _).userRoles, reassign_eq]
    simp only [filling.userRoles, rows]

def Caller.copies (caller : Caller) (base : Database) (roleId : Uuid) : Bool :=
  caller.requesting.isSome && (base.getRoleById roleId).any fun role => role.organizationId = none

def Mutation.touchedRoles (caller : Caller) (base : Database) : Mutation → List Uuid
  | .createRole newId _ => [newId]
  | .updateRole newId roleId _ => if caller.copies base roleId then [newId] else [roleId]
  | .deleteRole roleId => if caller.copies base roleId then [] else [roleId]
  | .setRoleActive roleId _ => [roleId]
  | .cloneRole newId _ _ _ => [newId]
  | .assignPermissionToRole roleId _ => [roleId]
  | .removePermissionFromRole roleId _ => [roleId]
  | _ => []

def Mutation.touchedLineage (caller : Caller) (base : Database) : Mutation → List Uuid
  | .updateRole newId roleId data =>
      if caller.copies base roleId then [newId] else if data.isDeep then [roleId] else []
  | .setRoleActive _ _ => []
  | mutation => mutation.touchedRoles caller base

def Mutation.touchedRows (caller : Caller) (base : Database) : Mutation → List Uuid
  | .updateRole _ roleId _ =>
      if caller.copies base roleId then
        (base.userRoles.filter fun row => caller.requesting.any fun organization =>
          isMoved roleId organization row).map UserRole.id
      else []
  | .assignRoleToUser newId _ _ _ _ => [newId]
  | .revokeRoleFromUser assignmentId => [assignmentId]
  | _ => []

def Mutation.touchedOverrides : Mutation → List Uuid
  | .grantPermissionOverride newId _ _ _ _ _ => [newId]
  | .revokePermissionOverride overrideId => [overrideId]
  | _ => []

theorem getRole_ok {roleId : Uuid} {requesting : Option Uuid} {role : Role}
    (got : db.getRole roleId requesting = .ok role) :
    db.getRoleById roleId = some role ∧ role.id = roleId ∧
      (role.organizationId = none ∨ role.organizationId = requesting) := by
  simp only [Database.getRole, Faults.bind_ok, found_ok, require_ok] at got
  obtain ⟨located, present, _, tenant, _, _, made⟩ := got
  obtain rfl := Except.ok.inj made
  have matched := List.find?_some present
  simp only [Bool.and_eq_true, decide_eq_true_eq, Bool.or_eq_true] at matched tenant
  exact ⟨present, matched.1, tenant⟩

section Runs

variable {setting : Setting} {caller : Caller} {base mine : Database}

def Mutation.Stays (mutation : Mutation) (caller : Caller) (base mine : Database) : Prop :=
  Footprint base mine (mutation.touchedRoles caller base) (mutation.touchedLineage caller base)
    (mutation.touchedRows caller base) mutation.touchedOverrides

theorem stays_createRole {newId : Uuid} {data : RoleCreate}
    (ran : Rbac.createRole newId data caller.requesting base = .ok mine) :
    (Mutation.createRole newId data).Stays caller base mine := by
  simp only [Rbac.createRole, Faults.bind_ok] at ran
  obtain ⟨_, _, _, _, _, _, created, first, attached⟩ := ran
  have listed : newId ∈ [newId] := List.mem_singleton_self newId
  exact (Footprint.createRole first listed listed).trans (Footprint.attachAll listed _ created attached)

theorem stays_cloneRole {newId sourceId : Uuid} {slug : Text} {target : Option Uuid}
    (ran : Rbac.cloneRole newId sourceId slug target caller.requesting base = .ok mine) :
    (Mutation.cloneRole newId sourceId slug target).Stays caller base mine := by
  simp only [Rbac.cloneRole, Faults.bind_ok] at ran
  obtain ⟨_, _, _, _, _, _, _, _, created, first, added⟩ := ran
  have listed : newId ∈ [newId] := List.mem_singleton_self newId
  exact (Footprint.createRole first listed listed).trans (Footprint.addAll listed _ created added)

theorem updateRole_cases {newId roleId : Uuid} {data : RoleUpdate}
    (ran : Rbac.updateRole newId roleId data caller.requesting base = .ok mine) :
    ∃ role, base.getRole roleId caller.requesting = .ok role ∧
      ((∃ organization copied, caller.requesting = some organization ∧ role.organizationId = none ∧
        copySharedRoleIntoOrganization newId role organization base = .ok copied ∧
        copied.editRole (role.copied newId organization) data = .ok mine) ∨
      (¬ (caller.requesting.isSome ∧ role.organizationId = none) ∧ base.editRole role data = .ok mine)) := by
  simp only [Rbac.updateRole, Faults.bind_ok] at ran
  obtain ⟨role, got, rest⟩ := ran
  refine ⟨role, got, ?_⟩
  cases requesting : caller.requesting with
  | none =>
      rw [requesting] at rest
      exact .inr ⟨by simp, rest⟩
  | some organization =>
      simp only [requesting] at rest
      split at rest
      · next shared =>
          obtain ⟨copied, first, second⟩ := Faults.bind_ok.mp rest
          exact .inl ⟨organization, copied, rfl, shared, first, second⟩
      · next owned => exact .inr ⟨by simp [owned], rest⟩

theorem stays_updateRole {newId roleId : Uuid} {data : RoleUpdate}
    (ran : Rbac.updateRole newId roleId data caller.requesting base = .ok mine) :
    (Mutation.updateRole newId roleId data).Stays caller base mine := by
  obtain ⟨role, got, split⟩ := updateRole_cases ran
  obtain ⟨located, same, -⟩ := getRole_ok got
  rcases split with ⟨organization, copied, requesting, shared, first, second⟩ | ⟨owned, edited⟩
  · have copies : caller.copies base roleId = true := by
      simp [Caller.copies, requesting, located, shared]
    simp only [Mutation.Stays, Mutation.touchedRoles, Mutation.touchedLineage, Mutation.touchedRows, copies,
      if_true]
    have listed : newId ∈ [newId] := List.mem_singleton_self newId
    refine (Footprint.copy first listed listed ?_).trans
      (Footprint.editRole second listed (fun _ => listed))
    intro row present moved
    rw [same] at moved
    exact List.mem_map_of_mem (List.mem_filter.mpr ⟨present, by simpa [requesting] using moved⟩)
  · have copies : caller.copies base roleId = false := by
      cases requesting : caller.requesting with
      | none => simp [Caller.copies, requesting]
      | some organization =>
          have placed : role.organizationId ≠ none := by simpa [requesting] using owned
          simp [Caller.copies, requesting, located, placed]
    simp only [Mutation.Stays, Mutation.touchedRoles, Mutation.touchedLineage, Mutation.touchedRows, copies,
      Bool.false_eq_true, if_false]
    refine Footprint.editRole edited (by simp [same]) ?_
    intro deep
    simp [deep, same]

theorem stays_deleteRole {roleId : Uuid}
    (ran : Rbac.deleteRole roleId caller.requesting base = .ok mine) :
    (Mutation.deleteRole roleId).Stays caller base mine := by
  simp only [Rbac.deleteRole, Faults.bind_ok] at ran
  obtain ⟨role, got, rest⟩ := ran
  obtain ⟨located, same, -⟩ := getRole_ok got
  have marked : ∀ listed : List Uuid, role.id ∈ listed →
      Footprint base (base.changeRole role.id fun row => { row with isDeleted := true }) listed listed [] [] :=
    fun listed inside => Footprint.changeRole (fun _ => rfl) inside (.inl inside)
  cases requesting : caller.requesting with
  | none =>
      have copies : caller.copies base roleId = false := by simp [Caller.copies, requesting]
      simp only [requesting, Faults.bind_ok] at rest
      obtain ⟨_, _, _, _, made⟩ := rest
      obtain rfl := Except.ok.inj made
      simp only [Mutation.Stays, Mutation.touchedRoles, Mutation.touchedLineage, copies,
        Bool.false_eq_true, if_false]
      exact marked [roleId] (by simp [same])
  | some organization =>
      simp only [requesting] at rest
      split at rest
      · next shared =>
          have copies : caller.copies base roleId = true := by
            simp [Caller.copies, requesting, located, shared]
          simp only [hideSharedRoleForOrganization, Faults.bind_ok] at rest
          obtain ⟨_, _, _, _, _, _, made⟩ := rest
          obtain rfl := Except.ok.inj made
          exact .upsertOrganizationRole
      · next owned =>
          have copies : caller.copies base roleId = false := by
            simp [Caller.copies, requesting, located, owned]
          simp only [Faults.bind_ok] at rest
          obtain ⟨_, _, _, _, made⟩ := rest
          obtain rfl := Except.ok.inj made
          simp only [Mutation.Stays, Mutation.touchedRoles, Mutation.touchedLineage, copies,
            Bool.false_eq_true, if_false]
          exact marked [roleId] (by simp [same])

theorem editableRole_ok {roleId : Uuid} {requesting : Option Uuid} {role : Role}
    (got : db.editableRole roleId requesting = .ok role) :
    db.getRole roleId requesting = .ok role ∧ role.isSystemRole = false ∧
      isSharedRoleInTenantContext role requesting = false := by
  simp only [Database.editableRole, Faults.bind_ok, require_ok, Bool.not_eq_true'] at got
  obtain ⟨located, first, _, shared, _, system, made⟩ := got
  obtain rfl := Except.ok.inj made
  exact ⟨first, system, shared⟩

theorem run_stays (mutation : Mutation) (ran : mutation.run setting caller base = .ok mine) :
    mutation.Stays caller base mine := by
  cases mutation with
  | createRole newId data => exact stays_createRole ran
  | updateRole newId roleId data => exact stays_updateRole ran
  | deleteRole roleId => exact stays_deleteRole ran
  | cloneRole newId sourceId slug target => exact stays_cloneRole ran
  | setRoleActive roleId isActive =>
      simp only [Mutation.run, Rbac.setRoleActive, Faults.bind_ok] at ran
      obtain ⟨role, got, _, _, _, _, made⟩ := ran
      obtain rfl := Except.ok.inj made
      have listed : role.id ∈ [roleId] := by simp [(getRole_ok got).2.1]
      exact Footprint.changeRole (fun _ => rfl) listed (.inr fun _ => rfl)
  | assignPermissionToRole roleId key =>
      simp only [Mutation.run, Rbac.assignPermissionToRole, Faults.bind_ok] at ran
      obtain ⟨role, got, attached⟩ := ran
      have listed : role.id ∈ [roleId] := by simp [(getRole_ok (editableRole_ok got).1).2.1]
      exact Footprint.attachPermission attached listed
  | removePermissionFromRole roleId key =>
      simp only [Mutation.run, Rbac.removePermissionFromRole, Faults.bind_ok] at ran
      obtain ⟨role, got, _, _, _, _, made⟩ := ran
      obtain rfl := Except.ok.inj made
      have listed : role.id ∈ [roleId] := by simp [(getRole_ok (editableRole_ok got).1).2.1]
      exact Footprint.removeRolePermission listed
  | assignRoleToUser newId target roleId scope expiresAt =>
      simp only [Mutation.run, Rbac.assignRoleToUser, Faults.bind_ok] at ran
      obtain ⟨role, got, _, _, _, _, _, _, _, _, _, _, _, _, made⟩ := ran
      obtain rfl := Except.ok.inj made
      exact Footprint.appendRow (List.mem_singleton_self newId)
  | revokeRoleFromUser assignmentId =>
      simp only [Mutation.run, Rbac.revokeRoleFromUser, Faults.bind_ok, found_ok] at ran
      obtain ⟨row, located, _, _, made⟩ := ran
      obtain rfl := Except.ok.inj made
      have same : row.id = assignmentId := by simpa using List.find?_some located
      exact Footprint.deactivateUserRole (by simp [same, Mutation.touchedRows])
  | grantPermissionOverride newId target key effect scope expiresAt =>
      simp only [Mutation.run, Rbac.grantPermissionOverride, Faults.bind_ok] at ran
      obtain ⟨_, _, _, _, _, _, _, _, made⟩ := ran
      obtain rfl := Except.ok.inj made
      exact Footprint.appendOverride (List.mem_singleton_self newId)
  | revokePermissionOverride overrideId =>
      simp only [Mutation.run, Rbac.revokePermissionOverride, Faults.bind_ok] at ran
      obtain ⟨_, _, _, _, made⟩ := ran
      obtain rfl := Except.ok.inj made
      exact Footprint.deactivateOverride (List.mem_singleton_self overrideId)

theorem lineage_touched {mutation : Mutation} {caller : Caller} {base : Database} {id : Uuid}
    (listed : id ∈ mutation.touchedLineage caller base) : id ∈ mutation.touchedRoles caller base := by
  cases mutation with
  | updateRole newId roleId data =>
      simp only [Mutation.touchedLineage, Mutation.touchedRoles] at listed ⊢
      by_cases copies : caller.copies base roleId = true
      · simpa [copies] using listed
      · by_cases deep : data.isDeep = true
        · simpa [copies, deep] using listed
        · simp [copies, deep] at listed
  | setRoleActive _ _ => simp [Mutation.touchedLineage] at listed
  | _ => exact listed

theorem createRole_new {newId : Uuid} {data : RoleCreate} {requesting : Option Uuid}
    {base mine : Database} (ran : Rbac.createRole newId data requesting base = .ok mine) :
    ∃ role ∈ mine.roles, role.id = newId ∧ newId ∉ base.roles.map Role.id := by
  simp only [Rbac.createRole, Faults.bind_ok] at ran
  obtain ⟨_, _, _, _, _, _, created, first, attached⟩ := ran
  obtain ⟨roles, -, fresh⟩ := createRole_ok first
  have inside : newId ∈ mine.roles.map Role.id := by
    rw [(KeysOnly.attachAll _ created attached).roles, roles, List.map_append]
    exact List.mem_append_right _ (List.mem_singleton_self newId)
  obtain ⟨role, listed, same⟩ := List.mem_map.mp inside
  exact ⟨role, listed, same, fresh⟩

theorem cloneRole_new {newId sourceId : Uuid} {slug : Text} {target requesting : Option Uuid}
    {base mine : Database} (ran : Rbac.cloneRole newId sourceId slug target requesting base = .ok mine) :
    ∃ role ∈ mine.roles, role.id = newId ∧ newId ∉ base.roles.map Role.id := by
  simp only [Rbac.cloneRole, Faults.bind_ok] at ran
  obtain ⟨source, _, _, _, _, _, _, _, created, first, added⟩ := ran
  obtain ⟨roles, -, fresh⟩ := createRole_ok first
  refine ⟨source.cloned newId slug target, ?_, rfl, fresh⟩
  rw [(KeysOnly.addAll _ created added).roles, roles]
  exact List.mem_append_right _ (List.mem_singleton_self _)

theorem updateRole_copy {newId roleId : Uuid} {data : RoleUpdate} {caller : Caller} {base mine : Database}
    (ran : Rbac.updateRole newId roleId data caller.requesting base = .ok mine)
    (copies : caller.copies base roleId = true) :
    (∃ role ∈ mine.roles, role.id = newId) ∧ newId ∉ base.roles.map Role.id ∧
      roleId ∈ base.roles.map Role.id ∧ ∃ organization, caller.requesting = some organization ∧
      mine.userRoles = base.userRoles.map fun row =>
        if isMoved roleId organization row then { row with roleId := newId } else row := by
  obtain ⟨role, got, split⟩ := updateRole_cases ran
  obtain ⟨located, same, -⟩ := getRole_ok got
  rcases split with ⟨organization, copied, requesting, shared, first, second⟩ | ⟨owned, -⟩
  · obtain ⟨roles, fresh, rows⟩ := copy_ok first
    obtain ⟨-, edited⟩ := editRole_ok second
    refine ⟨?_, fresh, ?_, organization, requesting, ?_⟩
    · refine List.mem_map.mp (?_ : newId ∈ mine.roles.map Role.id)
      have ids := @ids_changeRole copied newId (Role.updated data) (fun _ => rfl)
      have kept : mine.roles.map Role.id = copied.roles.map Role.id := by
        rw [edited.roles]
        exact ids
      rw [kept, roles, List.map_append]
      exact List.mem_append_right _ (List.mem_singleton_self newId)
    · exact List.mem_map.mpr ⟨role, List.mem_of_find?_eq_some located, same⟩
    · rw [edited.userRoles, ← same]
      exact rows
  · simp only [Caller.copies, located, Bool.and_eq_true, Option.any_some, decide_eq_true_eq] at copies
    exact absurd copies owned

end Runs

end CloudGuest.Rbac
