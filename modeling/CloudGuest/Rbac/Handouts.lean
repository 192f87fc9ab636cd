import CloudGuest.Rbac.Inheritance

/-!
What a call on the roles hands out: to whom, which key, at which scope. A user gets a key
by a role that he holds; after the call he gets what he got before it and what the call
hands out, and nothing else.
-/

namespace CloudGuest.Rbac
open Texts Uuids Ascents Hierarchy

structure Handout where
  userId : Uuid
  key : Text
  scope : GrantScope
  deriving DecidableEq

def Database.holders (db : Database) (now : Moment) : List UserRole :=
  db.userRoles.filter fun row =>
    row.isActive && isCurrent row.expiresAt now && (db.roleOf row.roleId).any Role.isInForce

def Gets (db : Database) (depth : Nat) (now : Moment) (handout : Handout) : Prop :=
  ∃ row ∈ db.holders now, row.userId = handout.userId ∧
    handout.key ∈ db.resolveRolePermissionKeys depth row.roleId ∧ row.scope = handout.scope

section Handing

variable (db : Database) (depth : Nat) (now : Moment)

def Database.handedDown (roleId : Uuid) (keysAt : Nat → List Text) : List Handout :=
  (db.holders now).flatMap fun row => (List.range (depth + 1)).flatMap fun below =>
    if rise db.parentOf below row.roleId = some roleId then
      (keysAt (depth - below)).map fun key => ⟨row.userId, key, row.scope⟩
    else []

def Database.parentNamed (data : RoleUpdate) : Option Uuid :=
  (data.parentRoleId.join.bind db.getRoleById).map Role.id

/-- The permissions that the request asks for, and those of the parent that it names. -/
def Database.editHandouts (roleId : Uuid) (data : RoleUpdate) : List Handout :=
  db.handedDown depth now roleId fun rest =>
    (data.permissionKeys.getD []).filter db.isUsable ++ db.inherited rest (db.parentNamed data)

def Database.copyKeys (roleId : Uuid) (data : RoleUpdate) : List Text :=
  -- The same for a copy, which has the shared role's permissions where the request asks for none.
  (data.permissionKeys.elim (db.resolveRolePermissionKeys maxChainDepth roleId) (·.filter db.isUsable)) ++
    db.inherited depth (db.parentNamed data)

def Database.copyHandouts (roleId organizationId : Uuid) (data : RoleUpdate) : List Handout :=
  (db.userRoles.filter fun row => isMoved roleId organizationId row && isCurrent row.expiresAt now).flatMap
    fun row => (db.copyKeys depth roleId data).map fun key => ⟨row.userId, key, row.scope⟩

def Database.activationHandouts (roleId : Uuid) : List Handout :=
  (db.userRoles.filter fun row => row.roleId = roleId && row.isActive && isCurrent row.expiresAt now).flatMap
    fun row => (db.resolveRolePermissionKeys depth roleId).map fun key => ⟨row.userId, key, row.scope⟩

def Mutation.handouts (caller : Caller) : Mutation → List Handout
  | .updateRole _ roleId data =>
      if caller.copies db roleId then
        caller.requesting.elim [] fun organization => db.copyHandouts depth now roleId organization data
      else db.editHandouts depth now roleId data
  | .setRoleActive roleId isActive => if isActive then db.activationHandouts depth now roleId else []
  | .assignPermissionToRole roleId key =>
      db.handedDown depth now roleId fun _ => if db.isUsable key then [key] else []
  | .assignRoleToUser _ target roleId scope expiresAt =>
      if isCurrent expiresAt now then
        (db.resolveRolePermissionKeys depth roleId).map fun key => ⟨target, key, scope.granted⟩
      else []
  | _ => []

end Handing

/-! ### The same holders, with more keys -/

section Members

variable {db after : Database} {depth : Nat} {now : Moment} {roleId : Uuid} {handout : Handout}

theorem gets_iff_given {userId : Uuid} {key : Text} {scope : GrantScope} :
    Gets db depth now ⟨userId, key, scope⟩ ↔ IsGiven db depth userId now (key, .allow, scope) := by
  constructor
  · rintro ⟨row, held, rfl, listed, rfl⟩
    obtain ⟨present, selected⟩ := List.mem_filter.mp held
    simp only [Bool.and_eq_true] at selected
    obtain ⟨⟨active, current⟩, inForce⟩ := selected
    obtain ⟨role, located, inForce⟩ := (Option.any_eq_true _ _).mp inForce
    refine ⟨row, mem_getActiveUserRoles.mpr ⟨present, rfl, active, current⟩, role, located, inForce, key, ?_, rfl⟩
    rw [roleOf_id located]
    exact listed
  · rintro ⟨row, held, role, located, inForce, _, listed, same⟩
    obtain ⟨rfl, -, rfl⟩ := same
    obtain ⟨present, user, active, current⟩ := mem_getActiveUserRoles.mp held
    refine ⟨row, List.mem_filter.mpr ⟨present, ?_⟩, user, ?_, rfl⟩
    · simp [active, current, located, inForce]
    · rw [← roleOf_id located]
      exact listed

theorem mem_handedDown {keysAt : Nat → List Text} : handout ∈ db.handedDown depth now roleId keysAt ↔
    ∃ row ∈ db.holders now, ∃ below ≤ depth, rise db.parentOf below row.roleId = some roleId ∧
      ∃ key ∈ keysAt (depth - below), (⟨row.userId, key, row.scope⟩ : Handout) = handout := by
  simp only [Database.handedDown, List.mem_flatMap, List.mem_range, Nat.lt_succ_iff]
  refine exists_congr fun row => and_congr_right fun _ => exists_congr fun below => and_congr_right fun _ => ?_
  split
  · next met => simp [met]
  · next missed => simp [missed]

theorem mem_copyHandouts {organizationId : Uuid} {data : RoleUpdate} :
    handout ∈ db.copyHandouts depth now roleId organizationId data ↔
      ∃ row ∈ db.userRoles, isMoved roleId organizationId row = true ∧ isCurrent row.expiresAt now = true ∧
        ∃ key ∈ db.copyKeys depth roleId data, (⟨row.userId, key, row.scope⟩ : Handout) = handout := by
  simp [Database.copyHandouts, and_assoc]

theorem mem_activationHandouts : handout ∈ db.activationHandouts depth now roleId ↔
    ∃ row ∈ db.userRoles, row.roleId = roleId ∧ row.isActive = true ∧ isCurrent row.expiresAt now = true ∧
      ∃ key ∈ db.resolveRolePermissionKeys depth roleId, (⟨row.userId, key, row.scope⟩ : Handout) = handout := by
  simp [Database.activationHandouts, and_assoc]

theorem holders_congr (rows : after.userRoles = db.userRoles) (inForce : ∀ row ∈ db.userRoles,
      (after.roleOf row.roleId).any Role.isInForce = (db.roleOf row.roleId).any Role.isInForce) :
    after.holders now = db.holders now := by
  rw [Database.holders, Database.holders, rows]
  exact List.filter_congr fun row listed => by rw [inForce row listed]

/-- After a call a user gets what he got and what is handed out; the overrides stay. -/
structure HandsOut (depth : Nat) (now : Moment) (db after : Database) (handouts : List Handout) : Prop where
  gained : ∀ handout, Gets after depth now handout → Gets db depth now handout ∨ handout ∈ handouts
  given : ∀ handout ∈ handouts, Gets after depth now handout ∨ Gets db depth now handout
  overrides : after.overrides = db.overrides
  permissions : after.permissions = db.permissions

theorem HandsOut.taken (parents : ∀ id above, after.parentOf id = some above → db.parentOf id = some above)
    (keys : ∀ id key, key ∈ after.ownKeys id → key ∈ db.ownKeys id)
    (holders : ∀ row ∈ after.holders now, row ∈ db.holders now) (overrides : after.overrides = db.overrides)
    (permissions : after.permissions = db.permissions) : HandsOut depth now db after [] := by
  refine ⟨?_, fun _ listed => absurd listed List.not_mem_nil, overrides, permissions⟩
  rintro handout ⟨row, held, user, listed, same⟩
  obtain ⟨id, ⟨steps, few, risen⟩, own⟩ := mem_keys_iff.mp listed
  have had := mem_keys_iff.mpr ⟨id, ⟨steps, few, rise_fewer parents risen⟩, keys id _ own⟩
  exact .inl ⟨row, holders row held, user, had, same⟩

theorem keys_beyond {below : Nat} {edited : Uuid} {key : Text} (few : below ≤ depth)
    (met : rise db.parentOf below roleId = some edited)
    (listed : key ∈ db.resolveRolePermissionKeys (depth - below) edited) :
    key ∈ db.resolveRolePermissionKeys depth roleId := by
  obtain ⟨id, within, own⟩ := mem_keys_iff.mp listed
  exact mem_keys_iff.mpr ⟨id, (Within.beyond met within).mono (by omega), own⟩

theorem keys_own {key : Text} (own : key ∈ db.ownKeys roleId) : key ∈ db.resolveRolePermissionKeys depth roleId :=
  mem_keys_iff.mpr ⟨roleId, .self depth roleId, own⟩

theorem inherited_had {key : Text} (listed : key ∈ db.inherited depth (db.parentOf roleId)) :
    key ∈ db.resolveRolePermissionKeys depth roleId := by
  obtain ⟨rest, parent, rfl, up, held⟩ := mem_inherited.mp listed
  obtain ⟨id, within, own⟩ := mem_keys_iff.mp held
  refine mem_keys_iff.mpr ⟨id, ?_, own⟩
  rw [Nat.add_comm]
  exact Within.beyond (rise_succ.mpr ⟨parent, up, rfl⟩) within

theorem HandsOut.handedDown {keysAt : Nat → List Text} (reworked : Reworked db after roleId)
    (holders : after.holders now = db.holders now) (overrides : after.overrides = db.overrides)
    (permissions : after.permissions = db.permissions)
    (new : ∀ rest key, key ∈ after.ownKeys roleId ∨ key ∈ db.inherited rest (after.parentOf roleId) →
      key ∈ keysAt rest ∨ key ∈ db.resolveRolePermissionKeys rest roleId)
    (old : ∀ rest key, key ∈ keysAt rest →
      key ∈ after.ownKeys roleId ∨ key ∈ db.inherited rest (after.parentOf roleId)) :
    HandsOut depth now db after (db.handedDown depth now roleId keysAt) := by
  refine ⟨?_, ?_, overrides, permissions⟩
  · rintro ⟨userId, key, scope⟩ ⟨row, held, user, listed, same⟩
    rw [holders] at held
    rcases reworked.gained listed with had | ⟨below, few, met, come⟩
    · exact .inl ⟨row, held, user, had, same⟩
    · rcases new (depth - below) key come with handed | had
      · dsimp only at user same
        exact .inr (mem_handedDown.mpr ⟨row, held, below, few, met, key, handed, by rw [user, same]⟩)
      · exact .inl ⟨row, held, user, keys_beyond few met had, same⟩
  · intro handout handed
    obtain ⟨row, held, below, few, met, key, listed, rfl⟩ := mem_handedDown.mp handed
    rcases old (depth - below) key listed with own | come
    · exact .inl ⟨row, holders ▸ held, rfl, reworked.own few met own, rfl⟩
    · rcases reworked.inherited few met come with now | before
      · exact .inl ⟨row, holders ▸ held, rfl, now, rfl⟩
      · exact .inr ⟨row, held, rfl, before, rfl⟩

/-! ### A role that is new -/

theorem ownKeys_congr (permissions : after.permissions = db.permissions)
    (rows : ∀ row : RolePermission, row.roleId = roleId → (row ∈ after.rolePermissions ↔ row ∈ db.rolePermissions))
    (key : Text) : key ∈ after.ownKeys roleId ↔ key ∈ db.ownKeys roleId := by
  have same : ∀ id, after.permissionOf id = db.permissionOf id := by
    intro id
    rw [Database.permissionOf, Database.permissionOf, permissions]
  rw [mem_ownKeys, mem_ownKeys]
  simp only [same]
  refine exists_congr fun row => ?_
  constructor
  · rintro ⟨listed, owned, further⟩
    exact ⟨(rows row owned).mp listed, owned, further⟩
  · rintro ⟨listed, owned, further⟩
    exact ⟨(rows row owned).mpr listed, owned, further⟩

theorem keys_congr (roles : after.roles = db.roles) (permissions : after.permissions = db.permissions)
    (rows : after.rolePermissions = db.rolePermissions) {key : Text} :
    key ∈ after.resolveRolePermissionKeys depth roleId ↔ key ∈ db.resolveRolePermissionKeys depth roleId := by
  have parents : after.parentOf = db.parentOf := funext (parentOf_congr roles)
  have own : ∀ id, key ∈ after.ownKeys id ↔ key ∈ db.ownKeys id :=
    fun id => ownKeys_congr permissions (fun row _ => by rw [rows]) key
  simp only [mem_keys_iff, parents, own]

variable {role : Role}

theorem getRoleById_appended (roles : after.roles = db.roles ++ [role]) {id : Uuid} (apart : id ≠ role.id) :
    after.getRoleById id = db.getRoleById id := by
  rw [Database.getRoleById, roles, List.find?_append, List.find?_singleton]
  simp [apart.symm, Database.getRoleById]

theorem Reworked.created (consistent : db.Consistent) (roles : after.roles = db.roles ++ [role])
    (fresh : role.id ∉ db.roles.map Role.id) (permissions : after.permissions = db.permissions)
    (rows : ∀ row : RolePermission, row.roleId ≠ role.id →
      (row ∈ after.rolePermissions ↔ row ∈ db.rolePermissions)) : Reworked db after role.id where
  parents := by
    intro id apart
    rw [Database.parentOf, Database.parentOf, getRoleById_appended roles apart]
    refine Option.bind_congr fun other found => congrArg (Option.map Role.id) (Option.bind_congr fun above named => ?_)
    have known := consistent.parents other (getRoleById_mem found).1 above named
    exact getRoleById_appended roles (fun same => fresh (same ▸ known))
  keys := fun id apart key => ownKeys_congr permissions (fun row owned => rows row (owned ▸ apart)) key

theorem Reworked.trans {db middle after : Database} {edited : Uuid} (first : Reworked db middle edited)
    (second : Reworked middle after edited) : Reworked db after edited where
  parents := fun id apart => (second.parents id apart).trans (first.parents id apart)
  keys := fun id apart key => (second.keys id apart key).trans (first.keys id apart key)

theorem Reworked.symm {edited : Uuid} (reworked : Reworked db after edited) : Reworked after db edited where
  parents := fun id apart => (reworked.parents id apart).symm
  keys := fun id apart key => (reworked.keys id apart key).symm

theorem Reworked.keys_listed {edited : Uuid} (reworked : Reworked db after edited)
    (fresh : edited ∉ db.roles.map Role.id) (listed : roleId ∈ db.roles.map Role.id) (key : Text) :
    key ∈ after.resolveRolePermissionKeys depth roleId ↔ key ∈ db.resolveRolePermissionKeys depth roleId := by
  -- A new role changes the keys of none that was there.
  constructor
  · intro has
    rcases reworked.gained has with had | ⟨_, -, met, -⟩
    · exact had
    · exact absurd (rise_listed listed met) fresh
  · intro had
    rcases reworked.symm.gained had with has | ⟨_, -, met, -⟩
    · exact has
    · obtain ⟨_, -, met⟩ := rise_to_changed reworked.symm.parents met
      exact absurd (rise_listed listed met) fresh

theorem parentOf_fresh (fresh : roleId ∉ db.roles.map Role.id) : db.parentOf roleId = none := by
  rw [Database.parentOf, Option.bind_eq_none_iff]
  intro role found
  obtain ⟨listed, same⟩ := getRoleById_mem found
  exact absurd (same ▸ List.mem_map_of_mem listed) fresh

theorem rise_fresh {below : Nat} {top : Uuid} (fresh : roleId ∉ db.roles.map Role.id)
    (met : rise db.parentOf below roleId = some top) : below = 0 := by
  cases below with
  | zero => rfl
  | succ below => simp [rise, parentOf_fresh fresh] at met

theorem keys_fresh (linked : db.Linked)
    (fresh : roleId ∉ db.roles.map Role.id) (key : Text) : key ∉ db.resolveRolePermissionKeys depth roleId := by
  intro listed
  obtain ⟨id, ⟨steps, -, met⟩, own⟩ := mem_keys_iff.mp listed
  obtain rfl := rise_fresh fresh met
  obtain rfl := Option.some.inj met
  obtain ⟨row, present, rfl, -⟩ := mem_ownKeys.mp own
  exact fresh (linked row present)

theorem HandsOut.created (consistent : db.Consistent) (reworked : Reworked db after role.id)
    (roles : after.roles = db.roles ++ [role]) (fresh : role.id ∉ db.roles.map Role.id)
    (rows : after.userRoles = db.userRoles) (overrides : after.overrides = db.overrides)
    (permissions : after.permissions = db.permissions) : HandsOut depth now db after [] := by
  have holders : after.holders now = db.holders now := by
    refine holders_congr rows fun row listed => ?_
    have apart : role.id ≠ row.roleId := fun same => fresh (same ▸ consistent.assigned row listed)
    rw [Database.roleOf, roles]
    exact congrArg (Option.any Role.isInForce) (find_append_apart apart db.roles)
  refine ⟨?_, fun _ listed => absurd listed List.not_mem_nil, overrides, permissions⟩
  rintro handout ⟨row, held, user, listed, same⟩
  rw [holders] at held
  have known := consistent.assigned row (List.mem_filter.mp held).1
  exact .inl ⟨row, held, user, (reworked.keys_listed fresh known _).mp listed, same⟩

end Members

/-! ### Calls -/

section Calls

variable {db after : Database} {depth : Nat} {now : Moment} {caller : Caller}

theorem createRole_eq {role : Role} (created : db.createRole role = .ok after) :
    after = { db with roles := db.roles ++ [role] } ∧ role.id ∉ db.roles.map Role.id := by
  refine ⟨?_, (createRole_ok created).2.2⟩
  simp only [Database.createRole, Faults.bind_ok] at created
  obtain ⟨_, _, made⟩ := created
  exact (Except.ok.inj made).symm

theorem rowFor_roleId {roleId : Uuid} {key : Text} {row : RolePermission} (given : db.rowFor roleId key = some row) :
    row.roleId = roleId := by
  obtain ⟨_, -, rfl⟩ := Option.map_eq_some_iff.mp given
  rfl

theorem hands_createRole (consistent : db.Consistent) {newId : Uuid} {data : RoleCreate} {requesting : Option Uuid}
    (ran : Rbac.createRole newId data requesting db = .ok after) : HandsOut depth now db after [] := by
  simp only [Rbac.createRole, Faults.bind_ok] at ran
  obtain ⟨_, _, _, _, _, _, created, first, attached⟩ := ran
  obtain ⟨rfl, fresh⟩ := createRole_eq first
  obtain ⟨-, rfl⟩ := attachAll_ok _ _ attached
  refine HandsOut.created consistent (Reworked.created consistent rfl fresh rfl fun row apart => ?_) rfl fresh rfl rfl rfl
  constructor
  · intro listed
    rcases List.mem_append.mp listed with earlier | added
    · exact earlier
    · obtain ⟨_, -, given⟩ := List.mem_filterMap.mp added
      exact absurd (rowFor_roleId given) apart
  · exact List.mem_append_left _

theorem hands_cloneRole (consistent : db.Consistent) {newId sourceId : Uuid} {slug : Text}
    {target requesting : Option Uuid} (ran : Rbac.cloneRole newId sourceId slug target requesting db = .ok after) :
    HandsOut depth now db after [] := by
  simp only [Rbac.cloneRole, Faults.bind_ok] at ran
  obtain ⟨source, _, _, _, _, _, _, _, created, first, added⟩ := ran
  obtain ⟨rfl, fresh⟩ := createRole_eq first
  obtain rfl := addAll_eq _ _ added
  refine HandsOut.created consistent (Reworked.created consistent rfl fresh rfl fun row apart => ?_) rfl fresh rfl rfl rfl
  constructor
  · intro listed
    rcases List.mem_append.mp listed with earlier | added
    · exact earlier
    · obtain ⟨_, -, rfl⟩ := List.mem_map.mp added
      exact absurd rfl apart
  · exact List.mem_append_left _

theorem hands_assignPermission (catalogued : db.Catalogued) {roleId : Uuid} {key : Text} {requesting : Option Uuid}
    (ran : Rbac.assignPermissionToRole roleId key requesting db = .ok after) :
    HandsOut depth now db after (db.handedDown depth now roleId fun _ => if db.isUsable key then [key] else []) := by
  simp only [Rbac.assignPermissionToRole, Faults.bind_ok] at ran
  obtain ⟨role, got, attached⟩ := ran
  obtain rfl := (getRole_ok (editableRole_ok got).1).2.1
  obtain ⟨permission, found, rfl⟩ := attachPermission_ok attached
  have parent : ∀ id, Database.parentOf
      { db with rolePermissions := db.rolePermissions ++ [⟨role.id, permission.id⟩] } id = db.parentOf id :=
    fun id => parentOf_congr rfl id
  have usable : db.isUsable key = permission.isActive := by
    rw [Database.isUsable, found, Option.any_some]
  have catalogued' : Database.Catalogued
      { db with rolePermissions := db.rolePermissions ++ [⟨role.id, permission.id⟩] } :=
    ⟨catalogued.ids, catalogued.keys⟩
  refine HandsOut.handedDown ⟨fun id _ => parent id, fun id apart other => ?_⟩ rfl rfl rfl ?_ ?_
  · have rows : ∀ row : RolePermission, row.roleId = id →
        (row ∈ db.rolePermissions ++ [⟨role.id, permission.id⟩] ↔ row ∈ db.rolePermissions) := by
      intro row owned
      rw [List.mem_append, List.mem_singleton]
      constructor
      · rintro (earlier | rfl)
        · exact earlier
        · exact absurd owned.symm apart
      · exact Or.inl
    exact @ownKeys_congr db { db with rolePermissions := db.rolePermissions ++ [⟨role.id, permission.id⟩] } id rfl rows
      other
  · rintro rest other (own | come)
    · obtain ⟨held, asked, active, listed⟩ := (mem_ownKeys_iff catalogued').mp own
      rcases List.mem_append.mp listed with earlier | added
      · exact .inr (keys_own ((mem_ownKeys_iff catalogued).mpr ⟨held, asked, active, earlier⟩))
      · obtain ⟨-, same⟩ := RolePermission.mk.inj (List.mem_singleton.mp added)
        obtain ⟨present, first, -⟩ := getPermissionByKey_some asked
        obtain ⟨known, second, -⟩ := getPermissionByKey_some found
        obtain rfl := List.inj_on_of_nodup_map catalogued.ids present known same
        obtain rfl : other = key := first.symm.trans second
        rw [if_pos (usable.trans active)]
        exact .inl (List.mem_singleton_self _)
    · rw [parent] at come
      exact .inr (inherited_had come)
  · intro rest other listed
    split at listed
    · next active =>
        obtain rfl := List.mem_singleton.mp listed
        exact .inl ((mem_ownKeys_iff catalogued').mpr ⟨permission, found, usable.symm.trans active,
          List.mem_append_right _ (List.mem_singleton_self _)⟩)
    · cases listed

theorem hands_editRole (catalogued : db.Catalogued) {role : Role} {data : RoleUpdate}
    (located : db.getRoleById role.id = some role) (ran : db.editRole role data = .ok after) :
    HandsOut depth now db after (db.editHandouts depth now role.id data) := by
  have edited := editRole_edited catalogued located ran
  refine HandsOut.handedDown edited.reworked (holders_congr edited.rows fun row _ => edited.inForce row.roleId)
    edited.overrides edited.permissions ?_ ?_
  · rintro rest key (own | come)
    · rw [edited.own] at own
      cases asked : data.permissionKeys with
      | none =>
          rw [asked] at own
          exact .inr (keys_own own)
      | some keys =>
          rw [asked] at own
          exact .inl (List.mem_append_left _ (List.mem_filter.mpr own))
    · rw [edited.parent] at come
      cases named : data.parentRoleId with
      | none =>
          rw [named] at come
          exact .inr (inherited_had come)
      | some parent =>
          rw [named] at come
          refine .inl (List.mem_append_right _ ?_)
          rw [Database.parentNamed, named, Option.join_some]
          exact come
  · intro rest key listed
    rcases List.mem_append.mp listed with asked | come
    · left
      rw [edited.own]
      cases given : data.permissionKeys with
      | none => simp [given] at asked
      | some keys =>
          rw [given] at asked
          exact List.mem_filter.mp asked
    · right
      rw [edited.parent]
      cases named : data.parentRoleId with
      | none => simp [Database.parentNamed, named, mem_inherited] at come
      | some parent =>
          rw [Database.parentNamed, named, Option.join_some] at come
          exact come

theorem assertParent_ne {roleId : Uuid} {parent : Option Uuid} (checked : db.assertParent roleId parent = .ok ()) :
    parent ≠ some roleId := by
  -- The new role has an id of its own, so the edit of a copy does not put it under itself.
  rintro rfl
  simp [Database.assertParent, Database.assertNoCycle, require, Faults.bind_ok] at checked

section Copying

variable {newId organization : Uuid} {source : Role} {data : RoleUpdate} {middle : Database}
  (first : copySharedRoleIntoOrganization newId source organization db = .ok middle)
  (second : middle.editRole (source.copied newId organization) data = .ok after)

include first

theorem Reworked.copied (consistent : db.Consistent) : Reworked db middle newId := by
  obtain ⟨roles, fresh, -⟩ := copy_ok first
  obtain ⟨rows, -, permissions⟩ := copy_tables first
  refine Reworked.created consistent roles fresh permissions fun row apart => ?_
  rw [rows, List.mem_append]
  constructor
  · rintro (earlier | added)
    · exact earlier
    · obtain ⟨_, -, rfl⟩ := List.mem_map.mp added
      exact absurd rfl apart
  · exact Or.inl

theorem getRoleById_copied : middle.getRoleById newId = some (source.copied newId organization) := by
  obtain ⟨roles, fresh, -⟩ := copy_ok first
  have missing : db.getRoleById newId = none := by
    cases found : db.getRoleById newId with
    | none => rfl
    | some role =>
        obtain ⟨listed, same⟩ := getRoleById_mem found
        exact absurd (same ▸ List.mem_map_of_mem listed) fresh
  rw [Database.getRoleById] at missing
  rw [Database.getRoleById, roles, List.find?_append, missing, Option.none_or]
  simp [Role.copied]

include second

theorem edited_copy (catalogued : db.Catalogued) : Edited middle after newId data := by
  obtain ⟨-, -, permissions⟩ := copy_tables first
  have known : middle.Catalogued := by
    constructor
    · rw [permissions]
      exact catalogued.ids
    · rw [permissions]
      exact catalogued.keys
  exact editRole_edited known (getRoleById_copied first) second

theorem parentOf_copy (catalogued : db.Catalogued) : after.parentOf newId = db.parentNamed data := by
  obtain ⟨roles, fresh, -⟩ := copy_ok first
  rw [(edited_copy first second catalogued).parent, Database.parentNamed]
  cases named : data.parentRoleId with
  | none =>
      rw [Option.elim_none, Database.parentOf, getRoleById_copied first]
      rfl
  | some parent =>
      rw [Option.elim_some, Option.join_some]
      cases parent with
      | none => rfl
      | some proposed =>
          have checked := (editRole_ok second).1
          rw [named, Option.join_some] at checked
          have apart : proposed ≠ newId := fun same => assertParent_ne checked (congrArg some same)
          rw [Option.bind_some, Option.bind_some]
          exact congrArg (Option.map Role.id) (getRoleById_appended roles apart)

theorem keys_copied (consistent : db.Consistent) (catalogued : db.Catalogued) (linked : db.Linked)
    (key : Text) :
    key ∈ after.resolveRolePermissionKeys depth newId ↔ key ∈ db.copyKeys depth source.id data := by
  obtain ⟨-, fresh, -⟩ := copy_ok first
  obtain ⟨rows, -, permissions⟩ := copy_tables first
  have edited := edited_copy first second catalogued
  have reworked := (Reworked.copied first consistent).trans edited.reworked
  have own : key ∈ after.ownKeys newId ↔ key ∈ data.permissionKeys.elim
      (db.resolveRolePermissionKeys maxChainDepth source.id) (·.filter db.isUsable) := by
    have usable : middle.isUsable key = db.isUsable key := by
      rw [Database.isUsable, Database.isUsable, Database.getPermissionByKey, Database.getPermissionByKey, permissions]
    rw [edited.own]
    cases data.permissionKeys with
    | none => exact mem_copied_own rows linked fresh permissions key
    | some keys => rw [Option.elim_some, Option.elim_some, usable, List.mem_filter]
  rw [Database.copyKeys, List.mem_append, ← own, ← parentOf_copy first second catalogued]
  constructor
  · intro listed
    rcases reworked.gained listed with had | ⟨below, few, met, come⟩
    · exact absurd had (keys_fresh linked fresh key)
    · obtain rfl := rise_fresh fresh met
      exact come
  · rintro (own | come)
    · exact reworked.own (Nat.zero_le depth) rfl own
    · rcases reworked.inherited (Nat.zero_le depth) rfl come with has | had
      · exact has
      · exact absurd had (keys_fresh linked fresh key)

theorem hands_copy (consistent : db.Consistent) (catalogued : db.Catalogued) (linked : db.Linked) :
    HandsOut depth now db after (db.copyHandouts depth now source.id organization data) := by
  obtain ⟨roles, fresh, rows⟩ := copy_ok first
  obtain ⟨-, overrides, permissions⟩ := copy_tables first
  have edited := edited_copy first second catalogued
  have reworked := (Reworked.copied first consistent).trans edited.reworked
  have keys := @keys_copied db after depth newId organization source data middle first second consistent catalogued linked
  have copyInForce : (after.roleOf newId).any Role.isInForce = true := by
    rw [edited.inForce, roleOf_copied first]
    rfl
  have others : ∀ id ≠ newId, (after.roleOf id).any Role.isInForce = (db.roleOf id).any Role.isInForce := by
    intro id apart
    rw [edited.inForce, Database.roleOf, roles]
    exact congrArg (Option.any Role.isInForce) (find_append_apart (Ne.symm apart) db.roles)
  refine ⟨?_, ?_, edited.overrides.trans overrides, edited.permissions.trans permissions⟩
  · rintro ⟨userId, key, scope⟩ ⟨row, held, user, listed, same⟩
    obtain ⟨present, selected⟩ := List.mem_filter.mp held
    rw [edited.rows, rows] at present
    obtain ⟨old, inside, rfl⟩ := List.mem_map.mp present
    simp only [Bool.and_eq_true] at selected
    obtain ⟨⟨active, current⟩, inForce⟩ := selected
    by_cases moves : isMoved source.id organization old = true
    · simp only [if_pos moves] at user listed same current
      refine .inr (mem_copyHandouts.mpr ⟨old, inside, moves, current, key, (keys key).mp listed, ?_⟩)
      rw [user, same]
    · simp only [if_neg moves] at user listed same active current inForce
      have known := consistent.assigned old inside
      have apart : old.roleId ≠ newId := fun equal => fresh (equal ▸ known)
      refine .inl ⟨old, List.mem_filter.mpr ⟨inside, ?_⟩, user, (reworked.keys_listed fresh known key).mp listed, same⟩
      rw [← others _ apart]
      simp [active, current, inForce]
  · intro handout handed
    obtain ⟨old, inside, moves, current, key, listed, rfl⟩ := mem_copyHandouts.mp handed
    refine .inl ⟨{ old with roleId := newId }, List.mem_filter.mpr ⟨?_, ?_⟩, rfl, (keys key).mpr listed, rfl⟩
    · rw [edited.rows, rows]
      exact List.mem_map.mpr ⟨old, inside, if_pos moves⟩
    · have active : old.isActive = true := by
        simp only [isMoved, Bool.and_eq_true] at moves
        exact moves.2
      simp [active, current, copyInForce]

end Copying

/-! #### What a call takes away -/

theorem getRoleById_deleted (deleted id : Uuid) :
    (db.changeRole deleted fun row => { row with isDeleted := true }).getRoleById id =
      if id = deleted then none else db.getRoleById id := by
  rw [Database.getRoleById, Database.changeRole, List.find?_map]
  split
  · next same =>
      rw [List.find?_eq_none.mpr, Option.map_none]
      intro role _ matched
      simp only [Function.comp_apply] at matched
      split at matched
      · simp at matched
      · next apart => simp [same, apart] at matched
  · next apart =>
      have passed : ((fun role : Role => decide (role.id = id) && !role.isDeleted) ∘ fun role =>
          if role.id = deleted then { role with isDeleted := true } else role) =
            fun role => decide (role.id = id) && !role.isDeleted := by
        funext role
        simp only [Function.comp_apply]
        split
        · next same => simp [same, Ne.symm apart]
        · rfl
      rw [passed, ← Database.getRoleById]
      cases located : db.getRoleById id with
      | none => rfl
      | some role =>
          rw [Option.map_some, if_neg (by rw [getRoleById_id located]; exact apart)]

theorem hands_deleted (deleted : Uuid) :
    HandsOut depth now db (db.changeRole deleted fun row => { row with isDeleted := true }) [] := by
  refine HandsOut.taken ?_ (fun _ _ own => own) ?_ rfl rfl
  · intro id above up
    simp only [Database.parentOf, getRoleById_deleted] at up ⊢
    split at up
    · cases up
    · obtain ⟨role, located, up⟩ := Option.bind_eq_some_iff.mp up
      obtain ⟨parent, named, rfl⟩ := Option.map_eq_some_iff.mp up
      obtain ⟨proposed, asked, found⟩ := Option.bind_eq_some_iff.mp named
      split at found
      · cases found
      · rw [located, Option.bind_some, asked, Option.bind_some, found, Option.map_some]
  · intro row held
    obtain ⟨present, selected⟩ := List.mem_filter.mp held
    refine List.mem_filter.mpr ⟨present, ?_⟩
    rw [@roleOf_changeRole db deleted row.roleId (fun row => { row with isDeleted := true }) fun _ => rfl] at selected
    cases located : db.roleOf row.roleId with
    | none => simp [located] at selected
    | some role =>
        simp only [located, Option.map_some, Option.any_some, Bool.and_eq_true] at selected ⊢
        refine ⟨selected.1, ?_⟩
        obtain ⟨-, inForce⟩ := selected
        split at inForce
        · simp [Role.isInForce] at inForce
        · exact inForce

theorem hands_deleteRole {roleId : Uuid} {requesting : Option Uuid}
    (ran : Rbac.deleteRole roleId requesting db = .ok after) : HandsOut depth now db after [] := by
  have hidden : ∀ entry, HandsOut depth now db (db.upsertOrganizationRole entry) [] := by
    intro entry
    unfold Database.upsertOrganizationRole
    split <;> exact HandsOut.taken (fun _ _ up => up) (fun _ _ own => own) (fun _ held => held) rfl rfl
  unfold Rbac.deleteRole at ran
  obtain ⟨role, -, ran⟩ := Faults.bind_ok.mp ran
  split at ran
  · split at ran
    · simp only [hideSharedRoleForOrganization, Faults.bind_ok] at ran
      obtain ⟨_, _, _, _, _, _, made⟩ := ran
      obtain rfl := Except.ok.inj made
      exact hidden _
    · simp only [Faults.bind_ok] at ran
      obtain ⟨_, _, _, _, made⟩ := ran
      obtain rfl := Except.ok.inj made
      exact hands_deleted _
  · simp only [Faults.bind_ok] at ran
    obtain ⟨_, _, _, _, made⟩ := ran
    obtain rfl := Except.ok.inj made
    exact hands_deleted _

theorem hands_removePermission {roleId : Uuid} {key : Text} {requesting : Option Uuid}
    (ran : Rbac.removePermissionFromRole roleId key requesting db = .ok after) : HandsOut depth now db after [] := by
  simp only [Rbac.removePermissionFromRole, Faults.bind_ok] at ran
  obtain ⟨_, _, _, _, _, _, made⟩ := ran
  obtain rfl := Except.ok.inj made
  refine HandsOut.taken (fun _ _ up => up) ?_ (fun _ held => held) rfl rfl
  intro id own listed
  obtain ⟨row, present, further⟩ := mem_ownKeys.mp listed
  exact mem_ownKeys.mpr ⟨row, (List.mem_filter.mp present).1, further⟩

theorem hands_revokeRole {assignmentId : Uuid} {requesting : Option Uuid}
    (ran : Rbac.revokeRoleFromUser assignmentId requesting db = .ok after) : HandsOut depth now db after [] := by
  simp only [Rbac.revokeRoleFromUser, Faults.bind_ok] at ran
  obtain ⟨_, _, _, _, made⟩ := ran
  obtain rfl := Except.ok.inj made
  refine HandsOut.taken (fun _ _ up => up) (fun _ _ own => own) ?_ rfl rfl
  intro row held
  obtain ⟨listed, selected⟩ := List.mem_filter.mp held
  obtain ⟨old, present, rfl⟩ := List.mem_map.mp listed
  split at selected
  · simp at selected
  · next apart =>
      rw [if_neg apart]
      exact List.mem_filter.mpr ⟨present, selected⟩

theorem hands_setRoleActive (consistent : db.Consistent) {roleId : Uuid} {isActive : Bool} {requesting : Option Uuid}
    (ran : Rbac.setRoleActive roleId isActive requesting db = .ok after) :
    HandsOut depth now db after (if isActive then db.activationHandouts depth now roleId else []) := by
  simp only [Rbac.setRoleActive, Faults.bind_ok] at ran
  obtain ⟨role, got, _, _, _, _, made⟩ := ran
  obtain rfl := Except.ok.inj made
  obtain ⟨located, rfl, -⟩ := getRole_ok got
  have kept : role.isDeleted = false := by
    have matched := List.find?_some located
    simp only [Bool.and_eq_true, Bool.not_eq_true'] at matched
    exact matched.2
  have keys : ∀ id key, key ∈ (db.changeRole role.id fun row => { row with isActive }).resolveRolePermissionKeys
      depth id ↔ key ∈ db.resolveRolePermissionKeys depth id := by
    have parents : (db.changeRole role.id fun row => { row with isActive }).parentOf = db.parentOf := by
      funext id
      rw [@parentOf_changeRole db role.id (fun row => { row with isActive }) fun _ => ⟨rfl, rfl⟩, Database.parentOf]
      refine Option.bind_congr fun other _ => ?_
      split <;> rfl
    intro id key
    rw [mem_keys_iff, mem_keys_iff, parents]
    exact Iff.rfl
  have inForce : ∀ id, ((db.changeRole role.id fun row => { row with isActive }).roleOf id).any Role.isInForce =
      if id = role.id then isActive else (db.roleOf id).any Role.isInForce := by
    intro id
    rw [@roleOf_changeRole db role.id id (fun row => { row with isActive }) fun _ => rfl]
    split
    · next same =>
        subst same
        rw [roleOf_of_mem consistent.roles (getRoleById_mem located).1]
        simp [Role.isInForce, kept]
    · next apart =>
        cases other : db.roleOf id with
        | none => rfl
        | some row =>
            have named : row.id ≠ role.id := by rw [roleOf_id other]; exact apart
            rw [Option.map_some, if_neg named]
  refine ⟨?_, ?_, rfl, rfl⟩
  · rintro ⟨userId, key, scope⟩ ⟨row, held, user, listed, same⟩
    obtain ⟨present, selected⟩ := List.mem_filter.mp held
    simp only [inForce, Bool.and_eq_true] at selected
    rw [keys] at listed
    obtain ⟨⟨active, current⟩, kept⟩ := selected
    by_cases here : row.roleId = role.id
    · rw [if_pos here] at kept
      subst kept
      dsimp only at user same listed
      refine .inr (mem_activationHandouts.mpr ⟨row, present, here, active, current, key, here ▸ listed, ?_⟩)
      rw [user, same]
    · rw [if_neg here] at kept
      refine .inl ⟨row, List.mem_filter.mpr ⟨present, ?_⟩, user, listed, same⟩
      rw [active, current, kept]
      rfl
  · intro handout handed
    split at handed
    · next set =>
        obtain ⟨row, present, here, active, current, key, listed, rfl⟩ := mem_activationHandouts.mp handed
        refine .inl ⟨row, List.mem_filter.mpr ⟨present, ?_⟩, rfl, (keys _ _).mpr (here ▸ listed), rfl⟩
        rw [inForce, if_pos here, set, active, current]
        rfl
    · cases handed

theorem hands_updateRole (consistent : db.Consistent) (catalogued : db.Catalogued) (linked : db.Linked)
    {newId roleId : Uuid} {data : RoleUpdate}
    (ran : Rbac.updateRole newId roleId data caller.requesting db = .ok after) :
    HandsOut depth now db after (Mutation.handouts db depth now caller (.updateRole newId roleId data)) := by
  obtain ⟨role, got, split⟩ := updateRole_cases ran
  obtain ⟨located, rfl, -⟩ := getRole_ok got
  rcases split with ⟨organization, middle, requesting, shared, first, second⟩ | ⟨owned, edited⟩
  · have copies : caller.copies db role.id = true := by
      simp [Caller.copies, requesting, located, shared]
    rw [Mutation.handouts, if_pos copies, requesting, Option.elim_some]
    exact hands_copy first second consistent catalogued linked
  · have plain : ¬ caller.copies db role.id = true := by
      intro copies
      simp only [Caller.copies, located, Bool.and_eq_true, Option.any_some, decide_eq_true_eq] at copies
      exact owned copies
    rw [Mutation.handouts, if_neg plain]
    exact hands_editRole catalogued located edited

theorem hands_assignRole (consistent : db.Consistent) {setting : Setting} {actor newId target roleId : Uuid}
    {scope : NamedScope} {expiresAt : Option Moment} {requesting : Option Uuid}
    (ran : Rbac.assignRoleToUser setting actor newId target roleId scope expiresAt requesting db = .ok after) :
    HandsOut depth now db after
      (if isCurrent expiresAt now then
        (db.resolveRolePermissionKeys depth roleId).map fun key => ⟨target, key, scope.granted⟩
      else []) := by
  simp only [Rbac.assignRoleToUser, Faults.bind_ok, require_ok] at ran
  obtain ⟨role, got, _, active, _, _, _, _, _, _, _, _, _, _, made⟩ := ran
  obtain rfl := Except.ok.inj made
  obtain ⟨located, rfl, -⟩ := getRole_ok got
  have inForce : (db.roleOf role.id).any Role.isInForce = true := by
    rw [roleOf_of_mem consistent.roles (getRoleById_mem located).1, Option.any_some]
    have matched := List.find?_some located
    simp only [Bool.and_eq_true] at matched
    simp [Role.isInForce, active, matched.2]
  -- the keys of the roles do not depend on the assignments
  have keys : ∀ rows id key, key ∈ Database.resolveRolePermissionKeys { db with userRoles := rows } depth id ↔
      key ∈ db.resolveRolePermissionKeys depth id := fun rows id key =>
    @keys_congr db { db with userRoles := rows } depth id rfl rfl rfl key
  refine ⟨?_, ?_, rfl, rfl⟩
  · rintro ⟨userId, key, given⟩ ⟨row, held, user, listed, same⟩
    rw [keys] at listed
    dsimp only at user listed same
    obtain ⟨present, selected⟩ := List.mem_filter.mp held
    rcases List.mem_append.mp present with earlier | last
    · exact .inl ⟨row, List.mem_filter.mpr ⟨earlier, selected⟩, user, listed, same⟩
    · obtain rfl := List.mem_singleton.mp last
      simp only [Bool.and_eq_true] at selected
      rw [if_pos selected.1.2]
      refine .inr (List.mem_map.mpr ⟨key, listed, ?_⟩)
      rw [← user, ← same]
  · intro handout handed
    split at handed
    · next current =>
        obtain ⟨key, listed, rfl⟩ := List.mem_map.mp handed
        refine .inl ⟨_, List.mem_filter.mpr ⟨List.mem_append_right _ (List.mem_singleton_self _), ?_⟩, rfl,
          (keys _ _ key).mpr listed, rfl⟩
        exact (Bool.and_eq_true _ _).mpr ⟨(Bool.and_eq_true _ _).mpr ⟨rfl, current⟩, inForce⟩
    · cases handed

end Calls

end CloudGuest.Rbac
