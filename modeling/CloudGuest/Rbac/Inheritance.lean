import CloudGuest.Library.Ascents
import CloudGuest.Rbac.Hierarchy

/-!
The keys of a role as what is met on the way up from it, and what the edit of one role
does to the keys of those below it: they get its own keys, and the keys of the role that
it is put under.
-/

namespace CloudGuest.Rbac
open Texts Uuids FirstSeen Ascents Hierarchy

variable {db after : Database} {depth : Nat} {roleId edited : Uuid} {key : Text}

def Database.parentOf (db : Database) (id : Uuid) : Option Uuid :=
  (db.getRoleById id).bind fun role => (role.parentRoleId.bind db.getRoleById).map Role.id

/-! ### Walks -/

theorem parentOf_found {role : Role} (located : db.getRoleById role.id = some role) :
    db.parentOf role.id = (role.parentRoleId.bind db.getRoleById).map Role.id := by
  rw [Database.parentOf, located, Option.bind_some]

theorem getRoleById_self {id : Uuid} {role : Role} (located : db.getRoleById id = some role) :
    db.getRoleById role.id = some role := by
  rw [getRoleById_id located]
  exact located

theorem parentsFrom_risen : ∀ (depth : Nat) (seen : List Uuid) (role : Role),
    db.getRoleById role.id = some role → ∀ ancestor ∈ db.parentsFrom depth seen role,
      ∃ steps < depth, rise db.parentOf (steps + 1) role.id = some ancestor.id := by
  intro depth
  induction depth with
  | zero =>
      intro _ _ _ ancestor listed
      simp [Database.parentsFrom] at listed
  | succ depth ih =>
      intro seen role located ancestor listed
      simp only [Database.parentsFrom] at listed
      cases above : role.parentRoleId.bind db.getRoleById with
      | none => simp [above] at listed
      | some parent =>
          have next : db.parentOf role.id = some parent.id := by
            rw [parentOf_found located, above, Option.map_some]
          obtain ⟨named, -, found⟩ := Option.bind_eq_some_iff.mp above
          simp only [above] at listed
          split at listed
          · cases listed
          · rcases List.mem_cons.mp listed with rfl | beyond
            · exact ⟨0, Nat.succ_pos depth, rise_succ.mpr ⟨_, next, rfl⟩⟩
            · obtain ⟨steps, few, risen⟩ := ih _ parent (getRoleById_self found) ancestor beyond
              exact ⟨steps + 1, Nat.succ_lt_succ few, rise_succ.mpr ⟨_, next, risen⟩⟩

theorem risen_parentsFrom : ∀ (depth : Nat) (seen : List Uuid) (role : Role),
    db.getRoleById role.id = some role → role.id ∈ seen →
    (∀ id ∈ seen, id ≠ role.id → ∀ above, db.parentOf id = some above → above ∈ seen) →
    ∀ steps ≤ depth, ∀ top, rise db.parentOf steps role.id = some top →
      top ∈ seen ∨ ∃ ancestor ∈ db.parentsFrom depth seen role, ancestor.id = top := by
  -- What is above a role the walk meets, or has met: what it has met goes up to itself.
  intro depth
  induction depth with
  | zero =>
      intro seen role _ met _ steps few top risen
      obtain rfl := Nat.le_zero.mp few
      obtain rfl := Option.some.inj risen
      exact .inl met
  | succ depth ih =>
      intro seen role located met closed steps few top risen
      cases steps with
      | zero =>
          obtain rfl := Option.some.inj risen
          exact .inl met
      | succ steps =>
          obtain ⟨next, up, further⟩ := rise_succ.mp risen
          rw [parentOf_found located] at up
          obtain ⟨parent, above, rfl⟩ := Option.map_eq_some_iff.mp up
          obtain ⟨named, -, found⟩ := Option.bind_eq_some_iff.mp above
          have through : ∀ id ∈ seen, ∀ higher, db.parentOf id = some higher →
              higher = parent.id ∨ higher ∈ seen := by
            intro id inside higher next
            by_cases here : id = role.id
            · rw [here, parentOf_found located, above] at next
              exact .inl (Option.some.inj next).symm
            · exact .inr (closed id inside here higher next)
          simp only [Database.parentsFrom, above]
          split
          · next again =>
              refine .inl (rise_closed (fun id inside higher next => ?_) again further)
              rcases through id inside higher next with rfl | kept
              · exact again
              · exact kept
          · have wider : ∀ id ∈ parent.id :: seen, id ≠ parent.id → ∀ higher,
                db.parentOf id = some higher → higher ∈ parent.id :: seen := by
              intro id inside apart higher next
              exact List.mem_cons.mpr (through id ((List.mem_cons.mp inside).resolve_left apart) higher next)
            rcases ih _ parent (getRoleById_self found) List.mem_cons_self wider steps
              (Nat.le_of_succ_le_succ few) top further with inside | ⟨ancestor, listed, same⟩
            · rcases List.mem_cons.mp inside with rfl | earlier
              · exact .inr ⟨parent, List.mem_cons_self, rfl⟩
              · exact .inl earlier
            · exact .inr ⟨ancestor, List.mem_cons_of_mem _ listed, same⟩

theorem mem_chain_iff {id : Uuid} : id ∈ roleId :: (db.getParentChain roleId depth).map Role.id ↔
    Within db.parentOf depth roleId id := by
  cases located : db.getRoleById roleId with
  | none =>
      have alone : db.parentOf roleId = none := by rw [Database.parentOf, located, Option.bind_none]
      rw [Database.getParentChain, located]
      constructor
      · intro listed
        rw [List.mem_singleton.mp listed]
        exact .self depth roleId
      · rintro ⟨steps, -, risen⟩
        cases steps with
        | zero => exact List.mem_singleton.mpr (Option.some.inj risen).symm
        | succ steps => simp [rise, alone] at risen
  | some role =>
      obtain rfl := getRoleById_id located
      rw [Database.getParentChain, located]
      constructor
      · intro listed
        rcases List.mem_cons.mp listed with rfl | beyond
        · exact .self depth _
        · obtain ⟨ancestor, walked, rfl⟩ := List.mem_map.mp beyond
          obtain ⟨steps, few, risen⟩ := parentsFrom_risen depth _ role located ancestor walked
          exact ⟨steps + 1, few, risen⟩
      · rintro ⟨steps, few, risen⟩
        have alone : ∀ id ∈ [role.id], id ≠ role.id → ∀ above, db.parentOf id = some above →
            above ∈ [role.id] := fun id inside apart => absurd (List.mem_singleton.mp inside) apart
        rcases risen_parentsFrom depth [role.id] role located (List.mem_singleton_self _) alone steps few id risen
          with inside | ⟨ancestor, walked, same⟩
        · exact List.mem_cons.mpr (.inl (List.mem_singleton.mp inside))
        · exact List.mem_cons_of_mem _ (List.mem_map.mpr ⟨ancestor, walked, same⟩)

theorem mem_keys_iff : key ∈ db.resolveRolePermissionKeys depth roleId ↔
    ∃ id, Within db.parentOf depth roleId id ∧ key ∈ db.ownKeys id := by
  rw [mem_resolveRolePermissionKeys]
  simp only [mem_chain_iff]

/-! ### The edit of one role -/

structure Reworked (db after : Database) (edited : Uuid) : Prop where
  parents : ∀ id ≠ edited, after.parentOf id = db.parentOf id
  keys : ∀ id ≠ edited, ∀ key, key ∈ after.ownKeys id ↔ key ∈ db.ownKeys id

def Database.inherited (db : Database) (depth : Nat) (parent : Option Uuid) : List Text :=
  match depth, parent with
  | depth + 1, some parent => db.resolveRolePermissionKeys depth parent
  | _, _ => []

theorem mem_inherited {parent : Option Uuid} : key ∈ db.inherited depth parent ↔
    ∃ rest above, depth = rest + 1 ∧ parent = some above ∧ key ∈ db.resolveRolePermissionKeys rest above := by
  cases depth with
  | zero => simp [Database.inherited]
  | succ depth => cases parent <;> simp [Database.inherited]

section Reworking

variable (reworked : Reworked db after edited)

include reworked

theorem Reworked.gained (listed : key ∈ after.resolveRolePermissionKeys depth roleId) :
    key ∈ db.resolveRolePermissionKeys depth roleId ∨
      ∃ below ≤ depth, rise db.parentOf below roleId = some edited ∧
        (key ∈ after.ownKeys edited ∨ key ∈ db.inherited (depth - below) (after.parentOf edited)) := by
  obtain ⟨id, within, own⟩ := mem_keys_iff.mp listed
  rcases within_changed reworked.parents within with direct | ⟨below, parent, rest, met, moved, above, sum⟩
  · by_cases here : id = edited
    · obtain ⟨below, few, met⟩ := direct
      exact .inr ⟨below, few, here ▸ met, .inl (here ▸ own)⟩
    · exact .inl (mem_keys_iff.mpr ⟨id, direct, (reworked.keys id here key).mp own⟩)
  · by_cases here : id = edited
    · exact .inr ⟨below, by omega, met, .inl (here ▸ own)⟩
    · refine .inr ⟨below, by omega, met, .inr (mem_inherited.mpr ⟨rest, parent, by omega, moved, ?_⟩)⟩
      exact mem_keys_iff.mpr ⟨id, above, (reworked.keys id here key).mp own⟩

variable {below : Nat} (few : below ≤ depth) (met : rise db.parentOf below roleId = some edited)

include few met

theorem Reworked.own (listed : key ∈ after.ownKeys edited) :
    key ∈ after.resolveRolePermissionKeys depth roleId :=
  mem_keys_iff.mpr ⟨edited, (rise_to_changed reworked.parents met).mono few, listed⟩

theorem Reworked.inherited (listed : key ∈ db.inherited (depth - below) (after.parentOf edited)) :
    key ∈ after.resolveRolePermissionKeys depth roleId ∨ key ∈ db.resolveRolePermissionKeys depth roleId := by
  obtain ⟨rest, parent, sum, moved, held⟩ := mem_inherited.mp listed
  obtain ⟨id, above, own⟩ := mem_keys_iff.mp held
  by_cases here : id = edited
  · exact .inr (mem_keys_iff.mpr ⟨id, ⟨below, few, here ▸ met⟩, own⟩)
  · rcases within_moved reworked.parents met moved above with now | before
    · refine .inl (mem_keys_iff.mpr ⟨id, now.mono (by omega), ?_⟩)
      exact (reworked.keys id here key).mpr own
    · exact .inr (mem_keys_iff.mpr ⟨id, before.mono (by omega), own⟩)

end Reworking

/-! ### Roles that a call adds -/

theorem parentOf_listed {id above : Uuid} (up : db.parentOf id = some above) : above ∈ db.roles.map Role.id := by
  obtain ⟨role, -, next⟩ := Option.bind_eq_some_iff.mp up
  obtain ⟨parent, found, rfl⟩ := Option.map_eq_some_iff.mp next
  obtain ⟨named, -, located⟩ := Option.bind_eq_some_iff.mp found
  exact List.mem_map_of_mem (getRoleById_mem located).1

theorem rise_listed {id top : Uuid} {steps : Nat} (listed : id ∈ db.roles.map Role.id)
    (risen : rise db.parentOf steps id = some top) : top ∈ db.roles.map Role.id :=
  rise_closed (fun _ _ _ up => parentOf_listed up) listed risen

/-! ### The permissions of a role -/

/-- The ids and the keys of the permissions, deleted ones included, are unique. -/
structure Database.Catalogued (db : Database) : Prop where
  ids : (db.permissions.map Permission.id).Nodup
  keys : (db.permissions.map Permission.key).Nodup

def Database.Linked (db : Database) : Prop := ∀ row ∈ db.rolePermissions, row.roleId ∈ db.roles.map Role.id

def Database.isUsable (db : Database) (key : Text) : Bool := (db.getPermissionByKey key).any Permission.isActive

section Permissions

variable {permission : Permission} (catalogued : db.Catalogued)

theorem getPermissionByKey_some (found : db.getPermissionByKey key = some permission) :
    permission ∈ db.permissions ∧ permission.key = key ∧ permission.isDeleted = false := by
  have matched := List.find?_some found
  simp only [Bool.and_eq_true, decide_eq_true_eq, Bool.not_eq_true'] at matched
  exact ⟨List.mem_of_find?_eq_some found, matched⟩

include catalogued

theorem permissionOf_listed (listed : permission ∈ db.permissions) :
    db.permissionOf permission.id = some permission := find_of_mem catalogued.ids listed

theorem getPermissionByKey_listed (listed : permission ∈ db.permissions) (kept : permission.isDeleted = false) :
    db.getPermissionByKey permission.key = some permission := by
  cases found : db.getPermissionByKey permission.key with
  | none =>
      have missed := List.find?_eq_none.mp found permission listed
      simp [kept] at missed
  | some other =>
      obtain ⟨present, same, -⟩ := getPermissionByKey_some found
      exact congrArg some (List.inj_on_of_nodup_map catalogued.keys present listed same)

theorem mem_ownKeys_iff : key ∈ db.ownKeys roleId ↔ ∃ permission, db.getPermissionByKey key = some permission ∧
    permission.isActive = true ∧ RolePermission.mk roleId permission.id ∈ db.rolePermissions := by
  rw [mem_ownKeys]
  constructor
  · rintro ⟨⟨_, id⟩, listed, rfl, permission, found, usable, rfl⟩
    have same : permission.id = id := by simpa using List.find?_some found
    simp only [Bool.and_eq_true, Bool.not_eq_true'] at usable
    refine ⟨permission, ?_, usable.1, same ▸ listed⟩
    exact getPermissionByKey_listed catalogued (List.mem_of_find?_eq_some found) usable.2
  · rintro ⟨permission, found, active, listed⟩
    obtain ⟨present, same, kept⟩ := getPermissionByKey_some found
    exact ⟨_, listed, rfl, permission, permissionOf_listed catalogued present, by simp [active, kept], same⟩

theorem mem_rowKeys_iff (found : db.getPermissionByKey key = some permission) :
    key ∈ db.rowKeys roleId ↔ RolePermission.mk roleId permission.id ∈ db.rolePermissions := by
  obtain ⟨present, same, -⟩ := getPermissionByKey_some found
  constructor
  · intro listed
    obtain ⟨⟨_, id⟩, inside, named⟩ := List.mem_filterMap.mp listed
    obtain ⟨other, located, equal⟩ := Option.map_eq_some_iff.mp named
    obtain ⟨row, owned⟩ := List.mem_filter.mp inside
    obtain rfl := of_decide_eq_true owned
    have one : other = permission := List.inj_on_of_nodup_map catalogued.keys
      (List.mem_of_find?_eq_some located) present (equal.trans same.symm)
    have matched : other.id = id := by simpa using List.find?_some located
    rw [← one, matched]
    exact row
  · intro row
    refine List.mem_filterMap.mpr ⟨_, List.mem_filter.mpr ⟨row, by simp⟩, ?_⟩
    exact Option.map_eq_some_iff.mpr ⟨permission, permissionOf_listed catalogued present, same⟩

end Permissions

/-! #### The loops that attach and detach -/

theorem attachPermission_ok {role : Role} (attached : db.attachPermission role key = .ok after) :
    ∃ permission, db.getPermissionByKey key = some permission ∧
      after = { db with rolePermissions := db.rolePermissions ++ [⟨role.id, permission.id⟩] } := by
  simp only [Database.attachPermission, Database.addRolePermission, Faults.bind_ok, found_ok] at attached
  obtain ⟨permission, found, _, -, _, -, made⟩ := attached
  exact ⟨permission, found, (Except.ok.inj made).symm⟩

def Database.rowFor (db : Database) (roleId : Uuid) (key : Text) : Option RolePermission :=
  (db.getPermissionByKey key).map fun permission => ⟨roleId, permission.id⟩

theorem attachAll_ok {role : Role} (keys : List Text) : ∀ db : Database, attachAll role keys db = .ok after →
    (∀ key ∈ keys, (db.getPermissionByKey key).isSome) ∧
      after = { db with rolePermissions := db.rolePermissions ++ keys.filterMap (db.rowFor role.id) } := by
  induction keys with
  | nil =>
      intro db attached
      obtain rfl := Except.ok.inj attached
      simp
  | cons key rest ih =>
      intro db attached
      simp only [attachAll, Faults.bind_ok] at attached
      obtain ⟨next, first, others⟩ := attached
      obtain ⟨permission, found, rfl⟩ := attachPermission_ok first
      obtain ⟨known, made⟩ := ih _ others
      have row : db.rowFor role.id key = some ⟨role.id, permission.id⟩ := by
        rw [Database.rowFor, found, Option.map_some]
      refine ⟨List.forall_mem_cons.mpr ⟨by rw [found]; rfl, known⟩, ?_⟩
      rw [made, List.filterMap_cons_some row]
      simp only [List.append_assoc, List.singleton_append]
      rfl

theorem detachAll_eq (keys : List Text) : ∀ db : Database,
    keys.foldl (fun db key => db.detachKey roleId key) db = { db with
      rolePermissions := db.rolePermissions.filter fun row => keys.all fun key => db.rowFor roleId key ≠ some row } := by
  induction keys with
  | nil => exact fun db => by simp
  | cons key rest ih =>
      intro db
      have first : db.detachKey roleId key = { db with
          rolePermissions := db.rolePermissions.filter fun row => db.rowFor roleId key ≠ some row } := by
        unfold Database.detachKey Database.rowFor
        cases db.getPermissionByKey key with
        | none => simp
        | some permission => simp [Database.removeRolePermission, eq_comm]
      rw [List.foldl_cons, ih, first]
      simp only [List.filter_filter, List.all_cons]
      congr 1
      apply List.filter_congr
      intro row _
      exact Bool.and_comm _ _

section Reconciled

variable {role : Role} {keys : List Text} (catalogued : db.Catalogued)

include catalogued

theorem rowFor_eq {permission : Permission} {other : Text}
    (found : db.getPermissionByKey key = some permission) :
    db.rowFor roleId other = some ⟨roleId, permission.id⟩ ↔ other = key := by
  constructor
  · intro row
    obtain ⟨same, located, equal⟩ := Option.map_eq_some_iff.mp row
    obtain ⟨present, first, -⟩ := getPermissionByKey_some located
    obtain ⟨listed, second, -⟩ := getPermissionByKey_some found
    have one : same = permission :=
      List.inj_on_of_nodup_map catalogued.ids present listed (congrArg RolePermission.permissionId equal)
    rw [← first, ← second, one]
  · rintro rfl
    rw [Database.rowFor, found, Option.map_some]

theorem mem_ownKeys_reconciled (reconciled : db.reconcileRolePermissions role keys = .ok after) :
    key ∈ after.ownKeys role.id ↔ key ∈ keys ∧ db.isUsable key = true := by
  simp only [Database.reconcileRolePermissions, Faults.bind_ok] at reconciled
  obtain ⟨attached, first, made⟩ := reconciled
  obtain ⟨-, rfl⟩ := attachAll_ok _ db first
  rw [detachAll_eq] at made
  obtain rfl := Except.ok.inj made
  have same : Database.Catalogued { db with
      rolePermissions := (db.rolePermissions ++ ((firstSeen keys).filter
        (· ∉ firstSeen (db.rowKeys role.id))).filterMap (db.rowFor role.id)).filter fun row =>
          ((firstSeen (db.rowKeys role.id)).filter (· ∉ keys)).all fun key => db.rowFor role.id key ≠ some row } :=
    ⟨catalogued.ids, catalogued.keys⟩
  refine (mem_ownKeys_iff same).trans ?_
  have usable : db.isUsable key = true ↔ ∃ permission, db.getPermissionByKey key = some permission ∧
      permission.isActive = true := by
    rw [Database.isUsable, Option.any_eq_true]
  rw [usable]
  constructor
  · rintro ⟨permission, found, active, listed⟩
    change db.getPermissionByKey key = some permission at found
    refine ⟨?_, permission, found, active⟩
    obtain ⟨inside, kept⟩ := List.mem_filter.mp listed
    by_contra unwanted
    rcases List.mem_append.mp inside with earlier | added
    · -- the row was there, so its key was detached
      have current := (mem_rowKeys_iff catalogued found).mpr earlier
      have detached := List.all_eq_true.mp kept key
        (List.mem_filter.mpr ⟨(mem_firstSeen _ _).mpr current, decide_eq_true unwanted⟩)
      exact of_decide_eq_true detached ((rowFor_eq catalogued found).mpr rfl)
    · obtain ⟨other, asked, row⟩ := List.mem_filterMap.mp added
      obtain rfl := (rowFor_eq catalogued found).mp row
      exact unwanted ((mem_firstSeen _ _).mp (List.mem_filter.mp asked).1)
  · rintro ⟨wanted, permission, found, active⟩
    refine ⟨permission, found, active, List.mem_filter.mpr ⟨?_, ?_⟩⟩
    · by_cases current : key ∈ db.rowKeys role.id
      · exact List.mem_append_left _ ((mem_rowKeys_iff catalogued found).mp current)
      · refine List.mem_append_right _ (List.mem_filterMap.mpr ⟨key, ?_, (rowFor_eq catalogued found).mpr rfl⟩)
        exact List.mem_filter.mpr ⟨(mem_firstSeen _ _).mpr wanted,
          decide_eq_true fun inside => current ((mem_firstSeen _ _).mp inside)⟩
    · refine List.all_eq_true.mpr fun other detached => decide_eq_true fun row => ?_
      obtain rfl := (rowFor_eq catalogued found).mp row
      exact of_decide_eq_true (List.mem_filter.mp detached).2 wanted

end Reconciled

theorem reconcile_ok {role : Role} {keys : List Text}
    (reconciled : db.reconcileRolePermissions role keys = .ok after) :
    ∃ rows, after = { db with rolePermissions := rows } ∧
      ∀ row : RolePermission, row.roleId ≠ role.id → (row ∈ rows ↔ row ∈ db.rolePermissions) := by
  have footprint : Footprint db after [] [role.id] [] [] :=
    Footprint.reconcile reconciled (List.mem_singleton_self _)
  have others := footprint.sameKeys
  simp only [Database.reconcileRolePermissions, Faults.bind_ok] at reconciled
  obtain ⟨attached, first, made⟩ := reconciled
  obtain ⟨-, rfl⟩ := attachAll_ok _ db first
  rw [detachAll_eq] at made
  obtain rfl := Except.ok.inj made
  exact ⟨_, rfl, fun row apart => others row (fun listed => apart (List.mem_singleton.mp listed))⟩

/-! ### The update of a role -/

theorem getRoleById_changeRole {change : Role → Role}
    (keeps : ∀ role, (change role).id = role.id ∧ (change role).isDeleted = role.isDeleted) (id : Uuid) :
    (db.changeRole edited change).getRoleById id =
      (db.getRoleById id).map fun role => if role.id = edited then change role else role := by
  rw [Database.getRoleById, Database.changeRole, List.find?_map]
  congr 2
  funext role
  simp only [Function.comp_apply]
  split
  · rw [(keeps role).1, (keeps role).2]
  · rfl

theorem parentOf_changeRole {change : Role → Role}
    (keeps : ∀ role, (change role).id = role.id ∧ (change role).isDeleted = role.isDeleted) (id : Uuid) :
    (db.changeRole edited change).parentOf id = (db.getRoleById id).bind fun role =>
      ((if role.id = edited then change role else role).parentRoleId.bind db.getRoleById).map Role.id := by
  have same : ∀ role : Role, (if role.id = edited then change role else role).id = role.id := by
    intro role
    split
    · exact (keeps role).1
    · rfl
  rw [Database.parentOf, getRoleById_changeRole keeps, Option.bind_map]
  refine Option.bind_congr fun role _ => ?_
  simp only [Function.comp_apply, Option.map_bind, Function.comp_def, getRoleById_changeRole keeps,
    Option.map_map, same]
  
structure Edited (db after : Database) (roleId : Uuid) (data : RoleUpdate) : Prop where
  reworked : Reworked db after roleId
  own : ∀ key, key ∈ after.ownKeys roleId ↔ data.permissionKeys.elim (key ∈ db.ownKeys roleId)
    fun keys => key ∈ keys ∧ db.isUsable key = true
  parent : after.parentOf roleId = data.parentRoleId.elim (db.parentOf roleId)
    fun parent => (parent.bind db.getRoleById).map Role.id
  rows : after.userRoles = db.userRoles
  overrides : after.overrides = db.overrides
  permissions : after.permissions = db.permissions
  inForce : ∀ id, (after.roleOf id).any Role.isInForce = (db.roleOf id).any Role.isInForce

theorem parentOf_congr {db after : Database} (same : after.roles = db.roles) (id : Uuid) :
    after.parentOf id = db.parentOf id := by
  have found : after.getRoleById = db.getRoleById := by
    funext id
    rw [Database.getRoleById, Database.getRoleById, same]
  rw [Database.parentOf, Database.parentOf, found]

theorem editRole_edited (catalogued : db.Catalogued) {role : Role} {data : RoleUpdate}
    (located : db.getRoleById role.id = some role) (ran : db.editRole role data = .ok after) :
    Edited db after role.id data := by
  have keeps : ∀ row : Role, (Role.updated data row).id = row.id ∧
      (Role.updated data row).isDeleted = row.isDeleted := fun _ => ⟨rfl, rfl⟩
  have parents : ∀ id ≠ role.id, (db.changeRole role.id (Role.updated data)).parentOf id = db.parentOf id := by
    intro id apart
    rw [parentOf_changeRole keeps, Database.parentOf]
    refine Option.bind_congr fun other found => ?_
    rw [if_neg (by rw [getRoleById_id found]; exact apart)]
  have parent : (db.changeRole role.id (Role.updated data)).parentOf role.id =
      data.parentRoleId.elim (db.parentOf role.id) fun parent => (parent.bind db.getRoleById).map Role.id := by
    rw [parentOf_changeRole keeps, located, Option.bind_some, if_pos rfl, Role.updated]
    cases data.parentRoleId with
    | none => exact (parentOf_found located).symm
    | some parent => rfl
  have inForce : ∀ id, ((db.changeRole role.id (Role.updated data)).roleOf id).any Role.isInForce =
      (db.roleOf id).any Role.isInForce := by
    intro id
    rw [roleOf_changeRole _ _ fun row => (keeps row).1]
    cases db.roleOf id with
    | none => rfl
    | some row =>
        rw [Option.map_some, Option.any_some, Option.any_some]
        split <;> rfl
  simp only [Database.editRole, Faults.bind_ok] at ran
  obtain ⟨_, _, _, _, _, _, rest⟩ := ran
  cases asked : data.permissionKeys with
  | none =>
      rw [asked] at rest
      obtain rfl := Except.ok.inj rest
      exact ⟨⟨parents, fun _ _ _ => Iff.rfl⟩, fun key => by rw [asked]; exact Iff.rfl, parent, rfl, rfl, rfl,
        inForce⟩
  | some keys =>
      simp only [asked] at rest
      have own : ∀ key, key ∈ after.ownKeys role.id ↔
          key ∈ keys ∧ (db.changeRole role.id (Role.updated data)).isUsable key = true :=
        fun _ => mem_ownKeys_reconciled ⟨catalogued.ids, catalogued.keys⟩ rest
      obtain ⟨rows, rfl, others⟩ := reconcile_ok rest
      refine ⟨⟨parents, fun id apart key => ?_⟩, fun key => by rw [asked]; exact own key, parent, rfl, rfl, rfl, inForce⟩
      rw [mem_ownKeys, mem_ownKeys]
      constructor
      · rintro ⟨row, listed, owned, further⟩
        exact ⟨row, (others row (owned ▸ apart)).mp listed, owned, further⟩
      · rintro ⟨row, listed, owned, further⟩
        exact ⟨row, (others row (owned ▸ apart)).mpr listed, owned, further⟩

end CloudGuest.Rbac
