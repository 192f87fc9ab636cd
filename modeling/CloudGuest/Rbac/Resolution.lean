import CloudGuest.Rbac.Footprint

/-!
When two states of the tables give a user the same grants. Grants are compared as
sets, since the keys of a role have no order in the source.
-/

namespace CloudGuest.Rbac
open Texts Uuids FirstSeen

structure EffectiveGrants.Same (left right : EffectiveGrants) : Prop where
  allow : ∀ grant, grant ∈ left.allow ↔ grant ∈ right.allow
  deny : ∀ grant, grant ∈ left.deny ↔ grant ∈ right.deny

theorem EffectiveGrants.Same.refl (grants : EffectiveGrants) : grants.Same grants :=
  ⟨fun _ => Iff.rfl, fun _ => Iff.rfl⟩

theorem EffectiveGrants.Same.symm {left right : EffectiveGrants} (same : left.Same right) :
    right.Same left :=
  ⟨fun grant => (same.allow grant).symm, fun grant => (same.deny grant).symm⟩

theorem EffectiveGrants.Same.trans {first second third : EffectiveGrants} (left : first.Same second)
    (right : second.Same third) : first.Same third :=
  ⟨fun grant => (left.allow grant).trans (right.allow grant),
    fun grant => (left.deny grant).trans (right.deny grant)⟩

theorem EffectiveGrants.Same.hasPermission {left right : EffectiveGrants} (same : left.Same right)
    (key : Text) (scopeType : ScopeType) (context : ScopeContext) :
    left.hasPermission key scopeType context = right.hasPermission key scopeType context := by
  have listed : ∀ first second : List EffectiveGrant, (∀ grant, grant ∈ first ↔ grant ∈ second) →
      (first.any fun grant => grant.covers key scopeType context) =
        second.any fun grant => grant.covers key scopeType context := by
    intro first second members
    rw [Bool.eq_iff_iff, List.any_eq_true, List.any_eq_true]
    simp only [members]
  rw [EffectiveGrants.hasPermission, EffectiveGrants.hasPermission, listed _ _ same.allow,
    listed _ _ same.deny]

/-! ### What a user is granted -/

variable {db after : Database} {maxDepth : Nat} {userId : Uuid} {now : Moment}

theorem mem_getActiveUserRoles {row : UserRole} : row ∈ db.getActiveUserRoles userId now ↔
    row ∈ db.userRoles ∧ row.userId = userId ∧ row.isActive = true ∧
      isCurrent row.expiresAt now = true := by
  simp [Database.getActiveUserRoles, List.mem_filter, and_assoc]

def Role.isInForce (role : Role) : Bool := role.isActive && !role.isDeleted

theorem mem_roleAllow {grant : EffectiveGrant} :
    (grant ∈ (db.getActiveAssignments userId now).flatMap fun item =>
      roleGrants (db.resolveRolePermissionKeys maxDepth item.2.id) item.1 item.2) ↔
    ∃ row ∈ db.getActiveUserRoles userId now, ∃ role, db.roleOf row.roleId = some role ∧
      role.isInForce = true ∧ ∃ key ∈ db.resolveRolePermissionKeys maxDepth role.id,
        grant = ⟨key, .allow, row.scope, "role:".toList ++ uuidText role.id⟩ := by
  constructor
  · intro listed
    obtain ⟨⟨row, role⟩, assigned, granted⟩ := List.mem_flatMap.mp listed
    obtain ⟨other, active, paired⟩ := List.mem_filterMap.mp assigned
    obtain ⟨found, filtered, equal⟩ := Option.map_eq_some_iff.mp paired
    obtain ⟨rfl, rfl⟩ := Prod.mk.inj equal
    obtain ⟨located, inForce⟩ := Option.filter_eq_some_iff.mp filtered
    obtain ⟨key, present, rfl⟩ := List.mem_map.mp granted
    exact ⟨other, active, found, located, inForce, key, present, rfl⟩
  · rintro ⟨row, active, role, located, inForce, key, present, rfl⟩
    refine List.mem_flatMap.mpr ⟨(row, role), ?_, List.mem_map.mpr ⟨key, present, rfl⟩⟩
    refine List.mem_filterMap.mpr ⟨row, active, ?_⟩
    exact Option.map_eq_some_iff.mpr ⟨role, Option.filter_eq_some_iff.mpr ⟨located, inForce⟩, rfl⟩

theorem mem_overrideGrants {grant : EffectiveGrant} : grant ∈ db.overrideGrants userId now ↔
    ∃ row ∈ db.getActiveOverridesForUser userId now, ∃ permission,
      db.permissionOf row.permissionId = some permission ∧ permission.isDeleted = false ∧
      grant = ⟨permission.key, row.effect, { row.scope with mspId := none }, "override".toList⟩ := by
  constructor
  · intro listed
    obtain ⟨row, active, granted⟩ := List.mem_filterMap.mp listed
    obtain ⟨permission, filtered, equal⟩ := Option.map_eq_some_iff.mp granted
    obtain ⟨located, kept⟩ := Option.filter_eq_some_iff.mp filtered
    exact ⟨row, active, permission, located, by simpa using kept, equal.symm⟩
  · rintro ⟨row, active, permission, located, kept, rfl⟩
    refine List.mem_filterMap.mpr ⟨row, active, ?_⟩
    exact Option.map_eq_some_iff.mpr
      ⟨permission, Option.filter_eq_some_iff.mpr ⟨located, by simp [kept]⟩, rfl⟩

/-! ### The keys of a role -/

theorem getRoleById_id {id : Uuid} {role : Role} (located : db.getRoleById id = some role) :
    role.id = id := by
  have matched := List.find?_some located
  simp only [Bool.and_eq_true, decide_eq_true_eq] at matched
  exact matched.1

/-- The roles outside a list have the same parent and keys in both states. -/
structure Steady (db after : Database) (touched : List Uuid) : Prop where
  parents : ∀ id ∉ touched,
    (after.getRoleById id).map Role.parentRoleId = (db.getRoleById id).map Role.parentRoleId
  keys : ∀ row : RolePermission, row.roleId ∉ touched →
    (row ∈ after.rolePermissions ↔ row ∈ db.rolePermissions)

def Database.descends (db : Database) (touched : List Uuid) : Nat → Role → Bool
  | 0, _ => false
  | depth + 1, role => role.parentRoleId.any fun parent =>
      decide (parent ∈ touched) || (db.getRoleById parent).any (Database.descends db touched depth)

section Keys

variable {touched : List Uuid}

theorem descends_succ {depth : Nat} {role : Role} (apart : db.descends touched (depth + 1) role = false)
    {parent : Uuid} (named : role.parentRoleId = some parent) : parent ∉ touched ∧
      ∀ found, db.getRoleById parent = some found → db.descends touched depth found = false := by
  simp only [Database.descends, named, Option.any_some, Bool.or_eq_false_iff, decide_eq_false_iff_not] at apart
  refine ⟨apart.1, fun found located => ?_⟩
  rw [located, Option.any_some] at apart
  exact apart.2

theorem Steady.parentsFrom (steady : Steady db after touched) : ∀ (depth : Nat) (seen : List Uuid)
    (left right : Role), left.parentRoleId = right.parentRoleId →
    db.descends touched depth right = false →
    (after.parentsFrom depth seen left).map Role.id = (db.parentsFrom depth seen right).map Role.id := by
  intro depth
  induction depth with
  | zero => exact fun _ _ _ _ _ => rfl
  | succ depth ih =>
      intro seen left right same apart
      simp only [Database.parentsFrom, same]
      cases named : right.parentRoleId with
      | none => rfl
      | some parent =>
          obtain ⟨outside, further⟩ := descends_succ apart named
          have kept := steady.parents parent outside
          rw [Option.bind_some, Option.bind_some]
          cases located : db.getRoleById parent with
          | none =>
              rw [located, Option.map_none, Option.map_eq_none_iff] at kept
              rw [kept]
          | some role =>
              rw [located, Option.map_some] at kept
              obtain ⟨other, present, agree⟩ := Option.map_eq_some_iff.mp kept
              rw [present]
              have ids : other.id = role.id := (getRoleById_id present).trans (getRoleById_id located).symm
              simp only [ids]
              split
              · rfl
              · rw [List.map_cons, List.map_cons, ids, ih _ other role agree (further role located)]

theorem parentsFrom_outside : ∀ (depth : Nat) (seen : List Uuid) (role : Role),
    db.descends touched depth role = false →
    ∀ ancestor ∈ db.parentsFrom depth seen role, ancestor.id ∉ touched := by
  intro depth
  induction depth with
  | zero =>
      intro _ _ _ ancestor listed
      simp [Database.parentsFrom] at listed
  | succ depth ih =>
      intro seen role apart ancestor listed
      simp only [Database.parentsFrom] at listed
      cases named : role.parentRoleId with
      | none => simp [named] at listed
      | some parent =>
          obtain ⟨outside, further⟩ := descends_succ apart named
          rw [named, Option.bind_some] at listed
          cases located : db.getRoleById parent with
          | none => simp [located] at listed
          | some above =>
              simp only [located] at listed
              split at listed
              · simp at listed
              · rcases List.mem_cons.mp listed with rfl | beyond
                · rw [getRoleById_id located]
                  exact outside
                · exact ih _ above (further above located) ancestor beyond

theorem Steady.getParentChain (steady : Steady db after touched) {roleId : Uuid} {depth : Nat}
    (outside : roleId ∉ touched)
    (apart : ∀ role, db.getRoleById roleId = some role → db.descends touched depth role = false) :
    (after.getParentChain roleId depth).map Role.id = (db.getParentChain roleId depth).map Role.id := by
  have kept := steady.parents roleId outside
  unfold Database.getParentChain
  cases located : db.getRoleById roleId with
  | none =>
      rw [located, Option.map_none, Option.map_eq_none_iff] at kept
      rw [kept]
  | some role =>
      rw [located, Option.map_some] at kept
      obtain ⟨other, present, agree⟩ := Option.map_eq_some_iff.mp kept
      rw [present]
      exact steady.parentsFrom depth _ other role agree (apart role located)

theorem chain_outside {roleId : Uuid} {depth : Nat}
    (apart : ∀ role, db.getRoleById roleId = some role → db.descends touched depth role = false) :
    ∀ ancestor ∈ db.getParentChain roleId depth, ancestor.id ∉ touched := by
  unfold Database.getParentChain
  cases located : db.getRoleById roleId with
  | none => simp
  | some role => exact parentsFrom_outside depth _ role (apart role located)

theorem mem_ownKeys {roleId : Uuid} {key : Text} : key ∈ db.ownKeys roleId ↔
    ∃ row ∈ db.rolePermissions, row.roleId = roleId ∧ ∃ permission,
      db.permissionOf row.permissionId = some permission ∧
      (permission.isActive && !permission.isDeleted) = true ∧ permission.key = key := by
  constructor
  · intro listed
    obtain ⟨row, present, granted⟩ := List.mem_filterMap.mp listed
    obtain ⟨permission, filtered, same⟩ := Option.map_eq_some_iff.mp granted
    obtain ⟨located, kept⟩ := Option.filter_eq_some_iff.mp filtered
    obtain ⟨inside, owned⟩ := List.mem_filter.mp present
    exact ⟨row, inside, of_decide_eq_true owned, permission, located, kept, same⟩
  · rintro ⟨row, inside, owned, permission, located, kept, same⟩
    refine List.mem_filterMap.mpr ⟨row, List.mem_filter.mpr ⟨inside, decide_eq_true owned⟩, ?_⟩
    exact Option.map_eq_some_iff.mpr ⟨permission, Option.filter_eq_some_iff.mpr ⟨located, kept⟩, same⟩

theorem mem_resolveRolePermissionKeys {roleId : Uuid} {key : Text} :
    key ∈ db.resolveRolePermissionKeys maxDepth roleId ↔
      ∃ id ∈ roleId :: (db.getParentChain roleId maxDepth).map Role.id, key ∈ db.ownKeys id := by
  rw [Database.resolveRolePermissionKeys, mem_firstSeen, List.mem_append, List.mem_flatMap]
  simp

theorem Steady.ownKeys (steady : Steady db after touched) (same : after.permissions = db.permissions)
    {roleId : Uuid} (outside : roleId ∉ touched) (key : Text) :
    key ∈ after.ownKeys roleId ↔ key ∈ db.ownKeys roleId := by
  have permissions : ∀ id, after.permissionOf id = db.permissionOf id := by
    intro id
    rw [Database.permissionOf, Database.permissionOf, same]
  rw [mem_ownKeys, mem_ownKeys]
  simp only [permissions]
  constructor
  · rintro ⟨row, present, owned, rest⟩
    exact ⟨row, (steady.keys row (owned ▸ outside)).mp present, owned, rest⟩
  · rintro ⟨row, present, owned, rest⟩
    exact ⟨row, (steady.keys row (owned ▸ outside)).mpr present, owned, rest⟩

theorem Steady.resolveRolePermissionKeys (steady : Steady db after touched)
    (same : after.permissions = db.permissions) {roleId : Uuid} (outside : roleId ∉ touched)
    (apart : ∀ role, db.getRoleById roleId = some role → db.descends touched maxDepth role = false)
    (key : Text) :
    key ∈ after.resolveRolePermissionKeys maxDepth roleId ↔
      key ∈ db.resolveRolePermissionKeys maxDepth roleId := by
  rw [mem_resolveRolePermissionKeys, mem_resolveRolePermissionKeys, steady.getParentChain outside apart]
  apply exists_congr
  intro id
  apply and_congr_right
  intro listed
  apply steady.ownKeys same
  rcases List.mem_cons.mp listed with rfl | above
  · exact outside
  · obtain ⟨ancestor, present, rfl⟩ := List.mem_map.mp above
    exact chain_outside apart ancestor present

end Keys

/-! ### The grants of a user -/

/-- What a user is granted is the same where his rows, their roles and the keys of these are. -/
structure Unchanged (maxDepth : Nat) (db after : Database) (userId : Uuid) : Prop where
  permissions : after.permissions = db.permissions
  rows : ∀ row : UserRole, row.userId = userId → row.isActive = true →
    (row ∈ after.userRoles ↔ row ∈ db.userRoles)
  roles : ∀ row ∈ db.userRoles, row.userId = userId → row.isActive = true →
    after.roleOf row.roleId = db.roleOf row.roleId
  keys : ∀ row ∈ db.userRoles, row.userId = userId → row.isActive = true → ∀ key,
    (key ∈ after.resolveRolePermissionKeys maxDepth row.roleId ↔
      key ∈ db.resolveRolePermissionKeys maxDepth row.roleId)
  overrides : ∀ row : PermissionOverride, row.userId = userId → row.isActive = true →
    (row ∈ after.overrides ↔ row ∈ db.overrides)

theorem Unchanged.roleAllow (unchanged : Unchanged maxDepth db after userId) (grant : EffectiveGrant) :
    (grant ∈ (after.getActiveAssignments userId now).flatMap fun item =>
      roleGrants (after.resolveRolePermissionKeys maxDepth item.2.id) item.1 item.2) ↔
    (grant ∈ (db.getActiveAssignments userId now).flatMap fun item =>
      roleGrants (db.resolveRolePermissionKeys maxDepth item.2.id) item.1 item.2) := by
  have active : ∀ row, row ∈ after.getActiveUserRoles userId now ↔ row ∈ db.getActiveUserRoles userId now := by
    intro row
    rw [mem_getActiveUserRoles, mem_getActiveUserRoles]
    constructor
    · rintro ⟨listed, owned, alive, current⟩
      exact ⟨(unchanged.rows row owned alive).mp listed, owned, alive, current⟩
    · rintro ⟨listed, owned, alive, current⟩
      exact ⟨(unchanged.rows row owned alive).mpr listed, owned, alive, current⟩
  rw [mem_roleAllow, mem_roleAllow]
  simp only [active]
  apply exists_congr
  intro row
  apply and_congr_right
  intro listed
  obtain ⟨present, owned, alive, -⟩ := mem_getActiveUserRoles.mp listed
  rw [unchanged.roles row present owned alive]
  apply exists_congr
  intro role
  apply and_congr_right
  intro located
  simp only [roleOf_id located, unchanged.keys row present owned alive]

theorem Unchanged.overrideGrants (unchanged : Unchanged maxDepth db after userId) (grant : EffectiveGrant) :
    grant ∈ after.overrideGrants userId now ↔ grant ∈ db.overrideGrants userId now := by
  have permissions : ∀ id, after.permissionOf id = db.permissionOf id := by
    intro id
    rw [Database.permissionOf, Database.permissionOf, unchanged.permissions]
  rw [mem_overrideGrants, mem_overrideGrants]
  simp only [permissions, Database.getActiveOverridesForUser, List.mem_filter, Bool.and_eq_true,
    decide_eq_true_eq]
  apply exists_congr
  intro row
  apply and_congr_left
  intro _
  constructor
  · rintro ⟨listed, ⟨owned, alive⟩, current⟩
    exact ⟨(unchanged.overrides row owned alive).mp listed, ⟨owned, alive⟩, current⟩
  · rintro ⟨listed, ⟨owned, alive⟩, current⟩
    exact ⟨(unchanged.overrides row owned alive).mpr listed, ⟨owned, alive⟩, current⟩

theorem Unchanged.resolve (unchanged : Unchanged maxDepth db after userId) (now : Moment) :
    (after.resolve maxDepth userId now).Same (db.resolve maxDepth userId now) := by
  constructor
  · intro grant
    simp only [Database.resolve, List.mem_append, List.mem_filter, unchanged.roleAllow,
      unchanged.overrideGrants]
  · intro grant
    simp only [Database.resolve, List.mem_filter, unchanged.overrideGrants]

/-! ### What a commit leaves as it was -/

section Committed

variable {Row : Type} {keyOf : Row → Uuid} {write : Row → Row → Row → Row}

theorem mem_mergeRows_iff (blind : ∀ read row, write read read row = row)
    (keeps : ∀ read written row, keyOf (write read written row) = keyOf row) {base mine current : List Row}
    {row : Row}
    (same : (mine.find? fun other => keyOf other = keyOf row) =
      base.find? fun other => keyOf other = keyOf row) :
    row ∈ mergeRows keyOf write base mine current ↔ row ∈ current := by
  constructor
  · intro listed
    rcases List.mem_append.mp listed with mapped | added
    · obtain ⟨other, present, equal⟩ := List.mem_map.mp mapped
      have key : keyOf other = keyOf row := by rw [← equal, keyOf_mergeRow keeps]
      rw [mergeRow_kept blind (by rw [key]; exact same)] at equal
      exact equal ▸ present
    · obtain ⟨present, fresh⟩ := List.mem_filter.mp added
      have missing : (base.find? fun other => decide (keyOf other = keyOf row)) = none := by
        rw [List.find?_eq_none]
        intro other listed equal
        exact of_decide_eq_true (List.all_eq_true.mp fresh other listed) (of_decide_eq_true equal)
      rw [missing, List.find?_eq_none] at same
      exact absurd (decide_eq_true rfl) (same row present)
  · exact fun listed => mem_mergeRows blind listed same

theorem find_mergeRows (blind : ∀ read row, write read read row = row)
    (keeps : ∀ read written row, keyOf (write read written row) = keyOf row) {base mine current : List Row}
    {id : Uuid} (same : (mine.find? fun other => keyOf other = id) = base.find? fun other => keyOf other = id) :
    ((mergeRows keyOf write base mine current).find? fun row => keyOf row = id) =
      current.find? fun row => keyOf row = id := by
  have added : ((mine.filter fun row => base.all fun other => keyOf other ≠ keyOf row).find? fun row =>
      keyOf row = id) = none := by
    rw [List.find?_eq_none]
    intro row listed equal
    obtain ⟨present, fresh⟩ := List.mem_filter.mp listed
    have missing : (base.find? fun other => decide (keyOf other = id)) = none := by
      rw [List.find?_eq_none]
      intro other inside matched
      exact of_decide_eq_true (List.all_eq_true.mp fresh other inside)
        ((of_decide_eq_true matched).trans (of_decide_eq_true equal).symm)
    rw [missing, List.find?_eq_none] at same
    exact same row present equal
  rw [mergeRows, List.find?_append, added, Option.or_none]
  refine (find_map_change (keyOf_mergeRow keeps base mine) id current).trans ?_
  cases found : current.find? fun row => decide (keyOf row = id) with
  | none => rfl
  | some row =>
      have matched : keyOf row = id := by simpa using List.find?_some found
      exact congrArg some (mergeRow_kept blind (by rw [matched]; exact same))

theorem mem_mergeSets_iff [DecidableEq Row] {base mine current : List Row} {row : Row}
    (same : row ∈ mine ↔ row ∈ base) : row ∈ mergeSets base mine current ↔ row ∈ current := by
  rw [mergeSets, List.mem_append, List.mem_filter, List.mem_filter]
  by_cases read : row ∈ base <;> simp [read, same]

theorem parents_merge {base mine db : Database} {id : Uuid}
    (same : (mine.roleOf id).map Role.lineage = (base.roleOf id).map Role.lineage) :
    ((Database.merge base mine db).getRoleById id).map Role.parentRoleId =
      (db.getRoleById id).map Role.parentRoleId := by
  -- a row of the id keeps its lineage, whatever else is written on it
  have kept : ∀ row : Role, row.id = id →
      (mergeRow Role.id Role.write base.roles mine.roles row).lineage = row.lineage := by
    intro row matched
    simp only [Database.roleOf] at same
    rw [mergeRow, matched]
    cases read : base.roles.find? fun other => decide (other.id = id) with
    | none => rfl
    | some before =>
        cases written : mine.roles.find? fun other => decide (other.id = id) with
        | none => rfl
        | some left =>
            rw [read, written, Option.map_some, Option.map_some, Option.some.injEq] at same
            simp only [Role.lineage, Prod.mk.injEq] at same
            simp [Role.write, Role.lineage, same.1, same.2]
  have added : ((mine.roles.filter fun row => base.roles.all fun other => other.id ≠ row.id).find? fun role =>
      role.id = id && !role.isDeleted) = none := by
    rw [List.find?_eq_none]
    intro row listed matched
    obtain ⟨present, fresh⟩ := List.mem_filter.mp listed
    simp only [Bool.and_eq_true, decide_eq_true_eq] at matched
    have missing : base.roleOf id = none := by
      rw [Database.roleOf, List.find?_eq_none]
      intro other inside equal
      exact of_decide_eq_true (List.all_eq_true.mp fresh other inside)
        ((of_decide_eq_true equal).trans matched.1.symm)
    rw [missing, Option.map_none, Option.map_eq_none_iff, Database.roleOf, List.find?_eq_none] at same
    exact same row present (decide_eq_true matched.1)
  rw [Database.getRoleById, Database.merge, mergeRows, List.find?_append, added, Option.or_none,
    List.find?_map]
  have pointwise : (fun role : Role => decide (role.id = id) && !role.isDeleted) ∘
      mergeRow Role.id Role.write base.roles mine.roles =
        fun role => decide (role.id = id) && !role.isDeleted := by
    funext row
    have key : (mergeRow Role.id Role.write base.roles mine.roles row).id = row.id :=
      keyOf_mergeRow Role.write_id base.roles mine.roles row
    simp only [Function.comp_apply, key]
    by_cases matched : row.id = id
    · have deleted := congrArg Prod.fst (kept row matched)
      simp only [Role.lineage] at deleted
      rw [deleted]
    · simp [matched]
  rw [pointwise, ← Database.getRoleById, Option.map_map]
  cases located : db.getRoleById id with
  | none => rfl
  | some row =>
      rw [Option.map_some, Option.map_some, Function.comp_apply]
      exact congrArg some (congrArg Prod.snd (kept row (getRoleById_id located)))

end Committed

end CloudGuest.Rbac
