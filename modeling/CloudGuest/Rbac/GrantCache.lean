import CloudGuest.Library.Runs
import CloudGuest.Rbac.Resolution

/-!
The cache of effective grants (rbac/cache.py). A check takes a user's entry, or
resolves his grants from the committed tables and stores them. A call that changes
grants deletes entries inside its transaction, before the commit that it announces,
and those of the role's own holders only.

`isSettled` keeps a run to the commits that leave nothing stale: who holds a descendant
of an edited role is invalidated as well, and whoever is invalidated has no entry and
no resolution that has already read.
-/

namespace CloudGuest.Rbac.GrantCache
open Texts Uuids Runs

/-! ### The cached payload -/

def ScopeType.value : ScopeType → Text
  | .global => "global".toList
  | .organization => "organization".toList
  | .location => "location".toList
  | .router => "router".toList
  | .device => "device".toList

def readScopeType (value : Text) : Option ScopeType :=
  [ScopeType.global, .organization, .location, .router, .device].find? fun scopeType =>
    ScopeType.value scopeType = value

def effectValue : OverrideEffect → Text
  | .allow => "allow".toList
  | .deny => "deny".toList

def readEffect (value : Text) : Option OverrideEffect :=
  [OverrideEffect.allow, .deny].find? fun effect => effectValue effect = value

def uuidValue (id : Option Uuid) : Json.Value :=
  match id with
  | some id => .text (uuidText id)
  | none => .null

def grantToJson (grant : EffectiveGrant) : Json.Value :=
  .object [("permission_key".toList, .text grant.permissionKey),
    ("effect".toList, .text (effectValue grant.effect)),
    ("scope_type".toList, .text (ScopeType.value grant.scope.scopeType)),
    ("organization_id".toList, uuidValue grant.scope.organizationId),
    ("location_id".toList, uuidValue grant.scope.locationId),
    ("router_id".toList, uuidValue grant.scope.routerId),
    ("msp_id".toList, uuidValue grant.scope.mspId),
    ("source".toList, .text grant.source)]

def getField (payload : Json.Value) (key : Text) : Option Json.Value :=
  match payload with
  | .object fields => Json.get fields key
  | _ => none

def getText (payload : Json.Value) (key : Text) : Option Text :=
  match getField payload key with
  | some (.text value) => some value
  | _ => none

def maybeUuid (payload : Json.Value) (key : Text) : Option (Option Uuid) :=
  -- `_maybe_uuid(payload.get(key))`, `none` where it raises.
  match getField payload key with
  | none => some none
  | some .null => some none
  | some (.text value) => if value = [] then some none else (readUuid value).map some
  | some _ => none

def grantFromJson (payload : Json.Value) : Option EffectiveGrant := do
  let permissionKey ← getText payload "permission_key".toList
  let effect ← (getText payload "effect".toList).bind readEffect
  let scopeType ← (getText payload "scope_type".toList).bind readScopeType
  let organizationId ← maybeUuid payload "organization_id".toList
  let locationId ← maybeUuid payload "location_id".toList
  let routerId ← maybeUuid payload "router_id".toList
  let mspId ← maybeUuid payload "msp_id".toList
  let source ← getText payload "source".toList
  return ⟨permissionKey, effect, ⟨scopeType, organizationId, locationId, routerId, mspId⟩, source⟩

def toJson (grants : EffectiveGrants) : Json.Value :=
  .object [("allow".toList, .array (grants.allow.map grantToJson)),
    ("deny".toList, .array (grants.deny.map grantToJson))]

def readAll : List Json.Value → Option (List EffectiveGrant)
  | [] => some []
  | payload :: rest => do return (← grantFromJson payload) :: (← readAll rest)

def getGrants (payload : Json.Value) (key : Text) : Option (List EffectiveGrant) :=
  match getField payload key with
  | none => some []
  | some (.array items) => readAll items
  | some _ => none

def fromJson (payload : Json.Value) : Option EffectiveGrants := do
  -- `EffectiveGrants.from_json`, `none` where it raises.
  return ⟨← getGrants payload "allow".toList, ← getGrants payload "deny".toList⟩

theorem uuidText_nonempty (id : Uuid) : uuidText id ≠ [] := by
  simp [uuidText]

theorem readUuidValue (id : Option Uuid) :
    (match some (uuidValue id) with
    | none => some none
    | some .null => some none
    | some (.text value) => if value = [] then some none else (readUuid value).map some
    | some _ => none) = some id := by
  cases id with
  | none => rfl
  | some id => simp [uuidValue, uuidText_nonempty, readUuid_uuidText]

theorem readScopeType_value (scopeType : ScopeType) :
    readScopeType (ScopeType.value scopeType) = some scopeType := by
  cases scopeType <;> decide +kernel

theorem readEffect_value (effect : OverrideEffect) : readEffect (effectValue effect) = some effect := by
  cases effect <;> decide +kernel

theorem grantFromJson_toJson (grant : EffectiveGrant) : grantFromJson (grantToJson grant) = some grant := by
  have ids : ∀ key id, getField (grantToJson grant) key = some (uuidValue id) →
      maybeUuid (grantToJson grant) key = some id := by
    intro key id held
    rw [maybeUuid, held]
    exact readUuidValue id
  have key : getText (grantToJson grant) "permission_key".toList = some grant.permissionKey := rfl
  have effect : getText (grantToJson grant) "effect".toList = some (effectValue grant.effect) := rfl
  have scopeType : getText (grantToJson grant) "scope_type".toList =
      some (ScopeType.value grant.scope.scopeType) := rfl
  have source : getText (grantToJson grant) "source".toList = some grant.source := rfl
  rw [grantFromJson, key, effect, scopeType, ids _ grant.scope.organizationId rfl,
    ids _ grant.scope.locationId rfl, ids _ grant.scope.routerId rfl, ids _ grant.scope.mspId rfl, source]
  simp [readEffect_value, readScopeType_value]

theorem readAll_map (grants : List EffectiveGrant) : readAll (grants.map grantToJson) = some grants := by
  induction grants with
  | nil => rfl
  | cons grant rest ih => simp [readAll, grantFromJson_toJson, ih]

theorem fromJson_toJson (grants : EffectiveGrants) : fromJson (toJson grants) = some grants := by
  have allow : getGrants (toJson grants) "allow".toList = readAll (grants.allow.map grantToJson) := rfl
  have deny : getGrants (toJson grants) "deny".toList = readAll (grants.deny.map grantToJson) := rfl
  rw [fromJson, allow, deny, readAll_map, readAll_map]
  rfl

/-! ### The cache under mutations -/

structure Cached where
  payload : Json.Value
  /-- When the grants were resolved, which the entry does not say. -/
  resolvedAt : Moment

/-- A call of `get_effective_grants` that has missed the cache, with what it has resolved. -/
structure Resolution where
  userId : Uuid
  result : Option Cached

structure Call where
  pending : Pending
  invalidated : Bool

structure System where
  db : Database
  now : Moment
  cache : Uuid → Option Cached
  resolutions : List Resolution
  calls : List Call

inductive Action where
  | lookup (userId : Uuid)
  | resolve (place : Nat)
  | store (place : Nat)
  | request (caller : Caller) (mutation : Mutation)
  | invalidate (place : Nat)
  | commit (place : Nat)
  | rollback (place : Nat)
  | expire (userId : Uuid)
  | tick (seconds : Nat)

def getUserIdsWithRole (db : Database) (roleId : Uuid) : List Uuid :=
  (db.userRoles.filter fun row => row.roleId = roleId && row.isActive).map UserRole.userId

/-- Who is invalidated by a call that read `base`, when it sees the rows of `view`. -/
def invalidatedUsers (caller : Caller) (base view : Database) : Mutation → List Uuid
  | .createRole _ _ => []
  | .updateRole newId roleId _ =>
      if caller.copies base roleId then
        ((base.userRoles.filter fun row => caller.requesting.any fun organization =>
          isMoved roleId organization row).map UserRole.userId) ++ getUserIdsWithRole view newId
      else getUserIdsWithRole view roleId
  | .deleteRole _ => []
  | .setRoleActive roleId _ => getUserIdsWithRole view roleId
  | .cloneRole _ _ _ _ => []
  | .assignPermissionToRole roleId _ => getUserIdsWithRole view roleId
  | .removePermissionFromRole roleId _ => getUserIdsWithRole view roleId
  | .assignRoleToUser _ target _ _ _ => [target]
  | .revokeRoleFromUser assignmentId =>
      ((view.getUserRoleAssignment assignmentId).map UserRole.userId).toList
  | .grantPermissionOverride _ target _ _ _ _ => [target]
  | .revokePermissionOverride overrideId =>
      ((view.getPermissionOverrideById overrideId).map PermissionOverride.userId).toList

def Pending.view (call : Pending) (db : Database) : Database := Database.merge call.base call.mine db

def Pending.invalidates (call : Pending) (db : Database) : List Uuid :=
  invalidatedUsers call.caller call.base (Pending.view call db) call.mutation

def step (maxParentRoleDepth : Nat) (system : System) : Action → Option System
  | .lookup userId =>
      if (system.cache userId).isNone then
        some { system with resolutions := system.resolutions ++ [⟨userId, none⟩] }
      else none
  | .resolve place => do
      let call ← system.resolutions[place]?
      guard call.result.isNone
      let grants := system.db.resolve maxParentRoleDepth call.userId system.now
      some { system with
        resolutions := system.resolutions.set place ⟨call.userId, some ⟨toJson grants, system.now⟩⟩ }
  | .store place => do
      let call ← system.resolutions[place]?
      let result ← call.result
      some { system with
        cache := Function.update system.cache call.userId (some result)
        resolutions := system.resolutions.eraseIdx place }
  | .request caller mutation =>
      match mutation.run ⟨maxParentRoleDepth, system.now⟩ caller system.db with
      | .ok mine =>
          some { system with calls := system.calls ++ [⟨⟨mutation, caller, system.db, mine⟩, false⟩] }
      | .error _ => none
  | .invalidate place => do
      let call ← system.calls[place]?
      let users := Pending.invalidates call.pending system.db
      some { system with
        cache := fun userId => if userId ∈ users then none else system.cache userId
        calls := system.calls.set place { call with invalidated := true } }
  | .commit place => do
      let call ← system.calls[place]?
      guard call.invalidated
      let db := Pending.view call.pending system.db
      guard db.isConsistent
      some { system with db, calls := system.calls.eraseIdx place }
  | .rollback place =>
      if place < system.calls.length then some { system with calls := system.calls.eraseIdx place }
      else none
  | .expire userId => some { system with cache := Function.update system.cache userId none }
  | .tick seconds => some { system with now := system.now + seconds }

/-- The grants of an entry are those that the committed tables had come to when they were
resolved; since then they may have expired. -/
def Coherent (maxParentRoleDepth : Nat) (system : System) (userId : Uuid) (cached : Cached) : Prop :=
  cached.resolvedAt ≤ system.now ∧ ∃ grants, fromJson cached.payload = some grants ∧
    grants.Same (system.db.resolve maxParentRoleDepth userId cached.resolvedAt)

/-! ### Settled commits -/

/-- Everyone who holds a descendant of a role whose keys may change is invalidated. -/
def isAnnounced (maxParentRoleDepth : Nat) (db : Database) (call : Pending) : Bool :=
  db.userRoles.all fun row =>
    !(row.isActive && (db.getRoleById row.roleId).any
      (db.descends (call.mutation.touchedLineage call.caller call.base) maxParentRoleDepth)) ||
    decide (row.userId ∈ Pending.invalidates call db)

def isUnassigned (db : Database) (call : Pending) : Bool :=
  match call.mutation with
  | .deleteRole roleId => call.caller.copies call.base roleId || !db.hasHolder roleId
  | _ => true

def isForgotten (system : System) (userId : Uuid) : Bool :=
  (system.cache userId).isNone &&
    system.resolutions.all fun resolution => resolution.userId ≠ userId || resolution.result.isNone

def isSettled (maxParentRoleDepth : Nat) (system : System) : Action → Bool
  | .commit place =>
      (system.calls[place]?).all fun call =>
        isAnnounced maxParentRoleDepth system.db call.pending && isUnassigned system.db call.pending &&
        (Pending.invalidates call.pending system.db).all (isForgotten system)
  | _ => true

/-! ### Who is untouched by a commit -/

section Commits

variable {setting : Setting} {call : Pending} {db : Database} {userId : Uuid}

theorem fresh_absent {Row : Type} {keyOf : Row → Uuid} {write : Row → Row → Row → Row}
    {base mine current : List Row} {row : Row}
    (keeps : ∀ read written row, keyOf (write read written row) = keyOf row)
    (distinct : ((mergeRows keyOf write base mine current).map keyOf).Nodup)
    (inside : row ∈ mine) (fresh : keyOf row ∉ base.map keyOf) : keyOf row ∉ current.map keyOf := by
  have ids : (current.map (mergeRow keyOf write base mine)).map keyOf = current.map keyOf := by
    rw [List.map_map]
    exact List.map_congr_left fun other _ => keyOf_mergeRow keeps base mine other
  rw [mergeRows, List.map_append, ids] at distinct
  intro present
  refine (List.nodup_append.mp distinct).2.2 _ present _ (List.mem_map_of_mem ?_) rfl
  refine List.mem_filter.mpr ⟨inside, List.all_eq_true.mpr ?_⟩
  intro other listed
  exact decide_eq_true fun same => fresh (List.mem_map.mpr ⟨other, listed, same⟩)

theorem created_absent {role : Role} (distinct : ((Pending.view call db).roles.map Role.id).Nodup)
    (inside : role ∈ call.mine.roles) (fresh : role.id ∉ call.base.roles.map Role.id) :
    role.id ∉ db.roles.map Role.id :=
  fresh_absent Role.write_id distinct inside fresh

theorem touched_role {id : Uuid} (ran : call.mutation.run setting call.caller call.base = .ok call.mine)
    (distinct : ((Pending.view call db).roles.map Role.id).Nodup) (unassigned : isUnassigned db call = true)
    (touched : id ∈ call.mutation.touchedRoles call.caller call.base) :
    id ∉ db.roles.map Role.id ∨ db.hasHolder id = false ∨
      ∀ row ∈ (Pending.view call db).userRoles, row.isActive = true → row.roleId = id →
        row.userId ∈ Pending.invalidates call db := by
  have held : ∀ row ∈ (Pending.view call db).userRoles, row.isActive = true → row.roleId = id →
      row.userId ∈ getUserIdsWithRole (Pending.view call db) id := by
    intro row listed active role
    exact List.mem_map_of_mem (List.mem_filter.mpr ⟨listed, by simp [active, role]⟩)
  unfold Pending.invalidates
  cases mutation : call.mutation with
  | createRole newId data =>
      rw [mutation] at ran touched
      obtain ⟨role, inside, rfl, fresh⟩ := createRole_new ran
      obtain rfl := List.mem_singleton.mp touched
      exact .inl (created_absent distinct inside fresh)
  | cloneRole newId sourceId slug target =>
      rw [mutation] at ran touched
      obtain ⟨role, inside, rfl, fresh⟩ := cloneRole_new ran
      obtain rfl := List.mem_singleton.mp touched
      exact .inl (created_absent distinct inside fresh)
  | updateRole newId roleId data =>
      rw [mutation] at ran touched
      simp only [Mutation.touchedRoles] at touched
      split at touched
      · next copies =>
          obtain ⟨⟨role, inside, rfl⟩, fresh, -⟩ := updateRole_copy ran copies
          obtain rfl := List.mem_singleton.mp touched
          exact .inl (created_absent distinct inside fresh)
      · next plain =>
          obtain rfl := List.mem_singleton.mp touched
          simp only [invalidatedUsers, plain]
          exact .inr (.inr held)
  | deleteRole roleId =>
      rw [mutation] at touched
      simp only [isUnassigned, mutation] at unassigned
      simp only [Mutation.touchedRoles] at touched
      split at touched
      · simp at touched
      · next plain =>
          obtain rfl := List.mem_singleton.mp touched
          exact .inr (.inl (by simpa [plain] using unassigned))
  | setRoleActive roleId isActive =>
      rw [mutation] at touched
      obtain rfl := List.mem_singleton.mp touched
      exact .inr (.inr held)
  | assignPermissionToRole roleId key =>
      rw [mutation] at touched
      obtain rfl := List.mem_singleton.mp touched
      exact .inr (.inr held)
  | removePermissionFromRole roleId key =>
      rw [mutation] at touched
      obtain rfl := List.mem_singleton.mp touched
      exact .inr (.inr held)
  | assignRoleToUser _ _ _ _ _ | revokeRoleFromUser _ | grantPermissionOverride _ _ _ _ _ _
  | revokePermissionOverride _ =>
      rw [mutation] at touched
      simp [Mutation.touchedRoles] at touched

theorem mem_mergeRows_cases {Row : Type} {keyOf : Row → Uuid} {write : Row → Row → Row → Row}
    {base mine current : List Row} {row : Row} (listed : row ∈ mergeRows keyOf write base mine current) :
    (∃ other ∈ current, mergeRow keyOf write base mine other = row) ∨
      (row ∈ mine ∧ keyOf row ∉ base.map keyOf) := by
  rcases List.mem_append.mp listed with mapped | added
  · exact .inl (List.mem_map.mp mapped)
  · obtain ⟨inside, fresh⟩ := List.mem_filter.mp added
    refine .inr ⟨inside, fun present => ?_⟩
    obtain ⟨other, known, same⟩ := List.mem_map.mp present
    exact of_decide_eq_true (List.all_eq_true.mp fresh other known) same

theorem moved_row {base mine : List UserRole} {newId roleId organization : Uuid} {row : UserRole}
    (distinct : (base.map UserRole.id).Nodup) (apart : newId ≠ roleId)
    (left : mine = base.map fun row => if isMoved roleId organization row then { row with roleId := newId } else row)
    (moved : row.id ∈ (base.filter (isMoved roleId organization)).map UserRole.id) :
    (mergeRow UserRole.id UserRole.write base mine row).roleId = newId ∧
      (mergeRow UserRole.id UserRole.write base mine row).isActive = row.isActive := by
  obtain ⟨read, listed, same⟩ := List.mem_map.mp moved
  obtain ⟨present, selected⟩ := List.mem_filter.mp listed
  have before : (base.find? fun other => decide (other.id = row.id)) = some read := by
    rw [← same]
    exact find_of_mem distinct present
  have keeps : ∀ other : UserRole,
      (if isMoved roleId organization other then { other with roleId := newId } else other).id = other.id := by
    intro other
    split <;> rfl
  have after : (mine.find? fun other => decide (other.id = row.id)) = some { read with roleId := newId } := by
    rw [left]
    refine (find_map_change keeps row.id base).trans ?_
    rw [before, Option.map_some, if_pos selected]
  have other : newId ≠ read.roleId := by
    simp only [isMoved, Bool.and_eq_true, decide_eq_true_eq] at selected
    rw [selected.1.1]
    exact apart
  rw [mergeRow, before, after]
  exact ⟨Calls.flushed_changed other row.roleId, Calls.flushed_same _ _⟩

theorem touched_row {row : UserRole} (ran : call.mutation.run setting call.caller call.base = .ok call.mine)
    (baseDistinct : (call.base.userRoles.map UserRole.id).Nodup)
    (distinct : ((Pending.view call db).userRoles.map UserRole.id).Nodup)
    (listed : row ∈ db.userRoles ∨ row ∈ (Pending.view call db).userRoles) (active : row.isActive = true)
    (touched : row.id ∈ call.mutation.touchedRows call.caller call.base) :
    row.userId ∈ Pending.invalidates call db := by
  -- a row of the tables is found under its id, and for its user, in what is committed
  have written : ∀ other ∈ db.userRoles,
      mergeRow UserRole.id UserRole.write call.base.userRoles call.mine.userRoles other ∈
        (Pending.view call db).userRoles ∧
      (mergeRow UserRole.id UserRole.write call.base.userRoles call.mine.userRoles other).id = other.id ∧
      (mergeRow UserRole.id UserRole.write call.base.userRoles call.mine.userRoles other).userId =
        other.userId := by
    intro other present
    refine ⟨List.mem_append_left _ (List.mem_map_of_mem present),
      keyOf_mergeRow UserRole.write_id call.base.userRoles call.mine.userRoles other, ?_⟩
    unfold mergeRow
    split <;> rfl
  unfold Pending.invalidates
  cases mutation : call.mutation with
  | updateRole newId roleId data =>
      rw [mutation] at ran touched
      simp only [Mutation.touchedRows] at touched
      split at touched
      · next copies =>
          obtain ⟨-, fresh, source, organization, requesting, left⟩ := updateRole_copy ran copies
          have apart : newId ≠ roleId := fun same => fresh (same ▸ source)
          simp only [requesting, Option.any_some] at touched
          have holds : ∀ other ∈ db.userRoles, other.isActive = true →
              other.id ∈ (call.base.userRoles.filter (isMoved roleId organization)).map UserRole.id →
              other.userId ∈ getUserIdsWithRole (Pending.view call db) newId := by
            intro other present alive moved
            obtain ⟨role, stays⟩ := moved_row baseDistinct apart left moved
            obtain ⟨inside, -, user⟩ := written other present
            rw [← user]
            exact List.mem_map_of_mem (List.mem_filter.mpr ⟨inside, by simp [role, stays, alive]⟩)
          simp only [invalidatedUsers, copies, if_true]
          apply List.mem_append_right
          rcases listed with before | after
          · exact holds row before active touched
          · rcases mem_mergeRows_cases after with ⟨other, present, rfl⟩ | ⟨-, unknown⟩
            · obtain ⟨-, same, user⟩ := written other present
              rw [same] at touched
              rw [user]
              exact holds other present ((moved_row baseDistinct apart left touched).2 ▸ active) touched
            · obtain ⟨read, selected, same⟩ := List.mem_map.mp touched
              exact absurd (List.mem_map.mpr ⟨read, (List.mem_filter.mp selected).1, same⟩) unknown
      · simp at touched
  | assignRoleToUser newId target roleId scope expiresAt =>
      rw [mutation] at ran touched
      obtain same := List.mem_singleton.mp touched
      simp only [Mutation.run, Rbac.assignRoleToUser, Faults.bind_ok, require_ok] at ran
      obtain ⟨role, got, _, _, _, _, _, _, _, _, _, _, _, fresh, made⟩ := ran
      have left := congrArg Database.userRoles (Except.ok.inj made)
      have unknown : newId ∉ call.base.userRoles.map UserRole.id := by
        intro present
        obtain ⟨other, known, equal⟩ := List.mem_map.mp present
        exact of_decide_eq_true (List.all_eq_true.mp fresh other known) equal
      have absent : newId ∉ db.userRoles.map UserRole.id := by
        have inside : (⟨newId, target, role.id, scope.granted, expiresAt, true⟩ : UserRole) ∈
            call.mine.userRoles := by
          rw [← left]
          exact List.mem_append_right _ (List.mem_singleton_self _)
        exact fresh_absent UserRole.write_id distinct inside unknown
      rcases listed with before | after
      · exact absurd (List.mem_map.mpr ⟨row, before, same⟩) absent
      · rcases mem_mergeRows_cases after with ⟨other, present, rfl⟩ | ⟨inside, new⟩
        · exact absurd (List.mem_map.mpr ⟨other, present, (written other present).2.1.symm.trans same⟩) absent
        · rw [← left] at inside
          rcases List.mem_append.mp inside with known | last
          · exact absurd (List.mem_map_of_mem known) new
          · rw [List.mem_singleton.mp last]
            exact List.mem_singleton_self target
  | revokeRoleFromUser assignmentId =>
      rw [mutation] at touched
      obtain same := List.mem_singleton.mp touched
      have located : ∀ other ∈ (Pending.view call db).userRoles, other.id = assignmentId →
          other.userId ∈ invalidatedUsers call.caller call.base (Pending.view call db)
            (.revokeRoleFromUser assignmentId) := by
        intro other present matched
        have found := find_of_mem distinct present
        rw [matched] at found
        simp [invalidatedUsers, Database.getUserRoleAssignment, found]
      rcases listed with before | after
      · obtain ⟨inside, id, user⟩ := written row before
        rw [← user]
        exact located _ inside (id.trans same)
      · exact located row after same
  | createRole _ _ | deleteRole _ | setRoleActive _ _ | cloneRole _ _ _ _ | assignPermissionToRole _ _
  | removePermissionFromRole _ _ | grantPermissionOverride _ _ _ _ _ _ | revokePermissionOverride _ =>
      rw [mutation] at touched
      simp [Mutation.touchedRows] at touched

theorem touched_override {row : PermissionOverride}
    (ran : call.mutation.run setting call.caller call.base = .ok call.mine)
    (distinct : ((Pending.view call db).overrides.map PermissionOverride.id).Nodup)
    (listed : row ∈ db.overrides ∨ row ∈ (Pending.view call db).overrides)
    (touched : row.id ∈ call.mutation.touchedOverrides) : row.userId ∈ Pending.invalidates call db := by
  have written : ∀ other ∈ db.overrides,
      mergeRow PermissionOverride.id PermissionOverride.write call.base.overrides call.mine.overrides other ∈
        (Pending.view call db).overrides ∧
      (mergeRow PermissionOverride.id PermissionOverride.write call.base.overrides call.mine.overrides
        other).id = other.id ∧
      (mergeRow PermissionOverride.id PermissionOverride.write call.base.overrides call.mine.overrides
        other).userId = other.userId := by
    intro other present
    refine ⟨List.mem_append_left _ (List.mem_map_of_mem present),
      keyOf_mergeRow PermissionOverride.write_id call.base.overrides call.mine.overrides other, ?_⟩
    unfold mergeRow
    split <;> rfl
  unfold Pending.invalidates
  cases mutation : call.mutation with
  | grantPermissionOverride newId target key effect scope expiresAt =>
      rw [mutation] at ran touched
      obtain same := List.mem_singleton.mp touched
      simp only [Mutation.run, Rbac.grantPermissionOverride, Faults.bind_ok, require_ok] at ran
      obtain ⟨permission, _, _, _, _, _, _, fresh, made⟩ := ran
      have left := congrArg Database.overrides (Except.ok.inj made)
      have unknown : newId ∉ call.base.overrides.map PermissionOverride.id := by
        intro present
        obtain ⟨other, known, equal⟩ := List.mem_map.mp present
        exact of_decide_eq_true (List.all_eq_true.mp fresh other known) equal
      have absent : newId ∉ db.overrides.map PermissionOverride.id := by
        have inside : (⟨newId, target, permission.id, effect, scope.granted, expiresAt, true⟩ :
            PermissionOverride) ∈ call.mine.overrides := by
          rw [← left]
          exact List.mem_append_right _ (List.mem_singleton_self _)
        exact fresh_absent PermissionOverride.write_id distinct inside unknown
      rcases listed with before | after
      · exact absurd (List.mem_map.mpr ⟨row, before, same⟩) absent
      · rcases mem_mergeRows_cases after with ⟨other, present, rfl⟩ | ⟨inside, new⟩
        · exact absurd (List.mem_map.mpr ⟨other, present, (written other present).2.1.symm.trans same⟩) absent
        · rw [← left] at inside
          rcases List.mem_append.mp inside with known | last
          · exact absurd (List.mem_map_of_mem known) new
          · rw [List.mem_singleton.mp last]
            exact List.mem_singleton_self target
  | revokePermissionOverride overrideId =>
      rw [mutation] at touched
      obtain same := List.mem_singleton.mp touched
      have located : ∀ other ∈ (Pending.view call db).overrides, other.id = overrideId →
          other.userId ∈ invalidatedUsers call.caller call.base (Pending.view call db)
            (.revokePermissionOverride overrideId) := by
        intro other present matched
        have found := find_of_mem distinct present
        rw [matched] at found
        simp [invalidatedUsers, Database.getPermissionOverrideById, found]
      rcases listed with before | after
      · obtain ⟨inside, id, user⟩ := written row before
        rw [← user]
        exact located _ inside (id.trans same)
      · exact located row after same
  | _ =>
      rw [mutation] at touched
      simp [Mutation.touchedOverrides] at touched

theorem steady_commit (stays : call.mutation.Stays call.caller call.base call.mine) :
    Steady db (Pending.view call db) (call.mutation.touchedLineage call.caller call.base) where
  -- The roles that a call does not touch walk and grant as before its commit.
  parents := fun id outside => parents_merge (stays.sameLineage id outside)
  keys := fun row outside => mem_mergeSets_iff (stays.sameKeys row outside)

theorem unchanged_commit {maxParentRoleDepth : Nat}
    (ran : call.mutation.run setting call.caller call.base = .ok call.mine) (base : call.base.Consistent)
    (before : db.Consistent) (after : (Pending.view call db).Consistent)
    (announced : isAnnounced maxParentRoleDepth db call = true) (unassigned : isUnassigned db call = true)
    (outside : userId ∉ Pending.invalidates call db) :
    Unchanged maxParentRoleDepth db (Pending.view call db) userId := by
  have stays := run_stays call.mutation ran
  have rows : ∀ row : UserRole, row.userId = userId → row.isActive = true →
      (row ∈ (Pending.view call db).userRoles ↔ row ∈ db.userRoles) := by
    rintro row rfl active
    by_cases touched : row.id ∈ call.mutation.touchedRows call.caller call.base
    · have apart : ¬ (row ∈ db.userRoles ∨ row ∈ (Pending.view call db).userRoles) :=
        fun listed => outside (touched_row ran base.userRoles after.userRoles listed active touched)
      exact ⟨fun listed => absurd (.inr listed) apart, fun listed => absurd (.inl listed) apart⟩
    · exact mem_mergeRows_iff UserRole.write_same UserRole.write_id (stays.sameRows row.id touched)
  -- a role that a user holds and a call touches has its holders invalidated
  have untouched : ∀ row ∈ db.userRoles, row.userId = userId → row.isActive = true →
      row.roleId ∉ call.mutation.touchedRoles call.caller call.base := by
    rintro row listed rfl active touched
    rcases touched_role ran after.roles unassigned touched with absent | vacant | invalidated
    · exact absent (before.assigned row listed)
    · have holder : db.hasHolder row.roleId = true :=
        List.any_eq_true.mpr ⟨row, listed, by simp [active]⟩
      rw [vacant] at holder
      cases holder
    · exact outside (invalidated row ((rows row rfl active).mpr listed) active rfl)
  refine ⟨rfl, rows, ?_, ?_, ?_⟩
  · intro row listed owned active
    exact find_mergeRows Role.write_same Role.write_id
      (stays.sameRoles row.roleId (untouched row listed owned active))
  · intro row listed owned active
    have own : row.roleId ∉ call.mutation.touchedLineage call.caller call.base :=
      fun touched => untouched row listed owned active (lineage_touched touched)
    refine (steady_commit stays).resolveRolePermissionKeys rfl own ?_
    intro role located
    rw [Bool.eq_false_iff]
    intro descends
    have known := List.all_eq_true.mp announced row listed
    simp only [active, located, Option.any_some, descends, Bool.and_self, Bool.not_true, Bool.false_or,
      decide_eq_true_eq] at known
    exact outside (owned ▸ known)
  · rintro row rfl _
    by_cases touched : row.id ∈ call.mutation.touchedOverrides
    · have apart : ¬ (row ∈ db.overrides ∨ row ∈ (Pending.view call db).overrides) :=
        fun listed => outside (touched_override ran after.overrides listed touched)
      exact ⟨fun listed => absurd (.inr listed) apart, fun listed => absurd (.inl listed) apart⟩
    · exact mem_mergeRows_iff PermissionOverride.write_same PermissionOverride.write_id
        (stays.sameOverrides row.id touched)

end Commits

/-! ### Runs -/

structure Sound (maxParentRoleDepth : Nat) (system : System) : Prop where
  calls : ∀ call ∈ system.calls, call.pending.base.Consistent ∧ ∃ setting,
    call.pending.mutation.run setting call.pending.caller call.pending.base = .ok call.pending.mine
  consistent : system.db.Consistent
  cached : ∀ userId cached, system.cache userId = some cached →
    Coherent maxParentRoleDepth system userId cached
  resolved : ∀ resolution ∈ system.resolutions, ∀ cached, resolution.result = some cached →
    Coherent maxParentRoleDepth system resolution.userId cached

section Steps

variable {maxParentRoleDepth : Nat} {system next : System} {userId : Uuid} {place : Nat}

theorem coherent_later {cached : Cached} (coherent : Coherent maxParentRoleDepth system userId cached)
    (same : next.db = system.db) (later : system.now ≤ next.now) :
    Coherent maxParentRoleDepth next userId cached := by
  obtain ⟨past, grants, read, agree⟩ := coherent
  refine ⟨past.trans later, grants, read, ?_⟩
  rw [same]
  exact agree

theorem sound_kept (sound : Sound maxParentRoleDepth system) (same : next.db = system.db)
    (later : system.now ≤ next.now)
    (calls : ∀ call ∈ next.calls, ∃ known ∈ system.calls, known.pending = call.pending)
    (cache : ∀ userId cached, next.cache userId = some cached → system.cache userId = some cached ∨
      ∃ resolution ∈ system.resolutions, resolution.userId = userId ∧ resolution.result = some cached)
    (resolutions : ∀ resolution ∈ next.resolutions,
      resolution ∈ system.resolutions ∨ resolution.result = none) : Sound maxParentRoleDepth next := by
  refine ⟨?_, same ▸ sound.consistent, ?_, ?_⟩
  · intro call listed
    obtain ⟨known, present, equal⟩ := calls call listed
    exact equal ▸ sound.calls known present
  · intro userId cached held
    rcases cache userId cached held with earlier | ⟨resolution, listed, rfl, result⟩
    · exact coherent_later (sound.cached userId cached earlier) same later
    · exact coherent_later (sound.resolved resolution listed cached result) same later
  · intro resolution listed cached result
    rcases resolutions resolution listed with earlier | fresh
    · exact coherent_later (sound.resolved resolution earlier cached result) same later
    · rw [fresh] at result
      cases result

theorem sound_resolve (sound : Sound maxParentRoleDepth system)
    (stepped : step maxParentRoleDepth system (.resolve place) = some next) :
    Sound maxParentRoleDepth next := by
  simp only [step, Option.bind_eq_bind, Option.bind_eq_some_iff, Option.guard_eq_some'] at stepped
  obtain ⟨call, located, _, _, stepped⟩ := stepped
  obtain rfl := Option.some.inj stepped
  refine ⟨sound.calls, sound.consistent, ?_, ?_⟩
  · exact fun userId cached held => coherent_later (sound.cached userId cached held) rfl (le_refl _)
  · intro resolution listed cached result
    rcases List.mem_or_eq_of_mem_set listed with earlier | rfl
    · exact coherent_later (sound.resolved resolution earlier cached result) rfl (le_refl _)
    · obtain rfl := Option.some.inj result
      exact ⟨le_refl _, _, fromJson_toJson _, .refl _⟩

theorem coherent_commit {call : Call} {cached : Cached} (sound : Sound maxParentRoleDepth system)
    (inside : call ∈ system.calls) (after : (Pending.view call.pending system.db).Consistent)
    (announced : isAnnounced maxParentRoleDepth system.db call.pending = true)
    (unassigned : isUnassigned system.db call.pending = true)
    (outside : userId ∉ Pending.invalidates call.pending system.db)
    (same : next.db = Pending.view call.pending system.db) (clock : next.now = system.now)
    (coherent : Coherent maxParentRoleDepth system userId cached) :
    Coherent maxParentRoleDepth next userId cached := by
  obtain ⟨base, setting, ran⟩ := sound.calls call inside
  obtain ⟨past, grants, read, agree⟩ := coherent
  have unchanged := unchanged_commit ran base sound.consistent after announced unassigned outside
  refine ⟨past.trans clock.ge, grants, read, ?_⟩
  rw [same]
  exact agree.trans (unchanged.resolve cached.resolvedAt).symm

theorem sound_commit (sound : Sound maxParentRoleDepth system)
    (settled : isSettled maxParentRoleDepth system (.commit place) = true)
    (stepped : step maxParentRoleDepth system (.commit place) = some next) :
    Sound maxParentRoleDepth next := by
  simp only [step, Option.bind_eq_bind, Option.bind_eq_some_iff, Option.guard_eq_some'] at stepped
  obtain ⟨call, located, _, _, _, check, stepped⟩ := stepped
  obtain rfl := Option.some.inj stepped
  have inside := List.mem_of_getElem? located
  have after := consistent_of_check check
  simp only [isSettled, located, Option.all_some, Bool.and_eq_true, List.all_eq_true] at settled
  obtain ⟨⟨announced, unassigned⟩, forgotten⟩ := settled
  refine ⟨fun other listed => sound.calls other (List.mem_of_mem_eraseIdx listed), after, ?_, ?_⟩
  · intro userId cached held
    refine coherent_commit sound inside after announced unassigned ?_ rfl rfl (sound.cached userId cached held)
    intro invalidated
    have empty := forgotten userId invalidated
    simp only [isForgotten, Bool.and_eq_true, Option.isNone_iff_eq_none] at empty
    rw [empty.1] at held
    cases held
  · intro resolution listed cached result
    refine coherent_commit sound inside after announced unassigned ?_ rfl rfl
      (sound.resolved resolution listed cached result)
    intro invalidated
    have empty := forgotten resolution.userId invalidated
    simp only [isForgotten, Bool.and_eq_true, List.all_eq_true] at empty
    simpa [result] using empty.2 resolution listed

end Steps

theorem sound_step (maxParentRoleDepth : Nat) (system : System) (action : Action) (next : System)
    (sound : Sound maxParentRoleDepth system) (settled : isSettled maxParentRoleDepth system action = true)
    (stepped : step maxParentRoleDepth system action = some next) : Sound maxParentRoleDepth next := by
  cases action with
  | lookup userId =>
      simp only [step] at stepped
      split at stepped
      · obtain rfl := Option.some.inj stepped
        refine sound_kept sound rfl (le_refl _) (fun call listed => ⟨call, listed, rfl⟩)
          (fun _ _ held => .inl held) ?_
        intro resolution listed
        rcases List.mem_append.mp listed with earlier | last
        · exact .inl earlier
        · obtain rfl := List.mem_singleton.mp last
          exact .inr rfl
      · cases stepped
  | resolve place => exact sound_resolve sound stepped
  | store place =>
      simp only [step, Option.bind_eq_bind, Option.bind_eq_some_iff] at stepped
      obtain ⟨resolution, located, result, resolved, stepped⟩ := stepped
      obtain rfl := Option.some.inj stepped
      refine sound_kept sound rfl (le_refl _) (fun call listed => ⟨call, listed, rfl⟩) ?_
        (fun other listed => .inl (List.mem_of_mem_eraseIdx listed))
      intro userId cached held
      by_cases own : userId = resolution.userId
      · subst own
        dsimp only at held
        rw [Function.update_self] at held
        exact .inr ⟨resolution, List.mem_of_getElem? located, rfl, resolved.trans held⟩
      · dsimp only at held
        rw [Function.update_of_ne own] at held
        exact .inl held
  | request caller mutation =>
      simp only [step] at stepped
      split at stepped
      · next mine ran =>
          obtain rfl := Option.some.inj stepped
          refine ⟨?_, sound.consistent, ?_, ?_⟩
          · intro call listed
            rcases List.mem_append.mp listed with earlier | last
            · exact sound.calls call earlier
            · obtain rfl := List.mem_singleton.mp last
              exact ⟨sound.consistent, _, ran⟩
          · exact fun userId cached held => coherent_later (sound.cached userId cached held) rfl (le_refl _)
          · exact fun resolution listed cached result =>
              coherent_later (sound.resolved resolution listed cached result) rfl (le_refl _)
      · cases stepped
  | invalidate place =>
      simp only [step, Option.bind_eq_bind, Option.bind_eq_some_iff] at stepped
      obtain ⟨call, located, stepped⟩ := stepped
      obtain rfl := Option.some.inj stepped
      refine sound_kept sound rfl (le_refl _) ?_ ?_ (fun _ listed => .inl listed)
      · intro other listed
        rcases List.mem_or_eq_of_mem_set listed with earlier | rfl
        · exact ⟨other, earlier, rfl⟩
        · exact ⟨call, List.mem_of_getElem? located, rfl⟩
      · intro userId cached held
        dsimp only at held
        split at held
        · cases held
        · exact .inl held
  | commit place => exact sound_commit sound settled stepped
  | rollback place =>
      simp only [step] at stepped
      split at stepped
      · obtain rfl := Option.some.inj stepped
        exact sound_kept sound rfl (le_refl _)
          (fun call listed => ⟨call, List.mem_of_mem_eraseIdx listed, rfl⟩)
          (fun _ _ held => .inl held) (fun _ listed => .inl listed)
      · cases stepped
  | expire userId =>
      obtain rfl := Option.some.inj stepped
      refine sound_kept sound rfl (le_refl _) (fun call listed => ⟨call, listed, rfl⟩) ?_
        (fun _ listed => .inl listed)
      intro other cached held
      by_cases own : other = userId
      · dsimp only at held
        rw [own, Function.update_self] at held
        cases held
      · dsimp only at held
        rw [Function.update_of_ne own] at held
        exact .inl held
  | tick seconds =>
      obtain rfl := Option.some.inj stepped
      exact sound_kept sound rfl (Nat.le_add_right _ _) (fun call listed => ⟨call, listed, rfl⟩)
        (fun _ _ held => .inl held) (fun _ listed => .inl listed)

/-- Every entry of a settled run is what its user is granted, and an entry is read as it was
written. -/
theorem cache_coherent (maxParentRoleDepth : Nat) (db : Database) (now : Moment)
    (consistent : db.isConsistent = true) (system : System)
    (reached : Reached (step maxParentRoleDepth)
      (fun system action => isSettled maxParentRoleDepth system action = true)
      ⟨db, now, fun _ => none, [], []⟩ system) :
    (∀ userId cached, system.cache userId = some cached →
      Coherent maxParentRoleDepth system userId cached) ∧
    ∀ grants : EffectiveGrants, fromJson (toJson grants) = some grants := by
  have start : Sound maxParentRoleDepth ⟨db, now, fun _ => none, [], []⟩ :=
    ⟨by simp, consistent_of_check consistent, by simp, by simp⟩
  exact ⟨(reached.invariant (Sound maxParentRoleDepth) start (sound_step maxParentRoleDepth)).cached,
    fromJson_toJson⟩

section Executed

def readGuests : Permission := ⟨1, "guests.read".toList, true, false, []⟩

def editGuests : Permission := ⟨2, "guests.update".toList, true, false, []⟩

def deskRole (id : Uuid) (slug : Text) (parent : Option Uuid) : Role :=
  ⟨id, slug, false, false, true, false, .organization, some 10, parent, []⟩

def desk (held : Uuid) : Database where
  permissions := [readGuests, editGuests]
  roles := [deskRole 1 "desk".toList none, deskRole 2 "night-desk".toList (some 1)]
  rolePermissions := [⟨1, 1⟩]
  userRoles := [⟨21, 31, held, ⟨.organization, some 10, none, none, none⟩, none, true⟩]
  overrides := []
  organizationRoles := []

def manager : Caller := ⟨33, some 10⟩

def cachedKeys (system : System) (userId : Uuid) : Option (List Text) := do
  let cached ← system.cache userId
  let grants ← fromJson cached.payload
  return grants.allow.map EffectiveGrant.permissionKey

/-- A role gets a permission, and its holder, who is invalidated, resolves again. -/
theorem cache_coherent_reread :
    (desk 1).isConsistent = true ∧
    ∃ system, Reached (step 5) (fun system action => isSettled 5 system action = true)
        ⟨desk 1, 0, fun _ => none, [], []⟩ system ∧
      cachedKeys system 31 = some ["guests.read".toList, "guests.update".toList] ∧
      (∀ userId cached, system.cache userId = some cached → Coherent 5 system userId cached) ∧
      ∀ grants : EffectiveGrants, fromJson (toJson grants) = some grants := by
  have consistent : (desk 1).isConsistent = true := by decide +kernel
  obtain ⟨system, reached, seen⟩ := run_observed (step 5) ⟨desk 1, 0, fun _ => none, [], []⟩ (isSettled 5)
    (fun system => cachedKeys system 31 = some ["guests.read".toList, "guests.update".toList])
    (fun _ _ checked => checked)
    [.lookup 31, .resolve 0, .store 0, .request manager (.assignPermissionToRole 1 editGuests.key),
      .invalidate 0, .commit 0, .lookup 31, .resolve 0, .store 0] (by decide +kernel)
  exact ⟨consistent, system, reached, of_decide_eq_true seen,
    cache_coherent 5 (desk 1) 0 consistent system reached⟩

def isStale (system : System) (userId : Uuid) : Bool :=
  (system.cache userId).any fun cached => (fromJson cached.payload).any fun grants =>
    grants.allow.any fun grant =>
      decide (grant ∉ (system.db.resolve 5 userId cached.resolvedAt).allow)

theorem stale_incoherent {system : System} {userId : Uuid} (stale : isStale system userId = true) :
    ∃ cached, system.cache userId = some cached ∧ ¬ Coherent 5 system userId cached := by
  obtain ⟨cached, held, unread⟩ := (Option.any_eq_true _ _).mp stale
  obtain ⟨grants, read, listed⟩ := (Option.any_eq_true _ _).mp unread
  obtain ⟨grant, inside, missing⟩ := List.any_eq_true.mp listed
  refine ⟨cached, held, ?_⟩
  rintro ⟨-, others, again, same⟩
  obtain rfl := Option.some.inj (read.symm.trans again)
  exact of_decide_eq_true missing ((same.allow grant).mp inside)

/-- A role loses its permission. Its holder has resolved between the invalidation and the commit;
or the holder of its child role is not invalidated. -/
theorem cache_keeps_revoked_permissions :
    (desk 1).isConsistent = true ∧
    (∃ system, Reached (step 5) (fun _ _ => True) ⟨desk 1, 0, fun _ => none, [], []⟩ system ∧
      system.calls = [] ∧ system.resolutions = [] ∧
      ∃ cached, system.cache 31 = some cached ∧ ¬ Coherent 5 system 31 cached) ∧
    (desk 2).isConsistent = true ∧
    ∃ system, Reached (step 5) (fun _ _ => True) ⟨desk 2, 0, fun _ => none, [], []⟩ system ∧
      system.calls = [] ∧ system.resolutions = [] ∧
      ∃ cached, system.cache 31 = some cached ∧ ¬ Coherent 5 system 31 cached := by
  obtain ⟨first, reachedFirst, seenFirst⟩ := run_observed (step 5) ⟨desk 1, 0, fun _ => none, [], []⟩
    (fun _ _ => true) (fun system => system.calls.isEmpty && system.resolutions.isEmpty && isStale system 31)
    (fun _ _ _ => trivial)
    [.request manager (.removePermissionFromRole 1 readGuests.key), .invalidate 0, .lookup 31, .resolve 0,
      .store 0, .commit 0] (by decide +kernel)
  obtain ⟨second, reachedSecond, seenSecond⟩ := run_observed (step 5) ⟨desk 2, 0, fun _ => none, [], []⟩
    (fun _ _ => true) (fun system => system.calls.isEmpty && system.resolutions.isEmpty && isStale system 31)
    (fun _ _ _ => trivial)
    [.lookup 31, .resolve 0, .store 0, .request manager (.removePermissionFromRole 1 readGuests.key),
      .invalidate 0, .commit 0] (by decide +kernel)
  simp only [Bool.and_eq_true, List.isEmpty_iff] at seenFirst seenSecond
  exact ⟨by decide +kernel, ⟨first, reachedFirst, seenFirst.1.1, seenFirst.1.2, stale_incoherent seenFirst.2⟩,
    by decide +kernel, second, reachedSecond, seenSecond.1.1, seenSecond.1.2,
    stale_incoherent seenSecond.2⟩

end Executed

end CloudGuest.Rbac.GrantCache
