import CloudGuest.Library.Runs
import CloudGuest.Rbac.Requests

/-!
Whose grants a call may make and end (rbac/router.py, rbac/service.py). A request is
let in by the scope that it names; the row that it then makes has the ids of its body,
and the row that it ends has its own. A call is `Matched` when these agree: the body
names what is in the organization of the row, and the row is within the scope that the
request was let in by.
-/

namespace CloudGuest.Rbac.Tenancy
open Texts Uuids Runs

inductive Call where
  | assignRoleToUser (request : Request) (newId target roleId : Uuid) (body : NamedScope)
      (expiresAt : Option Moment)
  | revokeRoleFromUser (request : Request) (assignmentId : Uuid)
  | grantPermissionOverride (actor newId target : Uuid) (key : Text) (effect : OverrideEffect)
      (scope : NamedScope) (expiresAt : Option Moment)
  | revokePermissionOverride (actor overrideId : Uuid)

structure Event where
  now : Moment
  call : Call

def Call.actor : Call → Uuid
  | .assignRoleToUser request .. => request.userId
  | .revokeRoleFromUser request _ => request.userId
  | .grantPermissionOverride actor .. => actor
  | .revokePermissionOverride actor _ => actor

/-! ### The routes and the service -/

section Serving

variable (estate : Estate) (setting : Setting)

def hasKeys (scope : NamedScope) : Bool :=
  scope.locationId.all (fun id => (estate.locationOwner id).isSome) &&
    scope.routerId.all fun id => (estate.routerOwner id).isSome

def inOrganization (body : NamedScope) (requesting : Option Uuid) : NamedScope :=
  { body with organizationId := body.organizationId.or requesting }

/-- `POST /users/{user_id}/roles` -/
def assign (request : Request) (newId target roleId : Uuid) (body : NamedScope)
    (expiresAt : Option Moment) (db : Database) : Except Refusal Database := do
  db.requirePermission estate setting roleAssignPermission request
  let requesting ← db.currentOrganization estate setting request
  let scope := inOrganization body requesting
  let mine ← serve (assignRoleToUser setting request.userId newId target roleId scope expiresAt requesting db)
  refuseUnless (.fault .conflict) (hasKeys estate scope)
  return mine

/-- `DELETE /users/{user_id}/roles/{role_assignment_id}` -/
def revoke (request : Request) (assignmentId : Uuid) (db : Database) : Except Refusal Database := do
  db.requirePermission estate setting roleAssignPermission request
  let requesting ← db.currentOrganization estate setting request
  serve (revokeRoleFromUser assignmentId requesting db)

def grant (actor newId target : Uuid) (key : Text) (effect : OverrideEffect) (scope : NamedScope)
    (expiresAt : Option Moment) (db : Database) : Except Refusal Database := do
  let mine ← serve (grantPermissionOverride setting actor newId target key effect scope expiresAt db)
  refuseUnless (.fault .conflict) (hasKeys estate scope)
  return mine

def Call.run : Call → Database → Except Refusal Database
  | .assignRoleToUser request newId target roleId body expiresAt =>
      assign estate setting request newId target roleId body expiresAt
  | .revokeRoleFromUser request assignmentId => revoke estate setting request assignmentId
  | .grantPermissionOverride actor newId target key effect scope expiresAt =>
      grant estate setting actor newId target key effect scope expiresAt
  | .revokePermissionOverride actor overrideId => fun db =>
      serve (Rbac.revokePermissionOverride setting actor overrideId db)

end Serving

variable (estate : Estate) (maxParentRoleDepth : Nat)

def Event.setting (event : Event) : Setting := ⟨maxParentRoleDepth, event.now⟩

def step (db : Database) (event : Event) : Option Database :=
  (event.call.run estate (event.setting maxParentRoleDepth) db).toOption

/-! ### What a tenant is owed -/

def contextOf (scope : GrantScope) : ScopeContext := ⟨scope.organizationId, scope.locationId, scope.routerId⟩

/-- A scope at a location or a router names it, and what it names is in its organization. -/
def isPlaced (scope : GrantScope) : Bool :=
  (match scope.scopeType with
    | .location => scope.locationId.isSome
    | .router => scope.routerId.isSome
    | _ => false) &&
  (scope.locationId.all fun id => scope.organizationId.isSome && estate.locationOwner id = scope.organizationId) &&
    scope.routerId.all fun id =>
      scope.organizationId.isSome && (estate.routerOwner id).map Prod.snd = scope.organizationId

def liesIn (scope : GrantScope) (organization : Uuid) : Bool :=
  match scope.scopeType with
  | .organization => scope.organizationId = some organization
  | .location => scope.locationId.bind estate.locationOwner = some organization
  | .router => (scope.routerId.bind estate.routerOwner).map Prod.snd = some organization
  | _ => false

def isLocal (scopeType : ScopeType) : Bool := scopeType = .location || scopeType = .router

variable {maxParentRoleDepth}

/-- An actor is accepted at the scope of a row, by a grant in the row's organization. -/
def HoldsIn (setting : Setting) (db : Database) (actor : Uuid) (key : Text) (scope : GrantScope) : Prop :=
  db.accepts setting actor key scope.scopeType (contextOf scope) = true ∧
    ∃ organization, scope.organizationId = some organization ∧
      ∃ grant ∈ (db.resolve setting.maxParentRoleDepth actor setting.now).allow,
        grant.permissionKey = key ∧ liesIn estate grant.scope organization = true

variable (maxParentRoleDepth)

structure MakesPlaced (taken : Taken Database Event) : Prop where
  assignments : ∀ row ∈ taken.after.userRoles, row.id ∉ taken.before.userRoles.map UserRole.id →
    isLocal row.scope.scopeType = true → isPlaced estate row.scope = true ∧
      HoldsIn estate (taken.action.setting maxParentRoleDepth) taken.before taken.action.call.actor
        roleAssignPermission row.scope
  overrides : ∀ row ∈ taken.after.overrides, row.id ∉ taken.before.overrides.map PermissionOverride.id →
    isLocal row.scope.scopeType = true → isPlaced estate row.scope = true ∧
      HoldsIn estate (taken.action.setting maxParentRoleDepth) taken.before taken.action.call.actor
        permissionOverrideAssignPermission row.scope

/-- The actor may end a grant of this scope, which is not the whole platform's. -/
def MayEnd (setting : Setting) (db : Database) (actor : Uuid) (key : Text) (scope : GrantScope) : Prop :=
  db.accepts setting actor key scope.scopeType (contextOf scope) = true ∧ scope.scopeType ≠ .global

structure EndsOwn (taken : Taken Database Event) : Prop where
  assignments : ∀ row ∈ taken.before.userRoles, row.isActive = true →
    (∀ left ∈ taken.after.userRoles, left.id = row.id → left.isActive = false) →
      MayEnd (taken.action.setting maxParentRoleDepth) taken.before taken.action.call.actor roleAssignPermission
        row.scope
  overrides : ∀ row ∈ taken.before.overrides, row.isActive = true →
    (∀ left ∈ taken.after.overrides, left.id = row.id → left.isActive = false) →
      MayEnd (taken.action.setting maxParentRoleDepth) taken.before taken.action.call.actor
        permissionOverrideAssignPermission row.scope

def isTenant (db : Database) (event : Event) : Bool :=
  (db.resolve maxParentRoleDepth event.call.actor event.now).allow.all fun grant =>
    grant.scope.scopeType ≠ .global

/-- The row is within the scope that the request was let in by, and no deny reaches only the row. -/
def isReached (setting : Setting) (db : Database) (request : Request) (row : UserRole) : Bool :=
  let context := estate.currentScopeContext request
  (inferScopeType context).order ≤ row.scope.scopeType.order && (contextOf row.scope).within context &&
    !db.denies setting request.userId roleAssignPermission row.scope.scopeType (contextOf row.scope)

def isMatched (db : Database) (event : Event) : Bool :=
  match event.call with
  | .assignRoleToUser request _ _ _ body _ => !isLocal body.scopeType ||
      isPlaced estate (inOrganization body request.organization).granted
  | .revokeRoleFromUser request assignmentId => (db.getUserRoleAssignment assignmentId).all fun row =>
      !row.isActive || isReached estate (event.setting maxParentRoleDepth) db request row
  | .grantPermissionOverride _ _ _ _ _ scope _ => !isLocal scope.scopeType || isPlaced estate scope.granted
  | .revokePermissionOverride _ _ => true

/-! ### One call -/

structure Sound (db : Database) : Prop where
  userRoles : (db.userRoles.map UserRole.id).Nodup
  overrides : (db.overrides.map PermissionOverride.id).Nodup

section Calls

variable {estate} {setting : Setting} {db after : Database}

theorem holds_placed {actor : Uuid} {key : Text} {scope : GrantScope}
    (tenant : ∀ grant ∈ (db.resolve setting.maxParentRoleDepth actor setting.now).allow,
      grant.scope.scopeType ≠ .global)
    (accepted : db.accepts setting actor key scope.scopeType (contextOf scope) = true)
    (placed : isPlaced estate scope = true) : HoldsIn estate setting db actor key scope := by
  refine ⟨accepted, ?_⟩
  simp only [isPlaced, Bool.and_eq_true, Option.all_eq_true, decide_eq_true_eq] at placed
  obtain ⟨⟨named, atLocation⟩, atRouter⟩ := placed
  obtain ⟨organization, owned⟩ : ∃ organization, scope.organizationId = some organization := by
    split at named
    · obtain ⟨id, located⟩ := Option.isSome_iff_exists.mp named
      exact Option.isSome_iff_exists.mp (atLocation id located).1
    · obtain ⟨id, located⟩ := Option.isSome_iff_exists.mp named
      exact Option.isSome_iff_exists.mp (atRouter id located).1
    · cases named
  refine ⟨organization, owned, ?_⟩
  obtain ⟨-, grant, listed, same, covered⟩ := accepts_iff.mp accepted
  refine ⟨grant, listed, same, ?_⟩
  rcases satisfies_iff.mp covered with whole | ⟨-, shared⟩
  · exact absurd whole (tenant grant listed)
  · cases shared with
    | organization id reach given asked => simpa [liesIn, reach, given] using asked.symm.trans owned
    | location id reach given asked => simpa [liesIn, reach, given] using (atLocation id asked).2.trans owned
    | router id reach given asked => simpa [liesIn, reach, given] using (atRouter id asked).2.trans owned

theorem assign_ok {actor newId target roleId : Uuid} {scope : NamedScope} {expiresAt : Option Moment}
    {requesting : Option Uuid}
    (ran : assignRoleToUser setting actor newId target roleId scope expiresAt requesting db = .ok after) :
    (∃ role : Role, after =
      { db with userRoles := db.userRoles ++ [⟨newId, target, role.id, scope.granted, expiresAt, true⟩] }) ∧
    db.accepts setting actor roleAssignPermission scope.scopeType scope.context = true ∧
    newId ∉ db.userRoles.map UserRole.id := by
  unfold assignRoleToUser at ran
  obtain ⟨role, -, ran⟩ := Faults.bind_ok.mp ran
  obtain ⟨_, -, ran⟩ := Faults.bind_ok.mp ran
  obtain ⟨_, -, ran⟩ := Faults.bind_ok.mp ran
  obtain ⟨_, -, ran⟩ := Faults.bind_ok.mp ran
  obtain ⟨_, accepted, ran⟩ := Faults.bind_ok.mp ran
  obtain ⟨_, -, ran⟩ := Faults.bind_ok.mp ran
  obtain ⟨_, fresh, ran⟩ := Faults.bind_ok.mp ran
  refine ⟨⟨role, (Except.ok.inj ran).symm⟩, require_ok.mp accepted, ?_⟩
  have apart := List.all_eq_true.mp (require_ok.mp fresh)
  simpa using fun row listed => of_decide_eq_true (apart row listed)

theorem grant_ok {actor newId target : Uuid} {key : Text} {effect : OverrideEffect} {scope : NamedScope}
    {expiresAt : Option Moment}
    (ran : grantPermissionOverride setting actor newId target key effect scope expiresAt db = .ok after) :
    (∃ permission : Permission, after = { db with
      overrides := db.overrides ++ [⟨newId, target, permission.id, effect, scope.granted, expiresAt, true⟩] }) ∧
    db.accepts setting actor permissionOverrideAssignPermission scope.scopeType scope.context = true ∧
    newId ∉ db.overrides.map PermissionOverride.id := by
  unfold grantPermissionOverride at ran
  obtain ⟨permission, -, ran⟩ := Faults.bind_ok.mp ran
  obtain ⟨_, accepted, ran⟩ := Faults.bind_ok.mp ran
  obtain ⟨_, -, ran⟩ := Faults.bind_ok.mp ran
  obtain ⟨_, fresh, ran⟩ := Faults.bind_ok.mp ran
  refine ⟨⟨permission, (Except.ok.inj ran).symm⟩, require_ok.mp accepted, ?_⟩
  have apart := List.all_eq_true.mp (require_ok.mp fresh)
  simpa using fun row listed => of_decide_eq_true (apart row listed)

theorem revoke_ok {id : Uuid} {requesting : Option Uuid}
    (ran : revokeRoleFromUser id requesting db = .ok after) :
    ∃ row, db.getUserRoleAssignment id = some row ∧ after = db.deactivateUserRole row.id := by
  unfold revokeRoleFromUser at ran
  obtain ⟨row, located, ran⟩ := Faults.bind_ok.mp ran
  obtain ⟨_, -, ran⟩ := Faults.bind_ok.mp ran
  exact ⟨row, found_ok.mp located, (Except.ok.inj ran).symm⟩

theorem revokeOverride_ok {actor id : Uuid} (ran : revokePermissionOverride setting actor id db = .ok after) :
    ∃ row, db.getPermissionOverrideById id = some row ∧
      db.accepts setting actor permissionOverrideAssignPermission row.scope.scopeType (contextOf row.scope) = true ∧
      after = { db with
        overrides := db.overrides.map fun other => if other.id = id then { other with isActive := false } else other } := by
  unfold revokePermissionOverride at ran
  obtain ⟨row, located, ran⟩ := Faults.bind_ok.mp ran
  obtain ⟨_, accepted, ran⟩ := Faults.bind_ok.mp ran
  exact ⟨row, found_ok.mp located, require_ok.mp accepted, (Except.ok.inj ran).symm⟩

theorem mayEnd_tenant {actor : Uuid} {key : Text} {scope : GrantScope}
    (tenant : ∀ grant ∈ (db.resolve setting.maxParentRoleDepth actor setting.now).allow,
      grant.scope.scopeType ≠ .global)
    (accepted : db.accepts setting actor key scope.scopeType (contextOf scope) = true) :
    MayEnd setting db actor key scope := by
  refine ⟨accepted, fun whole => ?_⟩
  rw [whole] at accepted
  obtain ⟨-, grant, listed, -, covered⟩ := accepts_iff.mp accepted
  exact tenant grant listed (satisfies_global covered)

end Calls

/-! ### Runs -/

@[simp] theorem granted_scopeType (scope : NamedScope) : scope.granted.scopeType = scope.scopeType := rfl

@[simp] theorem inOrganization_scopeType (body : NamedScope) (requesting : Option Uuid) :
    (inOrganization body requesting).scopeType = body.scopeType := rfl

section Steps

variable {estate} {maxParentRoleDepth} {db after : Database} {event : Event}

inductive Served (estate : Estate) (setting : Setting) (db : Database) : Call → Database → Prop where
  | assigned {request : Request} {newId target roleId : Uuid} {body : NamedScope} {expiresAt : Option Moment}
      {scope : NamedScope} (role : Role) (completed : scope = inOrganization body request.organization)
      (accepted : db.accepts setting request.userId roleAssignPermission scope.scopeType scope.context = true)
      (fresh : newId ∉ db.userRoles.map UserRole.id) :
      Served estate setting db (.assignRoleToUser request newId target roleId body expiresAt)
        { db with userRoles := db.userRoles ++ [⟨newId, target, role.id, scope.granted, expiresAt, true⟩] }
  | revoked {request : Request} {id : Uuid} {row : UserRole}
      (permitted : db.accepts setting request.userId roleAssignPermission
        (inferScopeType (estate.currentScopeContext request)) (estate.currentScopeContext request) = true)
      (located : db.getUserRoleAssignment id = some row) :
      Served estate setting db (.revokeRoleFromUser request id) (db.deactivateUserRole row.id)
  | overridden {actor newId target : Uuid} {key : Text} {effect : OverrideEffect} {scope : NamedScope}
      {expiresAt : Option Moment} (permission : Permission)
      (accepted : db.accepts setting actor permissionOverrideAssignPermission scope.scopeType scope.context = true)
      (fresh : newId ∉ db.overrides.map PermissionOverride.id) :
      Served estate setting db (.grantPermissionOverride actor newId target key effect scope expiresAt)
        { db with
          overrides := db.overrides ++
            [⟨newId, target, permission.id, effect, scope.granted, expiresAt, true⟩] }
  | withdrawn {actor id : Uuid} {row : PermissionOverride} (located : db.getPermissionOverrideById id = some row)
      (accepted : db.accepts setting actor permissionOverrideAssignPermission row.scope.scopeType
        (contextOf row.scope) = true) :
      Served estate setting db (.revokePermissionOverride actor id)
        { db with
          overrides := db.overrides.map fun other =>
            if other.id = id then { other with isActive := false } else other }

theorem step_served (stepped : step estate maxParentRoleDepth db event = some after) :
    Served estate (event.setting maxParentRoleDepth) db event.call after := by
  have ran : event.call.run estate (event.setting maxParentRoleDepth) db = .ok after := by
    unfold step at stepped
    cases ran : event.call.run estate (event.setting maxParentRoleDepth) db with
    | error refusal => simp [ran, Except.toOption] at stepped
    | ok next => simpa [ran, Except.toOption] using stepped
  obtain ⟨now, call⟩ := event
  cases call with
  | assignRoleToUser request newId target roleId body expiresAt =>
      obtain ⟨_, -, ran⟩ := Faults.bind_ok.mp ran
      obtain ⟨requesting, confined, ran⟩ := Faults.bind_ok.mp ran
      obtain ⟨mine, served, ran⟩ := Faults.bind_ok.mp ran
      obtain ⟨_, -, ran⟩ := Faults.bind_ok.mp ran
      obtain rfl := Except.ok.inj ran
      obtain ⟨⟨role, rfl⟩, accepted, fresh⟩ := assign_ok (serve_ok.mp served)
      exact .assigned role (by rw [currentOrganization_eq confined]) accepted fresh
  | revokeRoleFromUser request assignmentId =>
      obtain ⟨_, permitted, ran⟩ := Faults.bind_ok.mp ran
      obtain ⟨requesting, -, ran⟩ := Faults.bind_ok.mp ran
      obtain ⟨row, located, rfl⟩ := revoke_ok (serve_ok.mp ran)
      exact .revoked (refuseUnless_ok.mp permitted) located
  | grantPermissionOverride actor newId target key effect scope expiresAt =>
      obtain ⟨mine, served, ran⟩ := Faults.bind_ok.mp ran
      obtain ⟨_, -, ran⟩ := Faults.bind_ok.mp ran
      obtain rfl := Except.ok.inj ran
      obtain ⟨⟨permission, rfl⟩, accepted, fresh⟩ := grant_ok (serve_ok.mp served)
      exact .overridden permission accepted fresh
  | revokePermissionOverride actor overrideId =>
      obtain ⟨row, located, accepted, rfl⟩ := revokeOverride_ok (serve_ok.mp ran)
      exact .withdrawn located accepted

theorem isTenant_iff : isTenant maxParentRoleDepth db event = true ↔
    ∀ grant ∈ (db.resolve maxParentRoleDepth event.call.actor event.now).allow,
      grant.scope.scopeType ≠ .global := by
  simp [isTenant]

/-! #### Rows of a table that knows them by an id -/

section Tables

variable {Row : Type} {keyOf : Row → Uuid} {isActive : Row → Bool} {rows left : List Row} {row new : Row}

theorem new_appended (listed : row ∈ rows ++ [new]) (fresh : keyOf row ∉ rows.map keyOf) : row = new := by
  rcases List.mem_append.mp listed with earlier | last
  · exact absurd (List.mem_map_of_mem earlier) fresh
  · exact List.mem_singleton.mp last

theorem nodup_appended (distinct : (rows.map keyOf).Nodup) (fresh : keyOf new ∉ rows.map keyOf) :
    ((rows ++ [new]).map keyOf).Nodup := by
  rw [List.map_append, List.map_singleton, ← List.concat_eq_append]
  exact distinct.concat fresh

theorem not_ended (listed : row ∈ left) (active : isActive row = true) :
    ¬ ∀ other ∈ left, keyOf other = keyOf row → isActive other = false := by
  intro ended
  rw [ended row listed rfl] at active
  cases active

variable {key : Uuid} {change : Row → Row}

theorem keys_changed (keeps : ∀ row, keyOf (change row) = keyOf row) :
    (rows.map fun row => if keyOf row = key then change row else row).map keyOf = rows.map keyOf := by
  rw [List.map_map]
  refine List.map_congr_left fun row _ => ?_
  simp only [Function.comp_apply]
  split
  · exact keeps row
  · rfl

theorem ended_key (listed : row ∈ rows) (active : isActive row = true)
    (ended : ∀ other ∈ rows.map fun row => if keyOf row = key then change row else row,
      keyOf other = keyOf row → isActive other = false) : keyOf row = key := by
  by_contra apart
  have kept : row ∈ rows.map fun row => if keyOf row = key then change row else row :=
    List.mem_map.mpr ⟨row, listed, if_neg apart⟩
  exact not_ended kept active ended

end Tables

theorem ids_deactivated (db : Database) (id : Uuid) :
    (db.deactivateUserRole id).userRoles.map UserRole.id = db.userRoles.map UserRole.id :=
  @keys_changed UserRole UserRole.id db.userRoles id (fun row => { row with isActive := false }) fun _ => rfl

theorem ids_ended (rows : List PermissionOverride) (id : Uuid) :
    (rows.map fun other => if other.id = id then { other with isActive := false } else other).map
      PermissionOverride.id = rows.map PermissionOverride.id :=
  @keys_changed PermissionOverride PermissionOverride.id rows id (fun row => { row with isActive := false })
    fun _ => rfl

theorem step_makes (tenant : isTenant maxParentRoleDepth db event = true)
    (matched : isMatched estate maxParentRoleDepth db event = true)
    (stepped : step estate maxParentRoleDepth db event = some after) :
    MakesPlaced estate maxParentRoleDepth ⟨db, event, after⟩ := by
  have tenant := isTenant_iff.mp tenant
  have served := step_served stepped
  obtain ⟨now, call⟩ := event
  cases served with
  | assigned role completed accepted fresh =>
      refine ⟨?_, fun row listed unknown => absurd (List.mem_map_of_mem listed) unknown⟩
      intro row listed unknown here
      obtain rfl := new_appended listed unknown
      rw [completed] at here accepted ⊢
      have placed := ((Bool.or_eq_true _ _).mp matched).resolve_left (by simpa using here)
      exact ⟨placed, holds_placed tenant accepted placed⟩
  | @revoked _ _ ended _ _ =>
      refine ⟨fun row listed unknown => ?_, fun row listed unknown => absurd (List.mem_map_of_mem listed) unknown⟩
      exact absurd (ids_deactivated db ended.id ▸ List.mem_map_of_mem listed) unknown
  | overridden permission accepted fresh =>
      refine ⟨fun row listed unknown => absurd (List.mem_map_of_mem listed) unknown, ?_⟩
      intro row listed unknown here
      obtain rfl := new_appended listed unknown
      have placed := ((Bool.or_eq_true _ _).mp matched).resolve_left (by simpa using here)
      exact ⟨placed, holds_placed tenant accepted placed⟩
  | @withdrawn _ id _ _ _ =>
      refine ⟨fun row listed unknown => absurd (List.mem_map_of_mem listed) unknown, fun row listed unknown => ?_⟩
      exact absurd (ids_ended db.overrides id ▸ List.mem_map_of_mem listed) unknown

theorem step_ends (sound : Sound db) (tenant : isTenant maxParentRoleDepth db event = true)
    (matched : isMatched estate maxParentRoleDepth db event = true)
    (stepped : step estate maxParentRoleDepth db event = some after) :
    EndsOwn maxParentRoleDepth ⟨db, event, after⟩ := by
  have tenant := isTenant_iff.mp tenant
  have served := step_served stepped
  obtain ⟨now, call⟩ := event
  cases served with
  | assigned role completed accepted fresh =>
      constructor
      · intro row listed active ended
        exact absurd ended (not_ended (List.mem_append_left _ listed) active)
      · intro row listed active ended
        exact absurd ended (not_ended listed active)
  | @revoked _ _ revoked permitted located =>
      constructor
      · intro row listed active ended
        obtain rfl : revoked = row := List.inj_on_of_nodup_map sound.userRoles
          (List.mem_of_find?_eq_some located) listed
          (@ended_key UserRole UserRole.id UserRole.isActive db.userRoles row revoked.id
            (fun row => { row with isActive := false }) listed active ended).symm
        simp only [isMatched, located, Option.all_some, active, Bool.not_true, Bool.false_or, isReached,
          Bool.and_eq_true, decide_eq_true_eq, Bool.not_eq_true'] at matched
        obtain ⟨⟨narrower, inside⟩, free⟩ := matched
        exact mayEnd_tenant tenant (accepts_within narrower inside permitted free)
      · intro row listed active ended
        exact absurd ended (not_ended listed active)
  | overridden permission accepted fresh =>
      constructor
      · intro row listed active ended
        exact absurd ended (not_ended listed active)
      · intro row listed active ended
        exact absurd ended (not_ended (List.mem_append_left _ listed) active)
  | @withdrawn _ id revoked located accepted =>
      constructor
      · intro row listed active ended
        exact absurd ended (not_ended listed active)
      · intro row listed active ended
        have same : revoked.id = id := by simpa using List.find?_some located
        obtain rfl : revoked = row := List.inj_on_of_nodup_map sound.overrides
          (List.mem_of_find?_eq_some located) listed (same.trans
            (@ended_key PermissionOverride PermissionOverride.id PermissionOverride.isActive db.overrides row
              id (fun row => { row with isActive := false }) listed active ended).symm)
        exact mayEnd_tenant tenant accepted

theorem sound_step (sound : Sound db) (stepped : step estate maxParentRoleDepth db event = some after) :
    Sound after := by
  have served := step_served stepped
  obtain ⟨now, call⟩ := event
  cases served with
  | assigned role completed accepted fresh => exact ⟨nodup_appended sound.userRoles fresh, sound.overrides⟩
  | @revoked _ _ row _ _ => exact ⟨ids_deactivated db row.id ▸ sound.userRoles, sound.overrides⟩
  | overridden permission accepted fresh => exact ⟨sound.userRoles, nodup_appended sound.overrides fresh⟩
  | @withdrawn _ id _ _ _ => exact ⟨sound.userRoles, ids_ended db.overrides id ▸ sound.overrides⟩

end Steps

/-- In a run of matched calls by tenants, every grant made and ended is one of the actor's own organization. -/
theorem grants_stay_in_tenant (estate : Estate) (maxParentRoleDepth : Nat) (db : Database) (sound : Sound db)
    (trace : List (Taken Database Event)) (final : Database)
    (traced : Traced (step estate maxParentRoleDepth) (fun db event =>
      isTenant maxParentRoleDepth db event = true ∧ isMatched estate maxParentRoleDepth db event = true)
      db trace final) :
    ∀ taken ∈ trace, MakesPlaced estate maxParentRoleDepth taken ∧ EndsOwn maxParentRoleDepth taken := by
  refine traced.always (fun taken => MakesPlaced estate maxParentRoleDepth taken ∧ EndsOwn maxParentRoleDepth taken)
    fun state event next reached admitted stepped => ?_
  have kept : Sound state := reached.invariant Sound sound fun _ _ _ kept _ stepped => sound_step kept stepped
  exact ⟨step_makes admitted.1 admitted.2 stepped, step_ends kept admitted.1 admitted.2 stepped⟩

section Executed

def twoTenants : Estate where
  organizations := [10, 20]
  activeMembers := [(10, 31)]
  locations := [⟨100, 10⟩, ⟨200, 20⟩]
  routers := [⟨1000, 100, 10⟩]

def assignerRole : Role :=
  ⟨1, "assigner".toList, false, false, true, false, .organization, some 10, none, [.location]⟩

def platformRole : Role := ⟨2, "platform".toList, true, false, true, false, .global, none, none, []⟩

def staffed : Database where
  permissions := [⟨1, roleAssignPermission, true, false, []⟩, ⟨2, permissionOverrideAssignPermission, true, false, []⟩]
  roles := [assignerRole, platformRole]
  rolePermissions := [⟨1, 1⟩, ⟨1, 2⟩, ⟨2, 1⟩]
  userRoles := [⟨21, 31, 1, ⟨.organization, some 10, none, none, none⟩, none, true⟩,
    ⟨22, 41, 2, ⟨.global, none, none, none, none⟩, none, true⟩]
  overrides := []
  organizationRoles := []

theorem staffed_sound : Sound staffed := ⟨by decide, by decide⟩

def staffRequest (location : Option Uuid) : Request :=
  ⟨31, ⟨none, none, none⟩, ⟨some 10, location, none⟩, false⟩

def assignAt (newId location : Uuid) : Event :=
  ⟨0, .assignRoleToUser (staffRequest none) newId 32 1 ⟨.location, none, some location, none⟩ none⟩

def revokeRow (location : Option Uuid) (id : Uuid) : Event := ⟨0, .revokeRoleFromUser (staffRequest location) id⟩

def overrideAt (newId : Uuid) : Event :=
  ⟨0, .grantPermissionOverride 31 newId 32 roleAssignPermission .allow ⟨.router, some 10, some 100, some 1000⟩ none⟩

/-- A role at a location and an override at a router are given and taken back. -/
theorem grants_stay_in_tenant_revoked :
    ∃ trace final, Traced (step twoTenants 1) (fun db event => isTenant 1 db event = true ∧
        isMatched twoTenants 1 db event = true) staffed trace final ∧
      final.userRoles.map UserRole.isActive = [true, true, false] ∧
      final.overrides.map PermissionOverride.isActive = [false] ∧
      ∀ taken ∈ trace, MakesPlaced twoTenants 1 taken ∧ EndsOwn 1 taken := by
  obtain ⟨final, reached, seen⟩ := run_observed (step twoTenants 1) staffed
    (fun db event => isTenant 1 db event && isMatched twoTenants 1 db event)
    (fun db => db.userRoles.map UserRole.isActive = [true, true, false] &&
      db.overrides.map PermissionOverride.isActive = [false])
    (fun _ _ checked => (Bool.and_eq_true _ _).mp checked)
    [assignAt 23 100, overrideAt 51, revokeRow (some 100) 23, ⟨0, .revokePermissionOverride 31 51⟩]
    (by decide +kernel)
  simp only [Bool.and_eq_true, decide_eq_true_eq] at seen
  obtain ⟨trace, traced⟩ := reached.traced
  exact ⟨trace, final, traced, seen.1, seen.2,
    grants_stay_in_tenant twoTenants 1 staffed staffed_sound trace final traced⟩

def misplaces (db : Database) (event : Event) : Bool :=
  (step twoTenants 1 db event).any fun after => after.userRoles.any fun row =>
    decide (row.id ∉ db.userRoles.map UserRole.id) && isLocal row.scope.scopeType && !isPlaced twoTenants row.scope

theorem misplaces_ne {db : Database} {event : Event} (seen : misplaces db event = true) :
    ∃ after, step twoTenants 1 db event = some after ∧ ¬ MakesPlaced twoTenants 1 ⟨db, event, after⟩ := by
  obtain ⟨after, stepped, seen⟩ := (Option.any_eq_true _ _).mp seen
  obtain ⟨row, listed, seen⟩ := List.any_eq_true.mp seen
  simp only [Bool.and_eq_true, decide_eq_true_eq, Bool.not_eq_true'] at seen
  obtain ⟨⟨fresh, here⟩, elsewhere⟩ := seen
  refine ⟨after, stepped, fun placed => ?_⟩
  rw [(placed.assignments row listed fresh here).1] at elsewhere
  cases elsewhere

def endsGlobal (db : Database) (event : Event) : Bool :=
  (step twoTenants 1 db event).any fun after => db.userRoles.any fun row =>
    row.isActive && row.scope.scopeType = .global &&
      after.userRoles.all fun left => left.id ≠ row.id || !left.isActive

theorem endsGlobal_ne {db : Database} {event : Event} (seen : endsGlobal db event = true) :
    ∃ after, step twoTenants 1 db event = some after ∧ ¬ EndsOwn 1 ⟨db, event, after⟩ := by
  obtain ⟨after, stepped, seen⟩ := (Option.any_eq_true _ _).mp seen
  obtain ⟨row, listed, seen⟩ := List.any_eq_true.mp seen
  simp only [Bool.and_eq_true, decide_eq_true_eq, List.all_eq_true] at seen
  obtain ⟨⟨active, whole⟩, ended⟩ := seen
  refine ⟨after, stepped, fun own => (own.assignments row listed active ?_).2 whole⟩
  intro left present same
  simpa [same] using ended left present

/-- The staff of organization 10 assign a role at a location of organization 20, and then end the
platform's grant. -/
theorem grants_leave_tenant : Sound staffed ∧
    (∃ event after, isTenant 1 staffed event = true ∧ step twoTenants 1 staffed event = some after ∧
      ¬ MakesPlaced twoTenants 1 ⟨staffed, event, after⟩) ∧
    ∃ before event after,
      Reached (step twoTenants 1) (fun db event => isTenant 1 db event = true) staffed before ∧
      isTenant 1 before event = true ∧ step twoTenants 1 before event = some after ∧
      ¬ EndsOwn 1 ⟨before, event, after⟩ := by
  refine ⟨staffed_sound, ?_, ?_⟩
  · obtain ⟨after, stepped, misplaced⟩ :=
      misplaces_ne (show misplaces staffed (assignAt 23 200) = true by decide +kernel)
    exact ⟨assignAt 23 200, after, by decide +kernel, stepped, misplaced⟩
  · obtain ⟨before, reached, seen⟩ := run_observed (step twoTenants 1) staffed (isTenant 1)
      (fun db => isTenant 1 db (revokeRow none 22) && endsGlobal db (revokeRow none 22))
      (fun _ _ checked => checked) [assignAt 23 200] (by decide +kernel)
    obtain ⟨tenant, seen⟩ := (Bool.and_eq_true _ _).mp seen
    obtain ⟨after, stepped, ended⟩ := endsGlobal_ne seen
    exact ⟨before, revokeRow none 22, after, reached, tenant, stepped, ended⟩

end Executed

end CloudGuest.Rbac.Tenancy
