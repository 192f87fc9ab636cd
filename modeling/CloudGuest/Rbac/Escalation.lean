import CloudGuest.Library.Runs
import CloudGuest.Rbac.Handouts
import CloudGuest.Rbac.Tenancy

/-!
Whether a call gives anybody a permission that its caller does not have (rbac/router.py,
rbac/service.py). `assign_role_to_user` and the grant of an override compare what they
give with what the caller has, at the scope that the request names; the edits of a role
and the end of a denial compare nothing. `isContained` is the comparison that would do:
wherever a handout reaches, its receiver has the permission or is denied it, or the caller
has it.
-/

namespace CloudGuest.Rbac.Escalation
open Texts Uuids Runs Hierarchy

/-! ### What a permission is asked for at -/

def targets (estate : Estate) : List ScopeContext :=
  .globalScope :: (estate.organizations.map fun id => ⟨some id, none, none⟩) ++
    (estate.locations.map fun location => ⟨some location.organizationId, some location.id, none⟩) ++
    estate.routers.map fun router => ⟨some router.organizationId, some router.locationId, some router.id⟩

section Checks

variable (setting : Setting) (db : Database) (userId : Uuid) (key : Text) (context : ScopeContext)

def acceptsAt : Bool := db.accepts setting userId key (inferScopeType context) context

def deniesAt : Bool := db.denies setting userId key (inferScopeType context) context

/-- Some grant allows the permission there, if none denies it. -/
def allowsAt : Bool :=
  (db.resolve setting.maxParentRoleDepth userId setting.now).allow.any fun grant =>
    grant.covers key (inferScopeType context) context

end Checks

def reaches (scope : GrantScope) (context : ScopeContext) : Bool :=
  satisfies scope (inferScopeType context) context

/-! ### Calls -/

def routePermission : Mutation → Option Text
  | .createRole .. => some "roles.create".toList
  | .updateRole .. => some "roles.update".toList
  | .deleteRole _ => some "roles.delete".toList
  | .setRoleActive .. => some "roles.manage".toList
  | .cloneRole .. => some "roles.manage".toList
  | .assignPermissionToRole .. => some "roles.manage".toList
  | .removePermissionFromRole .. => some "roles.manage".toList
  | .assignRoleToUser .. => some roleAssignPermission
  | .revokeRoleFromUser _ => some roleAssignPermission
  | .grantPermissionOverride .. => none
  | .revokePermissionOverride _ => none

def requested (requesting : Option Uuid) : Mutation → Mutation
  -- The call of the service. What a body leaves open of an organization is the request's.
  | .createRole newId data =>
      .createRole newId { data with organizationId := data.organizationId.or requesting }
  | .cloneRole newId sourceId slug target => .cloneRole newId sourceId slug (target.or requesting)
  | .assignRoleToUser newId target roleId body expiresAt =>
      .assignRoleToUser newId target roleId (Tenancy.inOrganization body requesting) expiresAt
  | call => call

structure Event where
  now : Moment
  request : Request
  call : Mutation

section Serving

variable (estate : Estate) (maxParentRoleDepth : Nat)

/-- The foreign keys of a new row's location and router. -/
def hasKeys : Mutation → Bool
  | .assignRoleToUser _ _ _ scope _ => Tenancy.hasKeys estate scope
  | .grantPermissionOverride _ _ _ _ scope _ => Tenancy.hasKeys estate scope
  | _ => true

def serveMutation (setting : Setting) (actor : Uuid) (requesting : Option Uuid) (call : Mutation) (db : Database) :
    Except Refusal Database := do
  let mine ← serve ((requested requesting call).run setting ⟨actor, requesting⟩ db)
  refuseUnless (.fault .conflict) (hasKeys estate (requested requesting call))
  return mine

def serveCall (setting : Setting) (request : Request) (call : Mutation) (db : Database) : Except Refusal Database :=
  match routePermission call with
  | some key => do
      db.requirePermission estate setting key request
      let requesting ← db.currentOrganization estate setting request
      serveMutation estate setting request.userId requesting call db
  | none => serveMutation estate setting request.userId none call db

def Event.setting (event : Event) : Setting := ⟨maxParentRoleDepth, event.now⟩

/-- One call, committed where the constraints of the tables hold. -/
def step (db : Database) (event : Event) : Option Database :=
  match serveCall estate (event.setting maxParentRoleDepth) event.request event.call db with
  | .ok mine => if mine.isConsistent && isLinked mine then some mine else none
  | .error _ => none

end Serving

def Event.requesting (event : Event) : Option Uuid :=
  if (routePermission event.call).isSome then event.request.organization else none

/-! ### What a call gives -/

section Giving

variable (estate : Estate) (setting : Setting)

/-- The grant of an override by whoever may manage the permissions of the whole platform. -/
def isBypassed (db : Database) (event : Event) : Bool :=
  match event.call with
  | .grantPermissionOverride .. => acceptsAt (event.setting setting.maxParentRoleDepth) db event.request.userId
      permissionManageBypassPermission .globalScope
  | _ => false

def GivesOwn (actor : Uuid) (before after : Database) : Prop :=
  ∀ userId key, ∀ context ∈ targets estate, acceptsAt setting after userId key context = true →
    acceptsAt setting before userId key context = false → acceptsAt setting before actor key context = true

/-- The same for a call, but for a bypass. The moment of the comparison need not be the call's. -/
def Contains (taken : Taken Database Event) : Prop :=
  isBypassed setting taken.before taken.action = true ∨
    GivesOwn estate setting taken.action.request.userId taken.before taken.after

/-- Wherever the handout reaches, its receiver has the permission or is denied it, or the caller has it. -/
def isBacked (actor : Uuid) (db : Database) (handout : Handout) : Bool :=
  (targets estate).all fun context => !reaches handout.scope context ||
    acceptsAt setting db handout.userId handout.key context ||
    deniesAt setting db handout.userId handout.key context || acceptsAt setting db actor handout.key context

def isDeniedBeside (db : Database) (overrideId userId : Uuid) (key : Text)
    (context : ScopeContext) : Bool :=
  (db.getActiveOverridesForUser userId setting.now).any fun other =>
    other.id ≠ overrideId && other.effect = .deny &&
      (db.permissionOf other.permissionId).any (fun permission => !permission.isDeleted && permission.key = key) &&
      reaches other.scope context

/-- Where a denial alone keeps the user from a permission, the caller has it. -/
def isLiftable (actor : Uuid) (db : Database) (row : PermissionOverride) : Bool :=
  !(row.isActive && isCurrent row.expiresAt setting.now && row.effect = .deny) ||
    (db.permissionOf row.permissionId).all fun permission => permission.isDeleted ||
      (targets estate).all fun context => !reaches row.scope context ||
        !allowsAt setting db row.userId permission.key context ||
        isDeniedBeside setting db row.id row.userId permission.key context ||
        acceptsAt setting db actor permission.key context

def isContained (db : Database) (event : Event) : Bool :=
  let actor := event.request.userId
  match event.call with
  | .grantPermissionOverride _ target key effect scope expiresAt =>
      isBypassed setting db event || effect = .deny || !isCurrent expiresAt setting.now ||
        isBacked estate setting actor db ⟨target, key, scope.granted⟩
  | .revokePermissionOverride overrideId =>
      (db.getPermissionOverrideById overrideId).all (isLiftable estate setting actor db)
  | call => (Mutation.handouts db setting.maxParentRoleDepth setting.now ⟨actor, event.requesting⟩
      (requested event.requesting call)).all (isBacked estate setting actor db)

end Giving

/-! ### What decides a check -/

section Deciding

variable {estate : Estate} {setting : Setting} {db after : Database} {actor userId : Uuid} {key : Text}
  {context : ScopeContext}

theorem acceptsAt_iff : acceptsAt setting db userId key context = true ↔
    deniesAt setting db userId key context = false ∧ allowsAt setting db userId key context = true := by
  simp only [acceptsAt, Database.accepts, EffectiveGrants.hasPermission, deniesAt, Database.denies, allowsAt]
  split
  · next denied => simp [denied]
  · next passed => simp [passed]

def OverriddenBy (setting : Setting) (db : Database) (row : PermissionOverride) (effect : OverrideEffect)
    (userId : Uuid) (key : Text) (context : ScopeContext) : Prop :=
  row ∈ db.getActiveOverridesForUser userId setting.now ∧ row.effect = effect ∧ ∃ permission,
    db.permissionOf row.permissionId = some permission ∧ permission.isDeleted = false ∧ permission.key = key ∧
      reaches row.scope context = true

def Overridden (setting : Setting) (db : Database) (effect : OverrideEffect) (userId : Uuid) (key : Text)
    (context : ScopeContext) : Prop :=
  ∃ row, OverriddenBy setting db row effect userId key context

theorem covers_iff {grant : EffectiveGrant} : grant.covers key (inferScopeType context) context = true ↔
    grant.permissionKey = key ∧ reaches grant.scope context = true := by
  rw [EffectiveGrant.covers, Bool.and_eq_true, decide_eq_true_eq, reaches]

theorem deniesAt_iff : deniesAt setting db userId key context = true ↔
    Overridden setting db .deny userId key context := by
  simp only [deniesAt, Database.denies, Database.resolve, List.any_eq_true, List.mem_filter, covers_iff,
    decide_eq_true_eq, mem_overrideGrants]
  constructor
  · rintro ⟨_, ⟨⟨row, held, permission, found, kept, rfl⟩, effect⟩, same, reached⟩
    exact ⟨row, held, effect, permission, found, kept, same, reached⟩
  · rintro ⟨row, held, effect, permission, found, kept, same, reached⟩
    exact ⟨_, ⟨⟨row, held, permission, found, kept, rfl⟩, effect⟩, same, reached⟩

theorem allowsAt_iff : allowsAt setting db userId key context = true ↔
    (∃ scope, Gets db setting.maxParentRoleDepth setting.now ⟨userId, key, scope⟩ ∧ reaches scope context = true) ∨
      Overridden setting db .allow userId key context := by
  simp only [allowsAt, Database.resolve, List.any_eq_true, List.mem_append, covers_iff, mem_roleAllow,
    List.mem_filter, mem_overrideGrants, decide_eq_true_eq]
  constructor
  · rintro ⟨_, ⟨row, held, role, located, inForce, _, listed, rfl⟩ |
      ⟨⟨row, held, permission, found, kept, rfl⟩, effect⟩, same, reached⟩
    · obtain rfl := same
      exact .inl ⟨row.scope, gets_iff_given.mpr ⟨row, held, role, located, inForce, _, listed, rfl⟩, reached⟩
    · have allowed : row.effect = .allow := by
        cases given : row.effect with
        | allow => rfl
        | deny => exact absurd given effect
      exact .inr ⟨row, held, allowed, permission, found, kept, same, reached⟩
  · rintro (⟨scope, gets, reached⟩ | ⟨row, held, effect, permission, found, kept, same, reached⟩)
    · obtain ⟨row, held, role, located, inForce, _, listed, equal⟩ := gets_iff_given.mp gets
      obtain ⟨rfl, -, rfl⟩ := equal
      exact ⟨_, .inl ⟨row, held, role, located, inForce, _, listed, rfl⟩, rfl, reached⟩
    · refine ⟨_, .inr ⟨⟨row, held, permission, found, kept, rfl⟩, ?_⟩, same, reached⟩
      rw [effect]
      exact OverrideEffect.noConfusion

/-! ### What a call adds -/

structure Adds (setting : Setting) (db after : Database) (handouts : List Handout) : Prop where
  denies : ∀ userId key context,
    deniesAt setting after userId key context = deniesAt setting db userId key context
  gained : ∀ userId key context, allowsAt setting after userId key context = true →
    allowsAt setting db userId key context = true ∨
      ∃ scope, (⟨userId, key, scope⟩ : Handout) ∈ handouts ∧ reaches scope context = true
  given : ∀ handout ∈ handouts, ∀ context, reaches handout.scope context = true →
    allowsAt setting after handout.userId handout.key context = true ∨
      allowsAt setting db handout.userId handout.key context = true

theorem isBacked_iff {handout : Handout} : isBacked estate setting actor db handout = true ↔
    ∀ context ∈ targets estate, reaches handout.scope context = true →
      acceptsAt setting db handout.userId handout.key context = false →
      deniesAt setting db handout.userId handout.key context = false →
        acceptsAt setting db actor handout.key context = true := by
  simp only [isBacked, List.all_eq_true, Bool.or_eq_true, Bool.not_eq_true']
  refine forall₂_congr fun context _ => ?_
  cases reaches handout.scope context <;> cases acceptsAt setting db handout.userId handout.key context <;>
    cases deniesAt setting db handout.userId handout.key context <;> simp

theorem Adds.givesOwn_iff {handouts : List Handout} (adds : Adds setting db after handouts) :
    GivesOwn estate setting actor db after ↔ handouts.all (isBacked estate setting actor db) = true := by
  rw [List.all_eq_true]
  constructor
  · intro gives handout listed
    refine isBacked_iff.mpr fun context target reached refused free => ?_
    rcases adds.given handout listed context reached with now | before
    · refine gives _ _ context target (acceptsAt_iff.mpr ⟨?_, now⟩) refused
      rw [adds.denies]
      exact free
    · rw [acceptsAt_iff.mpr ⟨free, before⟩] at refused
      cases refused
  · intro backed userId key context target accepted refused
    obtain ⟨free, allowed⟩ := acceptsAt_iff.mp accepted
    rw [adds.denies] at free
    rcases adds.gained userId key context allowed with before | ⟨scope, listed, reached⟩
    · rw [acceptsAt_iff.mpr ⟨free, before⟩] at refused
      cases refused
    · exact isBacked_iff.mp (backed _ listed) context target reached refused free

theorem overridden_congr (overrides : after.overrides = db.overrides)
    (permissions : after.permissions = db.permissions) {effect : OverrideEffect} :
    Overridden setting after effect userId key context ↔ Overridden setting db effect userId key context := by
  simp only [Overridden, OverriddenBy, Database.getActiveOverridesForUser, Database.permissionOf, overrides,
    permissions]

theorem HandsOut.adds {handouts : List Handout}
    (hands : HandsOut setting.maxParentRoleDepth setting.now db after handouts) : Adds setting db after handouts where
  denies := by
    intro userId key context
    rw [Bool.eq_iff_iff, deniesAt_iff, deniesAt_iff, overridden_congr hands.overrides hands.permissions]
  gained := by
    intro userId key context allowed
    rcases allowsAt_iff.mp allowed with ⟨scope, gets, reached⟩ | overridden
    · rcases hands.gained _ gets with had | handed
      · exact .inl (allowsAt_iff.mpr (.inl ⟨scope, had, reached⟩))
      · exact .inr ⟨scope, handed, reached⟩
    · exact .inl (allowsAt_iff.mpr (.inr ((overridden_congr hands.overrides hands.permissions).mp overridden)))
  given := by
    intro handout listed context reached
    rcases hands.given handout listed with gets | had
    · exact .inl (allowsAt_iff.mpr (.inl ⟨handout.scope, gets, reached⟩))
    · exact .inr (allowsAt_iff.mpr (.inl ⟨handout.scope, had, reached⟩))

/-! #### Overrides -/

theorem gets_overrides (rows : List PermissionOverride) {depth : Nat} {now : Moment} {handout : Handout} :
    Gets { db with overrides := rows } depth now handout ↔ Gets db depth now handout := by
  refine exists_congr fun row => and_congr_right fun _ => and_congr_right fun _ => and_congr_left fun _ => ?_
  exact @keys_congr db { db with overrides := rows } depth row.roleId rfl rfl rfl handout.key

theorem overridden_granted (catalogued : db.Catalogued) {permission : Permission}
    (found : db.getPermissionByKey key = some permission) {newId target : Uuid} {given effect : OverrideEffect}
    {scope : GrantScope} {expiresAt : Option Moment} {asked : Text} :
    Overridden setting { db with
      overrides := db.overrides ++ [⟨newId, target, permission.id, given, scope, expiresAt, true⟩] }
        effect userId asked context ↔
      Overridden setting db effect userId asked context ∨
        (given = effect ∧ target = userId ∧ key = asked ∧ isCurrent expiresAt setting.now = true ∧
          reaches scope context = true) := by
  obtain ⟨present, named, kept⟩ := getPermissionByKey_some found
  have known := permissionOf_listed catalogued present
  constructor
  · rintro ⟨row, held, same, other, located, alive, equal, reached⟩
    obtain ⟨listed, selected⟩ := List.mem_filter.mp held
    rcases List.mem_append.mp listed with earlier | last
    · exact .inl ⟨row, List.mem_filter.mpr ⟨earlier, selected⟩, same, other, located, alive, equal, reached⟩
    · obtain rfl := List.mem_singleton.mp last
      simp only [Bool.and_eq_true, decide_eq_true_eq] at selected
      obtain rfl := Option.some.inj (known.symm.trans located)
      exact .inr ⟨same, selected.1.1, named.symm.trans equal, selected.2, reached⟩
  · rintro (⟨row, held, further⟩ | ⟨rfl, rfl, rfl, current, reached⟩)
    · obtain ⟨listed, selected⟩ := List.mem_filter.mp held
      exact ⟨row, List.mem_filter.mpr ⟨List.mem_append_left _ listed, selected⟩, further⟩
    · refine ⟨_, List.mem_filter.mpr ⟨List.mem_append_right _ (List.mem_singleton_self _), ?_⟩, rfl, permission, known,
        kept, named, reached⟩
      simp [current]

section Granting

variable {called : Setting} {newId target : Uuid} {scope : NamedScope} {expiresAt : Option Moment}

theorem grant_adds (catalogued : db.Catalogued)
    (ran : grantPermissionOverride called actor newId target key .allow scope expiresAt db = .ok after) :
    Adds setting db after (if isCurrent expiresAt setting.now then [⟨target, key, scope.granted⟩] else []) := by
  simp only [grantPermissionOverride, Faults.bind_ok, found_ok] at ran
  obtain ⟨permission, found, _, -, _, -, _, -, made⟩ := ran
  obtain rfl := Except.ok.inj made
  have granted := fun effect userId asked context => @overridden_granted setting db userId key context catalogued
    permission found newId target .allow effect scope.granted expiresAt asked
  constructor
  · intro userId asked context
    rw [Bool.eq_iff_iff, deniesAt_iff, deniesAt_iff, granted]
    simp
  · intro userId asked context allowed
    rcases allowsAt_iff.mp allowed with ⟨scope, gets, reached⟩ | overridden
    · exact .inl (allowsAt_iff.mpr (.inl ⟨scope, (gets_overrides _).mp gets, reached⟩))
    · rcases (granted _ _ _ _).mp overridden with before | ⟨-, rfl, rfl, current, reached⟩
      · exact .inl (allowsAt_iff.mpr (.inr before))
      · rw [if_pos current]
        exact .inr ⟨_, List.mem_singleton_self _, reached⟩
  · intro handout listed context reached
    split at listed
    · next current =>
        obtain rfl := List.mem_singleton.mp listed
        exact .inl (allowsAt_iff.mpr (.inr ((granted _ _ _ _).mpr (.inr ⟨rfl, rfl, rfl, current, reached⟩))))
    · cases listed

theorem grant_denies (catalogued : db.Catalogued)
    (ran : grantPermissionOverride called actor newId target key .deny scope expiresAt db = .ok after)
    {asked : Text} (accepted : acceptsAt setting after userId asked context = true) :
    acceptsAt setting db userId asked context = true := by
  simp only [grantPermissionOverride, Faults.bind_ok, found_ok] at ran
  obtain ⟨permission, found, _, -, _, -, _, -, made⟩ := ran
  obtain rfl := Except.ok.inj made
  have granted := fun effect => @overridden_granted setting db userId key context catalogued
    permission found newId target .deny effect scope.granted expiresAt asked
  obtain ⟨free, allowed⟩ := acceptsAt_iff.mp accepted
  refine acceptsAt_iff.mpr ⟨?_, ?_⟩
  · rw [← Bool.not_eq_true, deniesAt_iff] at free ⊢
    exact fun denied => free ((granted _).mpr (.inl denied))
  · rcases allowsAt_iff.mp allowed with ⟨scope, gets, reached⟩ | overridden
    · exact allowsAt_iff.mpr (.inl ⟨scope, (gets_overrides _).mp gets, reached⟩)
    · rcases (granted _).mp overridden with before | ⟨other, -⟩
      · exact allowsAt_iff.mpr (.inr before)
      · cases other

end Granting

section Revoking

variable {called : Setting} {overrideId : Uuid} {row : PermissionOverride} {effect : OverrideEffect}

def withoutOverride (db : Database) (overrideId : Uuid) : Database :=
  { db with
    overrides := db.overrides.map fun other => if other.id = overrideId then { other with isActive := false } else other }

theorem mem_deactivated {other : PermissionOverride} :
    other ∈ (withoutOverride db overrideId).getActiveOverridesForUser userId setting.now ↔
    other ∈ db.getActiveOverridesForUser userId setting.now ∧ other.id ≠ overrideId := by
  constructor
  · intro held
    obtain ⟨listed, selected⟩ := List.mem_filter.mp held
    obtain ⟨old, present, rfl⟩ := List.mem_map.mp listed
    split at selected
    · simp at selected
    · next apart =>
        rw [if_neg apart]
        exact ⟨List.mem_filter.mpr ⟨present, selected⟩, apart⟩
  · rintro ⟨held, apart⟩
    obtain ⟨listed, selected⟩ := List.mem_filter.mp held
    exact List.mem_filter.mpr ⟨List.mem_map.mpr ⟨other, listed, if_neg apart⟩, selected⟩

theorem overridden_deactivated (distinct : (db.overrides.map PermissionOverride.id).Nodup)
    (located : db.getPermissionOverrideById overrideId = some row) :
    Overridden setting db effect userId key context ↔
      Overridden setting (withoutOverride db overrideId) effect userId key context ∨
      OverriddenBy setting db row effect userId key context := by
  have same : row.id = overrideId := by simpa using List.find?_some located
  constructor
  · rintro ⟨other, held, further⟩
    by_cases ended : other.id = overrideId
    · have one := List.inj_on_of_nodup_map distinct (List.mem_filter.mp held).1
        (List.mem_of_find?_eq_some located) (ended.trans same.symm)
      exact .inr ⟨one ▸ held, one ▸ further⟩
    · exact .inl ⟨other, mem_deactivated.mpr ⟨held, ended⟩, further⟩
  · rintro (⟨other, held, further⟩ | ⟨held, further⟩)
    · exact ⟨other, (mem_deactivated.mp held).1, further⟩
    · exact ⟨row, held, further⟩

theorem isDeniedBeside_iff : isDeniedBeside setting db overrideId userId key context = true ↔
    Overridden setting (withoutOverride db overrideId) .deny userId key context := by
  simp only [isDeniedBeside, List.any_eq_true, Bool.and_eq_true, decide_eq_true_eq, Overridden, OverriddenBy]
  constructor
  · rintro ⟨other, held, ⟨⟨apart, denies⟩, named⟩, reached⟩
    obtain ⟨permission, found, fits⟩ := (Option.any_eq_true _ _).mp named
    simp only [Bool.and_eq_true, Bool.not_eq_true', decide_eq_true_eq] at fits
    exact ⟨other, mem_deactivated.mpr ⟨held, apart⟩, denies, permission, found, fits.1, fits.2, reached⟩
  · rintro ⟨other, held, denies, permission, found, kept, same, reached⟩
    obtain ⟨present, apart⟩ := mem_deactivated.mp held
    change db.permissionOf other.permissionId = some permission at found
    refine ⟨other, present, ⟨⟨apart, denies⟩, ?_⟩, reached⟩
    simp [found, kept, same]

theorem isLiftable_iff : isLiftable estate setting actor db row = true ↔
    (row.isActive = true → isCurrent row.expiresAt setting.now = true → row.effect = .deny →
      ∀ permission, db.permissionOf row.permissionId = some permission → permission.isDeleted = false →
      ∀ context ∈ targets estate, reaches row.scope context = true →
        allowsAt setting db row.userId permission.key context = true →
        isDeniedBeside setting db row.id row.userId permission.key context = false →
          acceptsAt setting db actor permission.key context = true) := by
  simp only [isLiftable, Bool.or_eq_true, Bool.not_eq_true', Bool.and_eq_false_iff, decide_eq_false_iff_not,
    Option.all_eq_true, List.all_eq_true]
  constructor
  · rintro (((inactive | expired) | allows) | lifts) active current denies permission found kept context target reached
      allowed apart
    · rw [active] at inactive
      cases inactive
    · rw [current] at expired
      cases expired
    · exact absurd denies allows
    · rcases lifts permission found with deleted | further
      · rw [kept] at deleted
        cases deleted
      · simpa [reached, allowed, apart] using further context target
  · intro lifts
    by_cases inForce : row.isActive = true ∧ isCurrent row.expiresAt setting.now = true ∧ row.effect = .deny
    · obtain ⟨active, current, denies⟩ := inForce
      refine .inr fun permission found => ?_
      cases kept : permission.isDeleted with
      | true => exact .inl rfl
      | false =>
          refine .inr fun context target => ?_
          have held := lifts active current denies permission found kept context target
          cases reached : reaches row.scope context <;>
            cases allowed : allowsAt setting db row.userId permission.key context <;>
            cases apart : isDeniedBeside setting db row.id row.userId permission.key context <;> simp_all
    · left
      by_contra outside
      simp only [not_or, Bool.not_eq_false, not_not] at outside
      exact inForce ⟨outside.1.1, outside.1.2, outside.2⟩

theorem revoke_givesOwn_iff (distinct : (db.overrides.map PermissionOverride.id).Nodup)
    (located : db.getPermissionOverrideById overrideId = some row)
    (ran : revokePermissionOverride called actor overrideId db = .ok after) :
    GivesOwn estate setting actor db after ↔ isLiftable estate setting actor db row = true := by
  have same : row.id = overrideId := by simpa using List.find?_some located
  obtain ⟨_, -, -, made⟩ := Tenancy.revokeOverride_ok ran
  obtain rfl : after = withoutOverride db overrideId := made
  have ended := fun effect userId key context => @overridden_deactivated setting db userId key context overrideId
    row effect distinct located
  -- nothing is allowed that was not
  have allowed : ∀ userId key context, allowsAt setting (withoutOverride db overrideId) userId key context = true →
      allowsAt setting db userId key context = true := by
    intro userId key context allows
    rcases allowsAt_iff.mp allows with ⟨scope, gets, reached⟩ | overridden
    · exact allowsAt_iff.mpr (.inl ⟨scope, (gets_overrides _).mp gets, reached⟩)
    · exact allowsAt_iff.mpr (.inr ((ended _ _ _ _).mpr (.inl overridden)))
  -- whoever is accepted anew was denied by the row
  have lifted : ∀ userId key context, acceptsAt setting (withoutOverride db overrideId) userId key context = true →
      acceptsAt setting db userId key context = false →
      OverriddenBy setting db row .deny userId key context := by
    intro userId key context accepted refused
    obtain ⟨free, allows⟩ := acceptsAt_iff.mp accepted
    have denied : deniesAt setting db userId key context = true := by
      by_contra clear
      rw [acceptsAt_iff.mpr ⟨Bool.eq_false_iff.mpr clear, allowed _ _ _ allows⟩] at refused
      cases refused
    rcases (ended _ _ _ _).mp (deniesAt_iff.mp denied) with stays | by_row
    · rw [deniesAt_iff.mpr stays] at free
      cases free
    · exact by_row
  rw [isLiftable_iff]
  constructor
  · intro gives active current denies permission found kept context target reached allows apart
    have held : row ∈ db.getActiveOverridesForUser row.userId setting.now :=
      List.mem_filter.mpr ⟨List.mem_of_find?_eq_some located, by simp [active, current]⟩
    have denied : deniesAt setting db row.userId permission.key context = true :=
      deniesAt_iff.mpr ((ended _ _ _ _).mpr (.inr ⟨held, denies, permission, found, kept, rfl, reached⟩))
    refine gives row.userId permission.key context target (acceptsAt_iff.mpr ⟨?_, ?_⟩) ?_
    · rw [← Bool.not_eq_true, deniesAt_iff, ← isDeniedBeside_iff, Bool.not_eq_true, ← same]
      exact apart
    · rcases allowsAt_iff.mp allows with ⟨scope, gets, further⟩ | overridden
      · exact allowsAt_iff.mpr (.inl ⟨scope, (gets_overrides _).mpr gets, further⟩)
      · rcases (ended _ _ _ _).mp overridden with stays | ⟨-, other, -⟩
        · exact allowsAt_iff.mpr (.inr stays)
        · rw [denies] at other
          cases other
    · rw [Bool.eq_false_iff]
      intro accepted
      rw [(acceptsAt_iff.mp accepted).1] at denied
      cases denied
  · intro lifts userId key context target accepted refused
    obtain ⟨held, denies, permission, found, kept, rfl, reached⟩ := lifted userId key context accepted refused
    obtain ⟨free, allows⟩ := acceptsAt_iff.mp accepted
    have selected := (List.mem_filter.mp held).2
    simp only [Bool.and_eq_true, decide_eq_true_eq] at selected
    obtain ⟨⟨rfl, active⟩, current⟩ := selected
    refine lifts active current denies permission found kept context target reached (allowed _ _ _ allows) ?_
    rw [← Bool.not_eq_true, isDeniedBeside_iff, ← deniesAt_iff, Bool.not_eq_true, same]
    exact free

end Revoking

end Deciding

/-! ### Runs -/

/-- What the tables keep: the constraints, and that a key names one permission. -/
structure Sound (db : Database) : Prop where
  consistent : db.Consistent
  linked : db.Linked
  catalogued : db.Catalogued

section Steps

variable {estate : Estate} {maxParentRoleDepth : Nat} {setting : Setting} {db after : Database} {event : Event}

theorem serveMutation_ok {actor : Uuid} {requesting : Option Uuid} {call : Mutation}
    (served : serveMutation estate setting actor requesting call db = .ok after) :
    (requested requesting call).run setting ⟨actor, requesting⟩ db = .ok after := by
  obtain ⟨mine, ran, served⟩ := Faults.bind_ok.mp served
  obtain ⟨_, -, served⟩ := Faults.bind_ok.mp served
  obtain rfl := Except.ok.inj served
  exact serve_ok.mp ran

theorem run_ok (ran : serveCall estate (event.setting maxParentRoleDepth) event.request event.call db = .ok after) :
    (requested event.requesting event.call).run (event.setting maxParentRoleDepth)
      ⟨event.request.userId, event.requesting⟩ db = .ok after := by
  unfold serveCall at ran
  rw [Event.requesting]
  split at ran
  · next key named =>
      obtain ⟨_, -, ran⟩ := Faults.bind_ok.mp ran
      obtain ⟨requesting, confined, ran⟩ := Faults.bind_ok.mp ran
      rw [named, Option.isSome_some, if_pos rfl, ← currentOrganization_eq confined]
      exact serveMutation_ok ran
  · next unrouted =>
      rw [unrouted]
      exact serveMutation_ok ran

theorem step_ok (stepped : step estate maxParentRoleDepth db event = some after) :
    serveCall estate (event.setting maxParentRoleDepth) event.request event.call db = .ok after ∧
      after.Consistent ∧ after.Linked := by
  simp only [step] at stepped
  split at stepped
  · next mine ran =>
      split at stepped
      · next checked =>
          obtain rfl := Option.some.inj stepped
          simp only [Bool.and_eq_true, isLinked, List.all_eq_true] at checked
          refine ⟨ran, consistent_of_check checked.1, fun row listed => ?_⟩
          obtain ⟨role, present, same⟩ := List.any_eq_true.mp (checked.2 row listed)
          exact List.mem_map.mpr ⟨role, present, of_decide_eq_true same⟩
      · cases stepped
  · cases stepped

theorem sound_step (sound : Sound db) (stepped : step estate maxParentRoleDepth db event = some after) :
    Sound after := by
  obtain ⟨ran, consistent, linked⟩ := step_ok stepped
  have same := (run_stays _ (run_ok ran)).samePermissions
  refine ⟨consistent, linked, ?_, ?_⟩
  · rw [same]
    exact sound.catalogued.ids
  · rw [same]
    exact sound.catalogued.keys

theorem hands_run (sound : Sound db) {called : Setting} {caller : Caller} {mutation : Mutation}
    (onRoles : ∀ newId target key effect scope expiresAt,
      mutation ≠ .grantPermissionOverride newId target key effect scope expiresAt)
    (notRevoked : ∀ overrideId, mutation ≠ .revokePermissionOverride overrideId)
    (ran : mutation.run called caller db = .ok after) :
    HandsOut setting.maxParentRoleDepth setting.now db after
      (mutation.handouts db setting.maxParentRoleDepth setting.now caller) := by
  obtain ⟨consistent, linked, catalogued⟩ := sound
  cases mutation with
  | createRole newId data => exact hands_createRole consistent ran
  | updateRole newId roleId data => exact hands_updateRole consistent catalogued linked ran
  | deleteRole roleId => exact hands_deleteRole ran
  | setRoleActive roleId isActive => exact hands_setRoleActive consistent ran
  | cloneRole newId sourceId slug target => exact hands_cloneRole consistent ran
  | assignPermissionToRole roleId key => exact hands_assignPermission catalogued ran
  | removePermissionFromRole roleId key => exact hands_removePermission ran
  | assignRoleToUser newId target roleId scope expiresAt => exact hands_assignRole consistent ran
  | revokeRoleFromUser assignmentId => exact hands_revokeRole ran
  | grantPermissionOverride newId target key effect scope expiresAt => exact absurd rfl (onRoles _ _ _ _ _ _)
  | revokePermissionOverride overrideId => exact absurd rfl (notRevoked _)

theorem contains_iff (plain : isBypassed setting db event = false) :
    Contains estate setting ⟨db, event, after⟩ ↔ GivesOwn estate setting event.request.userId db after := by
  simp [Contains, plain]

theorem step_contains (sound : Sound db) (stepped : step estate setting.maxParentRoleDepth db event = some after) :
    Contains estate setting ⟨db, event, after⟩ ↔ isContained estate setting db event = true := by
  have ran := run_ok (step_ok stepped).1
  have roles : isBypassed setting db event = false →
      isContained estate setting db event = (Mutation.handouts db setting.maxParentRoleDepth setting.now
        ⟨event.request.userId, event.requesting⟩ (requested event.requesting event.call)).all
          (isBacked estate setting event.request.userId db) →
      (∀ newId target key effect scope expiresAt, requested event.requesting event.call ≠
        .grantPermissionOverride newId target key effect scope expiresAt) →
      (∀ overrideId, requested event.requesting event.call ≠ .revokePermissionOverride overrideId) →
      (Contains estate setting ⟨db, event, after⟩ ↔ isContained estate setting db event = true) := by
    intro plain contained notGranted notRevoked
    rw [contains_iff plain, contained]
    exact (HandsOut.adds (hands_run sound notGranted notRevoked ran)).givesOwn_iff
  obtain ⟨now, request, call⟩ := event
  cases call with
  | grantPermissionOverride newId target key effect scope expiresAt =>
      cases bypassed : isBypassed setting db
          ⟨now, request, .grantPermissionOverride newId target key effect scope expiresAt⟩ with
      | true => simp [Contains, isContained, bypassed]
      | false =>
          rw [contains_iff bypassed]
          simp only [isContained, bypassed, Bool.false_or]
          cases effect with
          | deny =>
              refine iff_of_true (fun userId asked context _ accepted refused => ?_) rfl
              rw [grant_denies sound.catalogued ran accepted] at refused
              cases refused
          | allow =>
              rw [(grant_adds sound.catalogued ran).givesOwn_iff]
              cases current : isCurrent expiresAt setting.now <;> simp
  | revokePermissionOverride overrideId =>
      obtain ⟨row, located, -⟩ := Tenancy.revokeOverride_ok ran
      rw [contains_iff rfl, revoke_givesOwn_iff sound.consistent.overrides located ran]
      simp only [isContained, located, Option.all_some]
  | _ => exact roles rfl rfl (fun _ _ _ _ _ _ same => by cases same) (fun _ same => by cases same)

theorem sound_reached {admitted : Database → Event → Prop} (sound : Sound db)
    (reached : Reached (step estate maxParentRoleDepth) admitted db after) : Sound after :=
  reached.invariant Sound sound fun _ _ _ kept _ stepped => sound_step kept stepped

theorem run_contains {members : Uuid → Prop} (sound : Sound db) {trace : List (Taken Database Event)}
    (traced : Traced (step estate setting.maxParentRoleDepth) (fun state event => members event.request.userId ∧
      isBypassed setting state event = false ∧ isContained estate setting state event = true) db trace after) :
    ∀ userId key, ∀ context ∈ targets estate, acceptsAt setting after userId key context = true →
      acceptsAt setting db userId key context = true ∨
        ∃ holder, members holder ∧ acceptsAt setting db holder key context = true := by
  induction traced with
  | start => exact fun userId key context _ accepted => .inl accepted
  | @next trace state next event earlier allowed stepped ih =>
      obtain ⟨member, plain, contained⟩ := allowed
      intro userId key context target accepted
      cases had : acceptsAt setting state userId key context with
      | true => exact ih userId key context target had
      | false =>
          have gives := (contains_iff plain).mp
            ((step_contains (sound_reached sound earlier.reached) stepped).mpr contained)
          rcases ih _ key context target (gives userId key context target accepted had) with own | other
          · exact .inr ⟨_, member, own⟩
          · exact .inr other

end Steps

/-- The calls that may give somebody a permission: the others take some away, or give back what an
inactive role has. -/
def mayGive : Mutation → Bool
  | .createRole .. | .updateRole .. | .cloneRole .. | .assignPermissionToRole .. => true
  | .assignRoleToUser .. | .grantPermissionOverride .. | .revokePermissionOverride .. => true
  | .deleteRole _ | .setRoleActive .. | .removePermissionFromRole .. | .revokeRoleFromUser _ => false

/-- A call gives only what its caller has, or is the bypass, if and only if `isContained`; and where all
calls of a group's members are so, none of them has in the end what none had at the start. -/
theorem no_escalation_iff (estate : Estate) (maxParentRoleDepth : Nat) (db : Database) (sound : Sound db) :
    (∀ event after, mayGive event.call = true → step estate maxParentRoleDepth db event = some after →
      (Contains estate (event.setting maxParentRoleDepth) ⟨db, event, after⟩ ↔
        isContained estate (event.setting maxParentRoleDepth) db event = true)) ∧
    ∀ (now : Moment) (members : Uuid → Prop) (trace : List (Taken Database Event)) (final : Database),
      Traced (step estate maxParentRoleDepth) (fun state event => members event.request.userId ∧
        isBypassed ⟨maxParentRoleDepth, now⟩ state event = false ∧
          isContained estate ⟨maxParentRoleDepth, now⟩ state event = true) db trace final →
      ∀ userId, members userId → ∀ key, ∀ context ∈ targets estate,
        acceptsAt ⟨maxParentRoleDepth, now⟩ final userId key context = true →
          ∃ holder, members holder ∧ acceptsAt ⟨maxParentRoleDepth, now⟩ db holder key context = true := by
  constructor
  · intro event after _ stepped
    exact step_contains sound stepped
  · intro now members trace final traced userId member key context target accepted
    have held := @run_contains estate ⟨maxParentRoleDepth, now⟩ db final members sound trace traced
    rcases held userId key context target accepted with own | other
    · exact ⟨userId, member, own⟩
    · exact other

/-- Each call contains what it gives if and only if `isContained`, and a group whose calls do stays with what
its members had. -/
theorem calls_give_what_is_held (estate : Estate) (setting : Setting) (db : Database) (sound : Sound db) :
    (∀ trace final, Traced (step estate setting.maxParentRoleDepth) (fun _ _ => True) db trace final →
      ∀ taken ∈ trace, Contains estate setting taken ↔
        isContained estate setting taken.before taken.action = true) ∧
    ∀ (members : Uuid → Prop) (trace : List (Taken Database Event)) (final : Database),
      Traced (step estate setting.maxParentRoleDepth) (fun state event => members event.request.userId ∧
        isBypassed setting state event = false ∧ isContained estate setting state event = true) db trace final →
      ∀ userId key, ∀ context ∈ targets estate, acceptsAt setting final userId key context = true →
        acceptsAt setting db userId key context = true ∨
          ∃ holder, members holder ∧ acceptsAt setting db holder key context = true := by
  refine ⟨fun trace final traced => ?_, fun members trace final traced => run_contains sound traced⟩
  exact traced.always (fun taken => Contains estate setting taken ↔
      isContained estate setting taken.before taken.action = true)
    fun state event next reached _ stepped => step_contains (sound_reached sound reached) stepped

section Executed

def editorRole : Role :=
  ⟨1, "editor".toList, false, false, true, false, .organization, some 10, none, [.location]⟩

def editing : Database where
  permissions := [⟨1, roleAssignPermission, true, false, []⟩, ⟨2, permissionOverrideAssignPermission, true, false, []⟩,
    ⟨3, "roles.update".toList, true, false, []⟩, ⟨4, "invoices.read".toList, true, false, []⟩]
  roles := [editorRole]
  rolePermissions := [⟨1, 1⟩, ⟨1, 2⟩, ⟨1, 3⟩]
  userRoles := [⟨21, 31, 1, ⟨.organization, some 10, none, none, none⟩, none, true⟩]
  overrides := []
  organizationRoles := []

theorem editing_sound : Sound editing :=
  ⟨consistent_of_check (by decide +kernel), by unfold Database.Linked; decide +kernel, by decide +kernel,
    by decide +kernel⟩

def editorRequest : Request := ⟨31, ⟨none, none, none⟩, ⟨some 10, none, none⟩, false⟩

def assignAt (newId location : Uuid) : Event :=
  ⟨0, editorRequest, .assignRoleToUser newId 32 1 ⟨.location, none, some location, none⟩ none⟩

def denyAt (newId : Uuid) : Event :=
  ⟨1, editorRequest, .grantPermissionOverride newId 32 roleAssignPermission .deny
    ⟨.router, some 10, some 100, some 1000⟩ none⟩

def atRouter : ScopeContext := ⟨some 10, some 100, some 1000⟩

def siteHundred : ScopeContext := ⟨some 10, some 100, none⟩

/-- A role is given to user 32 at a location, by a user who has what it carries in all of the organization. -/
theorem no_escalation_iff_assigned :
    ∃ after, step Tenancy.twoTenants 1 editing (assignAt 22 100) = some after ∧
      acceptsAt ⟨1, 0⟩ after 32 roleAssignPermission siteHundred = true ∧
      Contains Tenancy.twoTenants ⟨1, 0⟩ ⟨editing, assignAt 22 100, after⟩ ∧
      ∃ holder, (holder = 31 ∨ holder = 32) ∧ acceptsAt ⟨1, 0⟩ editing holder roleAssignPermission siteHundred = true := by
  have seen : (step Tenancy.twoTenants 1 editing (assignAt 22 100)).any
      (fun after => acceptsAt ⟨1, 0⟩ after 32 roleAssignPermission siteHundred) = true := by decide +kernel
  obtain ⟨after, stepped, accepted⟩ := (Option.any_eq_true _ _).mp seen
  have plain : isBypassed ⟨1, 0⟩ editing (assignAt 22 100) = false := rfl
  have contained : isContained Tenancy.twoTenants ⟨1, 0⟩ editing (assignAt 22 100) = true := by decide +kernel
  obtain ⟨exact, group⟩ := no_escalation_iff Tenancy.twoTenants 1 editing editing_sound
  refine ⟨after, stepped, accepted, (exact _ after rfl stepped).mpr contained, ?_⟩
  exact group 0 (fun userId => userId = 31 ∨ userId = 32) _ after (.next .start ⟨.inl rfl, plain, contained⟩ stepped) 32
    (.inr rfl) roleAssignPermission siteHundred (by decide) accepted

def invoicesRead : Text := "invoices.read".toList

def wholeTen : ScopeContext := ⟨some 10, none, none⟩

def editOwnRole : Event := ⟨0, editorRequest, .updateRole 2 1 ⟨false, none, none, some [invoicesRead]⟩⟩

/-- Whoever may edit roles attaches a permission that he does not have to the role that he holds. -/
theorem edit_escalates :
    ∃ after, step Tenancy.twoTenants 1 editing editOwnRole = some after ∧
      acceptsAt ⟨1, 0⟩ editing 31 invoicesRead wholeTen = false ∧
      acceptsAt ⟨1, 0⟩ after 31 invoicesRead wholeTen = true ∧
      ¬ Contains Tenancy.twoTenants ⟨1, 0⟩ ⟨editing, editOwnRole, after⟩ := by
  have seen : (step Tenancy.twoTenants 1 editing editOwnRole).any
      (fun after => acceptsAt ⟨1, 0⟩ after 31 invoicesRead wholeTen) = true := by decide +kernel
  obtain ⟨after, stepped, accepted⟩ := (Option.any_eq_true _ _).mp seen
  have refused : acceptsAt ⟨1, 0⟩ editing 31 invoicesRead wholeTen = false := by decide +kernel
  refine ⟨after, stepped, refused, accepted, ?_⟩
  rintro (bypassed | gives)
  · cases bypassed
  · -- He is the caller himself, so he would have had it before.
    have held : acceptsAt ⟨1, 0⟩ editing 31 invoicesRead wholeTen = true :=
      gives 31 invoicesRead wholeTen (by decide) accepted refused
    rw [refused] at held
    cases held

/-- A role at a location is given, denied at a router, and the denial is ended: user 32 may assign roles there
as user 31 may. -/
theorem calls_give_what_is_held_assigned :
    ∃ trace final, Traced (step Tenancy.twoTenants 1) (fun state event => event.request.userId = 31 ∧
        isBypassed ⟨1, 5⟩ state event = false ∧ isContained Tenancy.twoTenants ⟨1, 5⟩ state event = true)
        editing trace final ∧
      acceptsAt ⟨1, 5⟩ final 32 roleAssignPermission atRouter = true ∧
      (acceptsAt ⟨1, 5⟩ editing 32 roleAssignPermission atRouter = true ∨
        ∃ holder, holder = 31 ∧ acceptsAt ⟨1, 5⟩ editing holder roleAssignPermission atRouter = true) := by
  obtain ⟨final, reached, seen⟩ := run_observed (step Tenancy.twoTenants 1) editing
    (fun state event => decide (event.request.userId = 31) && !isBypassed ⟨1, 5⟩ state event &&
      isContained Tenancy.twoTenants ⟨1, 5⟩ state event)
    (fun db => acceptsAt ⟨1, 5⟩ db 32 roleAssignPermission atRouter)
    (fun state event checked => by simpa [and_assoc] using checked)
    [assignAt 22 100, denyAt 51, ⟨2, editorRequest, .revokePermissionOverride 51⟩] (by decide +kernel)
  obtain ⟨trace, traced⟩ := reached.traced
  refine ⟨trace, final, traced, seen, ?_⟩
  exact (calls_give_what_is_held Tenancy.twoTenants ⟨1, 5⟩ editing editing_sound).2 (· = 31) trace final traced
    32 roleAssignPermission atRouter (by decide) seen

end Executed

end CloudGuest.Rbac.Escalation
