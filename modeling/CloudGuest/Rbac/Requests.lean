import CloudGuest.Rbac.Roles

/-!
What a request may do before its handler runs (rbac/dependencies.py): the scope that
it acts in, from the ids of its URL and of its headers, the permission at that scope,
and the organization that its data is confined to.
-/

namespace CloudGuest.Rbac
open Texts Uuids

/-! ### Containment (location/models.py, router/models.py) -/

structure Location where
  id : Uuid
  organizationId : Uuid

structure Router where
  id : Uuid
  locationId : Uuid
  organizationId : Uuid

/-- The organizations, who is an active member of them, and where the devices stand. -/
structure Estate where
  organizations : List Uuid
  activeMembers : List (Uuid × Uuid)
  locations : List Location
  routers : List Router

variable (estate : Estate)

def Estate.locationOwner (id : Uuid) : Option Uuid :=
  (estate.locations.find? fun location => location.id = id).map Location.organizationId

def Estate.routerOwner (id : Uuid) : Option (Uuid × Uuid) :=
  (estate.routers.find? fun router => router.id = id).map fun router =>
    (router.locationId, router.organizationId)

/-! ### Requests -/

structure Request where
  userId : Uuid
  /-- The ids that the path and the query name. -/
  named : ScopeContext
  headers : ScopeContext
  /-- It asks for all organizations, in a header or in the query. -/
  asksForAll : Bool

def Estate.currentScopeContext (request : Request) : ScopeContext :=
  -- `_current_scope_context`. A router or a location that exists decides what is above it.
  let organizationId := request.named.organizationId.or request.headers.organizationId
  let locationId := request.named.locationId.or request.headers.locationId
  match request.named.routerId.or request.headers.routerId with
  | some router =>
      match estate.routerOwner router with
      | some (location, organization) => ⟨some organization, some location, some router⟩
      | none => ⟨organizationId, locationId, some router⟩
  | none =>
      match locationId.bind estate.locationOwner with
      | some organization => ⟨some organization, locationId, none⟩
      | none => ⟨organizationId, locationId, none⟩

def inferScopeType (context : ScopeContext) : ScopeType :=
  if context.routerId.isSome then .router
  else if context.locationId.isSome then .location
  else if context.organizationId.isSome then .organization
  else .global

inductive Refusal where
  | permissionDenied
  | crossOrganizationScopeDenied
  | unspecifiedOrganizationScope
  | missingScopeContext
  | organizationNotFound
  | organizationMembershipRequired
  /-- The entity is another organization's, or at a location that the caller is not confined to. -/
  | crossOrganizationAccess
  /-- What the handler raises. -/
  | fault (fault : Fault)
  deriving DecidableEq

def refuseUnless (refusal : Refusal) (test : Bool) : Except Refusal Unit :=
  if test then .ok () else .error refusal

def serve {Value : Type} : Except Fault Value → Except Refusal Value
  | .ok value => .ok value
  | .error fault => .error (.fault fault)

variable (db : Database)

def Database.requirePermission (setting : Setting) (key : Text) (request : Request) :
    Except Refusal Unit :=
  -- `RequirePermission`, where the route does not set the scope.
  let context := estate.currentScopeContext request
  refuseUnless .permissionDenied (db.accepts setting request.userId key (inferScopeType context) context)

def Database.holdsGlobalRole (setting : Setting) (userId : Uuid) : Bool :=
  (db.getActiveAssignments userId setting.now).any fun item => item.2.scopeType = .global

def Request.organization (request : Request) : Option Uuid :=
  request.named.organizationId.or request.headers.organizationId

def Database.currentOrganization (setting : Setting) (request : Request) : Except Refusal (Option Uuid) :=
  match request.organization with
  | none =>
      if request.asksForAll then do
        refuseUnless .crossOrganizationScopeDenied (db.holdsGlobalRole setting request.userId)
        return none
      else if db.holdsGlobalRole setting request.userId then .error .unspecifiedOrganizationScope
      else .error .missingScopeContext
  | some organization => do
      refuseUnless .organizationNotFound (organization ∈ estate.organizations)
      refuseUnless .organizationMembershipRequired (db.holdsGlobalRole setting request.userId ||
        (organization, request.userId) ∈ estate.activeMembers)
      return some organization

theorem refuseUnless_ok {refusal : Refusal} {test : Bool} {value : Unit} :
    refuseUnless refusal test = .ok value ↔ test = true := by
  unfold refuseUnless
  split <;> simp_all

theorem serve_ok {Value : Type} {call : Except Fault Value} {value : Value} :
    serve call = .ok value ↔ call = .ok value := by
  cases call <;> simp [serve]

theorem currentOrganization_eq {estate : Estate} {db : Database} {setting : Setting} {request : Request}
    {requesting : Option Uuid} (found : db.currentOrganization estate setting request = .ok requesting) :
    requesting = request.organization := by
  unfold Database.currentOrganization at found
  split at found
  · next nothing =>
      rw [nothing]
      split at found
      · obtain ⟨_, -, returned⟩ := Faults.bind_ok.mp found
        exact (Except.ok.inj returned).symm
      · split at found <;> cases found
  · next organization named =>
      rw [named]
      obtain ⟨_, -, found⟩ := Faults.bind_ok.mp found
      obtain ⟨_, -, returned⟩ := Faults.bind_ok.mp found
      exact (Except.ok.inj returned).symm

/-! ### Wider and narrower scopes -/

def ScopeContext.within (inner outer : ScopeContext) : Bool :=
  outer.organizationId.all (inner.organizationId = some ·) &&
    outer.locationId.all (inner.locationId = some ·) && outer.routerId.all (inner.routerId = some ·)

section Narrowing

variable {outerType innerType : ScopeType} {outer inner : ScopeContext}

theorem namesSame_iff {granted requested : Option Uuid} :
    namesSame granted requested = true ↔ ∃ id, granted = some id ∧ requested = some id := by
  cases granted <;> cases requested <;> simp [namesSame, eq_comm]

inductive Shares (grant : GrantScope) (context : ScopeContext) : Prop where
  | organization (id : Uuid) (reach : grant.scopeType = .organization)
      (given : grant.organizationId = some id) (asked : context.organizationId = some id)
  | location (id : Uuid) (reach : grant.scopeType = .location)
      (given : grant.locationId = some id) (asked : context.locationId = some id)
  | router (id : Uuid) (reach : grant.scopeType = .router)
      (given : grant.routerId = some id) (asked : context.routerId = some id)

theorem satisfies_iff {grant : GrantScope} {scopeType : ScopeType} {context : ScopeContext} :
    satisfies grant scopeType context = true ↔
      grant.scopeType = .global ∨ grant.scopeType.order ≤ scopeType.order ∧ Shares grant context := by
  unfold satisfies
  constructor
  · intro covered
    split at covered
    · next whole => exact .inl whole
    · next bounded =>
        split at covered
        · cases covered
        · next deep =>
            refine .inr ⟨Nat.le_of_not_lt deep, ?_⟩
            split at covered
            · next reach =>
                obtain ⟨id, given, asked⟩ := namesSame_iff.mp covered
                exact .organization id reach given asked
            · next reach =>
                obtain ⟨id, given, asked⟩ := namesSame_iff.mp covered
                exact .location id reach given asked
            · next reach =>
                obtain ⟨id, given, asked⟩ := namesSame_iff.mp covered
                exact .router id reach given asked
            · cases covered
  · rintro (whole | ⟨deep, shared⟩)
    · rw [if_pos whole]
    · have reached : ¬ scopeType.order < grant.scopeType.order := Nat.not_lt_of_le deep
      cases shared with
      | organization id reach given asked => simp [reach, given, asked, reach ▸ reached, namesSame]
      | location id reach given asked => simp [reach, given, asked, reach ▸ reached, namesSame]
      | router id reach given asked => simp [reach, given, asked, reach ▸ reached, namesSame]

theorem within_eq {wide narrow : Option Uuid} {id : Uuid} (inside : wide.all (narrow = some ·) = true)
    (asked : wide = some id) : narrow = some id := by
  simpa [asked] using inside

theorem satisfies_within {grant : GrantScope} (narrower : outerType.order ≤ innerType.order)
    (inside : inner.within outer = true) (covered : satisfies grant outerType outer = true) :
    satisfies grant innerType inner = true := by
  simp only [ScopeContext.within, Bool.and_eq_true] at inside
  obtain ⟨⟨organization, location⟩, router⟩ := inside
  rcases satisfies_iff.mp covered with whole | ⟨deep, shared⟩
  · exact satisfies_iff.mpr (.inl whole)
  · refine satisfies_iff.mpr (.inr ⟨deep.trans narrower, ?_⟩)
    cases shared with
    | organization id reach given asked => exact .organization id reach given (within_eq organization asked)
    | location id reach given asked => exact .location id reach given (within_eq location asked)
    | router id reach given asked => exact .router id reach given (within_eq router asked)

theorem satisfies_global {grant : GrantScope} (covered : satisfies grant .global outer = true) :
    grant.scopeType = .global := by
  rcases satisfies_iff.mp covered with whole | ⟨deep, shared⟩
  · exact whole
  · cases shared with
    | organization id reach given asked => simp [reach, ScopeType.order] at deep
    | location id reach given asked => simp [reach, ScopeType.order] at deep
    | router id reach given asked => simp [reach, ScopeType.order] at deep

variable {db} {setting : Setting} {userId : Uuid} {key : Text}

def Database.denies (db : Database) (setting : Setting) (userId : Uuid) (key : Text) (scopeType : ScopeType)
    (context : ScopeContext) : Bool :=
  (db.resolve setting.maxParentRoleDepth userId setting.now).deny.any fun grant =>
    grant.covers key scopeType context

theorem accepts_iff : db.accepts setting userId key outerType outer = true ↔
    db.denies setting userId key outerType outer = false ∧
      ∃ grant ∈ (db.resolve setting.maxParentRoleDepth userId setting.now).allow,
        grant.permissionKey = key ∧ satisfies grant.scope outerType outer = true := by
  simp only [Database.accepts, EffectiveGrants.hasPermission, Database.denies]
  split
  · next denied => simp [denied]
  · next passed =>
      rw [Bool.not_eq_true] at passed
      rw [passed]
      simp only [true_and, List.any_eq_true, EffectiveGrant.covers, Bool.and_eq_true, decide_eq_true_eq]

theorem accepts_within (narrower : outerType.order ≤ innerType.order) (inside : inner.within outer = true)
    (accepted : db.accepts setting userId key outerType outer = true)
    (free : db.denies setting userId key innerType inner = false) :
    db.accepts setting userId key innerType inner = true := by
  -- Whoever is accepted in a scope is accepted within it, unless a deny covers the narrower one.
  obtain ⟨-, grant, listed, named, covered⟩ := accepts_iff.mp accepted
  exact accepts_iff.mpr ⟨free, grant, listed, named, satisfies_within narrower inside covered⟩

end Narrowing

end CloudGuest.Rbac
