import CloudGuest.Rbac.Requests

/-!
Entities that are reached by their own id (rbac/location_scope.py). The permission is
checked in the scope that the request names, before the entity is known; then the
entity's organization is compared with the request's, and its location with those of
the caller's assignments. Together they do what one check at the entity would do for a
request that names the entity's location or a router there, and for any other that
`isSafe` says of its headers, the caller's roles and his overrides.
-/

namespace CloudGuest.Rbac.Confinement
open Texts Uuids

structure Entity where
  organizationId : Uuid
  locationId : Option Uuid

variable (estate : Estate) (setting : Setting) (db : Database)

def isUnconstrained (scopeType : ScopeType) : Bool := scopeType = .global || scopeType = .organization

def callerLocationScope (userId : Uuid) : Option (List Uuid) :=
  let assignments := (db.getActiveAssignments userId setting.now).map Prod.fst
  if assignments.any fun row => isUnconstrained row.scope.scopeType then none
  else some (assignments.filterMap fun row => row.scope.locationId)

def enforceEntityLocation (entityLocationId : Option Uuid) (callerLocationScope : Option (List Uuid)) :
    Except Refusal Unit :=
  refuseUnless .crossOrganizationAccess
    (callerLocationScope.all fun locations => entityLocationId.all fun location => location ∈ locations)

def serveEntity (key : Text) (request : Request) (entity : Entity) : Except Refusal Unit := do
  db.requirePermission estate setting key request
  let requesting ← db.currentOrganization estate setting request
  refuseUnless .crossOrganizationAccess (requesting.all (entity.organizationId = ·))
  enforceEntityLocation entity.locationId (callerLocationScope setting db request.userId)

/-! ### One check at the entity -/

variable (organization location : Uuid)

def reaches (scope : GrantScope) : Bool :=
  match scope.scopeType with
  | .global => true
  | .organization => scope.organizationId = some organization
  | .location => scope.locationId = some location
  | .router => (scope.routerId.bind estate.routerOwner).map Prod.fst = some location
  | .device => false

def isAt (scope : GrantScope) : Bool :=
  match scope.scopeType with
  | .organization => scope.organizationId = some organization
  | .location => scope.locationId = some location
  | _ => false

/-- One allow of the permission reaches the entity, and no deny is at its organization or location. -/
structure MayReach (userId : Uuid) (key : Text) : Prop where
  allowed : ∃ grant ∈ (db.resolve setting.maxParentRoleDepth userId setting.now).allow,
    grant.permissionKey = key ∧ reaches estate organization location grant.scope = true
  undenied : ∀ grant ∈ (db.resolve setting.maxParentRoleDepth userId setting.now).deny,
    grant.permissionKey = key → isAt organization location grant.scope = false

def namesEntity (context : ScopeContext) : Bool :=
  -- The request names the entity's location, or a router there.
  match context.routerId with
  | some router => estate.routerOwner router = some (location, organization)
  | none => context.locationId = some location

/-- It names an organization at most. -/
def namesNoPlace (context : ScopeContext) : Bool := context.locationId.isNone && context.routerId.isNone

/-- A role of the caller's there, or above, carries the permission, or an override allows it. -/
def isHeldThere (userId : Uuid) (key : Text) : Bool :=
  ((db.getActiveAssignments userId setting.now).any fun item =>
    key ∈ db.resolveRolePermissionKeys setting.maxParentRoleDepth item.2.id &&
      reaches estate organization location item.1.scope) ||
  (db.overrideGrants userId setting.now).any fun grant =>
    grant.effect ≠ .deny && grant.permissionKey = key && reaches estate organization location grant.scope

/-- No override denies the permission at the location, nor at the organization unless the request names it. -/
def isUndeniedBeside (userId : Uuid) (key : Text) (context : ScopeContext) : Bool :=
  (db.overrideGrants userId setting.now).all fun grant =>
    grant.effect ≠ .deny || grant.permissionKey ≠ key ||
      match grant.scope.scopeType with
      | .organization => grant.scope.organizationId ≠ some organization ||
          context.organizationId = some organization
      | .location => grant.scope.locationId ≠ some location
      | _ => true

def isSafe (key : Text) (request : Request) : Bool :=
  let context := estate.currentScopeContext request
  namesEntity estate organization location context ||
    (namesNoPlace context || isHeldThere estate setting db organization location request.userId key) &&
      isUndeniedBeside setting db organization location request.userId key context

section Requests

variable {estate setting db organization location} {key : Text} {request : Request}

theorem serveEntity_ok {entity : Entity} (served : serveEntity estate setting db key request entity = .ok ()) :
    db.accepts setting request.userId key (inferScopeType (estate.currentScopeContext request))
      (estate.currentScopeContext request) = true ∧
    request.organization.all (entity.organizationId = ·) = true := by
  obtain ⟨_, permitted, served⟩ := Faults.bind_ok.mp served
  obtain ⟨requesting, confined, served⟩ := Faults.bind_ok.mp served
  obtain ⟨_, same, -⟩ := Faults.bind_ok.mp served
  rw [currentOrganization_eq confined] at same
  exact ⟨refuseUnless_ok.mp permitted, refuseUnless_ok.mp same⟩

theorem context_named (owned : estate.locationOwner location = some organization)
    (named : namesEntity estate organization location (estate.currentScopeContext request) = true) :
    (estate.currentScopeContext request).organizationId = some organization ∧
      (estate.currentScopeContext request).locationId = some location := by
  unfold namesEntity Estate.currentScopeContext at *
  cases router : request.named.routerId.or request.headers.routerId with
  | some id =>
      cases owner : estate.routerOwner id with
      | none => simp [router, owner] at named
      | some place => simp_all
  | none =>
      cases site : request.named.locationId.or request.headers.locationId with
      | none => simp [router, site] at named
      | some id =>
          have here : id = location := by
            cases owner : estate.locationOwner id <;> simpa [router, site, owner] using named
          simp [here, owned]

theorem context_placeless (nowhere : namesNoPlace (estate.currentScopeContext request) = true) :
    (estate.currentScopeContext request).organizationId = request.organization := by
  unfold namesNoPlace Estate.currentScopeContext at *
  cases router : request.named.routerId.or request.headers.routerId with
  | some id => cases owner : estate.routerOwner id <;> simp [router, owner] at nowhere
  | none =>
      cases site : request.named.locationId.or request.headers.locationId with
      | none => rfl
      | some id => cases owner : estate.locationOwner id <;> simp [router, site, owner] at nowhere

theorem reaches_named {grant : GrantScope} {scopeType : ScopeType} {context : ScopeContext}
    (inOrganization : context.organizationId = some organization) (atLocation : context.locationId = some location)
    (named : namesEntity estate organization location context = true)
    (covered : satisfies grant scopeType context = true) :
    reaches estate organization location grant = true := by
  rcases satisfies_iff.mp covered with whole | ⟨-, shared⟩
  · simp [reaches, whole]
  · cases shared with
    | organization id reach given asked =>
        simp [reaches, reach, given, Option.some.inj (asked.symm.trans inOrganization)]
    | location id reach given asked =>
        simp [reaches, reach, given, Option.some.inj (asked.symm.trans atLocation)]
    | router id reach given asked =>
        simp only [namesEntity, asked, decide_eq_true_eq] at named
        simp [reaches, reach, given, named]

theorem reaches_placeless {grant : GrantScope} {scopeType : ScopeType} {context : ScopeContext}
    (nowhere : namesNoPlace context = true) (same : context.organizationId.all (organization = ·) = true)
    (covered : satisfies grant scopeType context = true) :
    reaches estate organization location grant = true := by
  simp only [namesNoPlace, Bool.and_eq_true, Option.isNone_iff_eq_none] at nowhere
  rcases satisfies_iff.mp covered with whole | ⟨-, shared⟩
  · simp [reaches, whole]
  · cases shared with
    | organization id reach given asked =>
        rw [asked, Option.all_some, decide_eq_true_eq] at same
        simp [reaches, reach, given, same]
    | location id reach given asked =>
        rw [nowhere.1] at asked
        cases asked
    | router id reach given asked =>
        rw [nowhere.2] at asked
        cases asked

theorem covers_named {grant : GrantScope} {context : ScopeContext}
    (inOrganization : context.organizationId = some organization) (atLocation : context.locationId = some location)
    (here : isAt organization location grant = true) :
    satisfies grant (inferScopeType context) context = true := by
  have deep : ScopeType.location.order ≤ (inferScopeType context).order := by
    unfold inferScopeType
    split
    · exact Nat.le_succ 2
    · rw [if_pos (by simp [atLocation])]
  unfold isAt at here
  split at here
  · next reach =>
      refine satisfies_iff.mpr (.inr ⟨?_, .organization organization reach (of_decide_eq_true here) inOrganization⟩)
      rw [reach]
      exact Nat.le_trans (Nat.le_succ 1) deep
  · next reach =>
      refine satisfies_iff.mpr (.inr ⟨?_, .location location reach (of_decide_eq_true here) atLocation⟩)
      rw [reach]
      exact deep
  · cases here

theorem covers_organization {grant : GrantScope} {context : ScopeContext} (reach : grant.scopeType = .organization)
    (given : grant.organizationId = some organization) (named : context.organizationId = some organization) :
    satisfies grant (inferScopeType context) context = true := by
  refine satisfies_iff.mpr (.inr ⟨?_, .organization organization reach given named⟩)
  rw [reach]
  unfold inferScopeType
  split
  · exact Nat.le_add_left 1 2
  · split
    · exact Nat.le_succ 1
    · rw [if_pos (by simp [named])]

theorem held_iff {userId : Uuid} : isHeldThere estate setting db organization location userId key = true ↔
    ∃ grant ∈ (db.resolve setting.maxParentRoleDepth userId setting.now).allow,
      grant.permissionKey = key ∧ reaches estate organization location grant.scope = true := by
  simp only [isHeldThere, Bool.or_eq_true, List.any_eq_true, Bool.and_eq_true, decide_eq_true_eq, Database.resolve,
    List.mem_append, List.mem_flatMap, List.mem_filter, roleGrants, List.mem_map]
  constructor
  · rintro (⟨item, listed, carried, there⟩ | ⟨grant, listed, ⟨allows, named⟩, there⟩)
    · exact ⟨_, .inl ⟨item, listed, key, carried, rfl⟩, rfl, there⟩
    · exact ⟨grant, .inr ⟨listed, allows⟩, named, there⟩
  · rintro ⟨grant, ⟨item, listed, other, carried, rfl⟩ | ⟨listed, allows⟩, named, there⟩
    · exact .inl ⟨item, listed, named ▸ carried, there⟩
    · exact .inr ⟨grant, listed, ⟨allows, named⟩, there⟩

theorem undenied_grant {userId : Uuid} {scopeType : ScopeType} {context : ScopeContext} {grant : EffectiveGrant}
    (free : db.denies setting userId key scopeType context = false)
    (present : grant ∈ (db.resolve setting.maxParentRoleDepth userId setting.now).deny)
    (asked : grant.permissionKey = key) (covered : satisfies grant.scope scopeType context = true) : False := by
  have denied : db.denies setting userId key scopeType context = true :=
    List.any_eq_true.mpr ⟨grant, present, by simp [EffectiveGrant.covers, asked, covered]⟩
  rw [free] at denied
  cases denied

theorem confined_named (owned : estate.locationOwner location = some organization)
    (named : namesEntity estate organization location (estate.currentScopeContext request) = true)
    (accepted : db.accepts setting request.userId key (inferScopeType (estate.currentScopeContext request))
      (estate.currentScopeContext request) = true) :
    MayReach estate setting db organization location request.userId key := by
  -- Whatever the caller's roles and overrides, a request that is let in and names the entity's
  -- location does what a check at the entity would do.
  obtain ⟨inOrganization, atLocation⟩ := context_named owned named
  obtain ⟨free, grant, listed, same, covered⟩ := accepts_iff.mp accepted
  constructor
  · exact ⟨grant, listed, same, reaches_named inOrganization atLocation named covered⟩
  · intro deny present asked
    by_contra here
    rw [Bool.not_eq_false] at here
    exact undenied_grant free present asked (covers_named inOrganization atLocation here)

theorem undenied_iff {userId : Uuid} {context : ScopeContext}
    (free : db.denies setting userId key (inferScopeType context) context = false) :
    isUndeniedBeside setting db organization location userId key context = true ↔
      ∀ grant ∈ (db.resolve setting.maxParentRoleDepth userId setting.now).deny,
        grant.permissionKey = key → isAt organization location grant.scope = false := by
  simp only [isUndeniedBeside, List.all_eq_true, Bool.or_eq_true, decide_eq_true_eq, Database.resolve,
    List.mem_filter]
  constructor
  · rintro beside grant ⟨listed, denies⟩ asked
    have apart := (beside grant listed).resolve_left
      (not_or.mpr ⟨fun other => other denies, fun other => other asked⟩)
    unfold isAt
    split at apart
    · next reach =>
        simp only [Bool.or_eq_true, decide_eq_true_eq] at apart
        refine decide_eq_false fun given => ?_
        -- a deny at an organization that the request names would have refused it
        refine undenied_grant free (List.mem_filter.mpr ⟨listed, decide_eq_true denies⟩) asked ?_
        exact covers_organization reach given (apart.resolve_left fun other => other given)
    · exact decide_eq_false (of_decide_eq_true apart)
    · rfl
  · intro away grant listed
    by_cases denies : grant.effect = .deny
    · by_cases asked : grant.permissionKey = key
      · refine .inr ?_
        have apart := away grant ⟨listed, denies⟩ asked
        unfold isAt at apart
        split
        · next reach =>
            rw [reach] at apart
            simp [of_decide_eq_false apart]
        · next reach =>
            rw [reach] at apart
            exact decide_eq_true (of_decide_eq_false apart)
        · rfl
      · exact .inl (.inr asked)
    · exact .inl (.inl denies)

/-- A request that is let in does what a check at the entity would do exactly if it is safe. -/
theorem confined_iff (estate : Estate) (setting : Setting) (db : Database) (key : Text) (request : Request)
    (organization location : Uuid) (owned : estate.locationOwner location = some organization)
    (served : serveEntity estate setting db key request ⟨organization, some location⟩ = .ok ()) :
    MayReach estate setting db organization location request.userId key ↔
      isSafe estate setting db organization location key request = true := by
  obtain ⟨accepted, same⟩ := serveEntity_ok served
  obtain ⟨free, grant, listed, asked, covered⟩ := accepts_iff.mp accepted
  simp only [isSafe, Bool.or_eq_true, Bool.and_eq_true]
  constructor
  · rintro ⟨allowed, undenied⟩
    exact .inr ⟨.inr (held_iff.mpr allowed), (undenied_iff free).mpr undenied⟩
  · rintro (named | ⟨nowhere | held, beside⟩)
    · exact confined_named owned named accepted
    · refine ⟨⟨grant, listed, asked, reaches_placeless nowhere ?_ covered⟩, (undenied_iff free).mp beside⟩
      rw [context_placeless nowhere]
      exact same
    · exact ⟨held_iff.mp held, (undenied_iff free).mp beside⟩

end Requests

section Executed

def twoSites : Estate where
  organizations := [10]
  activeMembers := [(10, 31)]
  locations := [⟨100, 10⟩, ⟨101, 10⟩]
  routers := []

def readKey : Text := "vlans.read".toList

def siteRole (id : Uuid) (scopeType : ScopeType) : Role :=
  ⟨id, uuidText id, false, false, true, false, scopeType, some 10, none, []⟩

def broadAndNarrow (overrides : List PermissionOverride) : Database where
  permissions := [⟨1, readKey, true, false, []⟩]
  roles := [siteRole 1 .organization, siteRole 2 .location]
  rolePermissions := [⟨2, 1⟩]
  userRoles := [⟨21, 31, 1, ⟨.organization, some 10, none, none, none⟩, none, true⟩,
    ⟨22, 31, 2, ⟨.location, some 10, some 100, none, none⟩, none, true⟩]
  overrides := overrides
  organizationRoles := []

def allowWhole : PermissionOverride := ⟨51, 31, 1, .allow, ⟨.organization, some 10, none, none, none⟩, none, true⟩

def denySite : PermissionOverride := ⟨52, 31, 1, .deny, ⟨.location, some 10, some 101, none, none⟩, none, true⟩

def fromSite : Request := ⟨31, ⟨none, none, none⟩, ⟨some 10, some 100, none⟩, false⟩

def opened : Setting := ⟨1, 0⟩

theorem confined_iff_own :
    serveEntity twoSites opened (broadAndNarrow [denySite]) readKey fromSite ⟨10, some 100⟩ = .ok () ∧
      MayReach twoSites opened (broadAndNarrow [denySite]) 10 100 31 readKey := by
  have served : serveEntity twoSites opened (broadAndNarrow [denySite]) readKey fromSite ⟨10, some 100⟩ = .ok () := by
    decide +kernel
  exact ⟨served, (confined_iff twoSites opened (broadAndNarrow [denySite]) readKey fromSite 10 100
    (by decide +kernel) served).mpr (by decide +kernel)⟩

/-- From one location, a permission that is only held there serves for the other; and so does one that is denied
at the other. -/
theorem confinement_shed :
    (serveEntity twoSites opened (broadAndNarrow []) readKey fromSite ⟨10, some 101⟩ = .ok () ∧
      ¬ MayReach twoSites opened (broadAndNarrow []) 10 101 31 readKey) ∧
    serveEntity twoSites opened (broadAndNarrow [allowWhole, denySite]) readKey fromSite ⟨10, some 101⟩ = .ok () ∧
      ¬ MayReach twoSites opened (broadAndNarrow [allowWhole, denySite]) 10 101 31 readKey := by
  refine ⟨⟨by decide +kernel, fun may => ?_⟩, by decide +kernel, fun may => ?_⟩
  · obtain ⟨grant, listed, named, reached⟩ := may.allowed
    have elsewhere : ((broadAndNarrow []).resolve 1 31 0).allow.all (fun grant =>
        grant.permissionKey ≠ readKey || !reaches twoSites 10 101 grant.scope) = true := by decide +kernel
    rcases (Bool.or_eq_true _ _).mp (List.all_eq_true.mp elsewhere grant listed) with other | missed
    · exact of_decide_eq_true other named
    · rw [reached] at missed
      cases missed
  · have one : ((broadAndNarrow [allowWhole, denySite]).resolve 1 31 0).deny.any (fun grant =>
        grant.permissionKey = readKey && isAt 10 101 grant.scope) = true := by decide +kernel
    obtain ⟨grant, listed, seen⟩ := List.any_eq_true.mp one
    simp only [Bool.and_eq_true, decide_eq_true_eq] at seen
    have away := may.undenied grant listed seen.1
    rw [seen.2] at away
    cases away

end Executed

end CloudGuest.Rbac.Confinement
