import CloudGuest.Policies.Assignments

/-!
Which policy applies (`PolicyResolver`, `resolve_effective_policy`) and which access
tier a guest is in (`resolve_access_tier`). Both take the greatest usable assignment;
the tier counts those of the organization and of the platform only, and passes over a
policy whose version is gone.
-/

namespace CloudGuest.Policies
open Texts Uuids Tables Rbac Sorting

variable (db : Database)

/-! ### Resolution -/

def platformDefaultRules : PolicyType → Rules
  | .session => [("session_timeout_minutes".toList, .number "240".toList),
      ("max_concurrent_sessions_per_guest".toList, .number "20".toList),
      ("idle_timeout_minutes".toList, .number "30".toList),
      ("termination_reconnect_cooldown_minutes".toList, .number "60".toList),
      ("reconnect_grace_minutes".toList, .number "30".toList)]
  | .authn => [("max_attempts_per_window".toList, .number "30".toList),
      ("window_minutes".toList, .number "1".toList)]
  | .device => [("max_devices_per_guest".toList, .number "3".toList),
      ("require_known_device".toList, .bool false)]
  | _ => []

structure ResolvedPolicy where
  policyType : PolicyType
  organizationId : Option Uuid
  locationId : Option Uuid
  rules : Rules
  source : Text
  userId : Option Uuid
  guestId : Option Uuid

def Database.parentOf (tenant : Uuid) : Option Uuid :=
  match db.getOrganization tenant false with
  | .ok organization => organization.parentOrganizationId
  | .error _ => none

/-- The organization that a policy belongs to is none, the tenant, or its parent. -/
def Database.isRelated (tenant : Uuid) (owner : Option Uuid) : Bool :=
  owner = none || owner = some tenant || ((db.parentOf tenant).isSome && owner = db.parentOf tenant)

def Database.dropForeignCandidates (candidates : List PolicyAssignment) (tenant : Option Uuid) :
    List PolicyAssignment :=
  match tenant with
  | none => candidates
  | some tenant => candidates.filter fun assignment =>
      db.isRelated tenant ((db.getPolicyById assignment.policyId).bind Policy.organizationId)

def resolve (candidates : List PolicyAssignment) : Option PolicyAssignment := largest resolutionKey candidates

def Database.winner (request : Request) (tenant : Option Uuid) : Option PolicyAssignment :=
  resolve (db.dropForeignCandidates (db.listCandidateAssignments request) tenant)

def idText (id : Option Uuid) : Text := id.elim "None".toList uuidText

def targetText : TargetType → Text
  | .none => "none".toList
  | .user => "user".toList
  | .role => "role".toList
  | .guest => "guest".toList
  | .members => "members".toList

def scopeText : ScopeType → Text
  | .global => "global".toList
  | .organization => "organization".toList
  | .location => "location".toList
  | .router => "router".toList
  | .device => "device".toList

def sourceText (winner : PolicyAssignment) (policy : Policy) : Text :=
  if winner.targetType ≠ .none then targetText winner.targetType ++ ':' :: idText winner.targetId
  else if winner.scopeId.isSome then scopeText winner.scopeType ++ ':' :: idText winner.scopeId
  else scopeText winner.scopeType ++ ':' :: uuidText policy.id

def Database.rulesOf (request : Request) (winner : Option PolicyAssignment) : Rules × Text :=
  match winner.bind fun assignment => (db.getPolicyById assignment.policyId).map (assignment, ·) with
  | none => (platformDefaultRules request.policyType, "platform_default".toList)
  | some (assignment, policy) =>
      match policy.currentVersionId with
      | none => (platformDefaultRules request.policyType, "platform_default".toList)
      | some version =>
          (((db.getVersionById version).map PolicyVersion.rules).getD [], sourceText assignment policy)

def Database.tenantOf (request : Request) : Except Fault (Option Uuid) :=
  -- Whose policies count: the requesting organization's, or else the location's.
  match request.locationId, request.organizationId with
  | none, organization => .ok organization
  | some location, some organization => do
      let _ ← db.getLocation location (some organization)
      return some organization
  | some location, none => return some (← db.getLocation location none).organizationId

def Database.resolveEffectivePolicy (request : Request) : Except Fault ResolvedPolicy := do
  let tenant ← db.tenantOf request
  let (rules, source) := db.rulesOf request (db.winner request tenant)
  return ⟨request.policyType, request.organizationId, request.locationId, rules, source, request.userId,
    request.guestId⟩

structure AccessTier where
  policyId : Uuid
  name : Text
  rules : Rules

def Database.tierOf (organization : Uuid) (assignment : PolicyAssignment) : Option AccessTier := do
  let policy ← db.getPolicyById assignment.policyId
  let versionId ← policy.currentVersionId
  guard (policy.organizationId = none || policy.organizationId = some organization)
  let version ← db.getVersionById versionId
  return ⟨policy.id, policy.name, version.rules⟩

def Database.resolveAccessTier (organizationId locationId guestId : Option Uuid) : Option AccessTier := do
  let guest ← guestId
  let organization ← organizationId
  let candidates := db.listCandidateAssignments
    ⟨.bandwidth, some organization, locationId, none, [], some guest⟩
  let mapped := candidates.filter fun assignment =>
    assignment.targetType = .guest && assignment.targetId = some guest
  (sortDescending resolutionKey mapped).findSome? (db.tierOf organization)

/-! ### The winner -/

variable {db} {request : Request} {tenant : Uuid} {assignment : PolicyAssignment}

/-- A usable assignment of a policy of the platform, of the tenant, or of its parent. -/
def Database.IsEligible (db : Database) (request : Request) (tenant : Uuid) (assignment : PolicyAssignment) :
    Prop :=
  assignment ∈ db.assignments.rows ∧ assignment.isActive = true ∧ assignment.isDeleted = false ∧
    request.matchesScope assignment = true ∧ request.matchesTarget assignment = true ∧
    ∃ policy ∈ db.policies.rows, policy.id = assignment.policyId ∧
      policy.isUsable request.policyType = true ∧ db.isRelated tenant policy.organizationId = true

theorem find_iff {Row : Type} {idOf : Row → Uuid} (table : Table idOf) {id : Uuid} {row : Row} :
    table.find id = some row ↔ row ∈ table.rows ∧ idOf row = id := by
  constructor
  · exact find_mem table id row
  · rintro ⟨listed, rfl⟩
    exact find_of_mem table row listed

theorem isUsable_kept {policyType : PolicyType} {policy : Policy} (usable : policy.isUsable policyType = true) :
    policy.isDeleted = false ∧ ∃ version, policy.currentVersionId = some version := by
  simp only [Policy.isUsable, Bool.and_eq_true, Bool.not_eq_true', Option.isSome_iff_exists] at usable
  exact ⟨usable.1.1.2, usable.2⟩

theorem getPolicyById_usable {policyType : PolicyType} {policy : Policy} {id : Uuid}
    (found : db.policies.find id = some policy) (usable : policy.isUsable policyType = true) :
    db.getPolicyById id = some policy := by
  rw [Database.getPolicyById, found, Option.filter_some, (isUsable_kept usable).1]
  rfl

theorem mem_candidates : assignment ∈ db.listCandidateAssignments request ↔
    assignment ∈ db.assignments.rows ∧ assignment.isActive = true ∧ assignment.isDeleted = false ∧
      request.matchesScope assignment = true ∧ request.matchesTarget assignment = true ∧
      ∃ policy, db.policies.find assignment.policyId = some policy ∧
        policy.isUsable request.policyType = true := by
  simp only [Database.listCandidateAssignments, Database.isCandidate, List.mem_filter, Bool.and_eq_true,
    Bool.not_eq_true', Option.any_eq_true]
  tauto

theorem mem_kept : assignment ∈ db.dropForeignCandidates (db.listCandidateAssignments request) (some tenant) ↔
    db.IsEligible request tenant assignment := by
  rw [Database.dropForeignCandidates, List.mem_filter, mem_candidates]
  constructor
  · rintro ⟨⟨listed, active, kept, scope, target, policy, found, usable⟩, related⟩
    rw [getPolicyById_usable found usable, Option.bind_some] at related
    obtain ⟨present, same⟩ := (find_iff db.policies).mp found
    exact ⟨listed, active, kept, scope, target, policy, present, same, usable, related⟩
  · rintro ⟨listed, active, kept, scope, target, policy, present, same, usable, related⟩
    have found : db.policies.find assignment.policyId = some policy :=
      (find_iff db.policies).mpr ⟨present, same⟩
    refine ⟨⟨listed, active, kept, scope, target, policy, found, usable⟩, ?_⟩
    rw [getPolicyById_usable found usable, Option.bind_some]
    exact related

theorem winner_greatest : db.winner request (some tenant) = some assignment ↔
    Greatest resolutionKey (db.IsEligible request tenant) assignment := by
  have listed : ∀ item ∈ db.dropForeignCandidates (db.listCandidateAssignments request) (some tenant),
      item ∈ db.assignments.rows := fun item kept => (mem_kept.mp kept).1
  exact (largest_greatest (separates_assignments db listed)).trans (Greatest.congr fun _ => mem_kept)

/-! ### The tier -/

def Database.IsTierMapping (db : Database) (organization : Uuid) (location : Option Uuid) (guest : Uuid)
    (assignment : PolicyAssignment) : Prop :=
  assignment ∈ db.listCandidateAssignments ⟨.bandwidth, some organization, location, none, [], some guest⟩ ∧
    assignment.targetType = .guest ∧ (db.tierOf organization assignment).isSome = true

theorem findSome_find {Item Value : Type} (read : Item → Option Value) (items : List Item) :
    items.findSome? read = (items.find? fun item => (read item).isSome).bind read := by
  induction items with
  | nil => rfl
  | cons item rest ih =>
      rw [List.findSome?_cons, List.find?_cons]
      cases found : read item with
      | none => simpa using ih
      | some value => simp [found]

theorem tierOf_policyId {organization : Uuid} {tier : AccessTier}
    (read : db.tierOf organization assignment = some tier) : tier.policyId = assignment.policyId := by
  simp only [Database.tierOf, Option.bind_eq_bind, Option.bind_eq_some_iff] at read
  obtain ⟨policy, found, _, _, _, _, _, _, made⟩ := read
  obtain rfl := Option.some.inj made
  exact (find_mem db.policies assignment.policyId policy (Option.filter_eq_some_iff.mp found).1).2

theorem tier_greatest {organization guest : Uuid} {location : Option Uuid} {tier : AccessTier} :
    db.resolveAccessTier (some organization) location (some guest) = some tier ↔
      ∃ assignment, Greatest resolutionKey (db.IsTierMapping organization location guest) assignment ∧
        db.tierOf organization assignment = some tier := by
  have unfolded : db.resolveAccessTier (some organization) location (some guest) =
      (sortDescending resolutionKey ((db.listCandidateAssignments
        ⟨.bandwidth, some organization, location, none, [], some guest⟩).filter fun assignment =>
          assignment.targetType = .guest && assignment.targetId = some guest)).findSome?
        (db.tierOf organization) := rfl
  rw [unfolded, findSome_find, Option.bind_eq_some_iff]
  apply exists_congr
  intro assignment
  apply and_congr_left
  intro _
  rw [find_sortDescending]
  · apply Greatest.congr
    intro item
    rw [List.mem_filter, Database.IsTierMapping, Bool.and_eq_true, decide_eq_true_eq, decide_eq_true_eq,
      and_assoc]
    apply and_congr_right
    intro candidate
    constructor
    · rintro ⟨⟨guest, -⟩, read⟩
      exact ⟨guest, read⟩
    · rintro ⟨target, read⟩
      have matched := (mem_candidates.mp candidate).2.2.2.2.1
      simp only [Request.matchesTarget, target, names, Option.isSome_some, Bool.true_and,
        decide_eq_true_eq] at matched
      exact ⟨⟨target, matched⟩, read⟩
  · exact separates_assignments db fun item listed =>
      (mem_candidates.mp (List.mem_filter.mp listed).1).1

end CloudGuest.Policies
