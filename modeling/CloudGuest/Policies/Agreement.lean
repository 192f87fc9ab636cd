import CloudGuest.Policies.Resolution

/-!
What resolution depends on: the rows and not their order, and of these the rows of the
platform, the tenant and its parent. The tier that a guest is in is the winner's policy
where the winner's policy is not the parent's and has its version.
-/

namespace CloudGuest.Policies
open Texts Uuids Tables Rbac Sorting

variable {db other : Database} {request : Request} {assignment : PolicyAssignment}

theorem find_same {Row : Type} {idOf : Row → Uuid} {left right : Table idOf} {id : Uuid}
    (same : ∀ row, idOf row = id → (row ∈ left.rows ↔ row ∈ right.rows)) : left.find id = right.find id := by
  apply Option.ext
  intro row
  rw [find_iff, find_iff]
  constructor
  · rintro ⟨listed, matched⟩
    exact ⟨(same row matched).mp listed, matched⟩
  · rintro ⟨listed, matched⟩
    exact ⟨(same row matched).mpr listed, matched⟩

theorem winner_congr {tenant : Option Uuid}
    (same : ∀ item, item ∈ other.dropForeignCandidates (other.listCandidateAssignments request) tenant ↔
      item ∈ db.dropForeignCandidates (db.listCandidateAssignments request) tenant) :
    other.winner request tenant = db.winner request tenant := by
  have listed : ∀ tables : Database,
      ∀ item ∈ tables.dropForeignCandidates (tables.listCandidateAssignments request) tenant,
        item ∈ tables.assignments.rows := by
    intro tables item kept
    cases tenant with
    | none => exact (mem_candidates.mp kept).1
    | some tenant => exact (mem_kept.mp kept).1
  apply Option.ext
  intro item
  exact (largest_greatest (separates_assignments other (listed other))).trans
    ((Greatest.congr same).trans (largest_greatest (separates_assignments db (listed db))).symm)

/-! ### The order of the rows -/

structure Database.SameRows (db other : Database) : Prop where
  organizations : ∀ row, row ∈ other.organizations.rows ↔ row ∈ db.organizations.rows
  locations : ∀ row, row ∈ other.locations.rows ↔ row ∈ db.locations.rows
  policies : ∀ row, row ∈ other.policies.rows ↔ row ∈ db.policies.rows
  versions : ∀ row, row ∈ other.versions.rows ↔ row ∈ db.versions.rows
  assignments : ∀ row, row ∈ other.assignments.rows ↔ row ∈ db.assignments.rows

theorem resolve_unordered (same : db.SameRows other) (request : Request) :
    other.resolveEffectivePolicy request = db.resolveEffectivePolicy request := by
  have organizations : ∀ id, other.organizations.find id = db.organizations.find id :=
    fun _ => find_same fun row _ => same.organizations row
  have locations : ∀ id, other.locations.find id = db.locations.find id :=
    fun _ => find_same fun row _ => same.locations row
  have policies : ∀ id, other.policies.find id = db.policies.find id :=
    fun _ => find_same fun row _ => same.policies row
  have versions : ∀ id, other.versions.find id = db.versions.find id :=
    fun _ => find_same fun row _ => same.versions row
  have owner : ∀ id deleted, other.getOrganization id deleted = db.getOrganization id deleted := by
    intro id deleted
    rw [Database.getOrganization, Database.getOrganization, organizations]
  have place : ∀ id requesting, other.getLocation id requesting = db.getLocation id requesting := by
    intro id requesting
    simp only [Database.getLocation, locations, owner]
  have policy : ∀ id, other.getPolicyById id = db.getPolicyById id := by
    intro id
    rw [Database.getPolicyById, Database.getPolicyById, policies]
  have version : ∀ id, other.getVersionById id = db.getVersionById id := by
    intro id
    rw [Database.getVersionById, Database.getVersionById, versions]
  have candidates : ∀ item, item ∈ other.listCandidateAssignments request ↔
      item ∈ db.listCandidateAssignments request := by
    intro item
    simp only [mem_candidates, same.assignments, policies]
  have winner : ∀ tenant, other.winner request tenant = db.winner request tenant := by
    intro tenant
    apply winner_congr
    intro item
    cases tenant with
    | none => exact candidates item
    | some tenant =>
        have related : ∀ holder, other.isRelated tenant holder = db.isRelated tenant holder := by
          intro holder
          rw [Database.isRelated, Database.isRelated, Database.parentOf, Database.parentOf, owner]
        rw [Database.dropForeignCandidates, Database.dropForeignCandidates, List.mem_filter, List.mem_filter,
          candidates, related, policy]
  simp only [Database.resolveEffectivePolicy, Database.tenantOf, Database.rulesOf, winner, place, policy, version]

/-! ### Other organizations -/

variable {tenant : Uuid}

/-- The tables differ in rows of unrelated organizations only. A version belongs to its policy, and to
any that points to it. -/
structure Database.Alike (tenant : Uuid) (db other : Database) : Prop where
  organization : other.organizations.find tenant = db.organizations.find tenant
  locations : ∀ row : Location, row.organizationId = tenant →
    (row ∈ other.locations.rows ↔ row ∈ db.locations.rows)
  policies : ∀ row : Policy, db.isRelated tenant row.organizationId = true →
    (row ∈ other.policies.rows ↔ row ∈ db.policies.rows)
  versions : ∀ row : PolicyVersion, ∀ policy ∈ db.policies.rows,
    db.isRelated tenant policy.organizationId = true →
    row.policyId = policy.id ∨ policy.currentVersionId = some row.id →
    (row ∈ other.versions.rows ↔ row ∈ db.versions.rows)
  assignments : ∀ row : PolicyAssignment, ∀ policy ∈ db.policies.rows,
    db.isRelated tenant policy.organizationId = true → row.policyId = policy.id →
    (row ∈ other.assignments.rows ↔ row ∈ db.assignments.rows)

theorem Database.Alike.isRelated (alike : db.Alike tenant other) (owner : Option Uuid) :
    other.isRelated tenant owner = db.isRelated tenant owner := by
  have parent : other.parentOf tenant = db.parentOf tenant := by
    rw [Database.parentOf, Database.parentOf, Database.getOrganization, Database.getOrganization,
      alike.organization]
  rw [Database.isRelated, Database.isRelated, parent]

theorem Database.Alike.symm (alike : db.Alike tenant other) : other.Alike tenant db where
  organization := alike.organization.symm
  locations := fun row own => (alike.locations row own).symm
  policies := fun row related => (alike.policies row (alike.isRelated _ ▸ related)).symm
  versions := by
    intro row policy listed related belongs
    rw [alike.isRelated] at related
    exact (alike.versions row policy ((alike.policies policy related).mp listed) related belongs).symm
  assignments := by
    intro row policy listed related belongs
    rw [alike.isRelated] at related
    exact (alike.assignments row policy ((alike.policies policy related).mp listed) related belongs).symm

theorem Database.Alike.eligible (alike : db.Alike tenant other)
    (eligible : db.IsEligible request tenant assignment) : other.IsEligible request tenant assignment := by
  obtain ⟨listed, active, kept, scope, target, policy, present, same, usable, related⟩ := eligible
  refine ⟨?_, active, kept, scope, target, policy, (alike.policies policy related).mpr present, same, usable, ?_⟩
  · exact (alike.assignments assignment policy present related same.symm).mpr listed
  · rw [alike.isRelated]
    exact related

theorem Database.Alike.winner (alike : db.Alike tenant other) :
    other.winner request (some tenant) = db.winner request (some tenant) := by
  apply winner_congr
  intro item
  rw [mem_kept, mem_kept]
  exact ⟨alike.symm.eligible, alike.eligible⟩

theorem Database.Alike.reads (alike : db.Alike tenant other) {id : Uuid} {policy : Policy}
    (found : db.getPolicyById id = some policy) (related : db.isRelated tenant policy.organizationId = true) :
    other.getPolicyById id = some policy ∧ ∀ version, policy.currentVersionId = some version →
      other.getVersionById version = db.getVersionById version := by
  obtain ⟨located, kept⟩ := Option.filter_eq_some_iff.mp found
  obtain ⟨listed, same⟩ := (find_iff db.policies).mp located
  constructor
  · refine Option.filter_eq_some_iff.mpr ⟨?_, kept⟩
    exact (find_iff other.policies).mpr ⟨(alike.policies policy related).mpr listed, same⟩
  · intro version current
    have versions : other.versions.find version = db.versions.find version := by
      apply find_same
      rintro row rfl
      exact alike.versions row policy listed related (.inr current)
    rw [Database.getVersionById, Database.getVersionById, versions]

def Database.HasLocation (db : Database) (tenant : Uuid) (location : Option Uuid) : Prop :=
  ∀ id ∈ location, ∃ row, db.locations.find id = some row ∧ row.isDeleted = false ∧ row.organizationId = tenant

theorem tenantOf_own (own : request.organizationId = some tenant)
    (located : db.HasLocation tenant request.locationId) : db.tenantOf request = .ok (some tenant) := by
  cases location : request.locationId with
  | none => simp only [Database.tenantOf, location, own]
  | some id =>
      obtain ⟨row, found, kept, placed⟩ := located id location
      have read : db.getLocation id (some tenant) = .ok row := by
        simp only [Database.getLocation, found, Option.filter_some, kept, placed, Bool.not_false, if_true]
      simp only [Database.tenantOf, location, own, read]
      rfl

theorem Database.Alike.resolve (alike : db.Alike tenant other) (own : request.organizationId = some tenant)
    (located : db.HasLocation tenant request.locationId) :
    other.resolveEffectivePolicy request = db.resolveEffectivePolicy request := by
  have elsewhere : other.HasLocation tenant request.locationId := by
    intro id named
    obtain ⟨row, found, kept, placed⟩ := located id named
    obtain ⟨listed, same⟩ := (find_iff db.locations).mp found
    exact ⟨row, (find_iff other.locations).mpr ⟨(alike.locations row placed).mpr listed, same⟩, kept, placed⟩
  have rules : other.rulesOf request (db.winner request (some tenant)) =
      db.rulesOf request (db.winner request (some tenant)) := by
    cases won : db.winner request (some tenant) with
    | none => rfl
    | some assignment =>
        obtain ⟨-, -, -, -, -, policy, listed, same, usable, related⟩ := (winner_greatest.mp won).holds
        have read := getPolicyById_usable ((find_iff db.policies).mpr ⟨listed, same⟩) usable
        obtain ⟨again, versions⟩ := alike.reads read related
        obtain ⟨-, version, current⟩ := isUsable_kept usable
        simp only [Database.rulesOf, Option.bind_some, read, again, Option.map_some, current,
          versions version current]
  rw [Database.resolveEffectivePolicy, Database.resolveEffectivePolicy, tenantOf_own own located,
    tenantOf_own own elsewhere]
  simp only [bind, Except.bind, alike.winner, rules]

/-! ### The tier and the winner -/

/-- The assignment's policy is of the platform or the organization, and its version is there. -/
def Database.HasTier (db : Database) (organization : Uuid) (assignment : PolicyAssignment) : Prop :=
  ∃ policy, db.getPolicyById assignment.policyId = some policy ∧
    (policy.organizationId = none ∨ policy.organizationId = some organization) ∧
    ∃ version, policy.currentVersionId = some version ∧ (db.getVersionById version).isSome = true

theorem tierOf_isSome {organization : Uuid} :
    (db.tierOf organization assignment).isSome = true ↔ db.HasTier organization assignment := by
  rw [Option.isSome_iff_exists]
  constructor
  · rintro ⟨tier, read⟩
    simp only [Database.tierOf, Option.bind_eq_bind, Option.bind_eq_some_iff, Option.guard_eq_some',
      Bool.or_eq_true, decide_eq_true_eq] at read
    obtain ⟨policy, found, version, current, _, owner, row, present, -⟩ := read
    exact ⟨policy, found, owner, version, current, by simp [present]⟩
  · rintro ⟨policy, found, owner, version, current, present⟩
    obtain ⟨row, read⟩ := Option.isSome_iff_exists.mp present
    refine ⟨⟨policy.id, policy.name, row.rules⟩, ?_⟩
    simp [Database.tierOf, found, current, owner, read]

theorem Database.Alike.tier (alike : db.Alike tenant other) (location guest : Option Uuid) :
    other.resolveAccessTier (some tenant) location guest = db.resolveAccessTier (some tenant) location guest := by
  -- what has a tier in one state has it in the other, and the same one
  have mapped : ∀ {left right : Database}, left.Alike tenant right → ∀ guest item,
      left.IsTierMapping tenant location guest item →
      right.IsTierMapping tenant location guest item ∧ right.tierOf tenant item = left.tierOf tenant item := by
    rintro left right alike guest item ⟨candidate, target, tier⟩
    obtain ⟨policy, found, owner, version, current, present⟩ := tierOf_isSome.mp tier
    have related : left.isRelated tenant policy.organizationId = true := by
      rcases owner with platform | own <;> simp [Database.isRelated, *]
    obtain ⟨again, versions⟩ := alike.reads found related
    have same : right.tierOf tenant item = left.tierOf tenant item := by
      simp only [Database.tierOf, found, again, current, Option.bind_eq_bind, Option.bind_some,
        versions version current]
    obtain ⟨listed, active, kept, scope, matched, row, located, usable⟩ := mem_candidates.mp candidate
    have agree : row = policy := by
      rw [Database.getPolicyById, located] at found
      exact Option.some.inj (Option.filter_eq_some_iff.mp found).1
    subst agree
    obtain ⟨inside, ids⟩ := (find_iff left.policies).mp located
    refine ⟨⟨mem_candidates.mpr ⟨?_, active, kept, scope, matched, row, ?_, usable⟩, target, same ▸ tier⟩, same⟩
    · exact (alike.assignments item row inside related ids.symm).mpr listed
    · exact (find_iff right.policies).mpr ⟨(alike.policies row related).mpr inside, ids⟩
  cases guest with
  | none => rfl
  | some guest =>
      apply Option.ext
      intro tier
      rw [tier_greatest, tier_greatest]
      have kinds : ∀ item, other.IsTierMapping tenant location guest item ↔
          db.IsTierMapping tenant location guest item :=
        fun item => ⟨fun held => (mapped alike.symm guest item held).1, fun held => (mapped alike guest item held).1⟩
      apply exists_congr
      intro item
      rw [Greatest.congr kinds]
      apply and_congr_right
      intro greatest
      rw [(mapped alike guest item greatest.holds).2]

theorem eligible_guest (eligible : db.IsEligible request tenant assignment)
    (target : assignment.targetType = .guest) : request.guestId.isSome = true := by
  have matched := eligible.2.2.2.2.1
  simp only [Request.matchesTarget, target, names, Bool.and_eq_true] at matched
  exact matched.1

theorem tierMapping_iff {guest : Uuid} (own : request.organizationId = some tenant)
    (bandwidth : request.policyType = .bandwidth) (named : request.guestId = some guest) :
    db.IsTierMapping tenant request.locationId guest assignment ↔
      db.IsEligible request tenant assignment ∧ assignment.targetType = .guest ∧
        db.HasTier tenant assignment := by
  rw [Database.IsTierMapping, tierOf_isSome, mem_candidates]
  have scope : Request.matchesScope ⟨.bandwidth, some tenant, request.locationId, none, [], some guest⟩ assignment =
      request.matchesScope assignment := by
    simp only [Request.matchesScope, own]
  rw [scope, ← bandwidth]
  constructor
  · rintro ⟨⟨listed, active, kept, inScope, target, policy, located, usable⟩, guests, tier⟩
    refine ⟨⟨listed, active, kept, inScope, ?_, policy, ?_⟩, guests, tier⟩
    · simpa only [Request.matchesTarget, guests, named] using target
    · obtain ⟨inside, ids⟩ := (find_iff db.policies).mp located
      refine ⟨inside, ids, usable, ?_⟩
      obtain ⟨row, found, owner, -⟩ := tier
      obtain rfl := Option.some.inj ((getPolicyById_usable located usable).symm.trans found)
      rcases owner with platform | own <;> simp [Database.isRelated, *]
  · rintro ⟨⟨listed, active, kept, inScope, target, policy, inside, ids, usable, -⟩, guests, tier⟩
    refine ⟨⟨listed, active, kept, inScope, ?_, policy, ?_, usable⟩, guests, tier⟩
    · simpa only [Request.matchesTarget, guests, named] using target
    · exact (find_iff db.policies).mpr ⟨inside, ids⟩

theorem winner_exists (eligible : db.IsEligible request tenant assignment) :
    ∃ best, db.winner request (some tenant) = some best ∧ resolutionKey assignment ≤ resolutionKey best := by
  cases won : db.winner request (some tenant) with
  | none =>
      have kept := mem_kept.mpr eligible
      rw [List.argmax_eq_none.mp won] at kept
      exact absurd kept List.not_mem_nil
  | some best => exact ⟨best, rfl, (winner_greatest.mp won).above assignment eligible⟩

theorem targets_guest {left right : PolicyAssignment} (below : resolutionKey left ≤ resolutionKey right)
    (guest : left.targetType = .guest) : right.targetType = .guest := by
  have most := specificity_le below
  rw [guest] at most
  cases target : right.targetType with
  | guest => rfl
  | none | user | role | members => simp [TargetType.specificity, target] at most

theorem tier_best (own : request.organizationId = some tenant) (bandwidth : request.policyType = .bandwidth)
    (policyId : Uuid) :
    (db.resolveAccessTier request.organizationId request.locationId request.guestId).map
        AccessTier.policyId = some policyId ↔
      ∃ best, best.policyId = policyId ∧ Greatest resolutionKey (fun assignment =>
        db.IsEligible request tenant assignment ∧ assignment.targetType = .guest ∧
          db.HasTier tenant assignment) best := by
  rw [own]
  cases named : request.guestId with
  | none =>
      refine iff_of_false (by simp [Database.resolveAccessTier]) ?_
      rintro ⟨best, -, greatest⟩
      have guest := eligible_guest greatest.holds.1 greatest.holds.2.1
      rw [named] at guest
      cases guest
  | some guest =>
      have kinds := fun item => @tierMapping_iff db request item tenant guest own bandwidth named
      constructor
      · intro resolved
        obtain ⟨tier, read, rfl⟩ := Option.map_eq_some_iff.mp resolved
        obtain ⟨best, greatest, found⟩ := tier_greatest.mp read
        exact ⟨best, (tierOf_policyId found).symm, (Greatest.congr kinds).mp greatest⟩
      · rintro ⟨best, rfl, greatest⟩
        have mapping := (Greatest.congr kinds).mpr greatest
        obtain ⟨tier, found⟩ := Option.isSome_iff_exists.mp mapping.holds.2.2
        exact Option.map_eq_some_iff.mpr ⟨tier, tier_greatest.mpr ⟨best, mapping, found⟩, tierOf_policyId found⟩

theorem tier_agrees (own : request.organizationId = some tenant) (bandwidth : request.policyType = .bandwidth) :
    (∀ policyId, (db.resolveAccessTier request.organizationId request.locationId request.guestId).map
        AccessTier.policyId = some policyId ↔
      ∃ winner, db.winner request (some tenant) = some winner ∧ winner.targetType = .guest ∧
        winner.policyId = policyId) ↔
    ∀ winner, db.winner request (some tenant) = some winner → winner.targetType = .guest →
      db.HasTier tenant winner := by
  simp only [tier_best own bandwidth]
  constructor
  · intro agrees winner won target
    obtain ⟨best, same, greatest⟩ := (agrees winner.policyId).mpr ⟨winner, won, target, rfl⟩
    have tiered := greatest.holds.2.2
    unfold Database.HasTier at tiered ⊢
    rw [← same]
    exact tiered
  · intro tiered policyId
    constructor
    · rintro ⟨best, rfl, greatest⟩
      obtain ⟨eligible, guests, -⟩ := greatest.holds
      obtain ⟨winner, won, above⟩ := winner_exists eligible
      have target := targets_guest above guests
      have top := (winner_greatest.mp won).holds
      have below := greatest.above winner ⟨top, target, tiered winner won target⟩
      have one : winner = best := separates_assignments db (fun _ listed => listed) winner top.1 best
        eligible.1 (le_antisymm below above)
      exact ⟨winner, won, target, congrArg PolicyAssignment.policyId one⟩
    · rintro ⟨winner, won, target, rfl⟩
      have top := winner_greatest.mp won
      exact ⟨winner, rfl, ⟨top.holds, target, tiered winner won target⟩,
        fun item held => top.above item held.1⟩

/-! ### Together -/

/-- Resolution for an organization, at a location of its own. -/
theorem policy_resolution (db : Database) (request : Request) (tenant : Uuid)
    (own : request.organizationId = some tenant) (located : db.HasLocation tenant request.locationId) :
    (∀ other, db.SameRows other →
      other.resolveEffectivePolicy request = db.resolveEffectivePolicy request) ∧
    (∃ resolved, db.resolveEffectivePolicy request = .ok resolved ∧
      (resolved.rules, resolved.source) = db.rulesOf request (db.winner request (some tenant))) ∧
    (∀ assignment, db.winner request (some tenant) = some assignment ↔
      Greatest resolutionKey (db.IsEligible request tenant) assignment) ∧
    (∀ other, db.Alike tenant other →
      other.resolveEffectivePolicy request = db.resolveEffectivePolicy request ∧
      other.resolveAccessTier request.organizationId request.locationId request.guestId =
        db.resolveAccessTier request.organizationId request.locationId request.guestId) ∧
    (request.policyType = .bandwidth →
      (∀ policyId, (db.resolveAccessTier request.organizationId request.locationId request.guestId).map
          AccessTier.policyId = some policyId ↔
        ∃ best, best.policyId = policyId ∧ Greatest resolutionKey (fun assignment =>
          db.IsEligible request tenant assignment ∧ assignment.targetType = .guest ∧
            db.HasTier tenant assignment) best) ∧
      ((∀ policyId, (db.resolveAccessTier request.organizationId request.locationId request.guestId).map
          AccessTier.policyId = some policyId ↔
        ∃ winner, db.winner request (some tenant) = some winner ∧ winner.targetType = .guest ∧
          winner.policyId = policyId) ↔
      ∀ winner, db.winner request (some tenant) = some winner → winner.targetType = .guest →
        db.HasTier tenant winner)) := by
  refine ⟨fun other same => resolve_unordered same request, ?_, fun _ => winner_greatest, ?_, ?_⟩
  · refine ⟨⟨request.policyType, request.organizationId, request.locationId,
      (db.rulesOf request (db.winner request (some tenant))).1,
      (db.rulesOf request (db.winner request (some tenant))).2, request.userId, request.guestId⟩, ?_, rfl⟩
    rw [Database.resolveEffectivePolicy, tenantOf_own own located]
    rfl
  · intro other alike
    refine ⟨alike.resolve own located, ?_⟩
    rw [own]
    exact alike.tier request.locationId request.guestId
  · exact fun bandwidth => ⟨tier_best own bandwidth, tier_agrees own bandwidth⟩

section Executed

def mappedGuest (owner : Uuid) (versionGone : Bool) : Database where
  organizations := ⟨[⟨10, some 20, false⟩, ⟨20, none, false⟩], by decide⟩
  locations := ⟨[⟨30, 10, false⟩], by decide⟩
  policies := ⟨[⟨1, some owner, .bandwidth, "Premium".toList, true, false, some 2⟩],
    List.nodup_singleton _⟩
  versions := ⟨[⟨2, 1, [], versionGone⟩], List.nodup_singleton _⟩
  assignments := ⟨[⟨40, 1, .location, some 30, .guest, some 50, 0, true, false, some 0⟩], by decide⟩

def guestRequest : Request := ⟨.bandwidth, some 10, some 30, none, [], some 50⟩

def guestMapping : PolicyAssignment := ⟨40, 1, .location, some 30, .guest, some 50, 0, true, false, some 0⟩

/-- The guest of an organization's own tier gets its speed and its limits. -/
theorem policy_resolution_own_tier :
    (mappedGuest 10 false).winner guestRequest (some 10) = some guestMapping ∧
    ((mappedGuest 10 false).resolveAccessTier (some 10) (some 30) (some 50)).map AccessTier.policyId = some 1 := by
  have located : (mappedGuest 10 false).HasLocation 10 guestRequest.locationId := by
    intro id named
    obtain rfl := Option.some.inj (Option.mem_def.mp named)
    exact ⟨⟨30, 10, false⟩, by decide +kernel, rfl, rfl⟩
  obtain ⟨-, -, -, -, tiers⟩ := policy_resolution (mappedGuest 10 false) guestRequest 10 rfl located
  have won : (mappedGuest 10 false).winner guestRequest (some 10) = some guestMapping := by decide +kernel
  refine ⟨won, ((tiers rfl).2.mpr ?_ 1).mpr ⟨guestMapping, won, rfl, rfl⟩⟩
  intro winner same _
  obtain rfl := Option.some.inj (won.symm.trans same)
  exact tierOf_isSome.mp (by decide +kernel)

/-- The winner is the guest's assignment to a tier of the parent, or to one whose version is gone, and
the guest is in no tier. -/
theorem winner_without_tier :
    ((mappedGuest 20 false).winner guestRequest (some 10) = some guestMapping ∧
      ((mappedGuest 20 false).resolveAccessTier (some 10) (some 30) (some 50)).isNone = true) ∧
    (mappedGuest 10 true).winner guestRequest (some 10) = some guestMapping ∧
      ((mappedGuest 10 true).resolveAccessTier (some 10) (some 30) (some 50)).isNone = true := by
  refine ⟨⟨?_, ?_⟩, ?_, ?_⟩ <;> decide +kernel

end Executed

end CloudGuest.Policies
