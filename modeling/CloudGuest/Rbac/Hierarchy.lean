import CloudGuest.Library.Acyclic
import CloudGuest.Library.Runs
import CloudGuest.Rbac.Resolution

/-!
The hierarchy of roles over runs of the service's calls: it has no cycle, no role has
another organization's role above it, and the copy that an organization gets of a shared
role grants what the shared role granted.

`isFaithful` keeps a run to the calls of which the service's own tests see enough: a new
parent is shared or of the same organization and its walk ends at a root, and a copied
role is active and flattened no further than it is resolved.
-/

namespace CloudGuest.Rbac.Hierarchy
open Texts Uuids FirstSeen Relation Acyclic Runs

/-! ### Links -/

structure Link where
  child : Uuid
  organizationId : Option Uuid
  parent : Option Uuid

def linkOf (caller : Caller) (base : Database) : Mutation → Option Link
  | .createRole newId data => some ⟨newId, data.organizationId, data.parentRoleId⟩
  | .cloneRole newId sourceId _ target => some ⟨newId, target, some sourceId⟩
  | .updateRole newId roleId data =>
      if caller.copies base roleId then some ⟨newId, caller.requesting, data.parentRoleId.getD none⟩
      else data.parentRoleId.map fun parent => ⟨roleId, (base.roleOf roleId).bind Role.organizationId, parent⟩
  | _ => none

variable {setting : Setting} {caller : Caller} {base mine db : Database} {link : Option Link}

/-- A role that was there before, with the parent that it had or that the call gives it. -/
def IsKept (base : Database) (link : Option Link) (role : Role) : Prop :=
  ∃ before ∈ base.roles, before.id = role.id ∧ before.organizationId = role.organizationId ∧
    (role.parentRoleId = before.parentRoleId ∨ link = some ⟨role.id, role.organizationId, role.parentRoleId⟩)

def IsNew (base : Database) (link : Option Link) (role : Role) : Prop :=
  role.id ∉ base.roles.map Role.id ∧ link = some ⟨role.id, role.organizationId, role.parentRoleId⟩

theorem kept_same {role : Role} (listed : role ∈ base.roles) : IsKept base link role :=
  ⟨role, listed, rfl, rfl, .inl rfl⟩

theorem kept_changed {id : Uuid} {change : Role → Role} (keeps : ∀ role, (change role).id = role.id ∧
    (change role).organizationId = role.organizationId ∧ (change role).parentRoleId = role.parentRoleId) :
    ∀ role ∈ (base.changeRole id change).roles, IsKept base link role := by
  intro role listed
  obtain ⟨before, present, rfl⟩ := List.mem_map.mp listed
  split
  · obtain ⟨sameId, sameOrganization, sameParent⟩ := keeps before
    exact ⟨before, present, sameId.symm, sameOrganization.symm, .inl sameParent⟩
  · exact kept_same present

theorem roleOf_of_mem (distinct : (base.roles.map Role.id).Nodup) {role : Role} (listed : role ∈ base.roles) :
    base.roleOf role.id = some role := find_of_mem distinct listed

theorem run_roles (distinct : (base.roles.map Role.id).Nodup) (mutation : Mutation)
    (ran : mutation.run setting caller base = .ok mine) :
    ∀ role ∈ mine.roles, IsKept base (linkOf caller base mutation) role ∨
      IsNew base (linkOf caller base mutation) role := by
  have appended : ∀ (created : Role) (link : Option Link), created.id ∉ base.roles.map Role.id →
      link = some ⟨created.id, created.organizationId, created.parentRoleId⟩ →
      ∀ role ∈ base.roles ++ [created], IsKept base link role ∨ IsNew base link role := by
    intro created link fresh given role listed
    rcases List.mem_append.mp listed with earlier | last
    · exact .inl (kept_same earlier)
    · rw [List.mem_singleton.mp last]
      exact .inr ⟨fresh, given⟩
  have unchanged : mine.roles = base.roles → ∀ role ∈ mine.roles,
      IsKept base (linkOf caller base mutation) role ∨ IsNew base (linkOf caller base mutation) role :=
    fun same role listed => .inl (kept_same (same ▸ listed))
  cases mutation with
  | createRole newId data =>
      simp only [Mutation.run, Rbac.createRole, Faults.bind_ok] at ran
      obtain ⟨_, _, _, _, _, _, created, first, attached⟩ := ran
      obtain ⟨roles, -, fresh⟩ := createRole_ok first
      rw [(KeysOnly.attachAll _ created attached).roles, roles]
      exact appended _ _ fresh rfl
  | cloneRole newId sourceId slug target =>
      simp only [Mutation.run, Rbac.cloneRole, Faults.bind_ok] at ran
      obtain ⟨source, got, _, _, _, _, _, _, created, first, added⟩ := ran
      obtain ⟨roles, -, fresh⟩ := createRole_ok first
      obtain ⟨-, same, -⟩ := getRole_ok got
      rw [(KeysOnly.addAll _ created added).roles, roles]
      exact appended _ _ fresh (by rw [linkOf, Role.cloned, same])
  | updateRole newId roleId data =>
      obtain ⟨role, got, split⟩ := updateRole_cases ran
      obtain ⟨located, same, -⟩ := getRole_ok got
      rcases split with ⟨organization, copied, requesting, shared, first, second⟩ | ⟨owned, edited⟩
      · have copies : caller.copies base roleId = true := by
          simp [Caller.copies, requesting, located, shared]
        obtain ⟨roles, fresh, -⟩ := copy_ok first
        obtain ⟨-, edited⟩ := editRole_ok second
        intro left listed
        rw [edited.roles, Database.changeRole] at listed
        obtain ⟨before, present, rfl⟩ := List.mem_map.mp listed
        rw [roles] at present
        rcases List.mem_append.mp present with earlier | last
        · have apart : before.id ≠ (role.copied newId organization).id :=
            fun equal => fresh (List.mem_map.mpr ⟨before, earlier, equal⟩)
          rw [if_neg apart]
          exact .inl (kept_same earlier)
        · rw [List.mem_singleton.mp last, if_pos rfl]
          refine .inr ⟨fresh, ?_⟩
          simp only [linkOf, copies, if_true, requesting]
          rfl
      · have copies : caller.copies base roleId = false := by
          cases requesting : caller.requesting with
          | none => simp [Caller.copies, requesting]
          | some organization =>
              have placed : role.organizationId ≠ none := by simpa [requesting] using owned
              simp [Caller.copies, requesting, located, placed]
        obtain ⟨-, changed⟩ := editRole_ok edited
        intro left listed
        rw [changed.roles] at listed
        obtain ⟨before, present, rfl⟩ := List.mem_map.mp listed
        split
        · next matched =>
            refine .inl ⟨before, present, rfl, rfl, ?_⟩
            cases parent : data.parentRoleId with
            | none =>
                left
                simp [Role.updated, parent]
            | some proposed =>
                right
                have found := roleOf_of_mem distinct present
                rw [matched, same] at found
                simp [linkOf, copies, parent, found, Role.updated, matched, same]
        · exact .inl (kept_same present)
  | deleteRole roleId =>
      have hidden : ∀ entry, (base.upsertOrganizationRole entry).roles = base.roles := by
        intro entry
        unfold Database.upsertOrganizationRole
        split <;> rfl
      simp only [Mutation.run, Rbac.deleteRole, Faults.bind_ok] at ran
      obtain ⟨role, -, rest⟩ := ran
      cases requesting : caller.requesting with
      | none =>
          simp only [requesting, Faults.bind_ok] at rest
          obtain ⟨_, _, _, _, made⟩ := rest
          obtain rfl := Except.ok.inj made
          intro left listed
          refine .inl (kept_changed ?_ left listed)
          exact fun _ => ⟨rfl, rfl, rfl⟩
      | some organization =>
          simp only [requesting] at rest
          split at rest
          · simp only [hideSharedRoleForOrganization, Faults.bind_ok] at rest
            obtain ⟨_, _, _, _, _, _, made⟩ := rest
            obtain rfl := Except.ok.inj made
            exact unchanged (hidden _)
          · simp only [Faults.bind_ok] at rest
            obtain ⟨_, _, _, _, made⟩ := rest
            obtain rfl := Except.ok.inj made
            intro left listed
            refine .inl (kept_changed ?_ left listed)
            exact fun _ => ⟨rfl, rfl, rfl⟩
  | setRoleActive roleId isActive =>
      simp only [Mutation.run, Rbac.setRoleActive, Faults.bind_ok] at ran
      obtain ⟨role, _, _, _, _, _, made⟩ := ran
      obtain rfl := Except.ok.inj made
      intro left listed
      refine .inl (kept_changed ?_ left listed)
      exact fun _ => ⟨rfl, rfl, rfl⟩
  | assignPermissionToRole roleId key =>
      simp only [Mutation.run, Rbac.assignPermissionToRole, Database.attachPermission, Faults.bind_ok] at ran
      obtain ⟨_, _, _, _, _, _, added⟩ := ran
      exact unchanged (KeysOnly.addRolePermission added).roles
  | removePermissionFromRole roleId key =>
      simp only [Mutation.run, Rbac.removePermissionFromRole, Faults.bind_ok] at ran
      obtain ⟨_, _, _, _, _, _, made⟩ := ran
      obtain rfl := Except.ok.inj made
      exact unchanged rfl
  | assignRoleToUser newId target roleId scope expiresAt =>
      simp only [Mutation.run, Rbac.assignRoleToUser, Faults.bind_ok] at ran
      obtain ⟨_, _, _, _, _, _, _, _, _, _, _, _, _, _, made⟩ := ran
      obtain rfl := Except.ok.inj made
      exact unchanged rfl
  | revokeRoleFromUser assignmentId =>
      simp only [Mutation.run, Rbac.revokeRoleFromUser, Faults.bind_ok] at ran
      obtain ⟨_, _, _, _, made⟩ := ran
      obtain rfl := Except.ok.inj made
      exact unchanged rfl
  | grantPermissionOverride newId target key effect scope expiresAt =>
      simp only [Mutation.run, Rbac.grantPermissionOverride, Faults.bind_ok] at ran
      obtain ⟨_, _, _, _, _, _, _, _, made⟩ := ran
      obtain rfl := Except.ok.inj made
      exact unchanged rfl
  | revokePermissionOverride overrideId =>
      simp only [Mutation.run, Rbac.revokePermissionOverride, Faults.bind_ok] at ran
      obtain ⟨_, _, _, _, made⟩ := ran
      obtain rfl := Except.ok.inj made
      exact unchanged rfl

/-! ### Walks -/

def IsParent (db : Database) (child parent : Uuid) : Prop :=
  ∃ role ∈ db.roles, role.id = child ∧ role.parentRoleId = some parent

def endsAtRoot (db : Database) : Nat → Role → Bool
  | 0, role => role.parentRoleId.isNone
  | depth + 1, role => role.parentRoleId.all fun parent =>
      (db.getRoleById parent).any (endsAtRoot db depth)

theorem getRoleById_mem {id : Uuid} {role : Role} (located : db.getRoleById id = some role) :
    role ∈ db.roles ∧ role.id = id :=
  ⟨List.mem_of_find?_eq_some located, getRoleById_id located⟩

theorem parent_of_mem (distinct : (db.roles.map Role.id).Nodup) {role : Role} (listed : role ∈ db.roles)
    {parent : Uuid} (edge : IsParent db role.id parent) : role.parentRoleId = some parent := by
  obtain ⟨other, present, same, named⟩ := edge
  rw [← List.inj_on_of_nodup_map distinct present listed same]
  exact named

theorem walk_complete (distinct : (db.roles.map Role.id).Nodup) (acyclic : IsAcyclic (IsParent db)) :
    ∀ (depth : Nat) (seen : List Uuid) (role : Role), role ∈ db.roles →
    (∀ id ∈ seen, ReflTransGen (IsParent db) id role.id) → endsAtRoot db depth role = true →
    ∀ above, TransGen (IsParent db) role.id above →
      ∃ ancestor ∈ db.parentsFrom depth seen role, ancestor.id = above := by
  intro depth
  induction depth with
  | zero =>
      intro seen role listed _ root above path
      obtain ⟨next, edge, -⟩ := TransGen.head'_iff.mp path
      have named := parent_of_mem distinct listed edge
      simp [endsAtRoot, named] at root
  | succ depth ih =>
      intro seen role listed below root above path
      obtain ⟨next, edge, rest⟩ := TransGen.head'_iff.mp path
      have named := parent_of_mem distinct listed edge
      simp only [endsAtRoot, named, Option.all_some] at root
      obtain ⟨parent, located, further⟩ := (Option.any_eq_true _ _).mp root
      obtain ⟨present, id⟩ := getRoleById_mem located
      subst id
      have unseen : parent.id ∉ seen := by
        intro met
        exact acyclic parent.id ((TransGen.tail' (below parent.id met) edge))
      simp only [Database.parentsFrom, named, Option.bind_some, located, if_neg unseen]
      rcases reflTransGen_iff_eq_or_transGen.mp rest with rfl | beyond
      · exact ⟨parent, List.mem_cons_self, rfl⟩
      · have through : ∀ id ∈ parent.id :: seen, ReflTransGen (IsParent db) id parent.id := by
          intro id met
          rcases List.mem_cons.mp met with rfl | earlier
          · exact .refl
          · exact (below id earlier).tail edge
        obtain ⟨ancestor, inside, same⟩ := ih (parent.id :: seen) parent present through further above beyond
        exact ⟨ancestor, List.mem_cons_of_mem _ inside, same⟩

theorem no_path (distinct : (db.roles.map Role.id).Nodup) (acyclic : IsAcyclic (IsParent db))
    {roleId proposed : Uuid} (checked : db.assertNoCycle roleId proposed = .ok ())
    (root : (db.getRoleById proposed).any (endsAtRoot db maxChainDepth) = true) :
    ¬ ReflTransGen (IsParent db) proposed roleId := by
  -- The test for a cycle is complete where the walk ends at a root.
  intro path
  simp only [Database.assertNoCycle, Faults.bind_ok, require_ok, decide_eq_true_eq] at checked
  obtain ⟨_, apart, chain⟩ := checked
  obtain ⟨role, located, ends⟩ := (Option.any_eq_true _ _).mp root
  obtain ⟨present, id⟩ := getRoleById_mem located
  rcases reflTransGen_iff_eq_or_transGen.mp path with same | beyond
  · exact apart same.symm
  · subst id
    have start : ∀ id ∈ [role.id], ReflTransGen (IsParent db) id role.id := by
      intro id met
      rw [List.mem_singleton.mp met]
    obtain ⟨ancestor, inside, same⟩ := walk_complete distinct acyclic maxChainDepth [role.id] role present
      start ends roleId beyond
    have met : ancestor ∈ db.getParentChain role.id maxChainDepth := by
      rw [Database.getParentChain, located]
      exact inside
    have other := List.all_eq_true.mp chain ancestor met
    simp [same] at other

/-! ### Calls -/

/-- The parent of a link is a shared role or one of the same organization; where the link is of a role
that may have children, the walk from the parent ends at a root. -/
def isSafeLink (db : Database) (link : Link) : Bool :=
  link.parent.all fun parent =>
    (db.roleOf parent).any (fun role => role.organizationId = none || role.organizationId = link.organizationId) &&
    (!(db.roles.any fun role => role.id = link.child) ||
      (db.getRoleById parent).any (endsAtRoot db maxChainDepth))

/-- The rows of permissions are of roles, as their foreign key demands. -/
def isLinked (db : Database) : Bool :=
  db.rolePermissions.all fun row => db.roles.any fun role => role.id = row.roleId

structure Sound (db : Database) : Prop where
  consistent : db.Consistent
  linked : ∀ row ∈ db.rolePermissions, row.roleId ∈ db.roles.map Role.id
  acyclic : IsAcyclic (IsParent db)
  contained : ∀ role ∈ db.roles, ∀ parent ∈ db.roles, role.parentRoleId = some parent.id →
    parent.organizationId = none ∨ parent.organizationId = role.organizationId

theorem run_checked (mutation : Mutation) (ran : mutation.run setting caller base = .ok mine) {link : Link}
    (given : linkOf caller base mutation = some link) (old : link.child ∈ base.roles.map Role.id)
    {parent : Uuid} (named : link.parent = some parent) : base.assertNoCycle link.child parent = .ok () := by
  cases mutation with
  | createRole newId data =>
      obtain rfl := Option.some.inj given
      obtain ⟨_, _, _, fresh⟩ := createRole_new ran
      exact absurd old fresh
  | cloneRole newId sourceId slug target =>
      obtain rfl := Option.some.inj given
      obtain ⟨_, _, _, fresh⟩ := cloneRole_new ran
      exact absurd old fresh
  | updateRole newId roleId data =>
      simp only [linkOf] at given
      split at given
      · next copies =>
          obtain rfl := Option.some.inj given
          obtain ⟨-, fresh, -⟩ := updateRole_copy ran copies
          exact absurd old fresh
      · next plain =>
          obtain ⟨proposed, set, rfl⟩ := Option.map_eq_some_iff.mp given
          obtain ⟨role, got, split⟩ := updateRole_cases ran
          obtain ⟨located, same, -⟩ := getRole_ok got
          rcases split with ⟨organization, copied, requesting, shared, -, -⟩ | ⟨-, edited⟩
          · exact absurd (by simp [Caller.copies, requesting, located, shared]) plain
          · obtain ⟨checked, -⟩ := editRole_ok edited
            dsimp only at named ⊢
            rw [set, named, same] at checked
            simp only [Option.join_some, Database.assertParent, Faults.bind_ok] at checked
            exact checked.choose_spec.1
  | _ => cases given

theorem acyclic_run (sound : Sound base) (mutation : Mutation)
    (ran : mutation.run setting caller base = .ok mine)
    (safe : (linkOf caller base mutation).all (isSafeLink base) = true) : IsAcyclic (IsParent mine) := by
  have edges : ∀ left right, IsParent mine left right → IsParent base left right ∨
      ∃ link, linkOf caller base mutation = some link ∧ left = link.child ∧ link.parent = some right := by
    rintro left right ⟨role, listed, rfl, named⟩
    rcases run_roles sound.consistent.roles mutation ran role listed with
      ⟨before, present, same, -, kept | given⟩ | ⟨-, given⟩
    · exact .inl ⟨before, present, same, kept.symm.trans named⟩
    · exact .inr ⟨_, given, rfl, named⟩
    · exact .inr ⟨_, given, rfl, named⟩
  by_cases linked : ∃ link parent, linkOf caller base mutation = some link ∧ link.parent = some parent
  · obtain ⟨link, parent, given, named⟩ := linked
    rw [given, Option.all_some, isSafeLink, named, Option.all_some, Bool.and_eq_true, Bool.or_eq_true] at safe
    obtain ⟨role, located, -⟩ := (Option.any_eq_true _ _).mp safe.1
    refine sound.acyclic.add (fun left right edge => ?_) (?_ : ¬ ReflTransGen (IsParent base) parent link.child)
    · rcases edges left right edge with old | ⟨other, again, rfl, up⟩
      · exact .inl old
      · obtain rfl := Option.some.inj (given.symm.trans again)
        exact .inr ⟨rfl, Option.some.inj (up.symm.trans named)⟩
    · by_cases old : link.child ∈ base.roles.map Role.id
      · refine no_path sound.consistent.roles sound.acyclic (run_checked mutation ran given old named) ?_
        apply safe.2.resolve_left
        obtain ⟨child, present, same⟩ := List.mem_map.mp old
        simp only [Bool.not_eq_true', List.any_eq_false, decide_eq_true_eq, not_forall, not_not]
        exact ⟨child, present, same⟩
      · -- a new role is above none
        intro path
        rcases reflTransGen_iff_eq_or_transGen.mp path with same | beyond
        · refine old (List.mem_map.mpr ⟨role, List.mem_of_find?_eq_some located, ?_⟩)
          exact (roleOf_id located).trans same.symm
        · obtain ⟨last, -, below, present, -, up⟩ := TransGen.tail'_iff.mp beyond
          exact old (sound.consistent.parents below present link.child up)
  · refine sound.acyclic.mono fun left right edge => ?_
    rcases edges left right edge with old | ⟨link, given, -, named⟩
    · exact old
    · exact absurd ⟨link, right, given, named⟩ linked

theorem contained_run (sound : Sound base) (mutation : Mutation)
    (ran : mutation.run setting caller base = .ok mine)
    (safe : (linkOf caller base mutation).all (isSafeLink base) = true) :
    ∀ role ∈ mine.roles, ∀ parent ∈ mine.roles, role.parentRoleId = some parent.id →
      parent.organizationId = none ∨ parent.organizationId = role.organizationId := by
  intro role listed parent above named
  have rows := run_roles sound.consistent.roles mutation ran
  -- the parent has been there, in the same organization
  have known : ∀ other ∈ base.roles, other.id = parent.id → other.organizationId = parent.organizationId := by
    intro other present same
    rcases rows parent above with ⟨before, inside, id, organization, -⟩ | ⟨fresh, -⟩
    · rw [List.inj_on_of_nodup_map sound.consistent.roles present inside (same.trans id.symm)]
      exact organization
    · exact absurd (List.mem_map.mpr ⟨other, present, same⟩) fresh
  have asked : linkOf caller base mutation = some ⟨role.id, role.organizationId, role.parentRoleId⟩ →
      parent.organizationId = none ∨ parent.organizationId = role.organizationId := by
    intro given
    rw [given, Option.all_some, isSafeLink] at safe
    simp only [named, Option.all_some, Bool.and_eq_true] at safe
    obtain ⟨found, located, placed⟩ := (Option.any_eq_true _ _).mp safe.1
    rw [← known found (List.mem_of_find?_eq_some located) (roleOf_id located)]
    simpa using placed
  rcases rows role listed with ⟨before, present, same, organization, kept | given⟩ | ⟨-, given⟩
  · have up := kept.symm.trans named
    obtain ⟨other, inside, id⟩ := List.mem_map.mp (sound.consistent.parents before present parent.id up)
    rw [← known other inside id, ← organization]
    exact sound.contained before present other inside (by rw [id]; exact up)
  · exact asked given
  · exact asked given

theorem ancestor_contained (sound : Sound db) {role : Role} (listed : role ∈ db.roles) {above : Uuid}
    (path : TransGen (IsParent db) role.id above) : ∃ ancestor ∈ db.roles, ancestor.id = above ∧
      (ancestor.organizationId = none ∨ ancestor.organizationId = role.organizationId) := by
  have next : ∀ below ∈ db.roles, ∀ id, IsParent db below.id id → ∃ parent ∈ db.roles, parent.id = id ∧
      (parent.organizationId = none ∨ parent.organizationId = below.organizationId) := by
    intro below present id edge
    have named := parent_of_mem sound.consistent.roles present edge
    obtain ⟨parent, inside, rfl⟩ := List.mem_map.mp (sound.consistent.parents below present id named)
    exact ⟨parent, inside, rfl, sound.contained below present parent inside named⟩
  induction path with
  | single edge => exact next role listed _ edge
  | tail _ edge ih =>
      obtain ⟨below, present, rfl, placed⟩ := ih
      obtain ⟨parent, inside, same, organization⟩ := next below present _ edge
      refine ⟨parent, inside, same, ?_⟩
      rcases organization with shared | own
      · exact .inl shared
      · rw [own]
        exact placed

/-! ### Other organizations -/

theorem getRoleById_filter (distinct : (db.roles.map Role.id).Nodup) (id : Uuid) :
    db.getRoleById id = (db.roleOf id).filter fun role => !role.isDeleted := by
  cases located : db.roleOf id with
  | none =>
      rw [Option.filter_none, Database.getRoleById, List.find?_eq_none]
      intro role listed matched
      simp only [Bool.and_eq_true] at matched
      exact List.find?_eq_none.mp located role listed matched.1
  | some role =>
      have same := roleOf_id located
      have listed := List.mem_of_find?_eq_some located
      cases deleted : role.isDeleted with
      | true =>
          rw [Option.filter_some, deleted, Database.getRoleById]
          apply List.find?_eq_none.mpr
          intro other present matched
          simp only [Bool.and_eq_true, decide_eq_true_eq, Bool.not_eq_true'] at matched
          have one := List.inj_on_of_nodup_map distinct present listed (matched.1.trans same.symm)
          rw [one, deleted] at matched
          cases matched.2
      | false =>
          rw [Option.filter_some, deleted]
          cases found : db.getRoleById id with
          | none =>
              have missed := List.find?_eq_none.mp found role listed
              simp [same, deleted] at missed
          | some other =>
              obtain ⟨present, matched⟩ := getRoleById_mem found
              exact congrArg some (List.inj_on_of_nodup_map distinct present listed (matched.trans same.symm))

theorem steady_run (before : (base.roles.map Role.id).Nodup) (after : (mine.roles.map Role.id).Nodup)
    {mutation : Mutation} (stays : mutation.Stays caller base mine) :
    Steady base mine (mutation.touchedLineage caller base) where
  parents := by
    intro id outside
    have same := stays.sameLineage id outside
    rw [getRoleById_filter before, getRoleById_filter after]
    cases first : base.roleOf id with
    | none =>
        rw [first, Option.map_none, Option.map_eq_none_iff] at same
        rw [same]
    | some role =>
        rw [first, Option.map_some] at same
        obtain ⟨other, second, equal⟩ := Option.map_eq_some_iff.mp same
        simp only [Role.lineage, Prod.mk.injEq] at equal
        rw [second, Option.filter_some, Option.filter_some, equal.1]
        split
        · exact congrArg some equal.2
        · rfl
  keys := fun row outside => stays.sameKeys row outside

theorem edited_own {roleId organization : Uuid} (requesting : caller.requesting = some organization)
    (plain : ¬ caller.copies base roleId = true) {role : Role}
    (got : base.getRole roleId caller.requesting = .ok role) :
    ∃ role ∈ base.roles, role.id = roleId ∧ role.organizationId = some organization := by
  obtain ⟨located, same, placed⟩ := getRole_ok got
  refine ⟨role, (getRoleById_mem located).1, same, ?_⟩
  rcases placed with shared | own
  · exact absurd (by simp [Caller.copies, requesting, located, shared]) plain
  · exact own.trans requesting

theorem touched_own (mutation : Mutation) (ran : mutation.run setting caller base = .ok mine)
    {organization : Uuid} (requesting : caller.requesting = some organization) {id : Uuid}
    (touched : id ∈ mutation.touchedLineage caller base) : id ∉ base.roles.map Role.id ∨
      ∃ role ∈ base.roles, role.id = id ∧ role.organizationId = some organization := by
  have editable : ∀ {roleId role}, base.editableRole roleId caller.requesting = .ok role →
      ∃ role ∈ base.roles, role.id = roleId ∧ role.organizationId = some organization := by
    intro roleId role got
    obtain ⟨first, -, own⟩ := editableRole_ok got
    refine edited_own requesting ?_ first
    intro copies
    simp only [Caller.copies, (getRole_ok first).1, requesting, Option.isSome_some, Bool.true_and,
      Option.any_some, decide_eq_true_eq] at copies
    simp [isSharedRoleInTenantContext, requesting, copies] at own
  cases mutation with
  | createRole newId data =>
      obtain rfl := List.mem_singleton.mp touched
      exact .inl (createRole_new ran).choose_spec.2.2
  | cloneRole newId sourceId slug target =>
      obtain rfl := List.mem_singleton.mp touched
      exact .inl (cloneRole_new ran).choose_spec.2.2
  | updateRole newId roleId data =>
      simp only [Mutation.touchedLineage] at touched
      split at touched
      · next copies =>
          obtain rfl := List.mem_singleton.mp touched
          exact .inl (updateRole_copy ran copies).2.1
      · next plain =>
          split at touched
          · obtain rfl := List.mem_singleton.mp touched
            obtain ⟨role, got, -⟩ := updateRole_cases ran
            exact .inr (edited_own requesting plain got)
          · simp at touched
  | deleteRole roleId =>
      simp only [Mutation.touchedLineage, Mutation.touchedRoles] at touched
      split at touched
      · simp at touched
      · next plain =>
          obtain rfl := List.mem_singleton.mp touched
          simp only [Mutation.run, Rbac.deleteRole, Faults.bind_ok] at ran
          obtain ⟨role, got, -⟩ := ran
          exact .inr (edited_own requesting plain got)
  | setRoleActive roleId isActive => simp [Mutation.touchedLineage] at touched
  | assignPermissionToRole roleId key =>
      obtain rfl := List.mem_singleton.mp touched
      simp only [Mutation.run, Rbac.assignPermissionToRole, Faults.bind_ok] at ran
      obtain ⟨role, got, -⟩ := ran
      exact .inr (editable got)
  | removePermissionFromRole roleId key =>
      obtain rfl := List.mem_singleton.mp touched
      simp only [Mutation.run, Rbac.removePermissionFromRole, Faults.bind_ok] at ran
      obtain ⟨role, got, -⟩ := ran
      exact .inr (editable got)
  | assignRoleToUser _ _ _ _ _ | revokeRoleFromUser _ | grantPermissionOverride _ _ _ _ _ _
  | revokePermissionOverride _ => simp [Mutation.touchedLineage, Mutation.touchedRoles] at touched

theorem descends_none {touched : List Uuid} :
    ∀ (depth : Nat) (role : Role), role ∈ db.roles →
    (∀ above, TransGen (IsParent db) role.id above → above ∉ touched) →
    db.descends touched depth role = false := by
  intro depth
  induction depth with
  | zero => exact fun _ _ _ => rfl
  | succ depth ih =>
      intro role listed apart
      rw [Bool.eq_false_iff]
      intro reached
      obtain ⟨parent, named, either⟩ := (Option.any_eq_true _ _).mp reached
      have edge : IsParent db role.id parent := ⟨role, listed, rfl, named⟩
      rcases (Bool.or_eq_true _ _).mp either with met | further
      · exact apart parent (.single edge) (of_decide_eq_true met)
      · obtain ⟨found, located, below⟩ := (Option.any_eq_true _ _).mp further
        obtain ⟨present, rfl⟩ := getRoleById_mem located
        rw [ih found present fun above path => apart above (.head edge path)] at below
        cases below

theorem others_keep (sound : Sound base) (after : mine.Consistent) (mutation : Mutation)
    (ran : mutation.run setting caller base = .ok mine) {editor organization : Uuid}
    (requesting : caller.requesting = some editor) {role : Role} (listed : role ∈ base.roles)
    (owned : role.organizationId = some organization) (apart : organization ≠ editor) (depth : Nat) (key : Text) :
    key ∈ mine.resolveRolePermissionKeys depth role.id ↔ key ∈ base.resolveRolePermissionKeys depth role.id := by
  have stays := run_stays mutation ran
  -- no role that the call touches is the role or above it
  have clear : ∀ other ∈ base.roles, (other.organizationId = none ∨ other.organizationId = role.organizationId) →
      other.id ∉ mutation.touchedLineage caller base := by
    intro other present placed touched
    rcases touched_own mutation ran requesting touched with fresh | ⟨edited, inside, same, own⟩
    · exact fresh (List.mem_map_of_mem present)
    · rw [List.inj_on_of_nodup_map sound.consistent.roles inside present same] at own
      rw [own, owned] at placed
      rcases placed with shared | equal
      · cases shared
      · exact apart (Option.some.inj equal).symm
  refine (steady_run sound.consistent.roles after.roles stays).resolveRolePermissionKeys stays.samePermissions
    (clear role listed (.inr rfl)) ?_ key
  intro found located
  obtain ⟨present, same⟩ := getRoleById_mem located
  rw [List.inj_on_of_nodup_map sound.consistent.roles present listed same]
  apply descends_none depth role listed
  intro above path
  obtain ⟨ancestor, inside, rfl, placed⟩ := ancestor_contained sound listed path
  exact clear ancestor inside placed

/-! ### The copy of a shared role -/

theorem addAll_eq {roleId : Uuid} (ids : List Uuid) : ∀ db : Database, addAll roleId ids db = .ok mine →
    mine = { db with rolePermissions := db.rolePermissions ++ ids.map (RolePermission.mk roleId) } := by
  induction ids with
  | nil =>
      intro db added
      obtain rfl := Except.ok.inj added
      simp
  | cons id rest ih =>
      intro db added
      simp only [addAll, Database.addRolePermission, Faults.bind_ok] at added
      obtain ⟨next, ⟨_, _, made⟩, others⟩ := added
      obtain rfl := Except.ok.inj made
      rw [ih _ others, List.map_cons, List.append_assoc, List.singleton_append]

theorem mem_flattened {role : Role} {id : Uuid} : id ∈ base.flattenedPermissions role ↔
    ∃ member ∈ role :: base.getParentChain role.id maxChainDepth,
      RolePermission.mk member.id id ∈ base.rolePermissions ∧ (base.permissionOf id).any Permission.isActive = true := by
  rw [Database.flattenedPermissions, mem_firstSeen, List.mem_flatMap]
  apply exists_congr
  intro member
  apply and_congr_right
  intro _
  rw [List.mem_filter]
  apply and_congr_left
  intro _
  simp only [Database.getRolePermissions, List.mem_map, List.mem_filter, decide_eq_true_eq]
  constructor
  · rintro ⟨row, ⟨listed, owned⟩, rfl⟩
    rw [← owned]
    exact listed
  · exact fun listed => ⟨_, ⟨listed, rfl⟩, rfl⟩

theorem copy_tables {newId organization : Uuid} {source : Role} {copied : Database}
    (first : copySharedRoleIntoOrganization newId source organization base = .ok copied) :
    copied.rolePermissions =
        base.rolePermissions ++ (base.flattenedPermissions source).map (RolePermission.mk newId) ∧
      copied.overrides = base.overrides ∧ copied.permissions = base.permissions := by
  have upserted : ∀ (left : Database) (entry : OrganizationRole),
      (left.upsertOrganizationRole entry).rolePermissions = left.rolePermissions ∧
      (left.upsertOrganizationRole entry).overrides = left.overrides ∧
      (left.upsertOrganizationRole entry).permissions = left.permissions := by
    intro left entry
    unfold Database.upsertOrganizationRole
    split <;> exact ⟨rfl, rfl, rfl⟩
  simp only [copySharedRoleIntoOrganization, Database.createRole, Faults.bind_ok] at first
  obtain ⟨_, _, _, _, _, _, created, ⟨_, _, put⟩, filled, added, made⟩ := first
  obtain rfl := Except.ok.inj put
  obtain rfl := Except.ok.inj made
  obtain rfl := addAll_eq _ _ added
  exact upserted _ _

theorem roleOf_copied {newId organization : Uuid} {source : Role} {copied : Database}
    (first : copySharedRoleIntoOrganization newId source organization base = .ok copied) :
    copied.roleOf newId = some (source.copied newId organization) := by
  obtain ⟨roles, fresh, -⟩ := copy_ok first
  have missing : base.roles.find? (fun role => decide (role.id = newId)) = none := by
    rw [List.find?_eq_none]
    intro role listed matched
    exact fresh (List.mem_map.mpr ⟨role, listed, of_decide_eq_true matched⟩)
  rw [Database.roleOf, roles, List.find?_append, missing, Option.none_or, List.find?_cons]
  simp [Role.copied]

/-- What an update that sets neither a parent nor permissions leaves of a shared role's copy. -/
structure IsCopied (base mine : Database) (newId : Uuid) (source : Role) (organization : Uuid) : Prop where
  rows : mine.userRoles = base.userRoles.map fun row =>
    if isMoved source.id organization row then { row with roleId := newId } else row
  permissions : mine.rolePermissions =
    base.rolePermissions ++ (base.flattenedPermissions source).map (RolePermission.mk newId)
  overrides : mine.overrides = base.overrides
  copy : ∃ copy, mine.roleOf newId = some copy ∧ copy.isInForce = true ∧ copy.isDeleted = false ∧
    copy.parentRoleId = none

theorem copied_run {newId roleId : Uuid} {data : RoleUpdate}
    (ran : Rbac.updateRole newId roleId data caller.requesting base = .ok mine)
    (copies : caller.copies base roleId = true) (plain : data.isDeep = false) :
    ∃ source organization, base.getRoleById roleId = some source ∧ source.id = roleId ∧
      IsCopied base mine newId source organization := by
  obtain ⟨source, got, split⟩ := updateRole_cases ran
  obtain ⟨located, same, -⟩ := getRole_ok got
  rcases split with ⟨organization, copied, requesting, shared, first, second⟩ | ⟨owned, -⟩
  · obtain ⟨-, -, rows⟩ := copy_ok first
    simp only [RoleUpdate.isDeep, Bool.or_eq_false_iff, Option.isSome_eq_false_iff, Option.isNone_iff_eq_none]
      at plain
    simp only [Database.editRole, plain.2, Faults.bind_ok] at second
    obtain ⟨_, _, _, _, _, _, made⟩ := second
    obtain rfl := Except.ok.inj made
    obtain ⟨permissions, overrides, -⟩ := copy_tables first
    refine ⟨source, organization, located, same, rows, permissions, overrides, ?_⟩
    refine ⟨Role.updated data (source.copied newId organization), ?_, rfl, rfl, ?_⟩
    · have keeps : ∀ role, (Role.updated data role).id = role.id := fun _ => rfl
      rw [roleOf_changeRole _ _ keeps, roleOf_copied first]
      simp [Role.copied]
    · rw [Role.updated, plain.1]
      rfl
  · simp only [Caller.copies, located, Bool.and_eq_true, Option.any_some, decide_eq_true_eq] at copies
    exact absurd copies owned

section Copy

variable {newId : Uuid} {source : Role} {organization : Uuid} {maxDepth : Nat}

theorem mem_copied_own (rows : mine.rolePermissions =
      base.rolePermissions ++ (base.flattenedPermissions source).map (RolePermission.mk newId))
    (linked : ∀ row ∈ base.rolePermissions, row.roleId ∈ base.roles.map Role.id)
    (fresh : newId ∉ base.roles.map Role.id) (permissions : mine.permissions = base.permissions) (key : Text) :
    key ∈ mine.ownKeys newId ↔ key ∈ base.resolveRolePermissionKeys maxChainDepth source.id := by
  -- The copy's own keys are all that the shared role's line has.
  have same : ∀ id, mine.permissionOf id = base.permissionOf id := by
    intro id
    rw [Database.permissionOf, Database.permissionOf, permissions]
  rw [mem_resolveRolePermissionKeys]
  simp only [mem_ownKeys, same, rows]
  constructor
  · rintro ⟨row, listed, owned, permission, found, inUse, named⟩
    rcases List.mem_append.mp listed with old | added
    · exact absurd (owned ▸ linked row old) fresh
    · obtain ⟨id, flattened, rfl⟩ := List.mem_map.mp added
      obtain ⟨member, inChain, held, -⟩ := mem_flattened.mp flattened
      refine ⟨member.id, ?_, ⟨member.id, id⟩, held, rfl, permission, found, inUse, named⟩
      rw [← List.map_cons]
      exact List.mem_map_of_mem inChain
  · rintro ⟨id, listed, row, held, rfl, permission, found, inUse, named⟩
    rw [← List.map_cons] at listed
    obtain ⟨member, inChain, same⟩ := List.mem_map.mp listed
    refine ⟨⟨newId, row.permissionId⟩, List.mem_append_right _ (List.mem_map_of_mem ?_), rfl, permission, found,
      inUse, named⟩
    refine mem_flattened.mpr ⟨member, inChain, same ▸ held, ?_⟩
    simp only [Bool.and_eq_true] at inUse
    simp [found, inUse.1]

theorem copy_keys (copied : IsCopied base mine newId source organization)
    (linked : ∀ row ∈ base.rolePermissions, row.roleId ∈ base.roles.map Role.id)
    (fresh : newId ∉ base.roles.map Role.id) (after : (mine.roles.map Role.id).Nodup)
    (permissions : mine.permissions = base.permissions)
    (deep : base.getParentChain source.id maxChainDepth = base.getParentChain source.id maxDepth) (key : Text) :
    key ∈ mine.resolveRolePermissionKeys maxDepth newId ↔
      key ∈ base.resolveRolePermissionKeys maxDepth source.id := by
  obtain ⟨copy, located, -, kept, root⟩ := copied.copy
  have alone : mine.getParentChain newId maxDepth = [] := by
    have found : mine.getRoleById newId = some copy := by
      rw [getRoleById_filter after, located, Option.filter_some, kept]
      rfl
    rw [Database.getParentChain, found]
    cases maxDepth with
    | zero => rfl
    | succ depth => simp [Database.parentsFrom, root]
  have flattened : base.resolveRolePermissionKeys maxDepth source.id =
      base.resolveRolePermissionKeys maxChainDepth source.id := by
    rw [Database.resolveRolePermissionKeys, ← deep, ← Database.resolveRolePermissionKeys]
  rw [flattened, ← mem_copied_own copied.permissions linked fresh permissions, mem_resolveRolePermissionKeys, alone]
  simp

def givenBy (grant : EffectiveGrant) : Text × OverrideEffect × GrantScope :=
  (grant.permissionKey, grant.effect, grant.scope)

structure Alike (left right : EffectiveGrants) : Prop where
  allow : ∀ given, given ∈ left.allow.map givenBy ↔ given ∈ right.allow.map givenBy
  deny : ∀ given, given ∈ left.deny.map givenBy ↔ given ∈ right.deny.map givenBy

def IsGiven (db : Database) (maxDepth : Nat) (userId : Uuid) (now : Moment)
    (given : Text × OverrideEffect × GrantScope) : Prop :=
  ∃ row ∈ db.getActiveUserRoles userId now, ∃ role, db.roleOf row.roleId = some role ∧
    role.isInForce = true ∧ ∃ key ∈ db.resolveRolePermissionKeys maxDepth role.id, given = (key, .allow, row.scope)

theorem mem_given {userId : Uuid} {now : Moment} {given : Text × OverrideEffect × GrantScope} :
    (given ∈ (db.resolve maxDepth userId now).allow.map givenBy ↔
      IsGiven db maxDepth userId now given ∨
        given ∈ ((db.overrideGrants userId now).filter fun grant => grant.effect ≠ .deny).map
          givenBy) := by
  rw [Database.resolve, List.map_append, List.mem_append]
  apply or_congr_left
  simp only [List.mem_map, mem_roleAllow]
  constructor
  · rintro ⟨grant, ⟨row, active, role, located, inForce, key, listed, rfl⟩, rfl⟩
    exact ⟨row, active, role, located, inForce, key, listed, rfl⟩
  · rintro ⟨row, active, role, located, inForce, key, listed, rfl⟩
    exact ⟨_, ⟨row, active, role, located, inForce, key, listed, rfl⟩, rfl⟩

theorem given_copied {roleId userId : Uuid} {now : Moment} (before : base.Consistent)
    (linked : ∀ row ∈ base.rolePermissions, row.roleId ∈ base.roles.map Role.id) (after : mine.Consistent)
    {data : RoleUpdate} (ran : Rbac.updateRole newId roleId data caller.requesting base = .ok mine)
    (copies : caller.copies base roleId = true) (plain : data.isDeep = false)
    (active : (base.getRoleById roleId).all Role.isActive = true)
    (deep : base.getParentChain roleId maxChainDepth = base.getParentChain roleId maxDepth)
    (given : Text × OverrideEffect × GrantScope) :
    IsGiven mine maxDepth userId now given ↔ IsGiven base maxDepth userId now given := by
  obtain ⟨source, organization, located, rfl, copied⟩ := copied_run ran copies plain
  have fresh := (updateRole_copy ran copies).2.1
  have stays : (Mutation.updateRole newId source.id data).Stays caller base mine := stays_updateRole ran
  have touched : (Mutation.updateRole newId source.id data).touchedLineage caller base = [newId] := by
    simp [Mutation.touchedLineage, copies]
  have touchedRoles : (Mutation.updateRole newId source.id data).touchedRoles caller base = [newId] := by
    simp [Mutation.touchedRoles, copies]
  have known : ∀ {id}, id ∈ base.roles.map Role.id → id ≠ newId := fun listed same => fresh (same ▸ listed)
  have steady := steady_run before.roles after.roles stays
  rw [touched] at steady
  -- the other roles and their keys are as they were
  have others : ∀ id ∈ base.roles.map Role.id, mine.roleOf id = base.roleOf id ∧ ∀ key,
      (key ∈ mine.resolveRolePermissionKeys maxDepth id ↔ key ∈ base.resolveRolePermissionKeys maxDepth id) := by
    intro id listed
    have outside : id ∉ [newId] := fun met => known listed (List.mem_singleton.mp met)
    refine ⟨stays.sameRoles id (touchedRoles ▸ outside), fun key => ?_⟩
    refine steady.resolveRolePermissionKeys stays.samePermissions outside ?_ key
    intro role found
    apply descends_none maxDepth role (getRoleById_mem found).1
    intro above path met
    obtain ⟨last, -, below, present, -, up⟩ := TransGen.tail'_iff.mp path
    exact known (before.parents below present above up) (List.mem_singleton.mp met)
  have moved : ∀ row ∈ base.userRoles, isMoved source.id organization row = true → row.roleId = source.id := by
    intro row _ moves
    simp only [isMoved, Bool.and_eq_true, decide_eq_true_eq] at moves
    exact moves.1.1
  have rows : ∀ {row}, row ∈ mine.getActiveUserRoles userId now ↔
      ∃ old ∈ base.getActiveUserRoles userId now,
        (if isMoved source.id organization old then { old with roleId := newId } else old) = row := by
    intro row
    simp only [mem_getActiveUserRoles, copied.rows, List.mem_map]
    constructor
    · rintro ⟨⟨old, listed, rfl⟩, user, alive, current⟩
      refine ⟨old, ⟨listed, ?_, ?_, ?_⟩, rfl⟩
      · split at user <;> exact user
      · split at alive <;> exact alive
      · split at current <;> exact current
    · rintro ⟨old, ⟨listed, user, alive, current⟩, rfl⟩
      refine ⟨⟨old, listed, rfl⟩, ?_, ?_, ?_⟩
      · split <;> exact user
      · split <;> exact alive
      · split <;> exact current
  obtain ⟨copy, found, inForce, -, -⟩ := copied.copy
  have shared : base.roleOf source.id = some source := roleOf_of_mem before.roles (getRoleById_mem located).1
  have sourceInForce : source.isInForce = true := by
    rw [located, Option.all_some] at active
    have matched := List.find?_some located
    simp only [Bool.and_eq_true] at matched
    simp [Role.isInForce, active, matched.2]
  have keys := copy_keys copied linked fresh after.roles stays.samePermissions deep
  constructor
  · rintro ⟨row, active, role, held, alive, key, listed, rfl⟩
    obtain ⟨old, was, rfl⟩ := rows.mp active
    have present := (mem_getActiveUserRoles.mp was).1
    by_cases moves : isMoved source.id organization old = true
    · simp only [if_pos moves] at held ⊢
      obtain rfl := Option.some.inj (found.symm.trans held)
      rw [roleOf_id found] at listed
      exact ⟨old, was, source, by rw [moved old present moves, shared], sourceInForce, key,
        (keys key).mp listed, rfl⟩
    · simp only [if_neg moves] at held ⊢
      obtain ⟨same, sameKeys⟩ := others old.roleId (before.assigned old present)
      rw [same] at held
      rw [roleOf_id held] at listed
      exact ⟨old, was, role, held, alive, key, by rw [roleOf_id held]; exact (sameKeys key).mp listed, rfl⟩
  · rintro ⟨old, was, role, held, alive, key, listed, rfl⟩
    have present := (mem_getActiveUserRoles.mp was).1
    by_cases moves : isMoved source.id organization old = true
    · rw [moved old present moves, shared] at held
      obtain rfl := Option.some.inj held
      refine ⟨_, rows.mpr ⟨old, was, rfl⟩, copy, ?_, inForce, key, ?_, ?_⟩
      · rw [if_pos moves]
        exact found
      · rw [roleOf_id found]
        exact (keys key).mpr listed
      · rw [if_pos moves]
    · obtain ⟨same, sameKeys⟩ := others old.roleId (before.assigned old present)
      refine ⟨_, rows.mpr ⟨old, was, rfl⟩, role, ?_, alive, key, ?_, ?_⟩
      · rw [if_neg moves, same]
        exact held
      · rw [roleOf_id held] at listed ⊢
        exact (sameKeys key).mpr listed
      · rw [if_neg moves]

theorem grants_copied {roleId userId : Uuid} {now : Moment} (before : base.Consistent)
    (linked : ∀ row ∈ base.rolePermissions, row.roleId ∈ base.roles.map Role.id) (after : mine.Consistent)
    {data : RoleUpdate} (ran : Rbac.updateRole newId roleId data caller.requesting base = .ok mine)
    (copies : caller.copies base roleId = true) (plain : data.isDeep = false)
    (active : (base.getRoleById roleId).all Role.isActive = true)
    (deep : base.getParentChain roleId maxChainDepth = base.getParentChain roleId maxDepth) :
    Alike (mine.resolve maxDepth userId now) (base.resolve maxDepth userId now) := by
  obtain ⟨source, organization, -, -, copied⟩ := copied_run ran copies plain
  have stays : (Mutation.updateRole newId roleId data).Stays caller base mine := stays_updateRole ran
  have overridden : mine.overrideGrants userId now = base.overrideGrants userId now := by
    have same : ∀ id, mine.permissionOf id = base.permissionOf id := by
      intro id
      rw [Database.permissionOf, Database.permissionOf, stays.samePermissions]
    simp only [Database.overrideGrants, Database.getActiveOverridesForUser, copied.overrides, same]
  constructor
  · intro given
    rw [mem_given, mem_given, given_copied before linked after ran copies plain active deep, overridden]
  · intro given
    simp only [Database.resolve, overridden]

end Copy

/-! ### Runs -/

structure Request where
  now : Moment
  caller : Caller
  mutation : Mutation

def step (maxParentRoleDepth : Nat) (db : Database) (request : Request) : Option Database :=
  match request.mutation.run ⟨maxParentRoleDepth, request.now⟩ request.caller db with
  | .ok mine => if mine.isConsistent && isLinked mine then some mine else none
  | .error _ => none

def isFaithful (maxParentRoleDepth : Nat) (db : Database) (request : Request) : Bool :=
  (linkOf request.caller db request.mutation).all (isSafeLink db) &&
    match request.mutation with
    | .updateRole _ roleId data => !request.caller.copies db roleId || data.isDeep ||
        (db.getRoleById roleId).all Role.isActive &&
          db.getParentChain roleId maxChainDepth = db.getParentChain roleId maxParentRoleDepth
    | _ => true

def IsSeparate (db : Database) : Prop :=
  ∀ role ∈ db.roles, ∀ ancestor ∈ db.roles, TransGen (IsParent db) role.id ancestor.id →
    ∀ organization ∈ role.organizationId, ∀ other ∈ ancestor.organizationId, other = organization

def KeepsOthers (taken : Taken Database Request) : Prop :=
  ∀ editor ∈ taken.action.caller.requesting, ∀ role ∈ taken.before.roles,
    ∀ organization ∈ role.organizationId, organization ≠ editor → ∀ depth key,
      (key ∈ taken.after.resolveRolePermissionKeys depth role.id ↔
        key ∈ taken.before.resolveRolePermissionKeys depth role.id)

/-- What the copy of a shared role leaves of everybody's grants, where neither the permissions nor the
parent change. -/
def KeepsGrants (maxParentRoleDepth : Nat) (taken : Taken Database Request) : Prop :=
  ∀ newId roleId data, taken.action.mutation = .updateRole newId roleId data →
    taken.action.caller.copies taken.before roleId = true → data.isDeep = false → ∀ userId now,
      Alike (taken.after.resolve maxParentRoleDepth userId now) (taken.before.resolve maxParentRoleDepth userId now)

section Steps

variable {maxParentRoleDepth : Nat} {before after : Database} {request : Request}

theorem step_ok (stepped : step maxParentRoleDepth before request = some after) :
    request.mutation.run ⟨maxParentRoleDepth, request.now⟩ request.caller before = .ok after ∧
      after.Consistent ∧ ∀ row ∈ after.rolePermissions, row.roleId ∈ after.roles.map Role.id := by
  simp only [step] at stepped
  split at stepped
  · next mine ran =>
      split at stepped
      · next checked =>
          obtain rfl := Option.some.inj stepped
          simp only [Bool.and_eq_true, isLinked, List.all_eq_true] at checked
          refine ⟨ran, consistent_of_check checked.1, ?_⟩
          intro row listed
          obtain ⟨role, present, same⟩ := List.any_eq_true.mp (checked.2 row listed)
          exact List.mem_map.mpr ⟨role, present, of_decide_eq_true same⟩
      · cases stepped
  · cases stepped

theorem sound_step (sound : Sound before) (faithful : isFaithful maxParentRoleDepth before request = true)
    (stepped : step maxParentRoleDepth before request = some after) : Sound after := by
  obtain ⟨ran, consistent, linked⟩ := step_ok stepped
  have safe := ((Bool.and_eq_true _ _).mp faithful).1
  exact ⟨consistent, linked, acyclic_run sound request.mutation ran safe,
    contained_run sound request.mutation ran safe⟩

theorem step_keeps (sound : Sound before) (faithful : isFaithful maxParentRoleDepth before request = true)
    (stepped : step maxParentRoleDepth before request = some after) :
    KeepsOthers ⟨before, request, after⟩ ∧ KeepsGrants maxParentRoleDepth ⟨before, request, after⟩ := by
  obtain ⟨ran, consistent, -⟩ := step_ok stepped
  constructor
  · intro editor requesting role listed organization owned apart depth key
    exact others_keep sound consistent request.mutation ran requesting listed owned apart depth key
  · intro newId roleId data mutation copies plain userId now
    dsimp only at mutation copies ⊢
    rw [mutation] at ran
    simp only [isFaithful, mutation, copies, plain, Bool.not_true, Bool.or_self, Bool.false_or, Bool.and_eq_true,
      decide_eq_true_eq] at faithful
    exact grants_copied sound.consistent sound.linked consistent ran copies plain faithful.2.1 faithful.2.2

end Steps

/-- In a faithful run the hierarchy stays acyclic and separate, and every call leaves alone what it must. -/
theorem hierarchy_kept (maxParentRoleDepth : Nat) (db : Database) (sound : Sound db)
    (trace : List (Taken Database Request)) (final : Database)
    (traced : Traced (step maxParentRoleDepth)
      (fun db request => isFaithful maxParentRoleDepth db request = true) db trace final) :
    IsAcyclic (IsParent final) ∧ IsSeparate final ∧
      ∀ taken ∈ trace, KeepsOthers taken ∧ KeepsGrants maxParentRoleDepth taken := by
  have always : ∀ state, Reached (step maxParentRoleDepth)
      (fun db request => isFaithful maxParentRoleDepth db request = true) db state → Sound state :=
    fun state reached => reached.invariant Sound sound fun _ _ _ kept faithful stepped =>
      sound_step kept faithful stepped
  have ended := always final traced.reached
  refine ⟨ended.acyclic, ?_, ?_⟩
  · intro role listed ancestor present path organization owned other held
    obtain ⟨same, inside, id, placed⟩ := ancestor_contained ended listed path
    rw [List.inj_on_of_nodup_map ended.consistent.roles inside present id, Option.mem_def.mp held,
      Option.mem_def.mp owned] at placed
    simpa using placed
  · exact traced.always (fun taken => KeepsOthers taken ∧ KeepsGrants maxParentRoleDepth taken)
      fun state action next reached faithful stepped => step_keeps (always state reached) faithful stepped

section Executed

def plainRole (id : Uuid) (slug : Text) (organizationId : Option Uuid) : Role :=
  ⟨id, slug, false, false, true, false, .organization, organizationId, none, []⟩

/-- Roles without parents: one of organization 20, one of organization 10, and three shared ones, of which a
member of organization 10 holds the first. -/
def roots : Database where
  permissions := [⟨1, "guests.read".toList, true, false, []⟩, ⟨2, "guests.delete".toList, true, false, []⟩]
  roles := [plainRole 1 "a".toList (some 20), plainRole 2 "b".toList (some 10), plainRole 3 "c".toList none,
    plainRole 4 "d".toList none, plainRole 5 "e".toList none]
  rolePermissions := [⟨3, 1⟩, ⟨5, 2⟩]
  userRoles := [⟨21, 31, 3, ⟨.organization, some 10, none, none, none⟩, none, true⟩]
  overrides := []
  organizationRoles := []

theorem roots_sound : Sound roots := by
  have alone : ∀ role ∈ roots.roles, role.parentRoleId = none := by decide
  refine ⟨consistent_of_check (by decide +kernel), by decide +kernel, ?_, ?_⟩
  · intro id cycle
    obtain ⟨_, ⟨role, listed, -, named⟩, -⟩ := TransGen.head'_iff.mp cycle
    rw [alone role listed] at named
    cases named
  · intro role listed parent _ named
    rw [alone role listed] at named
    cases named

def platform : Caller := ⟨33, none⟩

def tenant : Caller := ⟨34, some 10⟩

def create (newId : Uuid) (slug : Text) (parent : Uuid) : Request :=
  ⟨0, tenant, .createRole newId ⟨slug, .organization, some 10, some parent, false, [], []⟩⟩

def setParent (caller : Caller) (roleId parent : Uuid) : Request :=
  ⟨0, caller, .updateRole 99 roleId ⟨false, none, some (some parent), none⟩⟩

def customize : Request := ⟨0, tenant, .updateRole 40 3 ⟨true, none, none, none⟩⟩

def keysOf (db : Database) (userId : Uuid) : List Text :=
  (db.resolve 1 userId 0).allow.map EffectiveGrant.permissionKey

/-- The tenant gets its copy of a shared role and a role under its own. -/
theorem hierarchy_kept_customized :
    ∃ trace final, Traced (step 1) (fun db request => isFaithful 1 db request = true) roots trace final ∧
      keysOf final 31 = ["guests.read".toList] ∧ (final.roleOf 40).isSome = true ∧
      IsAcyclic (IsParent final) ∧ IsSeparate final ∧
      ∀ taken ∈ trace, KeepsOthers taken ∧ KeepsGrants 1 taken := by
  obtain ⟨final, reached, seen⟩ := run_observed (step 1) roots (isFaithful 1)
    (fun db => keysOf db 31 = ["guests.read".toList] && (db.roleOf 40).isSome)
    (fun _ _ checked => checked) [create 6 "f".toList 2, customize] (by decide +kernel)
  simp only [Bool.and_eq_true, decide_eq_true_eq] at seen
  obtain ⟨trace, traced⟩ := reached.traced
  exact ⟨trace, final, traced, seen.1, seen.2, hierarchy_kept 1 roots roots_sound trace final traced⟩

theorem isParent_found {db : Database} {child parent : Uuid}
    (found : ((db.roleOf child).any fun role => role.parentRoleId = some parent) = true) :
    IsParent db child parent := by
  obtain ⟨role, located, named⟩ := (Option.any_eq_true _ _).mp found
  exact ⟨role, List.mem_of_find?_eq_some located, roleOf_id located, of_decide_eq_true named⟩

def gains (db : Database) : Bool :=
  customize.caller.copies db 3 && (step 1 db customize).any fun after => (after.resolve 1 31 0).allow.any fun grant =>
    decide (givenBy grant ∉ (db.resolve 1 31 0).allow.map givenBy)

/-- A parent of another organization; a parent above which a deleted role hides the child; and a shared role
that is flattened further than it is resolved. -/
theorem hierarchies_broken : Sound roots ∧
    (∃ final, Reached (step 1) (fun _ _ => True) roots final ∧ ¬ IsSeparate final) ∧
    (∃ final, Reached (step 1) (fun _ _ => True) roots final ∧ ¬ IsAcyclic (IsParent final)) ∧
    ∃ before after, Reached (step 1) (fun _ _ => True) roots before ∧ step 1 before customize = some after ∧
      ¬ KeepsGrants 1 ⟨before, customize, after⟩ := by
  refine ⟨roots_sound, ?_, ?_, ?_⟩
  · obtain ⟨final, reached, seen⟩ := run_observed (step 1) roots (fun _ _ => true)
      (fun db => (db.roleOf 6).any (fun role => role.organizationId = some 10) &&
        (db.roleOf 1).any (fun role => role.organizationId = some 20) &&
        (db.roleOf 6).any fun role => role.parentRoleId = some 1)
      (fun _ _ _ => trivial) [create 6 "f".toList 1] (by decide +kernel)
    simp only [Bool.and_eq_true] at seen
    obtain ⟨role, located, owned⟩ := (Option.any_eq_true _ _).mp seen.1.1
    obtain ⟨parent, found, other⟩ := (Option.any_eq_true _ _).mp seen.1.2
    refine ⟨final, reached, fun separate => ?_⟩
    have path : TransGen (IsParent final) role.id parent.id := by
      rw [roleOf_id located, roleOf_id found]
      exact .single (isParent_found seen.2)
    have same := separate role (List.mem_of_find?_eq_some located) parent (List.mem_of_find?_eq_some found) path
      10 (of_decide_eq_true owned) 20 (of_decide_eq_true other)
    exact absurd same (by decide)
  · obtain ⟨final, reached, seen⟩ := run_observed (step 1) roots (fun _ _ => true)
      (fun db => (db.roleOf 2).any (fun role => role.parentRoleId = some 7) &&
        (db.roleOf 7).any (fun role => role.parentRoleId = some 6) &&
        (db.roleOf 6).any fun role => role.parentRoleId = some 2)
      (fun _ _ _ => trivial) [create 6 "f".toList 2, create 7 "g".toList 6, ⟨0, tenant, .deleteRole 6⟩,
        setParent tenant 2 7] (by decide +kernel)
    simp only [Bool.and_eq_true] at seen
    refine ⟨final, reached, fun acyclic => acyclic 2 ?_⟩
    exact ((TransGen.single (isParent_found seen.1.1)).tail (isParent_found seen.1.2)).tail (isParent_found seen.2)
  · obtain ⟨before, reached, seen⟩ := run_observed (step 1) roots (fun _ _ => true) gains
      (fun _ _ _ => trivial) [setParent platform 4 5, setParent platform 3 4] (by decide +kernel)
    obtain ⟨copies, seen⟩ := (Bool.and_eq_true _ _).mp seen
    obtain ⟨after, stepped, gained⟩ := (Option.any_eq_true _ _).mp seen
    refine ⟨before, after, reached, stepped, fun keeps => ?_⟩
    obtain ⟨grant, listed, missing⟩ := List.any_eq_true.mp gained
    have same := keeps 40 3 ⟨true, none, none, none⟩ rfl copies rfl 31 0
    exact of_decide_eq_true missing ((same.allow (givenBy grant)).mp (List.mem_map_of_mem listed))

end Executed

end CloudGuest.Rbac.Hierarchy
