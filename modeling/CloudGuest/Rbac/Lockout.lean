import CloudGuest.Library.Runs
import CloudGuest.Rbac.Transactions

/-!
The guards that keep an organization its owner and the platform its super admin.
They count the other rows of the role that are marked active, expired or not, and the
deactivation is committed later. A revocation that is `Timely` commits while its count
still stands and includes no expired row.
-/

namespace CloudGuest.Rbac.Lockout
open Texts Uuids Runs

variable (db : Database)

def isOwnerRow (row : UserRole) : Bool :=
  row.scope.organizationId.isSome &&
    (db.getRoleById row.roleId).any fun role => role.slug = organizationOwnerRoleSlug

def isAdminRow (row : UserRole) : Bool :=
  row.scope.organizationId = none && row.scope.scopeType = .global &&
    (db.getRoleById row.roleId).any fun role => role.slug = superAdminRoleSlug

def isLive (now : Moment) (row : UserRole) : Bool := row.isActive && isCurrent row.expiresAt now

def hasOwner (now : Moment) (organization : Uuid) : Bool :=
  db.userRoles.any fun row => isLive now row && isOwnerRow db row &&
    row.scope.organizationId = some organization

def hasGlobalAdmin (now : Moment) : Bool := db.userRoles.any fun row => isLive now row && isAdminRow db row

/-- The organizations that lose their last owner with a commit, and `none` for the platform. -/
def lockedOut (now : Moment) (before after : Database) : List (Option Uuid) :=
  ((before.userRoles.filterMap fun row => row.scope.organizationId).filter fun organization =>
    hasOwner before now organization && !hasOwner after now organization).map some ++
  if hasGlobalAdmin before now && !hasGlobalAdmin after now then [none] else []

/-! ### Requests -/

structure System where
  db : Database
  now : Moment
  calls : List Pending
  /-- Who was locked out by a revocation. -/
  lockouts : List (Option Uuid)

inductive Action where
  | request (caller : Caller) (mutation : Mutation)
  | commit (place : Nat)
  | rollback (place : Nat)
  | tick (seconds : Nat)

def isRevocation : Mutation → Bool
  | .revokeRoleFromUser _ => true
  | _ => false

def step (maxParentRoleDepth : Nat) (system : System) : Action → Option System
  | .request caller mutation =>
      match mutation.run ⟨maxParentRoleDepth, system.now⟩ caller system.db with
      | .ok mine => some { system with calls := system.calls ++ [⟨mutation, caller, system.db, mine⟩] }
      | .error _ => none
  | .commit place => do
      let call ← system.calls[place]?
      let db := Database.merge call.base call.mine system.db
      guard db.isConsistent
      some { system with
        db, calls := system.calls.eraseIdx place
        lockouts := system.lockouts ++
          if isRevocation call.mutation then lockedOut system.now system.db db else [] }
  | .rollback place =>
      if place < system.calls.length then some { system with calls := system.calls.eraseIdx place }
      else none
  | .tick seconds => some { system with now := system.now + seconds }

/-- The revocation's guards still pass, and every row of the role that they count is current. -/
def isSafeRevocation (system : System) (caller : Caller) (row : UserRole) : Bool :=
  (system.db.assertRevocable row caller.requesting).toBool &&
    system.db.userRoles.all fun other =>
      !(other.roleId = row.roleId && other.scope.organizationId = row.scope.organizationId &&
        other.isActive) || isCurrent other.expiresAt system.now

/-- A revocation of an owner or a super admin commits while it is safe. -/
def isTimely (system : System) : Action → Bool
  | .commit place =>
      (system.calls[place]?).all fun call =>
        match call.mutation with
        | .revokeRoleFromUser id =>
            (system.db.getUserRoleAssignment id).all fun row =>
              !(isOwnerRow system.db row || isAdminRow system.db row) ||
                isSafeRevocation system call.caller row
        | _ => true
  | _ => true

/-! ### One revocation -/

variable {db}

theorem revoke_ok {id : Uuid} {requesting : Option Uuid} {mine : Database}
    (ran : revokeRoleFromUser id requesting db = .ok mine) : mine = db.deactivateUserRole id := by
  simp only [revokeRoleFromUser, Faults.bind_ok, found_ok] at ran
  obtain ⟨row, located, -, -, left⟩ := ran
  have same : row.id = id := by
    simpa using List.find?_some located
  rw [← same]
  exact (Except.ok.inj left).symm

section Committed

variable {base current : Database} {id : Uuid}

theorem revoked_roles : (Database.merge base (base.deactivateUserRole id) current).roles = current.roles :=
  mergeRows_same Role.write_same base.roles current.roles

theorem revoked_other {row : UserRole} (listed : row ∈ current.userRoles) (apart : row.id ≠ id) :
    row ∈ (Database.merge base (base.deactivateUserRole id) current).userRoles := by
  apply mem_mergeRows UserRole.write_same listed
  have keeps : ∀ row : UserRole, UserRole.id { row with isActive := false } = row.id := fun _ => rfl
  exact find_changed _ keeps apart base.userRoles

theorem isOwnerRow_of_roles {left right : Database} (same : left.roles = right.roles) (row : UserRole) :
    isOwnerRow left row = isOwnerRow right row := by
  rw [isOwnerRow, isOwnerRow, Database.getRoleById, Database.getRoleById, same]

theorem isAdminRow_of_roles {left right : Database} (same : left.roles = right.roles) (row : UserRole) :
    isAdminRow left row = isAdminRow right row := by
  rw [isAdminRow, isAdminRow, Database.getRoleById, Database.getRoleById, same]

end Committed

theorem another_owner {row : UserRole} {organization : Uuid}
    (passed : db.assertNotLastOrganizationOwner row = .ok ()) (active : row.isActive = true)
    (isOwner : isOwnerRow db row = true) (placed : row.scope.organizationId = some organization) :
    ∃ other ∈ db.userRoles, other.id ≠ row.id ∧ other.roleId = row.roleId ∧
      other.scope.organizationId = some organization ∧ other.isActive = true := by
  simp only [isOwnerRow, Bool.and_eq_true] at isOwner
  obtain ⟨role, present, slug⟩ := (Option.any_eq_true _ _).mp isOwner.2
  simp only [Database.assertNotLastOrganizationOwner, placed, active, present, Bool.not_true,
    Bool.false_eq_true, if_false, Option.all_some] at passed
  rw [if_neg (by simpa using slug), require_ok, decide_eq_true_eq] at passed
  obtain ⟨other, listed, counted⟩ := List.countP_pos_iff.mp (Nat.pos_of_ne_zero passed)
  simp only [Bool.and_eq_true, decide_eq_true_eq, ne_eq, Option.some.injEq] at counted
  exact ⟨other, listed, counted.2, counted.1.1.1, counted.1.1.2, counted.1.2⟩

theorem another_admin {row : UserRole} (passed : db.assertNotLastGlobalAdmin row = .ok ())
    (active : row.isActive = true) (isAdmin : isAdminRow db row = true) :
    ∃ other ∈ db.userRoles, other.id ≠ row.id ∧ other.roleId = row.roleId ∧
      other.scope.scopeType = .global ∧ other.scope.organizationId = none ∧ other.isActive = true := by
  simp only [isAdminRow, Bool.and_eq_true, decide_eq_true_eq] at isAdmin
  obtain ⟨role, present, slug⟩ := (Option.any_eq_true _ _).mp isAdmin.2
  simp only [Database.assertNotLastGlobalAdmin, isAdmin.1.1, isAdmin.1.2, active, present,
    Option.isSome_none, Bool.not_true, Bool.or_self, Bool.false_eq_true, if_false, ne_eq, not_true,
    Option.all_some] at passed
  rw [if_neg (by simpa using slug), require_ok, decide_eq_true_eq] at passed
  obtain ⟨other, listed, counted⟩ := List.countP_pos_iff.mp (Nat.pos_of_ne_zero passed)
  simp only [Bool.and_eq_true, decide_eq_true_eq, ne_eq, Option.some.injEq] at counted
  exact ⟨other, listed, counted.2, counted.1.1.1.1, counted.1.1.1.2, counted.1.1.2, counted.1.2⟩

structure Sound (maxParentRoleDepth : Nat) (system : System) : Prop where
  ran : ∀ call ∈ system.calls, ∃ now,
    call.mutation.run ⟨maxParentRoleDepth, now⟩ call.caller call.base = .ok call.mine
  distinct : (system.db.userRoles.map UserRole.id).Nodup
  kept : system.lockouts = []

theorem revocation_keeps {system : System} {base : Database} {id : Uuid} {caller : Caller}
    (distinct : (system.db.userRoles.map UserRole.id).Nodup)
    (timely : ∀ row, system.db.getUserRoleAssignment id = some row →
      (isOwnerRow system.db row || isAdminRow system.db row) = true →
        isSafeRevocation system caller row = true) :
    (∀ organization, hasOwner system.db system.now organization = true →
      hasOwner (Database.merge base (base.deactivateUserRole id) system.db) system.now organization = true) ∧
    (hasGlobalAdmin system.db system.now = true →
      hasGlobalAdmin (Database.merge base (base.deactivateUserRole id) system.db) system.now = true) := by
  -- the row itself is replaced by one that the guard has counted
  have safe : ∀ row ∈ system.db.userRoles, row.id = id →
      (isOwnerRow system.db row || isAdminRow system.db row) = true →
      system.db.assertNotLastOrganizationOwner row = .ok () ∧
      system.db.assertNotLastGlobalAdmin row = .ok () ∧
      ∀ other ∈ system.db.userRoles, other.roleId = row.roleId →
        other.scope.organizationId = row.scope.organizationId → other.isActive = true →
          isCurrent other.expiresAt system.now = true := by
    intro row listed same guarded
    have revocable := timely row (by rw [← same]; exact find_of_mem distinct listed) guarded
    simp only [isSafeRevocation, Bool.and_eq_true, List.all_eq_true] at revocable
    obtain ⟨passed, current⟩ := revocable
    have tests : system.db.assertRevocable row caller.requesting = .ok () := by
      cases result : system.db.assertRevocable row caller.requesting with
      | ok value => rfl
      | error fault => simp [result, Except.toBool] at passed
    simp only [Database.assertRevocable, Faults.bind_ok] at tests
    obtain ⟨_, _, _, owner, admin⟩ := tests
    refine ⟨owner, admin, ?_⟩
    intro other present role organization active
    have counted := current other present
    simpa [role, organization, active] using counted
  constructor
  · intro organization owned
    obtain ⟨row, listed, live⟩ := List.any_eq_true.mp owned
    simp only [Bool.and_eq_true, decide_eq_true_eq, isLive] at live
    obtain ⟨⟨⟨active, current⟩, isOwner⟩, placed⟩ := live
    apply List.any_eq_true.mpr
    by_cases same : row.id = id
    · obtain ⟨passed, -, counted⟩ := safe row listed same (by simp [isOwner])
      obtain ⟨other, present, apart, role, inside, alive⟩ := another_owner passed active isOwner placed
      refine ⟨other, revoked_other present (same ▸ apart), ?_⟩
      have fresh := counted other present role (inside.trans placed.symm) alive
      rw [isOwnerRow_of_roles revoked_roles]
      have owner : isOwnerRow system.db other = true := by
        rw [isOwnerRow, role, inside]
        exact (Bool.and_eq_true _ _).mpr ⟨rfl, ((Bool.and_eq_true _ _).mp isOwner).2⟩
      simp [isLive, alive, fresh, owner, inside]
    · refine ⟨row, revoked_other listed same, ?_⟩
      rw [isOwnerRow_of_roles revoked_roles]
      simp [isLive, active, current, isOwner, placed]
  · intro administered
    obtain ⟨row, listed, live⟩ := List.any_eq_true.mp administered
    simp only [Bool.and_eq_true, isLive] at live
    obtain ⟨⟨active, current⟩, isAdmin⟩ := live
    apply List.any_eq_true.mpr
    by_cases same : row.id = id
    · obtain ⟨-, passed, counted⟩ := safe row listed same (by simp [isAdmin])
      obtain ⟨other, present, apart, role, scope, inside, alive⟩ := another_admin passed active isAdmin
      refine ⟨other, revoked_other present (same ▸ apart), ?_⟩
      simp only [isAdminRow, Bool.and_eq_true, decide_eq_true_eq] at isAdmin
      have fresh := counted other present role (inside.trans isAdmin.1.1.symm) alive
      rw [isAdminRow_of_roles revoked_roles]
      have admin : isAdminRow system.db other = true := by
        rw [isAdminRow, role, scope, inside]
        simp [isAdmin.2]
      simp [isLive, alive, fresh, admin]
    · refine ⟨row, revoked_other listed same, ?_⟩
      rw [isAdminRow_of_roles revoked_roles]
      simp [isLive, active, current, isAdmin]

theorem lockedOut_nil {now : Moment} {before after : Database}
    (owners : ∀ organization, hasOwner before now organization = true →
      hasOwner after now organization = true)
    (admins : hasGlobalAdmin before now = true → hasGlobalAdmin after now = true) :
    lockedOut now before after = [] := by
  have organizations : ((before.userRoles.filterMap fun row => row.scope.organizationId).filter
      fun organization => hasOwner before now organization && !hasOwner after now organization) = [] := by
    rw [List.filter_eq_nil_iff]
    intro organization _ lost
    simp only [Bool.and_eq_true, Bool.not_eq_true'] at lost
    exact absurd (owners organization lost.1) (by simp [lost.2])
  have platform : (hasGlobalAdmin before now && !hasGlobalAdmin after now) = false := by
    cases administered : hasGlobalAdmin before now with
    | false => rfl
    | true => simp [admins administered]
  rw [lockedOut, organizations, platform]
  rfl

theorem sound_commit {maxParentRoleDepth place : Nat} {system next : System}
    (sound : Sound maxParentRoleDepth system) (timely : isTimely system (.commit place) = true)
    (stepped : step maxParentRoleDepth system (.commit place) = some next) :
    Sound maxParentRoleDepth next := by
  simp only [step, Option.bind_eq_bind, Option.bind_eq_some_iff, Option.guard_eq_some'] at stepped
  obtain ⟨call, located, -, consistent, stepped⟩ := stepped
  obtain rfl := Option.some.inj stepped
  refine ⟨fun other listed => sound.ran other (List.mem_of_mem_eraseIdx listed), ?_, ?_⟩
  · exact (consistent_of_check consistent).userRoles
  · rw [sound.kept, List.nil_append]
    obtain ⟨now, ran⟩ := sound.ran call (List.mem_of_getElem? located)
    simp only [isTimely, located, Option.all_some] at timely
    cases mutation : call.mutation with
    | revokeRoleFromUser id =>
        rw [mutation] at ran timely
        have left := revoke_ok ran
        have safe : ∀ row, system.db.getUserRoleAssignment id = some row →
            (isOwnerRow system.db row || isAdminRow system.db row) = true →
              isSafeRevocation system call.caller row = true := by
          intro row assigned guarded
          simp only [assigned, Option.all_some, guarded, Bool.not_true, Bool.false_or] at timely
          exact timely
        obtain ⟨owners, admins⟩ := revocation_keeps sound.distinct safe
        rw [isRevocation, if_pos rfl, left]
        exact lockedOut_nil owners admins
    | _ => rfl

theorem sound_step (maxParentRoleDepth : Nat) (system : System) (action : Action) (next : System)
    (sound : Sound maxParentRoleDepth system) (timely : isTimely system action = true)
    (stepped : step maxParentRoleDepth system action = some next) : Sound maxParentRoleDepth next := by
  cases action with
  | request caller mutation =>
      simp only [step] at stepped
      split at stepped
      · next mine ran =>
          obtain rfl := Option.some.inj stepped
          refine ⟨?_, sound.distinct, sound.kept⟩
          intro call listed
          rcases List.mem_append.mp listed with earlier | last
          · exact sound.ran call earlier
          · obtain rfl := List.mem_singleton.mp last
            exact ⟨system.now, ran⟩
      · cases stepped
  | commit place => exact sound_commit sound timely stepped
  | rollback place =>
      simp only [step] at stepped
      split at stepped
      · obtain rfl := Option.some.inj stepped
        exact ⟨fun call listed => sound.ran call (List.mem_of_mem_eraseIdx listed), sound.distinct,
          sound.kept⟩
      · cases stepped
  | tick seconds =>
      obtain rfl := Option.some.inj stepped
      exact ⟨sound.ran, sound.distinct, sound.kept⟩

/-- No timely revocation takes the last owner from an organization or the last super admin from the
platform. -/
theorem nobody_locked_out (maxParentRoleDepth : Nat) (db : Database) (now : Moment)
    (consistent : db.isConsistent = true) (system : System)
    (reached : Reached (step maxParentRoleDepth) (fun system action => isTimely system action = true)
      ⟨db, now, [], []⟩ system) : system.lockouts = [] := by
  have start : Sound maxParentRoleDepth ⟨db, now, [], []⟩ :=
    ⟨by simp, (consistent_of_check consistent).userRoles, rfl⟩
  exact (reached.invariant (Sound maxParentRoleDepth) start (sound_step maxParentRoleDepth)).kept

section Executed

def ownerRole : Role :=
  ⟨1, organizationOwnerRoleSlug, true, false, true, false, .organization, none, none, []⟩

def adminRole : Role := ⟨2, superAdminRoleSlug, true, false, true, false, .global, none, none, []⟩

def owns (id user : Uuid) (expiresAt : Option Moment) : UserRole :=
  ⟨id, user, 1, ⟨.organization, some 10, none, none, none⟩, expiresAt, true⟩

def twoOwners (expiresAt : Option Moment) : Database where
  permissions := []
  roles := [ownerRole, adminRole]
  rolePermissions := []
  userRoles := [owns 21 31 none, owns 22 32 expiresAt,
    ⟨23, 33, 2, ⟨.global, none, none, none, none⟩, none, true⟩]
  overrides := []
  organizationRoles := []

def admin : Caller := ⟨33, none⟩

/-- One of two owners is revoked, while the other's revocation is turned back. -/
theorem nobody_locked_out_one_revoked :
    (twoOwners none).isConsistent = true ∧
    ∃ system, Reached (step 5) (fun system action => isTimely system action = true)
        ⟨twoOwners none, 0, [], []⟩ system ∧
      hasOwner system.db system.now 10 = true ∧
      system.db.userRoles.countP UserRole.isActive = 2 ∧ system.lockouts = [] := by
  have consistent : (twoOwners none).isConsistent = true := by decide +kernel
  obtain ⟨system, reached, seen⟩ := run_observed (step 5) ⟨twoOwners none, 0, [], []⟩
    isTimely (fun system => hasOwner system.db system.now 10 &&
      system.db.userRoles.countP UserRole.isActive = 2)
    (fun _ _ checked => checked)
    [.request admin (.revokeRoleFromUser 21), .request admin (.revokeRoleFromUser 22), .tick 60,
      .commit 0, .rollback 0] (by decide +kernel)
  simp only [Bool.and_eq_true, decide_eq_true_eq] at seen
  exact ⟨consistent, system, reached, seen.1, seen.2,
    nobody_locked_out 5 (twoOwners none) 0 consistent system reached⟩

/-- Two owners are revoked at once, each counted for the other; or the one that remains has
expired. -/
theorem stale_counts_lock_out :
    (twoOwners none).isConsistent = true ∧ hasOwner (twoOwners none) 0 10 = true ∧
    hasGlobalAdmin (twoOwners none) 0 = true ∧
    (∃ system, Reached (step 5) (fun _ _ => True) ⟨twoOwners none, 0, [], []⟩ system ∧
      some 10 ∈ system.lockouts) ∧
    (twoOwners (some 100)).isConsistent = true ∧ hasOwner (twoOwners (some 100)) 0 10 = true ∧
    ∃ system, Reached (step 5) (fun _ _ => True) ⟨twoOwners (some 100), 0, [], []⟩ system ∧
      some 10 ∈ system.lockouts := by
  obtain ⟨first, reachedFirst, seenFirst⟩ := run_observed (step 5) ⟨twoOwners none, 0, [], []⟩
    (fun _ _ => true) (fun system => some 10 ∈ system.lockouts) (fun _ _ _ => trivial)
    [.request admin (.revokeRoleFromUser 21), .request admin (.revokeRoleFromUser 22),
      .commit 0, .commit 0] (by decide +kernel)
  obtain ⟨second, reachedSecond, seenSecond⟩ := run_observed (step 5)
    ⟨twoOwners (some 100), 0, [], []⟩
    (fun _ _ => true) (fun system => some 10 ∈ system.lockouts) (fun _ _ _ => trivial)
    [.tick 200, .request admin (.revokeRoleFromUser 21), .commit 0] (by decide +kernel)
  exact ⟨by decide +kernel, by decide +kernel, by decide +kernel,
    ⟨first, reachedFirst, of_decide_eq_true seenFirst⟩, by decide +kernel, by decide +kernel,
    second, reachedSecond, of_decide_eq_true seenSecond⟩

end Executed

end CloudGuest.Rbac.Lockout
