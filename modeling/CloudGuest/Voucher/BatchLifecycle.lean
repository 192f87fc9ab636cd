import CloudGuest.Voucher.Redemption

/-!
The status of a batch when requests on it overlap. Each transition is checked on
the row that was read and written whatever the row holds by then: an approval can
bring a revoked batch back to ACTIVE, and an import that had read the batch before
adds vouchers that the revocation's cascade never sees. Where every commit finds the
status that its request had read, or one that the request's own check admits as well,
the graph is kept and a revoked batch stays revoked; the first other commit breaks it.
-/

namespace CloudGuest.Vouchers
open Calendar Calls Runs

/-- No request would pass its check on any of the batch's vouchers, at any time. -/
def Unredeemable (system : System) : Prop :=
  ∀ voucher ∈ system.vouchers, ∀ refreshed now,
    redemptionFailureReason voucher (system.batch.refreshed refreshed) now ≠ none

structure Lifecycle (system : System) : Prop where
  edges : ∀ change ∈ system.changes, change.2 ∈ batchStatusTransitions change.1
  revoked : system.everRevoked = true → system.batch.status = .revoked
  unredeemable : system.everRevoked = true → Unredeemable system

def BatchWrite.target : BatchWrite → Option BatchStatus
  | .approve => some .approved
  | .revoke => some .revoked
  | .expire => some .expired
  | .importing => none

/-- The request's own check admits the status that its commit finds, or the status it writes is
there already. -/
def BatchWrite.lands (write : BatchWrite) (held : BatchStatus) : Bool :=
  write.target.all fun target => write.admits held || held = target

def ordered (system : System) : Action → Bool
  | .commitCall place _ =>
      (system.calls[place]?).all fun call => call.write.lands system.batch.status
  | _ => true

def absorbed (status : BatchStatus) : Bool := status = .revoked || status = .expired

/-- What a step leaves of the batch: a status is left along the graph, and REVOKED is remembered. -/
structure Kept (before after : System) : Prop where
  edges : (∀ change ∈ before.changes, change.2 ∈ batchStatusTransitions change.1) →
    ∀ change ∈ after.changes, change.2 ∈ batchStatusTransitions change.1
  absorbed : absorbed before.batch.status = true → after.batch.status = before.batch.status
  revoked : after.everRevoked = true →
    before.everRevoked = true ∨ after.batch.status = .revoked

theorem kept_aside (before after : System) (batch : after.batch = before.batch)
    (changes : after.changes = before.changes) (revoked : after.everRevoked = before.everRevoked) :
    Kept before after := by
  constructor
  · rw [changes]
    exact id
  · rw [batch]
    exact fun _ => rfl
  · rw [revoked]
    exact .inl

theorem absorbed_final (status target : BatchStatus) (final : absorbed status = true) :
    target ∉ batchStatusTransitions status := by
  cases status <;> simp [absorbed, batchStatusTransitions] at final ⊢

theorem kept_written (system : System) (target : BatchStatus)
    (allowed : system.batch.status = target ∨ target ∈ batchStatusTransitions system.batch.status) :
    Kept system (system.writeStatus [target]) := by
  constructor
  · intro edges
    simp only [System.writeStatus]
    split
    · exact edges
    · rename_i changed
      exact each_started edges (allowed.resolve_left fun same => changed same.symm)
  · intro final
    rcases allowed with same | edge
    · exact same.symm
    · exact absurd edge (absorbed_final _ _ final)
  · exact .inl

theorem kept_approved (system : System) (allowed : system.batch.status = .approved ∨
      .approved ∈ batchStatusTransitions system.batch.status) :
    Kept system (system.writeStatus [.approved, .active]) := by
  have first := kept_written system .approved allowed
  have second := kept_written (system.writeStatus [.approved]) .active
    (.inr (by simp [System.writeStatus, batchStatusTransitions]))
  constructor
  · exact fun edges => second.edges (first.edges edges)
  · intro final
    rcases allowed with same | edge
    · rw [same] at final
      cases final
    · exact absurd edge (absorbed_final _ _ final)
  · exact .inl

theorem admits_iff {write : BatchWrite} {target : BatchStatus} (writes : write.target = some target)
    (held : BatchStatus) : write.admits held = true ↔ target ∈ batchStatusTransitions held := by
  cases write with
  | approve =>
      cases writes
      simp [BatchWrite.admits]
  | revoke =>
      cases writes
      simp [BatchWrite.admits]
  | expire =>
      cases writes
      cases held <;> decide
  | importing => cases writes

theorem lands_iff {write : BatchWrite} {target : BatchStatus} (writes : write.target = some target)
    (held : BatchStatus) :
    write.lands held = true ↔ held = target ∨ target ∈ batchStatusTransitions held := by
  rw [BatchWrite.lands, writes, Option.all_some, Bool.or_eq_true, admits_iff writes held,
    decide_eq_true_eq, or_comm]

theorem kept_batchCall (system : System) (codes : Nat) (call : BatchCall)
    (landed : call.write.lands system.batch.status = true) :
    Kept system (system.commitBatchCall codes call) := by
  unfold System.commitBatchCall
  cases write : call.write with
  | approve =>
      rw [write] at landed
      exact kept_approved system ((lands_iff rfl _).mp landed)
  | revoke =>
      rw [write] at landed
      have written := kept_written system .revoked ((lands_iff rfl _).mp landed)
      exact ⟨written.edges, written.absorbed, fun _ => .inr rfl⟩
  | expire =>
      rw [write] at landed
      exact kept_written system .expired ((lands_iff rfl _).mp landed)
  | importing => exact kept_aside _ _ rfl rfl rfl

theorem kept_step (system next : System) (action : Action) (allowed : ordered system action = true)
    (stepped : step system action = some next) : Kept system next := by
  cases action with
  | readVoucher place =>
      obtain ⟨voucher, -, rfl⟩ := Option.map_eq_some_iff.mp stepped
      exact kept_aside _ _ rfl rfl rfl
  | checkBatch place refreshed now identifier =>
      obtain ⟨redemption, -, stepped⟩ := Option.bind_eq_some_iff.mp stepped
      split at stepped
      · split at stepped
        · split at stepped <;> cases stepped <;> exact kept_aside _ _ rfl rfl rfl
        · cases stepped
          exact kept_aside _ _ rfl rfl rfl
      · cases stepped
  | beginUpdate place =>
      obtain ⟨redemption, -, stepped⟩ := Option.bind_eq_some_iff.mp stepped
      split at stepped
      · cases stepped
        exact kept_aside _ _ rfl rfl rfl
      · cases stepped
  | writeVoucher place =>
      obtain ⟨redemption, -, stepped⟩ := Option.bind_eq_some_iff.mp stepped
      split at stepped
      · split at stepped
        · cases stepped
        · obtain ⟨held, -, rfl⟩ := Option.map_eq_some_iff.mp stepped
          split <;> exact kept_aside _ _ rfl rfl rfl
      · cases stepped
  | commitRedemption place =>
      obtain ⟨redemption, -, stepped⟩ := Option.bind_eq_some_iff.mp stepped
      split at stepped
      · cases stepped
        exact kept_aside _ _ rfl rfl rfl
      · cases stepped
  | abortRedemption place =>
      cases stepped
      exact kept_aside _ _ rfl rfl rfl
  | validateVoucher place now =>
      cases stepped
      exact kept_aside _ _ rfl rfl rfl
  | readApprove now | readRevoke now | readExpiry now | readImport now =>
      obtain ⟨_, -, rfl⟩ := read_cases rfl stepped
      exact kept_aside _ _ rfl rfl rfl
  | cascade place =>
      obtain ⟨_, -, -, -, rfl⟩ := cascade_cases stepped
      exact kept_aside _ _ rfl rfl rfl
  | commitCall place codes =>
      obtain ⟨call, found, -, rfl⟩ := commit_cases stepped
      simp only [ordered, found, Option.all_some] at allowed
      have kept := kept_batchCall system codes call allowed
      exact ⟨kept.edges, kept.absorbed, kept.revoked⟩
  | abortCall place =>
      cases stepped
      exact kept_aside _ _ rfl rfl rfl

/-! ### What the requests have read -/

def Admitted (system : System) : Prop :=
  ∀ call ∈ system.calls, call.write.admits call.found = true

theorem admitted_step (system next : System) (action : Action) (admitted : Admitted system)
    (stepped : step system action = some next) : Admitted next := by
  cases action with
  | readVoucher place =>
      obtain ⟨voucher, -, rfl⟩ := Option.map_eq_some_iff.mp stepped
      exact admitted
  | checkBatch place refreshed now identifier =>
      obtain ⟨redemption, -, stepped⟩ := Option.bind_eq_some_iff.mp stepped
      split at stepped
      · split at stepped
        · split at stepped <;> cases stepped <;> exact admitted
        · cases stepped
          exact admitted
      · cases stepped
  | beginUpdate place =>
      obtain ⟨redemption, -, stepped⟩ := Option.bind_eq_some_iff.mp stepped
      split at stepped
      · cases stepped
        exact admitted
      · cases stepped
  | writeVoucher place =>
      obtain ⟨redemption, -, stepped⟩ := Option.bind_eq_some_iff.mp stepped
      split at stepped
      · split at stepped
        · cases stepped
        · obtain ⟨held, -, rfl⟩ := Option.map_eq_some_iff.mp stepped
          split <;> exact admitted
      · cases stepped
  | commitRedemption place =>
      obtain ⟨redemption, -, stepped⟩ := Option.bind_eq_some_iff.mp stepped
      split at stepped
      · cases stepped
        exact admitted
      · cases stepped
  | abortRedemption place =>
      cases stepped
      exact admitted
  | validateVoucher place now =>
      cases stepped
      exact admitted
  | readApprove now | readRevoke now | readExpiry now | readImport now =>
      obtain ⟨found, passed, rfl⟩ := read_cases rfl stepped
      exact each_started admitted passed
  | cascade place =>
      obtain ⟨call, found, -, -, rfl⟩ := cascade_cases stepped
      have passed : call.write.admits call.found = true := found_holds admitted found
      exact each_continued admitted place passed
  | commitCall place codes =>
      obtain ⟨call, -, -, rfl⟩ := commit_cases stepped
      exact each_ended admitted place
  | abortCall place =>
      cases stepped
      exact each_ended admitted place

theorem unmoved_ordered (system : System) (admitted : Admitted system) (place codes : Nat)
    (call : BatchCall) (found : system.calls[place]? = some call)
    (unmoved : system.batch.status = call.found) :
    ordered system (.commitCall place codes) = true := by
  have passed := found_holds admitted found
  simp only [ordered, found, Option.all_some, BatchWrite.lands, unmoved]
  cases call.write.target with
  | none => rfl
  | some target => simp [passed]

/-! ### Every run -/

theorem unredeemable_of_revoked (system : System) (revoked : system.batch.status = .revoked) :
    Unredeemable system := by
  intro voucher _ refreshed now
  have seen : system.batch.refreshed refreshed = .revoked := by
    simp [Batch.refreshed, revoked]
  rw [seen]
  unfold redemptionFailureReason
  cases voucher.status <;> simp

theorem lifecycle_reached (batch : Batch) (quantity : Nat) (system : System)
    (reached : Reached step (fun system action => ordered system action = true)
      (System.started batch quantity) system) : Lifecycle system := by
  have held : (∀ change ∈ system.changes, change.2 ∈ batchStatusTransitions change.1) ∧
      (system.everRevoked = true → system.batch.status = .revoked) := by
    refine Reached.invariant (fun state : System =>
      (∀ change ∈ state.changes, change.2 ∈ batchStatusTransitions change.1) ∧
        (state.everRevoked = true → state.batch.status = .revoked)) ?_ ?_ reached
    · simp [System.started]
    · rintro state action next ⟨edges, revoked⟩ allowed stepped
      have kept := kept_step state next action allowed stepped
      refine ⟨kept.edges edges, fun ever => ?_⟩
      rcases kept.revoked ever with before | now
      · have was := revoked before
        rw [kept.absorbed (by simp [absorbed, was]), was]
      · exact now
  exact ⟨held.1, held.2, fun ever => unredeemable_of_revoked system (held.2 ever)⟩

theorem changes_writeStatus (system : System) (target : BatchStatus) (rest : List BatchStatus)
    (other : system.batch.status ≠ target) :
    (system.batch.status, target) ∈ (system.writeStatus (target :: rest)).changes := by
  have recorded : ∀ (state : System) (statuses : List BatchStatus),
      ∀ change ∈ state.changes, change ∈ (state.writeStatus statuses).changes := by
    intro state statuses
    induction statuses generalizing state with
    | nil => exact fun _ member => member
    | cons status later ih =>
        intro change member
        apply ih
        dsimp only
        split
        · exact member
        · exact List.mem_append_left _ member
  rw [System.writeStatus]
  refine recorded _ rest _ ?_
  dsimp only
  rw [if_neg other.symm]
  exact List.mem_append_right _ (List.mem_singleton_self _)

theorem astray_step (system next : System) (action : Action)
    (stepped : step system action = some next) (wrongly : ordered system action = false) :
    ¬ Lifecycle next := by
  cases action with
  | commitCall place codes =>
      obtain ⟨call, found, -, rfl⟩ := commit_cases stepped
      simp only [ordered, found, Option.all_some] at wrongly
      intro lifecycle
      have edges := lifecycle.edges
      unfold System.commitBatchCall at edges
      cases write : call.write with
      | importing =>
          rw [write] at wrongly
          cases wrongly
      | approve | revoke | expire =>
          rw [write, Bool.eq_false_iff, Ne, lands_iff rfl, not_or] at wrongly
          rw [write] at edges
          exact wrongly.2 (edges _ (changes_writeStatus system _ _ wrongly.1))
  | _ => cases wrongly

/-- In a run whose commits keep to the order, every status change is an edge of the graph, REVOKED
and EXPIRED are never left, and no voucher of a batch that was ever REVOKED can be redeemed. The
first commit that does not breaks this. A commit that finds the status its request had read always
does. -/
theorem batch_lifecycle (batch : Batch) (quantity : Nat) :
    (∀ system, Reached step (fun system action => ordered system action = true)
        (System.started batch quantity) system →
      Lifecycle system ∧
        ∀ later, Reached step (fun system action => ordered system action = true) system later →
          absorbed system.batch.status = true → later.batch.status = system.batch.status) ∧
    (∀ system, Reached step (fun system action => ordered system action = true)
        (System.started batch quantity) system →
      ∀ action next, step system action = some next → ordered system action = false →
        ¬ Lifecycle next) ∧
    ∀ system, Reached step (fun _ _ => True) (System.started batch quantity) system →
      ∀ place codes call, system.calls[place]? = some call →
        system.batch.status = call.found → ordered system (.commitCall place codes) = true := by
  refine ⟨fun system reached => ⟨lifecycle_reached batch quantity system reached, ?_⟩, ?_, ?_⟩
  · intro later onward final
    refine Reached.invariant (fun state : System => state.batch.status = system.batch.status) rfl ?_
      onward
    intro state action next same allowed stepped
    have kept := kept_step state next action allowed stepped
    rw [kept.absorbed (by rw [same]; exact final), same]
  · intro system _ action next stepped wrongly
    exact astray_step system next action stepped wrongly
  · intro system reached place codes call found unmoved
    have admitted : Admitted system := by
      refine Reached.invariant Admitted (by simp [Admitted, System.started]) ?_ reached
      intro state action next held _ stepped
      exact admitted_step state next action held stepped
    exact unmoved_ordered system admitted place codes call found unmoved

section Executed

/-- A batch is approved, a voucher is imported, and the batch is revoked. -/
theorem batch_lifecycle_revoked :
    ∃ system, Reached step (fun system action => ordered system action = true)
        (System.started (twoUses .pendingApproval) 1) system ∧
      system.changes = [(.pendingApproval, .approved), (.approved, .active), (.active, .revoked)] ∧
      system.vouchers.map Voucher.status = [.revoked, .revoked] ∧ Lifecycle system := by
  obtain ⟨system, reached, seen⟩ := run_observed step
    (System.started (twoUses .pendingApproval) 1) (fun system action => ordered system action)
    (fun system => system.changes =
        [(.pendingApproval, .approved), (.approved, .active), (.active, .revoked)] &&
      system.vouchers.map Voucher.status = [.revoked, .revoked])
    (fun _ _ checked => checked)
    [.readApprove epoch, .readImport epoch, .commitCall 0 0, .commitCall 0 1, .readRevoke epoch,
      .cascade 0, .commitCall 0 0] (by decide +kernel)
  simp only [Bool.and_eq_true, decide_eq_true_eq] at seen
  exact ⟨system, reached, seen.1, seen.2,
    ((batch_lifecycle (twoUses .pendingApproval) 1).1 system reached).1⟩

/-- An approval, an import and a revocation overlap: the revoked batch becomes ACTIVE, and the
imported voucher is redeemed. -/
theorem revoked_batch_approved :
    ∃ system, Reached step (fun _ _ => True) (System.started (twoUses .pendingApproval) 1) system ∧
      ¬ Lifecycle system ∧
      system.changes = [(.pendingApproval, .revoked), (.revoked, .approved), (.approved, .active)] ∧
      system.everRevoked = true ∧ system.batch.status = .active ∧
      system.successes.map Success.late = [true] := by
  obtain ⟨system, reached, seen⟩ := run_observed step
    (System.started (twoUses .pendingApproval) 1) (fun _ _ => true)
    (fun system => system.changes =
        [(.pendingApproval, .revoked), (.revoked, .approved), (.approved, .active)] &&
      system.everRevoked && system.batch.status = .active &&
      system.successes.map Success.late = [true])
    (fun _ _ _ => trivial)
    [.readApprove epoch, .readImport epoch, .readRevoke epoch, .cascade 2, .commitCall 2 0, .commitCall 1 1,
      .commitCall 0 0, .readVoucher 1, .checkBatch 0 epoch epoch ['a'], .beginUpdate 0,
      .writeVoucher 0, .commitRedemption 0] (by decide +kernel)
  simp only [Bool.and_eq_true, decide_eq_true_eq] at seen
  obtain ⟨⟨⟨changes, ever⟩, active⟩, late⟩ := seen
  refine ⟨system, reached, ?_, changes, ever, active, late⟩
  intro lifecycle
  have revoked := lifecycle.revoked ever
  rw [active] at revoked
  cases revoked

end Executed

end CloudGuest.Vouchers
