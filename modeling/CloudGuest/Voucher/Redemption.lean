import CloudGuest.Library.Rows
import CloudGuest.Library.Runs
import CloudGuest.Voucher.Batches

/-!
Redemption is exact however the requests interleave. A voucher's row is written
by one conditional statement alone, which keeps it locked until the request ends,
so the use count is the number of redemptions committed, and the status and the
columns of the first use follow it. This holds beside every other operation on
the batch; that nothing is redeemed once a revocation is committed needs that no
vouchers are imported afterwards.
-/

namespace CloudGuest.Vouchers
open Calendar Texts Calls Rows Runs

def Voucher.columns (voucher : Voucher) : Option Moment × Option Text × Option Moment :=
  (voucher.redeemedAt, voucher.redeemedIdentifier, voucher.expiresAt)

/-- The columns of the first use were written by the first redemption, and by none since. -/
def FirstWritten (voucher : Voucher) : List Success → Prop
  | [] => voucher.columns = (none, none, none)
  | first :: rest => ∃ fields, first.fields = some fields ∧
      voucher.columns =
        (some fields.redeemedAt, some fields.redeemedIdentifier, some fields.expiresAt) ∧
      ∀ later ∈ rest, later.fields = none

structure VoucherExact (maxUses : Nat) (voucher : Voucher) (successes : List Success) : Prop where
  uses : voucher.useCount = successes.length
  bounded : voucher.useCount ≤ maxUses
  unused : voucher.status = .unused ↔ voucher.useCount = 0 ∧ voucher.status ≠ .revoked
  exhausted : voucher.status = .exhausted ↔ voucher.useCount = maxUses
  written : FirstWritten voucher successes

def successesOf (system : System) (place : Nat) : List Success :=
  system.successes.filter fun success => success.place = place

def Exact (system : System) : Prop :=
  ∀ (place : Nat) (voucher : Voucher), system.vouchers[place]? = some voucher →
    VoucherExact system.batch.maxUsesPerVoucher voucher (successesOf system place)

def absorbing (status : VoucherStatus) : Bool := status = .exhausted || status = .revoked

def StaysDead (before after : Voucher) : Prop :=
  absorbing before.status = true → after.status = before.status

/-- Anything but an import: redemptions, validations, revocations, expiries and approvals. -/
def importless : Action → Bool
  | .readImport _ => false
  | _ => true

/-! ### One voucher -/

structure Validated (voucher : Voucher) (fields : Option FirstUse) : Prop where
  usable : voucher.status = .unused ∨ voucher.status = .active
  first : fields.isSome = true ↔ voucher.status = .unused

theorem validated_of_reason (voucher : Voucher) (status : BatchStatus) (now : Moment)
    (passed : redemptionFailureReason voucher status now = none) :
    voucher.status = .unused ∨ voucher.status = .active := by
  unfold redemptionFailureReason at passed
  cases found : voucher.status <;> simp [found] at passed ⊢

theorem firstUseFields_first (voucher : Voucher) (batch : Batch) (identifier : Text) (now : Moment)
    (fields : Option FirstUse) (given : firstUseFields voucher batch identifier now = some fields) :
    fields.isSome = true ↔ voucher.status = .unused := by
  unfold firstUseFields at given
  split at given
  · rename_i unused
    obtain ⟨expires, -, rfl⟩ := Option.map_eq_some_iff.mp given
    simp [unused]
  · rename_i used
    cases given
    simp [used]

theorem exact_redeemed (maxUses : Nat) (held found : Voucher) (successes : List Success)
    (fields : Option FirstUse) (place : Nat) (late : Bool) (exact : VoucherExact maxUses held successes)
    (validated : Validated found fields) (sameStatus : held.status = found.status) :
    VoucherExact maxUses (held.redeemed maxUses fields) (successes ++ [⟨place, fields, late⟩]) := by
  have usable := validated.usable
  rw [← sameStatus] at usable
  have room : held.useCount < maxUses := by
    refine lt_of_le_of_ne exact.bounded fun full => ?_
    have exhausted := exact.exhausted.mpr full
    rcases usable with unused | active
    · rw [unused] at exhausted
      cases exhausted
    · rw [active] at exhausted
      cases exhausted
  constructor
  · simp [Voucher.redeemed, exact.uses]
  · simp only [Voucher.redeemed]
    omega
  · simp only [Voucher.redeemed]
    split <;> simp
  · simp only [Voucher.redeemed]
    split
    · simp only [true_iff]
      omega
    · simp only [reduceCtorEq, false_iff]
      omega
  · cases successes with
    | nil =>
        -- No redemption yet: the voucher is UNUSED, and this one writes the columns.
        have unused := exact.unused.mpr ⟨exact.uses, by rcases usable with is | is <;> simp [is]⟩
        obtain ⟨written, rfl⟩ := Option.isSome_iff_exists.mp
          (validated.first.mpr (sameStatus.symm.trans unused))
        exact ⟨written, rfl, by simp [Voucher.columns, Voucher.redeemed], by simp⟩
    | cons first rest =>
        have used : held.status ≠ .unused := by
          intro unused
          have zero := (exact.unused.mp unused).1
          rw [exact.uses] at zero
          simp at zero
        obtain rfl : fields = none := by
          by_contra given
          exact used (sameStatus.trans (validated.first.mp (Option.isSome_iff_ne_none.mpr given)))
        obtain ⟨written, wrote, columns, later⟩ := exact.written
        refine ⟨written, wrote, by simpa [Voucher.columns, Voucher.redeemed] using columns, ?_⟩
        exact each_started later rfl

theorem exact_revoked (maxUses : Nat) (voucher : Voucher) (successes : List Success)
    (exact : VoucherExact maxUses voucher successes) :
    VoucherExact maxUses voucher.revoked successes := by
  unfold Voucher.revoked
  split
  · exact exact
  · rename_i live
    rw [not_or] at live
    refine ⟨exact.uses, exact.bounded, by simp, ?_, exact.written⟩
    simp only [reduceCtorEq, false_iff]
    exact mt exact.exhausted.mpr live.1

theorem revoked_stays (voucher : Voucher) : StaysDead voucher voucher.revoked := by
  intro dead
  unfold Voucher.revoked
  split
  · rfl
  · rename_i live
    simp only [absorbing, Bool.or_eq_true, decide_eq_true_eq] at dead
    exact absurd (dead.imp_right .inr) live

theorem staysDead_refl (voucher : Voucher) : StaysDead voucher voucher := fun _ => rfl

theorem staysDead_trans (first second third : Voucher) (early : StaysDead first second)
    (late : StaysDead second third) : StaysDead first third := by
  intro dead
  have same := early dead
  exact (late (by rw [same]; exact dead)).trans same

theorem fresh_exact (maxUses : Nat) (usable : 1 ≤ maxUses) : VoucherExact maxUses Voucher.fresh [] := by
  constructor <;> simp [Voucher.fresh, FirstWritten, Voucher.columns]
  omega

/-! ### The invariant -/

/-- A redemption past its check; once it has written the row, the row is as it was found and the
write is one redemption of it. -/
def RedemptionSound (maxUses : Nat) (vouchers : List Voucher) (redemption : Redemption) : Prop :=
  match redemption.phase with
  | .found => True
  | .checked fields => Validated redemption.voucher fields
  | .updating fields _ => Validated redemption.voucher fields
  | .updated fields written _ => Validated redemption.voucher fields ∧
      ∃ held, vouchers[redemption.place]? = some held ∧
        held.status = redemption.voucher.status ∧ written = held.redeemed maxUses fields

structure Sound (system : System) : Prop where
  exact : Exact system
  redemptions : ∀ redemption ∈ system.redemptions,
    RedemptionSound system.batch.maxUsesPerVoucher system.vouchers redemption
  exclusive : (locks Redemption.lock system.redemptions).Nodup
  inside : ∀ success ∈ system.successes, success.place < system.vouchers.length

theorem sound_started (batch : Batch) (quantity : Nat) : Sound (System.started batch quantity) := by
  constructor
  · intro place voucher stored
    obtain ⟨-, rfl⟩ := List.mem_replicate.mp (List.mem_of_getElem? stored)
    exact fresh_exact _ batch.usable
  · simp [System.started]
  · simp [System.started, locks]
  · simp [System.started]

theorem redemptionSound_beside (maxUses : Nat) (before after : List Voucher)
    (redemption : Redemption) (sound : RedemptionSound maxUses before redemption)
    (kept : redemption.lock = some redemption.place → after[redemption.place]? =
      before[redemption.place]?) : RedemptionSound maxUses after redemption := by
  unfold RedemptionSound at sound ⊢
  cases phase : redemption.phase with
  | updated fields written late =>
      simp only [phase] at sound ⊢
      rw [kept (by simp [Redemption.lock, phase])]
      exact sound
  | found => trivial
  | checked fields => simpa only [phase] using sound
  | updating fields active => simpa only [phase] using sound

theorem sound_requests (system : System) (sound : Sound system) (redemptions : List Redemption)
    (calls : List BatchCall)
    (each : ∀ redemption ∈ redemptions,
      RedemptionSound system.batch.maxUsesPerVoucher system.vouchers redemption)
    (exclusive : (locks Redemption.lock redemptions).Nodup) :
    Sound { system with redemptions, calls } :=
  ⟨sound.exact, each, exclusive, sound.inside⟩

theorem sound_without (system : System) (sound : Sound system) (place : Nat) :
    Sound (system.without place) :=
  sound_requests system sound _ system.calls (each_ended sound.redemptions place)
    (exclusive_ended sound.exclusive place)

theorem sound_phase (system : System) (sound : Sound system) (place : Nat) (redemption : Redemption)
    (phase : Phase) (found : system.redemptions[place]? = some redemption)
    (free : redemption.lock = none) (still : ({ redemption with phase } : Redemption).lock = none)
    (next : RedemptionSound system.batch.maxUsesPerVoucher system.vouchers
      { redemption with phase }) : Sound (system.setPhase place redemption phase) := by
  refine sound_requests system sound _ system.calls (each_continued sound.redemptions place next) ?_
  rw [(locks_continued place found free).nodup_iff, still]
  exact sound.exclusive

theorem sound_updated (system : System) (sound : Sound system) (place : Nat)
    (redemption : Redemption) (fields : Option FirstUse) (active : Bool) (held : Voucher)
    (found : system.redemptions[place]? = some redemption)
    (phase : redemption.phase = .updating fields active)
    (free : redemption.place ∉ locks Redemption.lock system.redemptions)
    (stored : system.vouchers[redemption.place]? = some held)
    (same : held.status = redemption.voucher.status) :
    Sound (system.setPhase place redemption
      (.updated fields (held.redeemed system.batch.maxUsesPerVoucher fields) system.everRevoked)) := by
  -- The conditional statement found the row free, and as it was when it was checked.
  have validated : Validated redemption.voucher fields := by
    have now := found_holds sound.redemptions found
    simpa only [RedemptionSound, phase] using now
  refine sound_requests system sound _ system.calls ?_ ?_
  · exact each_continued sound.redemptions place ⟨validated, held, stored, same, rfl⟩
  · exact exclusive_taken sound.exclusive place found (by simp [Redemption.lock, phase]) rfl free

theorem successesOf_committed (system : System) (success : Success) (place : Nat) :
    (system.successes ++ [success]).filter (fun success => success.place = place) =
      successesOf system place ++ if success.place = place then [success] else [] := by
  by_cases same : success.place = place <;> simp [successesOf, List.filter_append, same]

theorem sound_committed (system : System) (sound : Sound system) (place : Nat)
    (redemption : Redemption) (fields : Option FirstUse) (written : Voucher) (late : Bool)
    (found : system.redemptions[place]? = some redemption)
    (phase : redemption.phase = .updated fields written late) :
    Sound { system.without place with
        vouchers := system.vouchers.set redemption.place written
        successes := system.successes ++ [⟨redemption.place, fields, late⟩] } ∧
      Evolves StaysDead system.vouchers (system.vouchers.set redemption.place written) := by
  have now := found_holds sound.redemptions found
  simp only [RedemptionSound, phase] at now
  obtain ⟨validated, held, stored, same, rfl⟩ := now
  have inside := (List.getElem?_eq_some_iff.mp stored).1
  have exact := sound.exact redemption.place held stored
  constructor
  · constructor
    · intro other voucher storedOther
      rw [successesOf, successesOf_committed]
      rcases replaced_cases storedOther with ⟨rfl, rfl⟩ | ⟨apart, before⟩
      · simp only [↓reduceIte]
        exact exact_redeemed _ held redemption.voucher _ fields _ late exact validated same
      · simp only [apart, ↓reduceIte, List.append_nil]
        exact sound.exact other voucher before
    · intro other member
      refine redemptionSound_beside _ _ _ other (each_ended sound.redemptions place other member) ?_
      intro locked
      -- The lock that ended with this redemption is nobody else's.
      have free : redemption.place ∉ locks Redemption.lock (system.redemptions.eraseIdx place) :=
        locks_ended_free sound.exclusive found (by simp [Redemption.lock, phase])
      have apart : redemption.place ≠ other.place := fun equal =>
        free (mem_locks.mpr ⟨other, member, by rw [locked, equal]⟩)
      rw [List.getElem?_set_ne apart]
    · exact exclusive_ended sound.exclusive place
    · refine each_started (fun success member => ?_) ?_
      · simpa using sound.inside success member
      · simpa using inside
  · refine Evolves.replaced staysDead_refl stored ?_
    intro dead
    rcases validated.usable with unused | active
    · simp [absorbing, same, unused] at dead
    · simp [absorbing, same, active] at dead

theorem sound_writeStatus (statuses : List BatchStatus) (system : System) (sound : Sound system) :
    Sound (system.writeStatus statuses) ∧
      (system.writeStatus statuses).vouchers = system.vouchers := by
  induction statuses generalizing system with
  | nil => exact ⟨sound, rfl⟩
  | cons status rest ih =>
      exact ih _ ⟨sound.exact, sound.redemptions, sound.exclusive, sound.inside⟩

theorem revokeFirst_getElem? (count : Nat) (vouchers : List Voucher) (place : Nat) :
    (revokeFirst count vouchers)[place]? = (vouchers[place]?).map fun voucher =>
      if place < count then voucher.revoked else voucher := List.getElem?_mapIdx

theorem revokeFirst_evolves (count : Nat) (vouchers : List Voucher) :
    Evolves StaysDead vouchers (revokeFirst count vouchers) := by
  intro place voucher stored
  refine ⟨_, by rw [revokeFirst_getElem?, stored]; rfl, ?_⟩
  split
  · exact revoked_stays voucher
  · exact staysDead_refl voucher

theorem sound_revoked (system : System) (sound : Sound system) (count : Nat)
    (free : ∀ place ∈ locks Redemption.lock system.redemptions, count ≤ place) :
    Sound { system.writeStatus [.revoked] with
      vouchers := revokeFirst count system.vouchers
      everRevoked := true } := by
  constructor
  · intro place voucher stored
    rw [revokeFirst_getElem?] at stored
    obtain ⟨held, before, rfl⟩ := Option.map_eq_some_iff.mp stored
    dsimp only
    split
    · exact exact_revoked _ _ _ (sound.exact place held before)
    · exact sound.exact place held before
  · intro redemption member
    refine redemptionSound_beside _ _ _ redemption (sound.redemptions redemption member) ?_
    intro locked
    have beyond := free redemption.place (mem_locks.mpr ⟨redemption, member, locked⟩)
    have apart : ¬ redemption.place < count := by omega
    simp [revokeFirst_getElem?, apart]
  · exact sound.exclusive
  · intro success member
    simpa [revokeFirst] using sound.inside success member

theorem sound_imported (system : System) (sound : Sound system) (codes : Nat) :
    Sound { system with vouchers := system.vouchers ++ List.replicate codes Voucher.fresh } := by
  constructor
  · intro place voucher stored
    rcases appended_cases stored with before | ⟨outside, added⟩
    · exact sound.exact place voucher before
    · obtain ⟨-, rfl⟩ := List.mem_replicate.mp added
      have none : successesOf system place = [] := by
        rw [successesOf, List.filter_eq_nil_iff]
        intro success member same
        have inside := sound.inside success member
        simp only [decide_eq_true_eq] at same
        omega
      have exact := fresh_exact system.batch.maxUsesPerVoucher system.batch.usable
      rw [← none] at exact
      exact exact
  · intro redemption member
    have now := sound.redemptions redemption member
    unfold RedemptionSound at now ⊢
    cases phase : redemption.phase with
    | found => trivial
    | checked fields => simpa only [phase] using now
    | updating fields active => simpa only [phase] using now
    | updated fields written late =>
        simp only [phase] at now ⊢
        obtain ⟨validated, held, stored, same⟩ := now
        have inside := (List.getElem?_eq_some_iff.mp stored).1
        exact ⟨validated, held, by rw [List.getElem?_append_left inside, stored], same⟩
  · exact sound.exclusive
  · intro success member
    have inside := sound.inside success member
    rw [List.length_append]
    omega

theorem free_of_commit {system : System} {call : BatchCall} (goes : system.waits call = false)
    (revokes : call.write = .revoke) :
    ∀ place ∈ locks Redemption.lock system.redemptions, call.cascaded.getD 0 ≤ place := by
  simp only [System.waits, revokes, Option.all_eq_false, List.any_eq_false, decide_eq_true_eq] at goes
  obtain ⟨count, begun, free⟩ := goes
  rw [begun, Option.getD_some]
  intro place locked
  have beyond := free place locked
  omega

theorem sound_batchCall (system : System) (sound : Sound system) (codes : Nat) (call : BatchCall)
    (goes : system.waits call = false) :
    Sound (system.commitBatchCall codes call) ∧
      Evolves StaysDead system.vouchers (system.commitBatchCall codes call).vouchers := by
  unfold System.commitBatchCall
  cases write : call.write with
  | approve =>
      obtain ⟨kept, same⟩ := sound_writeStatus [.approved, .active] system sound
      exact ⟨kept, same ▸ Evolves.refl staysDead_refl⟩
  | revoke =>
      exact ⟨sound_revoked system sound _ (free_of_commit goes write), revokeFirst_evolves _ _⟩
  | expire =>
      obtain ⟨kept, same⟩ := sound_writeStatus [.expired] system sound
      exact ⟨kept, same ▸ Evolves.refl staysDead_refl⟩
  | importing => exact ⟨sound_imported system sound codes, Evolves.appended staysDead_refl _⟩

/-! ### Steps -/

theorem sound_step (system next : System) (action : Action) (sound : Sound system)
    (stepped : step system action = some next) :
    Sound next ∧ Evolves StaysDead system.vouchers next.vouchers := by
  have unchanged : Evolves StaysDead system.vouchers system.vouchers := Evolves.refl staysDead_refl
  cases action with
  | readVoucher place =>
      obtain ⟨voucher, -, rfl⟩ := Option.map_eq_some_iff.mp stepped
      exact ⟨sound_requests system sound _ system.calls (each_started sound.redemptions trivial)
        (exclusive_started sound.exclusive rfl), unchanged⟩
  | checkBatch place refreshed now identifier =>
      obtain ⟨redemption, found, stepped⟩ := Option.bind_eq_some_iff.mp stepped
      split at stepped
      · rename_i phase
        split at stepped
        · rename_i passed
          split at stepped
          · rename_i fields given
            cases stepped
            refine ⟨sound_phase system sound place redemption _ found ?_ rfl ?_, unchanged⟩
            · simp [Redemption.lock, phase]
            · exact ⟨validated_of_reason _ _ _ passed, firstUseFields_first _ _ _ _ _ given⟩
          · cases stepped
            exact ⟨sound_without system sound place, unchanged⟩
        · cases stepped
          exact ⟨sound_without system sound place, unchanged⟩
      · cases stepped
  | beginUpdate place =>
      obtain ⟨redemption, found, stepped⟩ := Option.bind_eq_some_iff.mp stepped
      split at stepped
      · rename_i fields phase
        cases stepped
        refine ⟨sound_phase system sound place redemption _ found ?_ rfl ?_, unchanged⟩
        · simp [Redemption.lock, phase]
        · have now := found_holds sound.redemptions found
          simpa only [RedemptionSound, phase] using now
      · cases stepped
  | writeVoucher place =>
      obtain ⟨redemption, found, stepped⟩ := Option.bind_eq_some_iff.mp stepped
      split at stepped
      · rename_i fields active phase
        split at stepped
        · cases stepped
        · rename_i free
          obtain ⟨held, stored, rfl⟩ := Option.map_eq_some_iff.mp stepped
          split
          · rename_i same
            exact ⟨sound_updated system sound place redemption fields active held found phase free
              stored same.2.1, unchanged⟩
          · exact ⟨sound_without system sound place, unchanged⟩
      · cases stepped
  | commitRedemption place =>
      obtain ⟨redemption, found, stepped⟩ := Option.bind_eq_some_iff.mp stepped
      split at stepped
      · rename_i fields written late phase
        cases stepped
        exact sound_committed system sound place redemption fields written late found phase
      · cases stepped
  | abortRedemption place =>
      cases stepped
      exact ⟨sound_without system sound place, unchanged⟩
  | validateVoucher place now =>
      cases stepped
      exact ⟨sound, unchanged⟩
  | readApprove now | readRevoke now | readExpiry now | readImport now =>
      obtain ⟨_, -, rfl⟩ := read_cases rfl stepped
      exact ⟨sound_requests system sound _ _ sound.redemptions sound.exclusive, unchanged⟩
  | cascade place =>
      obtain ⟨_, -, -, -, rfl⟩ := cascade_cases stepped
      exact ⟨sound_requests system sound _ _ sound.redemptions sound.exclusive, unchanged⟩
  | commitCall place codes =>
      obtain ⟨call, -, goes, rfl⟩ := commit_cases stepped
      obtain ⟨kept, evolved⟩ := sound_batchCall system sound codes call goes
      exact ⟨sound_requests _ kept _ _ kept.redemptions kept.exclusive, evolved⟩
  | abortCall place =>
      cases stepped
      exact ⟨sound_requests system sound _ _ sound.redemptions sound.exclusive, unchanged⟩

/-! ### After a revocation -/

/-- Once a revocation is committed no voucher can be redeemed, and none is being written. -/
structure Closed (system : System) : Prop where
  dead : system.everRevoked = true → ∀ voucher ∈ system.vouchers,
    voucher.status ≠ .unused ∧ voucher.status ≠ .active
  quiet : system.everRevoked = true → locks Redemption.lock system.redemptions = []
  prompt : ∀ redemption ∈ system.redemptions, ∀ fields written late,
    redemption.phase = .updated fields written late → late = false
  early : ∀ success ∈ system.successes, success.late = false
  imports : ∀ call ∈ system.calls, call.write ≠ .importing
  whole : ∀ call ∈ system.calls, ∀ count ∈ call.cascaded, count = system.vouchers.length

theorem closed_started (batch : Batch) (quantity : Nat) :
    Closed (System.started batch quantity) := by
  constructor <;> simp [System.started]

theorem closed_requests (system : System) (closed : Closed system)
    (redemptions : List Redemption) (calls : List BatchCall)
    (quiet : system.everRevoked = true → locks Redemption.lock redemptions = [])
    (prompt : ∀ redemption ∈ redemptions, ∀ fields written late,
      redemption.phase = .updated fields written late → late = false)
    (imports : ∀ call ∈ calls, call.write ≠ .importing)
    (whole : ∀ call ∈ calls, ∀ count ∈ call.cascaded, count = system.vouchers.length) :
    Closed { system with redemptions, calls } :=
  ⟨closed.dead, quiet, prompt, closed.early, imports, whole⟩

theorem closed_without (system : System) (closed : Closed system) (place : Nat) :
    Closed (system.without place) := by
  refine closed_requests system closed _ system.calls ?_ (each_ended closed.prompt place)
    closed.imports closed.whole
  intro revoked
  have none := closed.quiet revoked
  exact List.eq_nil_of_subset_nil
    (none ▸ ((List.eraseIdx_sublist system.redemptions place).filterMap Redemption.lock).subset)

theorem closed_phase (system : System) (closed : Closed system) (place : Nat)
    (redemption : Redemption) (phase : Phase) (found : system.redemptions[place]? = some redemption)
    (free : redemption.lock = none) (still : ({ redemption with phase } : Redemption).lock = none) :
    Closed (system.setPhase place redemption phase) := by
  refine closed_requests system closed _ system.calls ?_ ?_ closed.imports closed.whole
  · intro revoked
    have same : (locks Redemption.lock (system.redemptions.set place
        { redemption with phase })).Perm
          ((({ redemption with phase } : Redemption).lock).toList ++
            locks Redemption.lock system.redemptions) := locks_continued place found free
    rw [still, closed.quiet revoked] at same
    exact List.perm_nil.mp same
  · refine each_continued closed.prompt place ?_
    intro fields written late updated
    dsimp only at updated
    subst updated
    cases still

theorem closed_updated (system : System) (sound : Sound system) (closed : Closed system)
    (place : Nat) (redemption : Redemption) (fields : Option FirstUse) (active : Bool)
    (held written : Voucher) (found : system.redemptions[place]? = some redemption)
    (phase : redemption.phase = .updating fields active)
    (stored : system.vouchers[redemption.place]? = some held)
    (same : held.status = redemption.voucher.status) :
    Closed (system.setPhase place redemption (.updated fields written system.everRevoked)) := by
  have now := found_holds sound.redemptions found
  simp only [RedemptionSound, phase] at now
  have unrevoked : system.everRevoked = false := by
    rw [Bool.eq_false_iff]
    intro revoked
    have dead := closed.dead revoked held (List.mem_of_getElem? stored)
    rw [same] at dead
    rcases now.usable with unused | used
    · exact dead.1 unused
    · exact dead.2 used
  refine closed_requests system closed _ system.calls ?_ ?_ closed.imports closed.whole
  · intro revoked
    rw [unrevoked] at revoked
    cases revoked
  · refine each_continued closed.prompt place ?_
    intro fields written late updated
    cases updated
    exact unrevoked

theorem closed_committed (system : System) (closed : Closed system) (place : Nat)
    (redemption : Redemption) (fields : Option FirstUse) (written : Voucher) (late : Bool)
    (found : system.redemptions[place]? = some redemption)
    (phase : redemption.phase = .updated fields written late) :
    Closed { system.without place with
      vouchers := system.vouchers.set redemption.place written
      successes := system.successes ++ [⟨redemption.place, fields, late⟩] } := by
  have unrevoked : system.everRevoked = false := by
    rw [Bool.eq_false_iff]
    intro revoked
    have held : redemption.place ∈ locks Redemption.lock system.redemptions :=
      mem_locks.mpr ⟨redemption, List.mem_of_getElem? found, by simp [Redemption.lock, phase]⟩
    rw [closed.quiet revoked] at held
    cases held
  have ended := closed_without system closed place
  refine ⟨?_, ended.quiet, ended.prompt, ?_, closed.imports, ?_⟩
  · intro revoked
    have : system.everRevoked = true := revoked
    rw [unrevoked] at this
    cases this
  · exact each_started closed.early
      (found_holds closed.prompt found fields written late phase)
  · intro call member count begun
    rw [List.length_set]
    exact closed.whole call member count begun

theorem revoked_dead (voucher : Voucher) :
    voucher.revoked.status ≠ .unused ∧ voucher.revoked.status ≠ .active := by
  unfold Voucher.revoked
  split
  · rename_i terminal
    rcases terminal with is | is | is <;> simp [is]
  · simp

theorem closed_writeStatus (statuses : List BatchStatus) (system : System) (closed : Closed system) :
    Closed (system.writeStatus statuses) := by
  induction statuses generalizing system with
  | nil => exact closed
  | cons status rest ih =>
      exact ih _ ⟨closed.dead, closed.quiet, closed.prompt, closed.early, closed.imports,
        closed.whole⟩

theorem locked_inside {system : System} (sound : Sound system) {place : Nat}
    (locked : place ∈ locks Redemption.lock system.redemptions) : place < system.vouchers.length := by
  obtain ⟨redemption, member, held⟩ := mem_locks.mp locked
  have now := sound.redemptions redemption member
  unfold Redemption.lock at held
  split at held
  · rename_i phase
    cases held
    simp only [RedemptionSound, phase] at now
    obtain ⟨-, row, stored, -⟩ := now
    exact (List.getElem?_eq_some_iff.mp stored).1
  · cases held

theorem closed_revoked (system : System) (closed : Closed system) (count : Nat)
    (all : count = system.vouchers.length)
    (free : ∀ place ∈ locks Redemption.lock system.redemptions, count ≤ place)
    (sound : Sound system) :
    Closed { system.writeStatus [.revoked] with
      vouchers := revokeFirst count system.vouchers
      everRevoked := true } := by
  have none : locks Redemption.lock system.redemptions = [] := by
    refine List.eq_nil_iff_forall_not_mem.mpr fun place locked => ?_
    have beyond := free place locked
    have inside := locked_inside sound locked
    omega
  refine ⟨?_, fun _ => none, closed.prompt, closed.early, closed.imports, ?_⟩
  · intro _ voucher member
    obtain ⟨place, stored⟩ := List.getElem?_of_mem member
    rw [revokeFirst_getElem?] at stored
    obtain ⟨held, before, rfl⟩ := Option.map_eq_some_iff.mp stored
    have inside := (List.getElem?_eq_some_iff.mp before).1
    rw [if_pos (by omega)]
    exact revoked_dead held
  · intro call member count begun
    dsimp only
    rw [revokeFirst, List.length_mapIdx]
    exact closed.whole call member count begun

theorem closed_batchCall (system : System) (sound : Sound system) (closed : Closed system)
    (codes place : Nat) (call : BatchCall) (found : system.calls[place]? = some call)
    (goes : system.waits call = false) : Closed (system.commitBatchCall codes call) := by
  unfold System.commitBatchCall
  cases write : call.write with
  | approve => exact closed_writeStatus _ system closed
  | revoke =>
      refine closed_revoked system closed _ ?_ (free_of_commit goes write) sound
      simp only [System.waits, write, Option.all_eq_false] at goes
      obtain ⟨count, begun, -⟩ := goes
      rw [begun, Option.getD_some]
      exact found_holds closed.whole found count begun
  | expire => exact closed_writeStatus _ system closed
  | importing => exact absurd write (found_holds closed.imports found)

theorem commitBatchCall_calls (system : System) (codes : Nat) (call : BatchCall) :
    (system.commitBatchCall codes call).calls = system.calls := by
  unfold System.commitBatchCall
  cases call.write <;> rfl

theorem closed_step (system next : System) (action : Action) (sound : Sound system)
    (closed : Closed system) (allowed : importless action = true)
    (stepped : step system action = some next) : Closed next := by
  cases action with
  | readVoucher place =>
      obtain ⟨voucher, -, rfl⟩ := Option.map_eq_some_iff.mp stepped
      refine closed_requests system closed _ system.calls ?_ ?_ closed.imports closed.whole
      · intro revoked
        rw [locks_started _ rfl]
        exact closed.quiet revoked
      · exact each_started closed.prompt (by simp)
  | checkBatch place refreshed now identifier =>
      obtain ⟨redemption, found, stepped⟩ := Option.bind_eq_some_iff.mp stepped
      split at stepped
      · rename_i phase
        split at stepped
        · split at stepped
          · cases stepped
            exact closed_phase system closed place redemption _ found
              (by simp [Redemption.lock, phase]) rfl
          · cases stepped
            exact closed_without system closed place
        · cases stepped
          exact closed_without system closed place
      · cases stepped
  | beginUpdate place =>
      obtain ⟨redemption, found, stepped⟩ := Option.bind_eq_some_iff.mp stepped
      split at stepped
      · rename_i fields phase
        cases stepped
        exact closed_phase system closed place redemption _ found
          (by simp [Redemption.lock, phase]) rfl
      · cases stepped
  | writeVoucher place =>
      obtain ⟨redemption, found, stepped⟩ := Option.bind_eq_some_iff.mp stepped
      split at stepped
      · rename_i fields active phase
        split at stepped
        · cases stepped
        · obtain ⟨held, stored, rfl⟩ := Option.map_eq_some_iff.mp stepped
          split
          · rename_i same
            exact closed_updated system sound closed place redemption fields active held _ found
              phase stored same.2.1
          · exact closed_without system closed place
      · cases stepped
  | commitRedemption place =>
      obtain ⟨redemption, found, stepped⟩ := Option.bind_eq_some_iff.mp stepped
      split at stepped
      · rename_i fields written late phase
        cases stepped
        exact closed_committed system closed place redemption fields written late found phase
      · cases stepped
  | abortRedemption place =>
      cases stepped
      exact closed_without system closed place
  | validateVoucher place now =>
      cases stepped
      exact closed
  | readApprove now | readRevoke now | readExpiry now =>
      obtain ⟨_, -, rfl⟩ := read_cases rfl stepped
      exact closed_requests system closed _ _ closed.quiet closed.prompt
        (each_started closed.imports (by simp)) (each_started closed.whole (by simp))
  | readImport now => cases allowed
  | cascade place =>
      obtain ⟨call, found, -, -, rfl⟩ := cascade_cases stepped
      have other : call.write ≠ .importing := found_holds closed.imports found
      exact closed_requests system closed _ _ closed.quiet closed.prompt
        (each_continued closed.imports place other)
        (each_continued closed.whole place (by simp))
  | commitCall place codes =>
      obtain ⟨call, found, goes, rfl⟩ := commit_cases stepped
      have kept := closed_batchCall system sound closed codes place call found goes
      have calls := commitBatchCall_calls system codes call
      exact closed_requests _ kept _ _ kept.quiet kept.prompt
        (each_ended (calls ▸ kept.imports) place) (each_ended (calls ▸ kept.whole) place)
  | abortCall place =>
      cases stepped
      exact closed_requests system closed _ _ closed.quiet closed.prompt
        (each_ended closed.imports place) (each_ended closed.whole place)

/-- In every run, each voucher's use count is the number of its redemptions and at most the
batch's limit, its status follows it, the columns of the first use were written by the first
redemption alone, and a voucher that is EXHAUSTED or REVOKED stays so. In a run without imports,
no redemption wrote its row after a revocation was committed. -/
theorem redemption_exact (batch : Batch) (quantity : Nat) (system : System)
    (reached : Reached step (fun _ _ => True) (System.started batch quantity) system) :
    Exact system ∧
      (∀ later, Reached step (fun _ _ => True) system later →
        Evolves StaysDead system.vouchers later.vouchers) ∧
      (Reached step (fun _ action => importless action = true) (System.started batch quantity)
          system →
        ∀ success ∈ system.successes, success.late = false) := by
  have sound : Sound system := by
    refine Reached.invariant Sound (sound_started batch quantity) ?_ reached
    intro state action next held _ stepped
    exact (sound_step state next action held stepped).1
  refine ⟨sound.exact, fun later onward => ?_, fun cut => ?_⟩
  · have both : Sound later ∧ Evolves StaysDead system.vouchers later.vouchers := by
      refine Reached.invariant (fun state => Sound state ∧
        Evolves StaysDead system.vouchers state.vouchers)
        ⟨sound, Evolves.refl staysDead_refl⟩ ?_ onward
      rintro state action next ⟨held, stays⟩ _ stepped
      obtain ⟨kept, keeps⟩ := sound_step state next action held stepped
      exact ⟨kept, stays.trans staysDead_trans keeps⟩
    exact both.2
  · have both : Sound system ∧ Closed system := by
      refine Reached.invariant (fun state => Sound state ∧ Closed state)
        ⟨sound_started batch quantity, closed_started batch quantity⟩ ?_ cut
      rintro state action next ⟨held, closed⟩ allowed stepped
      exact ⟨(sound_step state next action held stepped).1,
        closed_step state next action held closed allowed stepped⟩
    exact both.2.early

section Executed

def epoch : Moment := ⟨0, epoch_inRange⟩

def twoUses (status : BatchStatus) : Batch := ⟨status, none, 60, 2, by decide⟩

/-- A voucher is used twice while a third request, which had read it before, comes too late; then
the batch is revoked. -/
theorem redemption_exact_twice :
    ∃ system, Reached step (fun _ action => importless action = true)
        (System.started (twoUses .active) 2) system ∧
      system.vouchers.map Voucher.status = [.exhausted, .revoked] ∧
      system.successes.map Success.place = [0, 0] ∧ Exact system ∧
      ∀ success ∈ system.successes, success.late = false := by
  obtain ⟨system, reached, seen⟩ := run_observed step (System.started (twoUses .active) 2)
    (fun _ action => importless action)
    (fun system => system.vouchers.map Voucher.status = [.exhausted, .revoked] &&
      system.successes.map Success.place = [0, 0])
    (fun _ _ checked => checked)
    [.readVoucher 0, .readVoucher 0, .checkBatch 0 epoch epoch ['a'], .checkBatch 1 epoch epoch ['b'],
      .beginUpdate 0, .beginUpdate 1, .writeVoucher 1, .commitRedemption 1, .writeVoucher 0,
      .readVoucher 0, .checkBatch 0 epoch epoch ['c'], .readRevoke epoch, .beginUpdate 0,
      .writeVoucher 0, .commitRedemption 0, .cascade 0, .commitCall 0 0] (by decide +kernel)
  simp only [Bool.and_eq_true, decide_eq_true_eq] at seen
  obtain ⟨exact, -, early⟩ := redemption_exact (twoUses .active) 2 system
    (reached.weaken fun _ _ _ => trivial)
  exact ⟨system, reached, seen.1, seen.2, exact, early reached⟩

end Executed

end CloudGuest.Vouchers
