import CloudGuest.Library.Calendar
import CloudGuest.Library.Calls
import CloudGuest.Library.Texts

/-!
A voucher batch and its vouchers (voucher/service.py and voucher/repository.py).
Requests run side by side, each in a transaction of its own that ends with a
commit or, when the handler raises, with nothing. The batch's status is checked
on a row read earlier and then written by id. A revocation writes its batch's row, which
stays locked, and then its vouchers by one statement, which comes to those that were
committed when it began. A redemption instead updates its
voucher by one conditional statement: it sees the batches as they were committed
when the statement began, waits for the voucher's row, and writes only if status
and use count still are what the request had validated.

Codes, plans and audit rows are left out. A request that finds the batch past its
expiry marks it EXPIRED in its own session; where it then raises, that is rolled
back with everything else.
-/

namespace CloudGuest.Vouchers
open Calendar Texts Calls

inductive BatchStatus where
  | draft | pendingApproval | approved | active | expired | revoked
  deriving DecidableEq

def batchStatusTransitions : BatchStatus → List BatchStatus
  | .draft => [.pendingApproval, .approved, .revoked]
  | .pendingApproval => [.approved, .revoked]
  | .approved => [.active, .revoked]
  | .active => [.expired, .revoked]
  | .expired => []
  | .revoked => []

inductive VoucherStatus where
  | unused | active | exhausted | expired | revoked
  deriving DecidableEq

structure Batch where
  status : BatchStatus
  batchExpiresAt : Option Moment
  validityMinutes : Nat
  maxUsesPerVoucher : Nat
  usable : 1 ≤ maxUsesPerVoucher
  deriving DecidableEq

structure FirstUse where
  redeemedAt : Moment
  redeemedIdentifier : Text
  expiresAt : Moment
  deriving DecidableEq

structure Voucher where
  status : VoucherStatus
  useCount : Nat
  redeemedAt : Option Moment
  redeemedIdentifier : Option Text
  expiresAt : Option Moment
  deriving DecidableEq

def Voucher.fresh : Voucher := ⟨.unused, 0, none, none, none⟩

def Batch.isBatchExpired (batch : Batch) (now : Moment) : Bool :=
  batch.batchExpiresAt.any fun expires => expires < now

def Voucher.isPostRedemptionExpired (voucher : Voucher) (now : Moment) : Bool :=
  voucher.expiresAt.any fun expires => expires < now

def Batch.refreshed (batch : Batch) (now : Moment) : BatchStatus :=
  if batch.status = .active ∧ batch.isBatchExpired now then .expired else batch.status

inductive Reason where
  | revoked | exhausted | expired | batchNotActive
  deriving DecidableEq

def redemptionFailureReason (voucher : Voucher) (batch : BatchStatus) (now : Moment) :
    Option Reason :=
  if voucher.status = .revoked then some .revoked
  else if voucher.status = .exhausted then some .exhausted
  else if voucher.status = .expired then some .expired
  else if batch ≠ .active then some .batchNotActive
  else if voucher.status = .active ∧ voucher.isPostRedemptionExpired now then some .expired
  else none

def addMinutes (moment : Moment) (minutes : Nat) : Option Moment :=
  momentAt (moment.val + minutes * 60000000)

def firstUseFields (voucher : Voucher) (batch : Batch) (identifier : Text) (now : Moment) :
    Option (Option FirstUse) :=
  -- The `first_use_fields` of a redemption; none if the calendar ends before the expiry.
  if voucher.status = .unused then
    (addMinutes now batch.validityMinutes).map fun expires => some ⟨now, strip identifier, expires⟩
  else some none

def Voucher.redeemed (voucher : Voucher) (maxUses : Nat) (fields : Option FirstUse) : Voucher where
  status := if maxUses ≤ voucher.useCount + 1 then .exhausted else .active
  useCount := voucher.useCount + 1
  redeemedAt := (fields.map FirstUse.redeemedAt).or voucher.redeemedAt
  redeemedIdentifier := (fields.map FirstUse.redeemedIdentifier).or voucher.redeemedIdentifier
  expiresAt := (fields.map FirstUse.expiresAt).or voucher.expiresAt

def Voucher.revoked (voucher : Voucher) : Voucher :=
  if voucher.status = .exhausted ∨ voucher.status = .expired ∨ voucher.status = .revoked then voucher
  else { voucher with status := .revoked }

/-! ### Requests under way -/

inductive Phase where
  /-- The voucher is read. -/
  | found
  /-- The batch is read and the check passed. -/
  | checked (fields : Option FirstUse)
  /-- The conditional statement has begun, and saw the batch ACTIVE or not. -/
  | updating (fields : Option FirstUse) (active : Bool)
  /-- It has written the row, which stays locked until the request ends. -/
  | updated (fields : Option FirstUse) (written : Voucher) (late : Bool)
  deriving DecidableEq

structure Redemption where
  place : Nat
  voucher : Voucher
  phase : Phase
  deriving DecidableEq

def Redemption.lock (redemption : Redemption) : Option Nat :=
  match redemption.phase with
  | .updated _ _ _ => some redemption.place
  | _ => none

inductive BatchWrite where
  | approve
  | revoke
  | expire
  | importing
  deriving DecidableEq

def BatchWrite.admits : BatchWrite → BatchStatus → Bool
  | .approve, found => .approved ∈ batchStatusTransitions found
  | .revoke, found => .revoked ∈ batchStatusTransitions found
  | .expire, found => found = .active
  | .importing, found => found ≠ .expired ∧ found ≠ .revoked

/-- A request that has read the batch. `cascaded` counts the vouchers that a revocation's statement
comes to, once it has begun. -/
structure BatchCall where
  write : BatchWrite
  found : BatchStatus
  cascaded : Option Nat
  deriving DecidableEq

/-- A redemption that was committed: what it wrote of a first use, and whether its statement wrote
the row after a revocation of the batch was committed. -/
structure Success where
  place : Nat
  fields : Option FirstUse
  late : Bool
  deriving DecidableEq

/-- The rows, the requests under way, and beside them what has happened: the redemptions committed,
the batch's status changes, and whether it was ever REVOKED. -/
structure System where
  batch : Batch
  vouchers : List Voucher
  redemptions : List Redemption
  calls : List BatchCall
  successes : List Success
  changes : List (BatchStatus × BatchStatus)
  everRevoked : Bool
  deriving DecidableEq

def System.started (batch : Batch) (quantity : Nat) : System :=
  ⟨batch, List.replicate quantity Voucher.fresh, [], [], [], [], false⟩

/-! ### Steps -/

inductive Action where
  | readVoucher (place : Nat)
  /-- `_refresh_batch_expiry` and the rest of `redeem_voucher` read the clock once each. -/
  | checkBatch (redemption : Nat) (refreshed now : Moment) (identifier : Text)
  | beginUpdate (redemption : Nat)
  | writeVoucher (redemption : Nat)
  | commitRedemption (redemption : Nat)
  | abortRedemption (redemption : Nat)
  /-- A read, and a clock reading for its `_refresh_batch_expiry`: nothing of it is committed. -/
  | validateVoucher (place : Nat) (now : Moment)
  | readApprove (now : Moment)
  | readRevoke (now : Moment)
  /-- `get_batch` or `list_batches`. -/
  | readExpiry (now : Moment)
  | readImport (now : Moment)
  /-- A revocation has written its batch's row, and begins to write its vouchers. -/
  | cascade (call : Nat)
  | commitCall (call : Nat) (codes : Nat)
  | abortCall (call : Nat)
  deriving DecidableEq

def System.setPhase (system : System) (place : Nat) (redemption : Redemption) (phase : Phase) :
    System :=
  { system with redemptions := system.redemptions.set place { redemption with phase } }

def System.without (system : System) (place : Nat) : System :=
  { system with redemptions := system.redemptions.eraseIdx place }

def System.writeStatus (system : System) : List BatchStatus → System
  | [] => system
  | status :: rest =>
      System.writeStatus { system with
        batch := { system.batch with status }
        changes := if status = system.batch.status then system.changes
          else system.changes ++ [(system.batch.status, status)] } rest

def revokeFirst (count : Nat) (vouchers : List Voucher) : List Voucher :=
  vouchers.mapIdx fun place voucher => if place < count then voucher.revoked else voucher

def System.commitBatchCall (system : System) (codes : Nat) (call : BatchCall) : System :=
  match call.write with
  | .approve => system.writeStatus [.approved, .active]
  | .revoke =>
      { system.writeStatus [.revoked] with
        vouchers := revokeFirst (call.cascaded.getD 0) system.vouchers
        everRevoked := true }
  | .expire => system.writeStatus [.expired]
  | .importing =>
      { system with vouchers := system.vouchers ++ List.replicate codes Voucher.fresh }

/-- A revocation that has written the batch's row keeps it locked. -/
def System.isLocked (system : System) : Bool := system.calls.any fun call => call.cascaded.isSome

def System.waits (system : System) (call : BatchCall) : Bool :=
  -- What a commit waits for: the cascade for the rows that redemptions have locked, any other
  -- write of the batch's row for a revocation.
  match call.write with
  | .approve => system.isLocked
  | .expire => system.isLocked
  | .importing => false
  | .revoke => call.cascaded.all fun count =>
      (locks Redemption.lock system.redemptions).any (· < count)

def System.admitted (system : System) (write : BatchWrite) (found : BatchStatus) : Option System :=
  if write.admits found then some { system with calls := system.calls ++ [⟨write, found, none⟩] }
  else none

def step (system : System) : Action → Option System
  | .readVoucher place =>
      (system.vouchers[place]?).map fun voucher =>
        { system with redemptions := system.redemptions ++ [⟨place, voucher, .found⟩] }
  | .checkBatch place refreshed now identifier =>
      (system.redemptions[place]?).bind fun redemption =>
        if redemption.phase = .found then
          if redemptionFailureReason redemption.voucher (system.batch.refreshed refreshed) now =
              none then
            match firstUseFields redemption.voucher system.batch identifier now with
            | some fields => some (system.setPhase place redemption (.checked fields))
            | none => some (system.without place)
          else some (system.without place)
        else none
  | .beginUpdate place =>
      (system.redemptions[place]?).bind fun redemption =>
        match redemption.phase with
        | .checked fields =>
            some (system.setPhase place redemption
              (.updating fields (system.batch.status = .active)))
        | _ => none
  | .writeVoucher place =>
      (system.redemptions[place]?).bind fun redemption =>
        match redemption.phase with
        | .updating fields active =>
            if redemption.place ∈ locks Redemption.lock system.redemptions then none
            else
              (system.vouchers[redemption.place]?).map fun held =>
                if active ∧ held.status = redemption.voucher.status ∧
                    held.useCount = redemption.voucher.useCount then
                  system.setPhase place redemption (.updated fields
                    (held.redeemed system.batch.maxUsesPerVoucher fields) system.everRevoked)
                else system.without place
        | _ => none
  | .commitRedemption place =>
      (system.redemptions[place]?).bind fun redemption =>
        match redemption.phase with
        | .updated fields written late =>
            some { system.without place with
              vouchers := system.vouchers.set redemption.place written
              successes := system.successes ++ [⟨redemption.place, fields, late⟩] }
        | _ => none
  | .abortRedemption place => some (system.without place)
  | .validateVoucher _ _ => some system
  | .readApprove now => system.admitted .approve (system.batch.refreshed now)
  | .readRevoke now => system.admitted .revoke (system.batch.refreshed now)
  | .readExpiry now =>
      if system.batch.isBatchExpired now then system.admitted .expire system.batch.status else none
  | .readImport now => system.admitted .importing (system.batch.refreshed now)
  | .cascade place =>
      (system.calls[place]?).bind fun call =>
        if call.write = .revoke ∧ system.isLocked = false then
          some { system with
            calls := system.calls.set place { call with cascaded := some system.vouchers.length } }
        else none
  | .commitCall place codes =>
      (system.calls[place]?).bind fun call =>
        if system.waits call then none
        else some { system.commitBatchCall codes call with calls := system.calls.eraseIdx place }
  | .abortCall place => some { system with calls := system.calls.eraseIdx place }

theorem admitted_cases {system next : System} {write : BatchWrite} {found : BatchStatus}
    (read : system.admitted write found = some next) :
    write.admits found = true ∧
      next = { system with calls := system.calls ++ [⟨write, found, none⟩] } := by
  unfold System.admitted at read
  split at read
  · rename_i admitted
    exact ⟨admitted, (Option.some.inj read).symm⟩
  · cases read

def Action.reads : Action → Option BatchWrite
  | .readApprove _ => some .approve
  | .readRevoke _ => some .revoke
  | .readExpiry _ => some .expire
  | .readImport _ => some .importing
  | _ => none

theorem read_cases {system next : System} {action : Action} {write : BatchWrite}
    (reads : action.reads = some write) (stepped : step system action = some next) :
    ∃ found, write.admits found = true ∧
      next = { system with calls := system.calls ++ [⟨write, found, none⟩] } := by
  cases action with
  | readApprove now | readRevoke now | readImport now =>
      cases reads
      exact ⟨_, admitted_cases stepped⟩
  | readExpiry now =>
      cases reads
      simp only [step] at stepped
      split at stepped
      · exact ⟨_, admitted_cases stepped⟩
      · cases stepped
  | _ => cases reads

theorem cascade_cases {system next : System} {place : Nat}
    (stepped : step system (.cascade place) = some next) :
    ∃ call, system.calls[place]? = some call ∧ call.write = .revoke ∧ system.isLocked = false ∧
      next = { system with
        calls := system.calls.set place { call with cascaded := some system.vouchers.length } } := by
  obtain ⟨call, found, stepped⟩ := Option.bind_eq_some_iff.mp stepped
  split at stepped
  · rename_i free
    exact ⟨call, found, free.1, free.2, (Option.some.inj stepped).symm⟩
  · cases stepped

theorem commit_cases {system next : System} {place codes : Nat}
    (stepped : step system (.commitCall place codes) = some next) :
    ∃ call, system.calls[place]? = some call ∧ system.waits call = false ∧
      next = { system.commitBatchCall codes call with calls := system.calls.eraseIdx place } := by
  obtain ⟨call, found, stepped⟩ := Option.bind_eq_some_iff.mp stepped
  split at stepped
  · cases stepped
  · rename_i goes
    exact ⟨call, found, Bool.eq_false_of_not_eq_true goes, (Option.some.inj stepped).symm⟩

end CloudGuest.Vouchers
