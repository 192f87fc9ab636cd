import CloudGuest.Library.Calendar
import CloudGuest.Otp.RequestLimits

/-!
The lockout of PIN sign-ins (guest/service.py, `GuestPinSecurity` within
`GuestService.login_via_pin`), for one organization and identifier. A request reads
the counter, compares the PIN later and counts a failure after that, each a step of
its own: as many requests as read the counter in time compare a PIN, however many
failures are counted meanwhile.

The guest and the device a request compares with are whatever rows it reads. How PINs
are hashed is an argument. The gates between the check and the comparison only end
requests, and the mirror on the guest's row is never read back: both are left out.
-/

namespace CloudGuest.GuestPinSecurity
open Calendar Calls Counters Runs Texts

def PIN_MAX_ATTEMPTS : Nat := 5
def PIN_LOCKOUT_MINUTES : Nat := 30
def PIN_STALE_AFTER_DAYS : Nat := 90

structure Guest (Hash : Type) where
  id : Nat
  hashedPin : Option Hash
  pinSetAt : Option Moment
  pinLastUsedAt : Option Moment
  deriving DecidableEq

structure GuestDevice where
  guestId : Nat
  deriving DecidableEq

section Comparison

variable {Hash : Type} (verify : Text → Hash → Bool) (dummyPinHash : Hash)

def verifyGuestPin (guest : Option (Guest Hash)) (pin : Text) : Bool :=
  let hashed := guest.bind Guest.hashedPin
  let verified := verify pin (hashed.getD dummyPinHash)
  if hashed.isSome then verified else false

def isGuestPinStale (guest : Guest Hash) (now : Moment) : Bool :=
  match guest.pinLastUsedAt.or guest.pinSetAt with
  | none => true
  | some reference => ((PIN_STALE_AFTER_DAYS * dayLength : Nat) : Int) < now.val - reference.val

def authenticated (guest : Option (Guest Hash)) (device : Option GuestDevice) (pin : Text)
    (now : Moment) : Bool :=
  -- What `login_via_pin` takes for a right PIN.
  let deviceMatches := guest.any fun guest => device.any fun device => device.guestId = guest.id
  let pinMatches := verifyGuestPin verify dummyPinHash guest pin
  let isStale := guest.any fun guest => isGuestPinStale guest now
  deviceMatches && pinMatches && !isStale

def wrongPin (guest : Option (Guest Hash)) (pin : Text) : Bool :=
  (guest.bind Guest.hashedPin).any fun hashed => !verify pin hashed

theorem wrongPin_refused (guest : Option (Guest Hash)) (device : Option GuestDevice) (pin : Text)
    (now : Moment) (wrong : wrongPin verify guest pin = true) :
    authenticated verify dummyPinHash guest device pin now = false := by
  have mismatch : verifyGuestPin verify dummyPinHash guest pin = false := by
    unfold verifyGuestPin
    cases hashed : guest.bind Guest.hashedPin with
    | none => rfl
    | some hash =>
        rw [wrongPin, hashed] at wrong
        simpa using wrong
  simp [authenticated, mismatch]

end Comparison

/-! ### The requests -/

inductive Phase where
  | arrived
  /-- It read that the attempts are used up, and `TTL` is next. -/
  | refused
  /-- Past `check_lockout`. -/
  | checked
  | authenticated
  | failed (wrong : Bool)
  /-- Its `INCR` answered 1, and `EXPIRE` is next. -/
  | opened
  deriving DecidableEq

inductive Answer where
  /-- `GuestPinLockedError`, by the seconds until `locked_until`. -/
  | locked (seconds : Nat)
  | failed
  | signedIn
  deriving DecidableEq

/-- The key and the requests, and for the key's life or since the last sign-in the wrong PINs
compared; further all comparisons made while the key counted the attempts used up. -/
structure System where
  store : Store
  requests : List Phase
  answers : List Answer
  wrong : Nat
  lockedComparisons : Nat
  deriving DecidableEq

def System.started (now : Nat) : System := ⟨⟨now, none⟩, [], [], 0, 0⟩

def System.isLocked (system : System) : Bool := system.store.get.any (PIN_MAX_ATTEMPTS ≤ ·)

inductive Action (Hash : Type) where
  | arrive
  /-- `GET` in `check_lockout`. -/
  | check (request : Nat)
  /-- `TTL` in `check_lockout`. -/
  | refuse (request : Nat)
  | compare (request : Nat) (guest : Option (Guest Hash)) (device : Option GuestDevice)
      (pin : Text) (now : Moment)
  /-- `DEL` or `INCR` in `record_attempt`. -/
  | record (request : Nat)
  | expire (request : Nat)
  | stop (request : Nat)
  | elapse (seconds : Nat)

variable {Hash : Type} (verify : Text → Hash → Bool) (dummyPinHash : Hash)

def lockoutSeconds : Nat := PIN_LOCKOUT_MINUTES * 60

def System.goOn (system : System) (place : Nat) (phase : Phase) : System :=
  { system with requests := system.requests.set place phase }

def System.answer (system : System) (place : Nat) (answer : Answer) : System :=
  { system with
    requests := system.requests.eraseIdx place
    answers := system.answers ++ [answer] }

def step (system : System) : Action Hash → Option System
  | .arrive => some { system with requests := system.requests ++ [.arrived] }
  | .check place =>
      if system.requests[place]? = some .arrived then
        some (system.goOn place (if system.isLocked then .refused else .checked))
      else none
  | .refuse place =>
      if system.requests[place]? = some .refused then
        some (system.answer place (.locked (system.store.retryAfter lockoutSeconds)))
      else none
  | .compare place guest device pin now =>
      if system.requests[place]? = some .checked then
        let wrong := wrongPin verify guest pin
        let compared := { system with
          wrong := system.wrong + wrong.toNat
          lockedComparisons := system.lockedComparisons + system.isLocked.toNat }
        some (compared.goOn place
          (if authenticated verify dummyPinHash guest device pin now then .authenticated
          else .failed wrong))
      else none
  | .record place =>
      match system.requests[place]? with
      | some .authenticated =>
          some ({ system with store := system.store.delete, wrong := 0 }.answer place .signedIn)
      | some (.failed _) =>
          let counted := { system with store := system.store.incr }
          if counted.store.count = 1 then some (counted.goOn place .opened)
          else some (counted.answer place .failed)
      | _ => none
  | .expire place =>
      if system.requests[place]? = some .opened then
        some ({ system with store := system.store.expire lockoutSeconds }.answer place .failed)
      else none
  | .stop place => some { system with requests := system.requests.eraseIdx place }
  | .elapse seconds =>
      let store := system.store.elapse seconds
      let expired := system.store.entry.isSome && store.entry.isNone
      some { system with store, wrong := if expired then 0 else system.wrong }

/-! ### The limits -/

/-- Requests that will count a failure or may still: past the check and not recorded. -/
def Phase.mayCount : Phase → Bool
  | .checked | .failed _ => true
  | _ => false

def Phase.isWrong : Phase → Bool
  | .failed wrong => wrong
  | _ => false

def Phase.isOpened : Phase → Bool
  | .opened => true
  | _ => false

def System.inFlight (system : System) : Nat := system.requests.countP Phase.mayCount

def System.expiring (system : System) : Nat := system.requests.countP Phase.isOpened

/-- The attempts are limited, none is made while locked, and the key expires. -/
structure Limits (system : System) : Prop where
  limited : system.wrong ≤ PIN_MAX_ATTEMPTS
  unlocked : system.lockedComparisons = 0
  expires : Guarded lockoutSeconds system.expiring system.store

/-- A request that finds the identifier not locked finds room for its failure beside those counted
and those under way; one that compared a wrong PIN does not stop before it is counted; and one
that made the key does not stop before the key has an expiry, unless another is to set it. -/
def calm (system : System) : Action Hash → Bool
  | .check _ => system.isLocked || system.store.count + system.inFlight < PIN_MAX_ATTEMPTS
  | .stop place =>
      !(system.requests[place]?).any Phase.isWrong &&
        (system.store.entry.all (·.expiresAt.isSome) ||
          (system.requests.eraseIdx place).any Phase.isOpened)
  | _ => true

/-- What keeps the limits: there is room for every failure under way, and every wrong PIN is counted
or about to be. -/
structure Sound (system : System) : Prop where
  room : system.store.count + system.inFlight ≤ PIN_MAX_ATTEMPTS
  counted : system.wrong ≤ system.store.count + system.requests.countP Phase.isWrong
  unlocked : system.lockedComparisons = 0
  expires : Guarded lockoutSeconds system.expiring system.store
  named : ∀ seconds, Answer.locked seconds ∈ system.answers →
    0 < seconds ∧ seconds ≤ lockoutSeconds

theorem sound_started (now : Nat) : Sound (System.started now) := by
  constructor
  case expires => exact guarded_absent rfl
  all_goals simp [System.started, Store.count, Store.get, System.inFlight]

theorem limits_of_sound (system : System) (sound : Sound system) : Limits system := by
  refine ⟨?_, sound.unlocked, sound.expires⟩
  have fewer : system.requests.countP Phase.isWrong ≤ system.inFlight := by
    refine List.countP_mono_left ?_
    intro request _ wrong
    cases request <;> simp_all [Phase.isWrong, Phase.mayCount]
  have room := sound.room
  have counted := sound.counted
  omega

theorem isLocked_iff (system : System) :
    system.isLocked = true ↔ PIN_MAX_ATTEMPTS ≤ system.store.count := by
  unfold System.isLocked Store.count
  cases system.store.get with
  | none => simp [PIN_MAX_ATTEMPTS]
  | some count => simp

theorem sound_aside (system : System) (sound : Sound system) (requests : List Phase)
    (answers : List Answer)
    (inFlight : requests.countP Phase.mayCount ≤ system.inFlight)
    (wrong : system.requests.countP Phase.isWrong ≤ requests.countP Phase.isWrong)
    (expires : Guarded lockoutSeconds (requests.countP Phase.isOpened) system.store)
    (named : ∀ seconds, Answer.locked seconds ∈ answers → 0 < seconds ∧ seconds ≤ lockoutSeconds) :
    Sound { system with requests, answers } := by
  have room := sound.room
  have counted := sound.counted
  refine ⟨?_, ?_, sound.unlocked, expires, named⟩
  · simp only [System.inFlight] at inFlight room ⊢
    omega
  · dsimp only
    omega

theorem named_appended {answers : List Answer} {answer : Answer}
    (named : ∀ seconds, Answer.locked seconds ∈ answers →
      0 < seconds ∧ seconds ≤ lockoutSeconds)
    (new : ∀ seconds, Answer.locked seconds = answer →
      0 < seconds ∧ seconds ≤ lockoutSeconds) :
    ∀ seconds, Answer.locked seconds ∈ answers ++ [answer] →
      0 < seconds ∧ seconds ≤ lockoutSeconds := by
  intro seconds member
  rcases List.mem_append.mp member with earlier | last
  · exact named seconds earlier
  · exact new seconds (List.mem_singleton.mp last)

theorem sound_check (system : System) (sound : Sound system) (place : Nat)
    (found : system.requests[place]? = some .arrived)
    (calmly : (system.isLocked || decide (system.store.count + system.inFlight < PIN_MAX_ATTEMPTS))
      = true) :
    Sound (system.goOn place (if system.isLocked then .refused else .checked)) := by
  by_cases locked : system.isLocked = true
  · rw [if_pos locked]
    refine sound_aside system sound _ _ ?_ ?_ ?_ sound.named
    · have may := counted_continued Phase.mayCount found .refused
      simp only [Phase.mayCount, Bool.toNat_false, Nat.add_zero] at may
      exact Nat.le_of_eq may
    · have wrong := counted_continued Phase.isWrong found .refused
      simp only [Phase.isWrong, Bool.toNat_false, Nat.add_zero] at wrong
      exact Nat.le_of_eq wrong.symm
    · have opened := counted_continued Phase.isOpened found .refused
      simp only [Phase.isOpened, Bool.toNat_false, Nat.add_zero] at opened
      rw [opened]
      exact sound.expires
  · rw [if_neg locked]
    simp only [Bool.not_eq_true] at locked
    simp only [locked, Bool.false_or, decide_eq_true_eq] at calmly
    have may := counted_continued Phase.mayCount found .checked
    have wrong := counted_continued Phase.isWrong found .checked
    have opened := counted_continued Phase.isOpened found .checked
    simp only [Phase.mayCount, Phase.isWrong, Phase.isOpened, Bool.toNat_false, Bool.toNat_true,
      Nat.add_zero] at may wrong opened
    refine ⟨?_, ?_, sound.unlocked, ?_, sound.named⟩
    · simp only [System.goOn, System.inFlight] at calmly may ⊢
      omega
    · simp only [System.goOn, wrong]
      exact sound.counted
    · simp only [System.goOn, System.expiring, opened]
      exact sound.expires

theorem sound_compare (system : System) (sound : Sound system) (place : Nat) (isWrong : Bool)
    (next : Phase) (found : system.requests[place]? = some .checked)
    (phase : next = .authenticated ∧ isWrong = false ∨ next = .failed isWrong) :
    Sound (System.goOn { system with
      wrong := system.wrong + isWrong.toNat
      lockedComparisons := system.lockedComparisons + system.isLocked.toNat } place next) := by
  have may := counted_continued Phase.mayCount found next
  have wrong := counted_continued Phase.isWrong found next
  have opened := counted_continued Phase.isOpened found next
  have room := sound.room
  have counted := sound.counted
  have unlocked : system.isLocked = false := by
    -- the request itself is under way, and there is room for it
    have under : 0 < system.inFlight :=
      List.countP_pos_iff.mpr ⟨_, List.mem_of_getElem? found, rfl⟩
    by_contra locked
    have most := (isLocked_iff system).mp (by simpa using locked)
    omega
  have kept : next.mayCount.toNat ≤ 1 ∧ next.isWrong = isWrong ∧ next.isOpened = false := by
    rcases phase with ⟨rfl, rfl⟩ | rfl
    · exact ⟨Bool.toNat_le _, rfl, rfl⟩
    · exact ⟨Bool.toNat_le _, rfl, rfl⟩
  rw [show Phase.checked.mayCount = true from rfl, Bool.toNat_true] at may
  rw [show Phase.checked.isWrong = false from rfl, kept.2.1, Bool.toNat_false,
    Nat.add_zero] at wrong
  rw [show Phase.checked.isOpened = false from rfl, kept.2.2, Bool.toNat_false,
    Nat.add_zero] at opened
  refine ⟨?_, ?_, ?_, ?_, sound.named⟩
  · simp only [System.goOn, System.inFlight] at room ⊢
    omega
  · simp only [System.goOn, wrong]
    omega
  · simp only [System.goOn, unlocked, Bool.toNat_false, Nat.add_zero]
    exact sound.unlocked
  · simp only [System.goOn, System.expiring, opened]
    exact sound.expires

theorem sound_signedIn (system : System) (sound : Sound system) (place : Nat) :
    Sound (System.answer { system with store := system.store.delete, wrong := 0 } place
      .signedIn) := by
  have room := sound.room
  have fewer : (system.requests.eraseIdx place).countP Phase.mayCount ≤
      system.requests.countP Phase.mayCount := counted_erased Phase.mayCount place
  refine ⟨?_, Nat.zero_le _, sound.unlocked, guarded_absent rfl, ?_⟩
  · simp only [System.answer, System.inFlight, count_delete] at room ⊢
    omega
  · refine named_appended sound.named ?_
    intro seconds same
    cases same

theorem sound_counted (system : System) (sound : Sound system) (place : Nat) (isWrong : Bool)
    (found : system.requests[place]? = some (.failed isWrong)) :
    (system.store.incr.count = 1 →
      Sound (System.goOn { system with store := system.store.incr } place .opened)) ∧
    (system.store.incr.count ≠ 1 →
      Sound (System.answer { system with store := system.store.incr } place .failed)) := by
  have room := sound.room
  have counted := sound.counted
  have single := Bool.toNat_le isWrong
  constructor
  · intro first
    have may := counted_continued Phase.mayCount found .opened
    have wrong := counted_continued Phase.isWrong found .opened
    have opened := counted_continued Phase.isOpened found .opened
    simp only [Phase.mayCount, Phase.isWrong, Phase.isOpened, Bool.toNat_false, Bool.toNat_true,
      Nat.add_zero] at may wrong opened
    refine ⟨?_, ?_, sound.unlocked, ?_, sound.named⟩
    · simp only [System.goOn, System.inFlight, count_incr] at room ⊢
      omega
    · simp only [System.goOn, count_incr]
      omega
    · refine guarded_incr sound.expires ?_ ?_
      · simp only [System.goOn, System.expiring, opened]
        omega
      · simp only [System.goOn, System.expiring, opened]
        omega
  · intro later
    have may := counted_ended Phase.mayCount found
    have wrong := counted_ended Phase.isWrong found
    have opened := counted_ended Phase.isOpened found
    simp only [Phase.mayCount, Phase.isWrong, Phase.isOpened, Bool.toNat_false, Bool.toNat_true,
      Nat.add_zero] at may wrong opened
    refine ⟨?_, ?_, sound.unlocked, ?_, ?_⟩
    · simp only [System.answer, System.inFlight, count_incr] at room ⊢
      omega
    · simp only [System.answer, count_incr]
      omega
    · refine guarded_incr sound.expires ?_ ?_
      · intro absent
        rw [count_incr, absent] at later
        exact absurd rfl later
      · simp only [System.answer, System.expiring, opened, le_refl]
    · refine named_appended sound.named ?_
      intro seconds same
      cases same

theorem sound_expired (system : System) (sound : Sound system) (place : Nat)
    (found : system.requests[place]? = some .opened) :
    Sound (System.answer { system with store := system.store.expire lockoutSeconds } place
      .failed) := by
  have may := counted_ended Phase.mayCount found
  have wrong := counted_ended Phase.isWrong found
  have same : (system.store.expire lockoutSeconds).count = system.store.count := by
    cases held : system.store.entry <;>
      simp [Store.expire, Store.count, Store.get, held, lockoutSeconds, PIN_LOCKOUT_MINUTES]
  simp only [Phase.mayCount, Phase.isWrong, Bool.toNat_false, Nat.add_zero] at may wrong
  refine ⟨?_, ?_, sound.unlocked, guarded_expire _ _ _, ?_⟩
  · simp only [System.answer, System.inFlight, same, may]
    exact sound.room
  · simp only [System.answer, same, wrong]
    exact sound.counted
  · refine named_appended sound.named ?_
    intro seconds same
    cases same

theorem sound_stopped (system : System) (sound : Sound system) (place : Nat)
    (calmly : (!(system.requests[place]?).any Phase.isWrong &&
        (system.store.entry.all (·.expiresAt.isSome) ||
          (system.requests.eraseIdx place).any Phase.isOpened)) = true) :
    Sound { system with requests := system.requests.eraseIdx place } := by
  simp only [Bool.and_eq_true, Bool.not_eq_true'] at calmly
  obtain ⟨harmless, dated⟩ := calmly
  refine sound_aside system sound _ _ (counted_erased _ _) ?_ ?_ sound.named
  · cases found : system.requests[place]? with
    | none =>
        rw [List.eraseIdx_of_length_le (List.getElem?_eq_none_iff.mp found)]
    | some phase =>
        have wrong := counted_ended Phase.isWrong found
        rw [found, Option.any_some] at harmless
        rw [harmless, Bool.toNat_false, Nat.add_zero] at wrong
        exact Nat.le_of_eq wrong.symm
  · refine guarded_pending sound.expires ?_
    intro entry present undated
    have missing : system.store.entry.all (·.expiresAt.isSome) = false := by
      rw [present]
      simp [undated]
    rw [missing, Bool.false_or] at dated
    exact List.countP_pos_iff.mpr (List.any_eq_true.mp dated)

theorem sound_elapsed (system : System) (sound : Sound system) (seconds : Nat) :
    Sound { system with
      store := system.store.elapse seconds
      wrong := if system.store.entry.isSome && (system.store.elapse seconds).entry.isNone then 0
        else system.wrong } := by
  have room := sound.room
  have counted := sound.counted
  have fewer := count_elapse system.store seconds
  refine ⟨?_, ?_, sound.unlocked, guarded_elapse sound.expires seconds, sound.named⟩
  · simp only [System.inFlight] at room ⊢
    omega
  · by_cases expired : (system.store.entry.isSome && (system.store.elapse seconds).entry.isNone)
      = true
    · rw [if_pos expired]
      exact Nat.zero_le _
    · rw [if_neg expired]
      have same : (system.store.elapse seconds).count = system.store.count := by
        cases held : system.store.entry with
        | none => simp [Store.elapse, Store.count, Store.get, held]
        | some entry =>
            cases kept : (system.store.elapse seconds).entry with
            | none => simp [held, kept] at expired
            | some other =>
                have before := (Option.filter_eq_some_iff.mp kept).1
                simp [Store.count, Store.get, kept, before]
      dsimp only
      rw [same]
      exact counted

theorem sound_step (system next : System) (action : Action Hash) (sound : Sound system)
    (calmly : calm system action = true)
    (stepped : step verify dummyPinHash system action = some next) : Sound next := by
  cases action with
  | arrive =>
      cases stepped
      refine sound_aside system sound _ _ ?_ ?_ ?_ sound.named
      · rw [counted_started]
        exact le_refl _
      · rw [counted_started]
        exact le_refl _
      · rw [counted_started]
        exact sound.expires
  | check place =>
      obtain ⟨found, same⟩ := Option.ite_none_right_eq_some.mp stepped
      cases same
      exact sound_check system sound place found calmly
  | refuse place =>
      obtain ⟨found, same⟩ := Option.ite_none_right_eq_some.mp stepped
      cases same
      have wrong := counted_ended Phase.isWrong found
      have opened := counted_ended Phase.isOpened found
      simp only [Phase.isWrong, Phase.isOpened, Bool.toNat_false, Nat.add_zero] at wrong opened
      refine sound_aside system sound _ _ (counted_erased _ _) (Nat.le_of_eq wrong.symm) ?_ ?_
      · rw [opened]
        exact sound.expires
      · refine named_appended sound.named ?_
        intro seconds same
        cases same
        exact ⟨retryAfter_pos _ (by decide), retryAfter_le sound.expires⟩
  | compare place guest device pin now =>
      obtain ⟨found, same⟩ := Option.ite_none_right_eq_some.mp stepped
      cases same
      refine sound_compare system sound place _ _ found ?_
      by_cases signed : authenticated verify dummyPinHash guest device pin now = true
      · refine Or.inl ⟨if_pos signed, ?_⟩
        by_contra wrong
        have refused :=
          wrongPin_refused verify dummyPinHash guest device pin now (by simpa using wrong)
        exact absurd (refused.symm.trans signed) (by decide)
      · exact Or.inr (if_neg signed)
  | record place =>
      simp only [step] at stepped
      split at stepped
      · cases stepped
        exact sound_signedIn system sound place
      · rename_i isWrong found
        obtain ⟨first, later⟩ := sound_counted system sound place isWrong found
        split at stepped
        · rename_i one
          cases stepped
          exact first one
        · rename_i more
          cases stepped
          exact later more
      · cases stepped
  | expire place =>
      obtain ⟨found, same⟩ := Option.ite_none_right_eq_some.mp stepped
      cases same
      exact sound_expired system sound place found
  | stop place =>
      cases stepped
      exact sound_stopped system sound place calmly
  | elapse seconds =>
      cases stepped
      exact sound_elapsed system sound seconds

/-! ### The room is needed -/

def Phase.isChecked : Phase → Bool
  | .checked => true
  | _ => false

def Phase.isFailed : Phase → Bool
  | .failed _ => true
  | _ => false

/-- More failures are counted and under way than there are attempts, and one is still to compare. -/
structure Crowded (system : System) : Prop where
  beyond : PIN_MAX_ATTEMPTS < system.store.count + system.inFlight
  checked : 0 < system.requests.countP Phase.isChecked

theorem inFlight_split (requests : List Phase) :
    requests.countP Phase.mayCount =
      requests.countP Phase.isChecked + requests.countP Phase.isFailed := by
  induction requests with
  | nil => rfl
  | cons request rest ih =>
      simp only [List.countP_cons, ih]
      cases request <;> simp [Phase.mayCount, Phase.isChecked, Phase.isFailed] <;> omega

/-- Steps a crowded system has still to go until somebody compares while locked. -/
def System.work (system : System) : Nat :=
  system.inFlight + system.requests.countP Phase.isChecked

theorem crowded_recorded (system : System) (crowded : Crowded system) (place : Nat)
    (isWrong : Bool) (found : system.requests[place]? = some (.failed isWrong)) :
    ∃ next, step verify dummyPinHash system (.record place) = some next ∧ Crowded next ∧
      next.work < system.work := by
  have beyond := crowded.beyond
  have still := crowded.checked
  by_cases first : system.store.incr.count = 1
  · refine ⟨System.goOn { system with store := system.store.incr } place .opened, ?_, ?_, ?_⟩
    · simp only [step, found, first, ↓reduceIte]
    all_goals
      have may := counted_continued Phase.mayCount found .opened
      have checked := counted_continued Phase.isChecked found .opened
      simp only [Phase.mayCount, Phase.isChecked, Bool.toNat_false, Bool.toNat_true,
        Nat.add_zero] at may checked
    · constructor
      · simp only [System.goOn, System.inFlight, count_incr] at beyond ⊢
        omega
      · simp only [System.goOn, checked]
        exact still
    · simp only [System.goOn, System.work, System.inFlight, checked]
      omega
  · refine ⟨System.answer { system with store := system.store.incr } place .failed, ?_, ?_, ?_⟩
    · simp only [step, found, first, ↓reduceIte]
    all_goals
      have may := counted_ended Phase.mayCount found
      have checked := counted_ended Phase.isChecked found
      simp only [Phase.mayCount, Phase.isChecked, Bool.toNat_false, Bool.toNat_true,
        Nat.add_zero] at may checked
    · constructor
      · simp only [System.answer, System.inFlight, count_incr] at beyond ⊢
        omega
      · simp only [System.answer, checked]
        exact still
    · simp only [System.answer, System.work, System.inFlight, checked]
      omega

/-- A request for an identifier without a guest compares, in vain, with the dummy hash. -/
def vainly (place : Nat) : Action Hash := .compare place none none [] ⟨0, epoch_inRange⟩

theorem crowded_compared (system : System) (crowded : Crowded system) (place : Nat)
    (found : system.requests[place]? = some .checked)
    (others : 1 < system.requests.countP Phase.isChecked) :
    ∃ next, step verify dummyPinHash system (vainly place) = some next ∧ Crowded next ∧
      next.work < system.work := by
  have may := counted_continued Phase.mayCount found (.failed false)
  have checked := counted_continued Phase.isChecked found (.failed false)
  simp only [Phase.mayCount, Phase.isChecked, Bool.toNat_false, Bool.toNat_true,
    Nat.add_zero, Nat.add_right_cancel_iff] at may checked
  refine ⟨System.goOn { system with
    lockedComparisons := system.lockedComparisons + system.isLocked.toNat } place (.failed false),
    ?_, ?_, ?_⟩
  · simp [step, vainly, found, authenticated, wrongPin]
  · constructor
    · simp only [System.goOn, System.inFlight, may]
      exact crowded.beyond
    · simp only [System.goOn]
      omega
  · simp only [System.goOn, System.work, System.inFlight, may]
    omega

theorem exists_place {requests : List Phase} (holds : Phase → Bool)
    (any : 0 < requests.countP holds) :
    ∃ (place : Nat) (request : Phase), requests[place]? = some request ∧ holds request = true := by
  obtain ⟨request, member, held⟩ := List.countP_pos_iff.mp any
  obtain ⟨place, found⟩ := List.getElem?_of_mem member
  exact ⟨place, request, found, held⟩

theorem crowded_breaks (system : System) (crowded : Crowded system) :
    ∃ final, Reached (step verify dummyPinHash) (fun _ _ => True) system final ∧
      0 < final.lockedComparisons := by
  -- by the work left: failures are counted first, then those still to compare fail but one
  induction left : system.work using Nat.strong_induction_on generalizing system with
  | _ work ih =>
      obtain ⟨place, request, found, still⟩ := exists_place Phase.isChecked crowded.checked
      obtain rfl : request = .checked := by
        cases request <;> simp_all [Phase.isChecked]
      by_cases locked : system.isLocked = true
      · obtain ⟨next, stepped, broken⟩ : ∃ next,
            step verify dummyPinHash system (vainly place) = some next ∧
              0 < next.lockedComparisons :=
          ⟨_, if_pos found, by simp [System.goOn, locked]⟩
        exact ⟨next, .next .start trivial stepped, broken⟩
      · have further : ∃ action next, step verify dummyPinHash system action = some next ∧
            Crowded next ∧ next.work < system.work := by
          by_cases failures : 0 < system.requests.countP Phase.isFailed
          · obtain ⟨failure, phase, among, failed⟩ := exists_place Phase.isFailed failures
            cases phase <;> cases failed
            exact ⟨_, crowded_recorded verify dummyPinHash system crowded failure _ among⟩
          · refine ⟨_, crowded_compared verify dummyPinHash system crowded place found ?_⟩
            have beyond := crowded.beyond
            have split := inFlight_split system.requests
            rw [isLocked_iff] at locked
            simp only [System.inFlight] at beyond
            omega
        obtain ⟨action, next, stepped, again, less⟩ := further
        obtain ⟨final, reached, broken⟩ := ih next.work (left ▸ less) next again rfl
        exact ⟨final, (Reached.start.next trivial stepped).trans reached, broken⟩

theorem unroomy_check (system next : System) (place : Nat)
    (crowding : calm system (.check place : Action Hash) = false)
    (stepped : step verify dummyPinHash system (.check place) = some next) : Crowded next := by
  obtain ⟨found, same⟩ := Option.ite_none_right_eq_some.mp stepped
  simp only [calm, Bool.or_eq_false_iff, decide_eq_false_iff_not, not_lt] at crowding
  rw [crowding.1] at same
  cases same
  have may := counted_continued Phase.mayCount found .checked
  have checked := counted_continued Phase.isChecked found .checked
  simp only [Phase.mayCount, Phase.isChecked, Bool.toNat_false, Bool.toNat_true,
    Nat.add_zero] at may checked
  constructor
  · have full := crowding.2
    simp only [Bool.false_eq_true, ↓reduceIte, System.goOn, System.inFlight] at full may ⊢
    omega
  · simp only [Bool.false_eq_true, ↓reduceIte, System.goOn]
    omega

theorem lockout_ends (system : System) (limits : Limits system) (settled : system.expiring = 0) :
    (system.store.elapse lockoutSeconds).entry = none := by
  have guarded := limits.expires
  rw [settled] at guarded
  exact guarded_gone guarded

theorem sound_reached (now : Nat) (system : System)
    (reached : Reached (step verify dummyPinHash)
      (fun system (action : Action Hash) => calm system action = true)
      (System.started now) system) :
    Sound system := by
  refine Reached.invariant Sound (sound_started now) ?_ reached
  intro state action next held calmly stepped
  exact sound_step verify dummyPinHash state next action held calmly stepped

/-- While every check that lets a request past finds room for its failure, and no request stops on
the way to its `INCR` or `EXPIRE`, PIN attempts are limited and a lockout ends; a check without
that room lets a PIN be compared while locked. Code requests are limited in every run, and their
key expires while none stops on the way to its `EXPIRE`. -/
theorem limiters_hold :
    (∀ now system, Reached (step verify dummyPinHash)
        (fun system (action : Action Hash) => calm system action = true)
        (System.started now) system →
      Limits system ∧
      (system.expiring = 0 → (system.store.elapse lockoutSeconds).entry = none)) ∧
    (∀ system next place, calm system (.check place : Action Hash) = false →
      step verify dummyPinHash system (.check place) = some next →
      ∃ final, Reached (step verify dummyPinHash) (fun _ _ => True) next final ∧
        0 < final.lockedComparisons) ∧
    ∀ maxRequests windowMinutes now system,
      (Reached (OtpRateLimiter.step maxRequests windowMinutes) (fun _ _ => True)
          (OtpRateLimiter.System.started now) system →
        ∀ window, system.admittedIn window ≤ maxRequests) ∧
      (Reached (OtpRateLimiter.step maxRequests windowMinutes)
          (fun system action => OtpRateLimiter.calm system action = true)
          (OtpRateLimiter.System.started now) system →
        Guarded (windowMinutes * 60) system.expiring system.store ∧
        (system.expiring = 0 → (system.store.elapse (windowMinutes * 60)).entry = none)) := by
  refine ⟨?_, ?_, ?_⟩
  · intro now system reached
    have limits := limits_of_sound system (sound_reached verify dummyPinHash now system reached)
    exact ⟨limits, lockout_ends system limits⟩
  · intro system next place crowding stepped
    exact crowded_breaks verify dummyPinHash next
      (unroomy_check verify dummyPinHash system next place crowding stepped)
  · intro maxRequests windowMinutes now system
    refine ⟨OtpRateLimiter.requests_limited maxRequests windowMinutes now system, ?_⟩
    intro reached
    have guarded :=
      (OtpRateLimiter.key_expires maxRequests windowMinutes now system reached).guarded
    refine ⟨guarded, fun settled => ?_⟩
    rw [settled] at guarded
    exact guarded_gone guarded

section Executed

def plainly (pin hash : Text) : Bool := pin = hash

def guest1234 : Guest Text :=
  ⟨1, some ['1', '2', '3', '4'], some ⟨0, epoch_inRange⟩, none⟩

def attempt (place : Nat) (pin : Text) : Action Text :=
  .compare place (some guest1234) (some ⟨1⟩) pin ⟨0, epoch_inRange⟩

def fivePast : System :=
  ⟨⟨0, none⟩, [.checked, .checked, .checked, .checked, .checked, .arrived], [], 0, 0⟩

/-- A wrong PIN, with its expiry, and the right one beside it; a sixth request let past the check;
and two code requests where one is allowed. -/
theorem limiters_hold_apart :
    (∃ system, Reached (step plainly [])
        (fun system (action : Action Text) => calm system action = true)
        (System.started 0) system ∧
      system.answers = [.signedIn, .failed] ∧ Limits system ∧
      (system.store.elapse lockoutSeconds).entry = none) ∧
    (∃ final, Reached (step plainly []) (fun _ (_ : Action Text) => True)
        (fivePast.goOn 5 .checked) final ∧ 0 < final.lockedComparisons) ∧
    ∃ system, Reached (OtpRateLimiter.step 1 60)
        (fun system action => OtpRateLimiter.calm system action = true)
        (OtpRateLimiter.System.started 0) system ∧
      system.refused = [3593] ∧ system.admittedIn 1 ≤ 1 ∧
      (system.store.elapse (60 * 60)).entry = none := by
  refine ⟨?_, ?_, ?_⟩
  · obtain ⟨system, reached, seen⟩ := run_observed (step plainly []) (System.started 0)
      (fun system action => calm system action)
      (fun system => system.answers = [.signedIn, .failed] && system.expiring = 0)
      (fun _ _ checked => checked)
      [.arrive, .arrive, .check 0, attempt 0 ['9'], .check 1, .record 0,
        attempt 1 ['1', '2', '3', '4'], .record 1, .expire 0, .elapse 7] (by decide +kernel)
    simp only [Bool.and_eq_true, decide_eq_true_eq] at seen
    have held := (limiters_hold plainly []).1 0 system reached
    exact ⟨system, reached, seen.1, held.1, held.2 seen.2⟩
  · exact (limiters_hold plainly []).2.1 fivePast _ 5 (by decide) rfl
  · obtain ⟨system, reached, seen⟩ := run_observed (OtpRateLimiter.step 1 60)
      (OtpRateLimiter.System.started 0) (fun system action => OtpRateLimiter.calm system action)
      (fun system => system.refused = [3593] && system.expiring = 0) (fun _ _ checked => checked)
      [.incr, .incr, .expire 0, .elapse 7, .answer 1, .answer 0] (by decide +kernel)
    simp only [Bool.and_eq_true, decide_eq_true_eq] at seen
    have held := (limiters_hold plainly []).2.2 1 60 0 system
    exact ⟨system, reached, seen.1, held.1 (reached.weaken fun _ _ _ => trivial) 1,
      (held.2 reached).2 seen.2⟩

/-- Six requests read the counter before any counts a failure: six wrong PINs are compared, the
last while locked. A request that stops after its `INCR` leaves the key without an expiry; four
more failures lock the identifier, however long one waits. A code request leaves its key so too. -/
theorem limiters_broken :
    (∃ system, Reached (step plainly []) (fun _ _ => True) (System.started 0) system ∧
      system.wrong = 6 ∧ system.lockedComparisons = 1) ∧
    (∃ system, Reached (step plainly []) (fun _ _ => True) (System.started 0) system ∧
      system.requests = [] ∧ ∀ seconds, (system.store.elapse seconds).get = some PIN_MAX_ATTEMPTS) ∧
    ∃ system, Reached (OtpRateLimiter.step 5 60) (fun _ _ => True)
        (OtpRateLimiter.System.started 0) system ∧
      system.requests = [] ∧ system.store.entry = some ⟨1, none⟩ := by
  refine ⟨?_, ?_, ?_⟩
  · obtain ⟨system, reached, seen⟩ := run_observed (step plainly []) (System.started 0)
      (fun _ _ => true) (fun system => system.wrong = 6 && system.lockedComparisons = 1)
      (fun _ _ _ => trivial)
      [.arrive, .arrive, .arrive, .arrive, .arrive, .arrive, .check 0, .check 1, .check 2,
        .check 3, .check 4, .check 5, attempt 0 ['0'], .record 0, .expire 0, attempt 0 ['1'],
        .record 0, attempt 0 ['2'], .record 0, attempt 0 ['3'], .record 0, attempt 0 ['4'],
        .record 0, attempt 0 ['5']] (by decide +kernel)
    simp only [Bool.and_eq_true, decide_eq_true_eq] at seen
    exact ⟨system, reached, seen.1, seen.2⟩
  · obtain ⟨system, reached, seen⟩ := run_observed (step plainly []) (System.started 0)
      (fun _ _ => true)
      (fun system => system.requests = [] && system.store.entry = some ⟨5, none⟩)
      (fun _ _ _ => trivial)
      [.arrive, .check 0, attempt 0 ['0'], .record 0, .stop 0, .arrive, .check 0,
        attempt 0 ['1'], .record 0, .arrive, .check 0, attempt 0 ['2'], .record 0, .arrive,
        .check 0, attempt 0 ['3'], .record 0, .arrive, .check 0, attempt 0 ['4'], .record 0]
      (by decide +kernel)
    simp only [Bool.and_eq_true, decide_eq_true_eq] at seen
    refine ⟨system, reached, seen.1, fun seconds => ?_⟩
    simp [Store.elapse, Store.get, seen.2, Entry.isDue, PIN_MAX_ATTEMPTS]
  · obtain ⟨system, reached, seen⟩ := run_observed (OtpRateLimiter.step 5 60)
      (OtpRateLimiter.System.started 0) (fun _ _ => true)
      (fun system => system.requests = [] && system.store.entry = some ⟨1, none⟩)
      (fun _ _ _ => trivial) [.incr, .stop 0] (by decide +kernel)
    simp only [Bool.and_eq_true, decide_eq_true_eq] at seen
    exact ⟨system, reached, seen.1, seen.2⟩

end Executed

end CloudGuest.GuestPinSecurity
