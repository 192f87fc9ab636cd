import CloudGuest.Library.Calendar
import CloudGuest.Library.Calls
import CloudGuest.Library.Runs
import CloudGuest.Library.Texts

/-!
Verification of a one-time code (otp/service.py, `verify_otp`, within the
transaction that `get_db_session` opens for `POST /otp/verify`). A wrong code
increments `attempt_count` in the request's session and then raises, and the raise
rolls the session back: the count that was to limit guessing is never committed.
Two requests with the right code that both read the row before either commits
are both accepted.

How codes are hashed is an argument: nothing here depends on it. Logging and audit
rows are left out.
-/

namespace CloudGuest.Otp
open Calendar Texts Calls Runs

variable {Hash : Type} [DecidableEq Hash]

structure OtpRequest (Hash : Type) where
  codeHash : Hash
  expiresAt : Moment
  maxAttempts : Nat
  attemptCount : Nat
  isConsumed : Bool
  verifiedAt : Option Moment
  deriving DecidableEq

def OtpRequest.isExpired (request : OtpRequest Hash) (now : Moment) : Bool := request.expiresAt < now

def OtpRequest.isLockedOut (request : OtpRequest Hash) : Bool :=
  request.maxAttempts ≤ request.attemptCount

inductive Answer where
  | alreadyConsumed
  | attemptsExceeded
  | expired
  | codeMismatch (attemptsRemaining : Nat)
  | verified
  deriving DecidableEq

def Answer.raises : Answer → Bool
  | .verified => false
  | _ => true

def OtpRequest.accepted (request : OtpRequest Hash) (now : Moment) : OtpRequest Hash :=
  { request with isConsumed := true, verifiedAt := some now }

def verifyOtp (hashOtpCode : Text → Hash) (found : OtpRequest Hash) (code : Text) (now : Moment) :
    Answer × OtpRequest Hash :=
  -- `verify_otp` on the row it read: the answer, and the row as its session leaves it.
  if found.isConsumed then (.alreadyConsumed, found)
  else if found.isLockedOut then (.attemptsExceeded, found)
  else if found.isExpired now then (.expired, found)
  else if hashOtpCode code ≠ found.codeHash then
    let updated := { found with attemptCount := found.attemptCount + 1 }
    (.codeMismatch (updated.maxAttempts - updated.attemptCount), updated)
  else (.verified, found.accepted now)

/-- The row after the commit of a session that had read `found`. -/
def OtpRequest.flush (found assigned held : OtpRequest Hash) : OtpRequest Hash :=
  { held with
    attemptCount := flushed found.attemptCount assigned.attemptCount held.attemptCount
    isConsumed := flushed found.isConsumed assigned.isConsumed held.isConsumed
    verifiedAt := flushed found.verifiedAt assigned.verifiedAt held.verifiedAt }

/-- A request under way: the row it read and, once it has come to an answer, that and what its
session holds. -/
structure Verification (Hash : Type) where
  found : OtpRequest Hash
  answered : Option (Answer × OtpRequest Hash × Moment)
  deriving DecidableEq

/-- An accepted code: the clock it was checked by, and the attempts the row counted at the
commit. -/
structure Success where
  verifiedAt : Moment
  attempts : Nat
  deriving DecidableEq

/-- The row, the requests under way, the number of wrong codes compared with the row's hash so
far, and the codes accepted. -/
structure System (Hash : Type) where
  row : OtpRequest Hash
  requests : List (Verification Hash)
  wrong : Nat
  successes : List Success
  deriving DecidableEq

def System.started (codeHash : Hash) (expiresAt : Moment) (maxAttempts : Nat) : System Hash :=
  ⟨⟨codeHash, expiresAt, maxAttempts, 0, false, none⟩, [], 0, []⟩

inductive Action where
  | read
  | verify (request : Nat) (code : Text) (now : Moment)
  /-- The handler returns and the session commits, or it raises and the session rolls back. -/
  | finish (request : Nat)
  /-- Some other exception ends the request. -/
  | abort (request : Nat)
  deriving DecidableEq

def Answer.compares : Answer → Bool
  | .codeMismatch _ => true
  | _ => false

variable (hashOtpCode : Text → Hash)

def step (system : System Hash) : Action → Option (System Hash)
  | .read => some { system with requests := system.requests ++ [⟨system.row, none⟩] }
  | .verify place code now =>
      (system.requests[place]?).bind fun request =>
        match request.answered with
        | some _ => none
        | none =>
            let answered := verifyOtp hashOtpCode request.found code now
            some { system with
              requests := system.requests.set place
                ⟨request.found, some (answered.1, answered.2, now)⟩
              wrong := if answered.1.compares then system.wrong + 1 else system.wrong }
  | .finish place =>
      (system.requests[place]?).bind fun request =>
        match request.answered with
        | none => none
        | some (answer, assigned, now) =>
            let ended := { system with requests := system.requests.eraseIdx place }
            if answer.raises then some ended
            else
              some { ended with
                row := request.found.flush assigned system.row
                successes := system.successes ++ [⟨now, system.row.attemptCount⟩] }
  | .abort place => some { system with requests := system.requests.eraseIdx place }

/-- The limit limits: no more wrong codes were compared than allowed, the row counts them, and once
they are used up every request is refused for it; one code at most was accepted, in time and not
after the lockout. -/
structure Limits (system : System Hash) : Prop where
  limited : system.wrong ≤ system.row.maxAttempts
  counted : system.row.attemptCount = system.wrong
  refused : system.row.maxAttempts ≤ system.wrong → system.row.isConsumed = false →
    ∀ code now, (verifyOtp hashOtpCode system.row code now).1 = .attemptsExceeded
  once : system.successes.length ≤ 1
  timely : ∀ success ∈ system.successes, success.verifiedAt ≤ system.row.expiresAt
  unlocked : ∀ success ∈ system.successes, success.attempts < system.row.maxAttempts

/-- No wrong code comes to the comparison, and an accepted one finds the row not consumed yet. -/
def calm (system : System Hash) : Action → Bool
  | .verify place code now =>
      (system.requests[place]?).all fun request =>
        request.answered.isSome || !(verifyOtp hashOtpCode request.found code now).1.compares
  | .finish place =>
      (system.requests[place]?).all fun request =>
        request.answered.all fun answered => answered.1.raises || !system.row.isConsumed
  | _ => true

/-! ### What every run keeps -/

theorem verifyOtp_accepted (found assigned : OtpRequest Hash) (code : Text) (now : Moment)
    (answer : Answer) (answered : verifyOtp hashOtpCode found code now = (answer, assigned))
    (returned : answer.raises = false) :
    found.isConsumed = false ∧ found.attemptCount < found.maxAttempts ∧ now ≤ found.expiresAt ∧
      assigned = found.accepted now := by
  unfold verifyOtp at answered
  split at answered
  · cases answered
    cases returned
  · rename_i fresh
    split at answered
    · cases answered
      cases returned
    · rename_i attempts
      split at answered
      · cases answered
        cases returned
      · rename_i intime
        split at answered
        · cases answered
          cases returned
        · cases answered
          simp only [OtpRequest.isLockedOut, decide_eq_true_eq, not_le] at attempts
          simp only [OtpRequest.isExpired, decide_eq_true_eq, not_lt] at intime
          exact ⟨by simpa using fresh, attempts, intime, rfl⟩

/-- A request under way read this row before anything was counted, and answers for what it read. -/
structure RequestSound (row : OtpRequest Hash) (request : Verification Hash) : Prop where
  attempts : request.found.maxAttempts = row.maxAttempts
  expiry : request.found.expiresAt = row.expiresAt
  uncounted : request.found.attemptCount = 0
  answered : ∀ answer assigned now, request.answered = some (answer, assigned, now) →
    ∃ code, verifyOtp hashOtpCode request.found code now = (answer, assigned)

structure Sound (system : System Hash) : Prop where
  uncounted : system.row.attemptCount = 0
  consumed : system.row.isConsumed = true ↔ system.successes ≠ []
  timely : ∀ success ∈ system.successes, success.verifiedAt ≤ system.row.expiresAt
  unlocked : ∀ success ∈ system.successes, success.attempts < system.row.maxAttempts
  requests : ∀ request ∈ system.requests, RequestSound hashOtpCode system.row request

theorem sound_started (codeHash : Hash) (expiresAt : Moment) (maxAttempts : Nat) :
    Sound hashOtpCode (System.started codeHash expiresAt maxAttempts) := by
  constructor <;> simp [System.started]

theorem sound_aside (system : System Hash) (sound : Sound hashOtpCode system)
    (requests : List (Verification Hash)) (wrong : Nat)
    (each : ∀ request ∈ requests, RequestSound hashOtpCode system.row request) :
    Sound hashOtpCode { system with requests, wrong } :=
  ⟨sound.uncounted, sound.consumed, sound.timely, sound.unlocked, each⟩

theorem sound_accepted (system : System Hash) (sound : Sound hashOtpCode system) (place : Nat)
    (request : Verification Hash) (assigned : OtpRequest Hash) (answer : Answer) (now : Moment)
    (found : system.requests[place]? = some request)
    (answered : request.answered = some (answer, assigned, now))
    (returned : answer.raises = false) :
    Sound hashOtpCode { system with
      requests := system.requests.eraseIdx place
      row := request.found.flush assigned system.row
      successes := system.successes ++ [⟨now, system.row.attemptCount⟩] } ∧
    (request.found.flush assigned system.row).isConsumed = true := by
  have held := found_holds sound.requests found
  obtain ⟨code, verified⟩ := held.answered answer assigned now answered
  obtain ⟨fresh, attempts, intime, rfl⟩ :=
    verifyOtp_accepted hashOtpCode request.found assigned code now answer verified returned
  have consumed : (request.found.flush (request.found.accepted now) system.row).isConsumed = true := by
    simp [OtpRequest.flush, OtpRequest.accepted, flushed, fresh]
  refine ⟨⟨?_, ?_, ?_, ?_, ?_⟩, consumed⟩
  · simpa [OtpRequest.flush, OtpRequest.accepted] using sound.uncounted
  · simp [consumed]
  · refine each_started sound.timely ?_
    rw [held.expiry] at intime
    exact intime
  · refine each_started sound.unlocked ?_
    rw [held.uncounted, held.attempts] at attempts
    rw [sound.uncounted]
    exact attempts
  · intro other member
    have kept := each_ended sound.requests place other member
    exact ⟨kept.attempts, kept.expiry, kept.uncounted, kept.answered⟩

theorem sound_step (system next : System Hash) (action : Action) (sound : Sound hashOtpCode system)
    (stepped : step hashOtpCode system action = some next) :
    Sound hashOtpCode next ∧ (system.row.isConsumed = true → next.row.isConsumed = true) := by
  cases action with
  | read =>
      cases stepped
      refine ⟨sound_aside hashOtpCode system sound _ system.wrong
        (each_started sound.requests ⟨rfl, rfl, sound.uncounted, by simp⟩), id⟩
  | verify place code now =>
      obtain ⟨request, found, stepped⟩ := Option.bind_eq_some_iff.mp stepped
      split at stepped
      · cases stepped
      · cases stepped
        have held := found_holds sound.requests found
        refine ⟨sound_aside hashOtpCode system sound _ _ (each_continued sound.requests place
          ⟨held.attempts, held.expiry, held.uncounted, ?_⟩), id⟩
        intro answer assigned checked same
        cases same
        exact ⟨code, rfl⟩
  | finish place =>
      obtain ⟨request, found, stepped⟩ := Option.bind_eq_some_iff.mp stepped
      split at stepped
      · cases stepped
      · rename_i answer assigned now answered
        dsimp only at stepped
        split at stepped
        · cases stepped
          exact ⟨sound_aside hashOtpCode system sound _ system.wrong
            (each_ended sound.requests place), id⟩
        · rename_i returned
          cases stepped
          obtain ⟨kept, consumed⟩ := sound_accepted hashOtpCode system sound place request assigned
            answer now found answered (by simpa using returned)
          exact ⟨kept, fun _ => consumed⟩
  | abort place =>
      cases stepped
      exact ⟨sound_aside hashOtpCode system sound _ system.wrong
        (each_ended sound.requests place), id⟩

/-! ### The limit -/

structure Calm (system : System Hash) : Prop where
  none : system.wrong = 0
  once : system.successes.length ≤ 1

theorem calm_step (system next : System Hash) (action : Action) (sound : Sound hashOtpCode system)
    (held : Calm system) (calmly : calm hashOtpCode system action = true)
    (stepped : step hashOtpCode system action = some next) : Calm next := by
  cases action with
  | read =>
      cases stepped
      exact ⟨held.none, held.once⟩
  | verify place code now =>
      obtain ⟨request, found, stepped⟩ := Option.bind_eq_some_iff.mp stepped
      simp only [calm, found, Option.all_some] at calmly
      split at stepped
      · cases stepped
      · rename_i unanswered
        cases stepped
        simp only [unanswered, Option.isSome_none, Bool.false_or, Bool.not_eq_true'] at calmly
        exact ⟨by simpa [calmly] using held.none, held.once⟩
  | finish place =>
      obtain ⟨request, found, stepped⟩ := Option.bind_eq_some_iff.mp stepped
      simp only [calm, found, Option.all_some] at calmly
      split at stepped
      · cases stepped
      · rename_i answer assigned now answered
        simp only [answered, Option.all_some, Bool.or_eq_true, Bool.not_eq_true'] at calmly
        dsimp only at stepped
        split at stepped
        · cases stepped
          exact ⟨held.none, held.once⟩
        · rename_i returned
          cases stepped
          have fresh := calmly.resolve_left returned
          have empty : system.successes = [] := by
            by_contra some
            rw [sound.consumed.mpr some] at fresh
            cases fresh
          exact ⟨held.none, by simp [empty]⟩
  | abort place =>
      cases stepped
      exact ⟨held.none, held.once⟩

theorem limits_of_calm (system : System Hash) (sound : Sound hashOtpCode system)
    (held : Calm system) : Limits hashOtpCode system := by
  refine ⟨?_, ?_, ?_, held.once, sound.timely, sound.unlocked⟩
  · rw [held.none]
    exact Nat.zero_le _
  · rw [held.none, sound.uncounted]
  · intro exceeded fresh code now
    rw [held.none] at exceeded
    have locked : system.row.isLockedOut = true := by
      simp only [OtpRequest.isLockedOut, decide_eq_true_eq]
      omega
    simp [verifyOtp, fresh, locked]

theorem unlimited_of_wrong (system next : System Hash) (action : Action)
    (sound : Sound hashOtpCode system) (wrongly : calm hashOtpCode system action = false)
    (stepped : step hashOtpCode system action = some next) : ¬ Limits hashOtpCode next := by
  intro limits
  have kept := (sound_step hashOtpCode system next action sound stepped).1
  cases action with
  | read => simp [calm] at wrongly
  | verify place code now =>
      obtain ⟨request, found, stepped⟩ := Option.bind_eq_some_iff.mp stepped
      simp only [calm, found, Option.all_some, Bool.or_eq_false_iff, Bool.not_eq_false'] at wrongly
      split at stepped
      · cases stepped
      · cases stepped
        have counted := limits.counted
        simp only [wrongly.2, ↓reduceIte, sound.uncounted] at counted
        omega
  | finish place =>
      obtain ⟨request, found, stepped⟩ := Option.bind_eq_some_iff.mp stepped
      simp only [calm, found, Option.all_some] at wrongly
      split at stepped
      · cases stepped
      · rename_i answer assigned now answered
        simp only [answered, Option.all_some, Bool.or_eq_false_iff, Bool.not_eq_false'] at wrongly
        dsimp only at stepped
        rw [if_neg (by simp [wrongly.1])] at stepped
        cases stepped
        have earlier := List.length_pos_iff.mpr (sound.consumed.mp wrongly.2)
        have once := limits.once
        simp only [List.length_append, List.length_singleton] at once
        omega
  | abort place => simp [calm] at wrongly

/-- While no wrong code comes to the comparison and every accepted one finds the row not yet
consumed, the limit limits; the first step that does otherwise breaks it. In every run the row
once consumed stays consumed, and its `attempt_count` stays 0. -/
theorem attempts_limited (codeHash : Hash) (expiresAt : Moment) (maxAttempts : Nat) :
    (∀ system, Reached (step hashOtpCode)
        (fun system action => calm hashOtpCode system action = true)
        (System.started codeHash expiresAt maxAttempts) system → Limits hashOtpCode system) ∧
    ∀ system, Reached (step hashOtpCode) (fun _ _ => True)
        (System.started codeHash expiresAt maxAttempts) system →
      system.row.attemptCount = 0 ∧
      ∀ action next, step hashOtpCode system action = some next →
        (system.row.isConsumed = true → next.row.isConsumed = true) ∧
        (calm hashOtpCode system action = false → ¬ Limits hashOtpCode next) := by
  constructor
  · intro system reached
    have both : Sound hashOtpCode system ∧ Calm system := by
      refine Reached.invariant (fun state => Sound hashOtpCode state ∧ Calm state)
        ⟨sound_started hashOtpCode codeHash expiresAt maxAttempts, rfl, Nat.zero_le _⟩ ?_ reached
      rintro state action next ⟨sound, held⟩ calmly stepped
      exact ⟨(sound_step hashOtpCode state next action sound stepped).1,
        calm_step hashOtpCode state next action sound held calmly stepped⟩
    exact limits_of_calm hashOtpCode system both.1 both.2
  · intro system reached
    have sound : Sound hashOtpCode system := by
      refine Reached.invariant (Sound hashOtpCode)
        (sound_started hashOtpCode codeHash expiresAt maxAttempts) ?_ reached
      intro state action next held _ stepped
      exact (sound_step hashOtpCode state next action held stepped).1
    refine ⟨sound.uncounted, fun action next stepped => ⟨?_, fun wrongly => ?_⟩⟩
    · exact (sound_step hashOtpCode system next action sound stepped).2
    · exact unlimited_of_wrong hashOtpCode system next action sound wrongly stepped

section Executed

def pending1234 : System Text :=
  System.started ['1', '2', '3', '4'] ⟨0, epoch_inRange⟩ 3

/-- The right code, and after it another request. -/
theorem attempts_limited_accepted :
    ∃ system, Reached (step id) (fun system action => calm id system action = true) pending1234
        system ∧
      system.row.isConsumed = true ∧ system.successes.length = 1 ∧ Limits id system := by
  obtain ⟨system, reached, seen⟩ := run_observed (step id) pending1234
    (fun system action => calm id system action)
    (fun system => system.row.isConsumed && system.successes.length = 1)
    (fun _ _ checked => checked)
    [.read, .verify 0 ['1', '2', '3', '4'] ⟨0, by decide⟩, .finish 0, .read,
      .verify 0 ['9'] ⟨0, by decide⟩, .finish 0] (by decide +kernel)
  simp only [Bool.and_eq_true, decide_eq_true_eq] at seen
  exact ⟨system, reached, seen.1, seen.2,
    (attempts_limited id _ _ _).1 system reached⟩

/-- Four wrong codes are compared where three are allowed, and none is counted; then two requests
with the right code are both accepted. -/
theorem guesses_unlimited :
    ∃ system, Reached (step id) (fun _ _ => True) pending1234 system ∧ ¬ Limits id system ∧
      system.wrong = 4 ∧ system.row.attemptCount = 0 ∧ system.row.maxAttempts = 3 ∧
      system.successes.length = 2 := by
  obtain ⟨system, reached, seen⟩ := run_observed (step id) pending1234 (fun _ _ => true)
    (fun system => system.wrong = 4 && system.row.attemptCount = 0 &&
      system.row.maxAttempts = 3 && system.successes.length = 2)
    (fun _ _ _ => trivial)
    [.read, .verify 0 ['1'] ⟨0, by decide⟩, .finish 0, .read, .verify 0 ['2'] ⟨0, by decide⟩,
      .finish 0, .read, .verify 0 ['3'] ⟨0, by decide⟩, .finish 0, .read,
      .verify 0 ['4'] ⟨0, by decide⟩, .finish 0, .read, .read,
      .verify 0 ['1', '2', '3', '4'] ⟨0, by decide⟩, .verify 1 ['1', '2', '3', '4'] ⟨0, by decide⟩,
      .finish 0, .finish 0] (by decide +kernel)
  simp only [Bool.and_eq_true, decide_eq_true_eq] at seen
  obtain ⟨⟨⟨wrong, count⟩, attempts⟩, twice⟩ := seen
  refine ⟨system, reached, ?_, wrong, count, attempts, twice⟩
  intro limits
  have limited := limits.limited
  rw [wrong, attempts] at limited
  exact absurd limited (by decide)

end Executed

end CloudGuest.Otp
