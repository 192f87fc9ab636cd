import CloudGuest.Guest.SessionWrites
import CloudGuest.Library.Calls
import CloudGuest.Library.Rows
import CloudGuest.Library.Runs

/-!
The sign-ins of one guest, each of which reuses an open session of its device or
opens a new one (guest/service.py, `_reuse_or_create_session`). A sign-in with a
device locks the guest's row before it reads and until it commits; what it writes
others see once it has committed. An UPDATE keeps others from its row until then.

Rows stand in the order they were committed in. That is the order of `created_at`
among the rows of one device, as the lock keeps these apart.
-/

namespace CloudGuest.SessionReuse
open Calls Guest Rows Runs Texts
open GuestTeams (GuestSessionStatus)

structure SignIn where
  routerId : Nat
  isNasOnly : Bool
  deviceId : Option Nat
  authMethod : GuestAuthMethod
  voucherId : Option Nat
  ipAddress : Option Text
  dataLimitMb : Option Nat
  sessionTimeoutMinutes : Option Nat
  idleTimeoutMinutes : Option Nat
  deriving DecidableEq

def listActiveSessionsForGuest (rows : List GuestSession) : List GuestSession :=
  (rows.filter GuestSession.isActive).reverse

def findReusableActiveSession (rows : List GuestSession) (signIn : SignIn) (now : Int) :
    Option GuestSession :=
  if signIn.deviceId.isNone then none
  else
    match (listActiveSessionsForGuest rows).find? fun candidate =>
      candidate.routerId = signIn.routerId && candidate.deviceId = signIn.deviceId with
    | none => none
    | some candidate => if hasSessionReachedTimeLimit candidate now then none else some candidate

def createSession (guestId id : Nat) (signIn : SignIn) (now : Int) : GuestSession where
  id := id
  guestId := guestId
  deviceId := signIn.deviceId
  routerId := signIn.routerId
  authMethod := signIn.authMethod
  voucherId := signIn.voucherId
  status := .active
  startedAt := now
  endedAt := none
  lastActivityAt := now
  ipAddress := signIn.ipAddress
  bytesUploaded := 0
  bytesDownloaded := 0
  dataLimitMb := signIn.dataLimitMb
  sessionTimeoutMinutes := signIn.sessionTimeoutMinutes
  idleTimeoutMinutes := signIn.idleTimeoutMinutes
  disconnectReason := none

def assignedVoucherId (found : GuestSession) (signIn : SignIn) : Option Nat :=
  if signIn.voucherId.isSome && found.voucherId ≠ signIn.voucherId then signIn.voucherId
  else if signIn.voucherId.isNone && found.voucherId.isSome && signIn.isNasOnly then none
  else found.voucherId

def assignedIpAddress (found : GuestSession) (signIn : SignIn) : Option Text :=
  if signIn.ipAddress.isSome && found.ipAddress ≠ signIn.ipAddress then signIn.ipAddress
  else found.ipAddress

def reuseSession (found row : GuestSession) (signIn : SignIn) (now : Int) : GuestSession :=
  -- `row`, after the UPDATE of a sign-in that had read it as `found`.
  { row with
    lastActivityAt := flushed found.lastActivityAt now row.lastActivityAt
    dataLimitMb := flushed found.dataLimitMb signIn.dataLimitMb row.dataLimitMb
    sessionTimeoutMinutes :=
      flushed found.sessionTimeoutMinutes signIn.sessionTimeoutMinutes row.sessionTimeoutMinutes
    idleTimeoutMinutes :=
      flushed found.idleTimeoutMinutes signIn.idleTimeoutMinutes row.idleTimeoutMinutes
    authMethod := flushed found.authMethod signIn.authMethod row.authMethod
    ipAddress := flushed found.ipAddress (assignedIpAddress found signIn) row.ipAddress
    voucherId := flushed found.voucherId (assignedVoucherId found signIn) row.voucherId }

/-! ### The sign-ins under way -/

inductive Phase where
  | arrived
  | locked
  | found (candidate : Option GuestSession)
  | written (session : GuestSession) (created : Bool) (returnedAt : Int)
  deriving DecidableEq

structure Request where
  signIn : SignIn
  phase : Phase
  deriving DecidableEq

/-- What `_reuse_or_create_session` returned to a sign-in that has committed. -/
structure Answer where
  signIn : SignIn
  session : GuestSession
  created : Bool
  returnedAt : Int
  deriving DecidableEq

structure System where
  rows : List GuestSession
  requests : List Request
  answers : List Answer
  /-- How many ids were handed out. -/
  issued : Nat
  now : Int
  deriving DecidableEq

def System.started (now : Int) : System := ⟨[], [], [], 0, now⟩

inductive Action where
  | arrive (signIn : SignIn)
  | lock (request : Nat)
  | find (request : Nat)
  | write (request : Nat)
  | commit (request : Nat)
  | abort (request : Nat)
  | ends (session : Nat) (status : GuestSessionStatus) (reason : Option Text)
  | elapse (duration : Nat)
  deriving DecidableEq

def Request.lock (request : Request) : Option Unit :=
  match request.phase with
  | .arrived => none
  | _ => if request.signIn.deviceId.isSome then some () else none

def Request.inserting (request : Request) : Option Nat :=
  match request.phase with
  | .written session true _ => some session.id
  | _ => none

def Request.updating (request : Request) : Option Nat :=
  match request.phase with
  | .written session false _ => some session.id
  | _ => none

def Request.reads (request : Request) : Bool :=
  -- Whether a sign-in reads next: with the lock, or without a device.
  request.phase = .locked || (request.phase = .arrived && request.signIn.deviceId.isNone)

def System.goesOn (system : System) (place : Nat) (request : Request) (phase : Phase) : System :=
  { system with requests := system.requests.set place { request with phase } }

def System.write (guestId : Nat) (system : System) (place : Nat) (request : Request) :
    Option System :=
  match request.phase with
  | .found none =>
      let session := createSession guestId system.issued request.signIn system.now
      some { system.goesOn place request (.written session true system.now) with
        issued := system.issued + 1 }
  | .found (some found) =>
      (system.rows.find? fun row => row.id = found.id).map fun row =>
        system.goesOn place request
          (.written (reuseSession found row request.signIn system.now) false system.now)
  | _ => none

def System.commit (system : System) (place : Nat) (request : Request) : Option System :=
  match request.phase with
  | .written session created returnedAt =>
      some { system with
        rows := if created then system.rows ++ [session]
          else replaceKeyed GuestSession.id session system.rows
        requests := system.requests.eraseIdx place
        answers := system.answers ++ [⟨request.signIn, session, created, returnedAt⟩] }
  | _ => none

def endSession (id : Nat) (status : GuestSessionStatus) (reason : Option Text) (now : Int)
    (row : GuestSession) : GuestSession :=
  if row.id = id && row.isActive then updateSession row (Update.ending {} status now reason) else row

variable (guestId : Nat)

def step (system : System) : Action → Option System
  | .arrive signIn => some { system with requests := system.requests ++ [⟨signIn, .arrived⟩] }
  | .lock place =>
      (system.requests[place]?).bind fun request =>
        if request.phase = .arrived && request.signIn.deviceId.isSome &&
            locks Request.lock system.requests = [] then
          some (system.goesOn place request .locked)
        else none
  | .find place =>
      (system.requests[place]?).bind fun request =>
        if request.reads then
          some (system.goesOn place request
            (.found (findReusableActiveSession system.rows request.signIn system.now)))
        else none
  | .write place => (system.requests[place]?).bind (system.write guestId place)
  | .commit place => (system.requests[place]?).bind (system.commit place)
  | .abort place => some { system with requests := system.requests.eraseIdx place }
  | .ends id status reason =>
      if isTerminal status && id ∉ locks Request.updating system.requests then
        some { system with rows := system.rows.map (endSession id status reason system.now) }
      else none
  | .elapse duration => some { system with now := system.now + duration }

/-! ### What a sign-in knows -/

def InSlot (signIn : SignIn) (session : GuestSession) : Prop :=
  signIn.deviceId.isSome = true ∧ session.routerId = signIn.routerId ∧
    session.deviceId = signIn.deviceId

def Vacant (rows : List GuestSession) (now : Int) (signIn : SignIn) : Prop :=
  ∀ row ∈ rows, InSlot signIn row → row.isActive = true → hasSessionReachedTimeLimit row now = true

def Newest (rows : List GuestSession) (signIn : SignIn) (row : GuestSession) : Prop :=
  ∃ front behind, rows = front ++ row :: behind ∧
    ∀ newer ∈ behind, InSlot signIn newer → newer.isActive = false

/-- Of two sessions of one slot that are both ACTIVE, the older one has reached its limit. -/
def Overtaken (now : Int) (older newer : GuestSession) : Prop :=
  older.deviceId.isSome = true → older.routerId = newer.routerId →
    older.deviceId = newer.deviceId → older.isActive = true → newer.isActive = true →
      hasSessionReachedTimeLimit older now = true

def terms (session : GuestSession) :=
  (session.id, session.routerId, session.deviceId, session.startedAt, session.dataLimitMb,
    session.sessionTimeoutMinutes, session.idleTimeoutMinutes)

def Carries (signIn : SignIn) (session : GuestSession) : Prop :=
  session.dataLimitMb = signIn.dataLimitMb ∧
    session.sessionTimeoutMinutes = signIn.sessionTimeoutMinutes ∧
    session.idleTimeoutMinutes = signIn.idleTimeoutMinutes

/-- What holds of a sign-in under way, by how far it is. -/
inductive Ready (rows : List GuestSession) (now : Int) : Request → Prop where
  | arrived (signIn : SignIn) : Ready rows now ⟨signIn, .arrived⟩
  | locked (signIn : SignIn) : Ready rows now ⟨signIn, .locked⟩
  | vacant {signIn : SignIn} (vacant : Vacant rows now signIn) :
      Ready rows now ⟨signIn, .found none⟩
  | reusable {signIn : SignIn} {found row : GuestSession} (same : terms row = terms found)
      (slot : InSlot signIn row) (newest : Newest rows signIn row) :
      Ready rows now ⟨signIn, .found (some found)⟩
  | inserted {signIn : SignIn} {session : GuestSession} {returnedAt : Int}
      (carries : Carries signIn session) (router : session.routerId = signIn.routerId)
      (device : session.deviceId = signIn.deviceId) (vacant : Vacant rows now signIn) :
      Ready rows now ⟨signIn, .written session true returnedAt⟩
  | updated {signIn : SignIn} {session row : GuestSession} {returnedAt : Int}
      (carries : Carries signIn session) (slot : InSlot signIn session) (id : row.id = session.id)
      (status : row.status = session.status) (heldSlot : InSlot signIn row)
      (newest : Newest rows signIn row) :
      Ready rows now ⟨signIn, .written session false returnedAt⟩

structure Sound (system : System) : Prop where
  distinct : (system.rows.map GuestSession.id ++ locks Request.inserting system.requests).Nodup
  issued : ∀ id ∈ system.rows.map GuestSession.id ++ locks Request.inserting system.requests,
    id < system.issued
  exclusive : (locks Request.lock system.requests).Nodup
  pairs : system.rows.Pairwise (Overtaken system.now)
  ready : ∀ request ∈ system.requests, Ready system.rows system.now request
  created : (system.answers.filter Answer.created).map (fun answer => answer.session.id) =
    system.rows.map GuestSession.id
  carries : ∀ answer ∈ system.answers, Carries answer.signIn answer.session

/-! ### Sessions that end, and time that passes -/

theorem endSession_terms (id : Nat) (status : GuestSessionStatus) (reason : Option Text) (now : Int)
    (row : GuestSession) : terms (endSession id status reason now row) = terms row := by
  unfold endSession
  split
  · rfl
  · rfl

theorem endSession_active {id : Nat} {status : GuestSessionStatus} (reason : Option Text)
    (now : Int) (terminal : isTerminal status = true) (row : GuestSession)
    (active : (endSession id status reason now row).isActive = true) :
    endSession id status reason now row = row := by
  unfold endSession at active ⊢
  split
  · rename_i ended
    rw [if_pos ended] at active
    have same : status = .active := of_decide_eq_true active
    subst same
    exact absurd terminal (by decide)
  · rfl

theorem endSession_other {id : Nat} {row : GuestSession} (other : row.id ≠ id)
    (status : GuestSessionStatus) (reason : Option Text) (now : Int) :
    endSession id status reason now row = row := by
  simp [endSession, other]

theorem slot_terms {signIn : SignIn} {row other : GuestSession} (same : terms row = terms other)
    (slot : InSlot signIn row) : InSlot signIn other := by
  simp only [terms, Prod.mk.injEq] at same
  obtain ⟨-, router, device, -⟩ := same
  rw [InSlot, router, device] at slot
  exact slot

section Changed

variable {change : GuestSession → GuestSession} {rows : List GuestSession} {now : Int}
variable {signIn : SignIn} (keeps : ∀ row, (change row).isActive = true → change row = row)

include keeps

theorem vacant_changed (vacant : Vacant rows now signIn) : Vacant (rows.map change) now signIn := by
  intro row member slot active
  obtain ⟨before, held, rfl⟩ := List.mem_map.mp member
  have same := keeps before active
  rw [same] at slot active ⊢
  exact vacant before held slot active

theorem newest_changed {row : GuestSession} (newest : Newest rows signIn row) :
    Newest (rows.map change) signIn (change row) := by
  obtain ⟨front, behind, rfl, closed⟩ := newest
  refine ⟨front.map change, behind.map change, by simp, ?_⟩
  intro newer member slot
  obtain ⟨before, held, rfl⟩ := List.mem_map.mp member
  by_contra still
  have active : (change before).isActive = true := by simpa using still
  have same := keeps before active
  rw [same] at slot active
  rw [closed before held slot] at active
  cases active

theorem pairs_changed (pairs : rows.Pairwise (Overtaken now)) :
    (rows.map change).Pairwise (Overtaken now) := by
  refine List.pairwise_map.mpr (pairs.imp ?_)
  intro older newer overtaken device router same active newerActive
  have olderSame := keeps older active
  have newerSame := keeps newer newerActive
  rw [olderSame] at device router same active ⊢
  rw [newerSame] at router same newerActive
  exact overtaken device router same active newerActive

end Changed

theorem ready_ends {rows : List GuestSession} {now : Int} {request : Request} {id : Nat}
    {status : GuestSessionStatus} (reason : Option Text) (ready : Ready rows now request)
    (terminal : isTerminal status = true) (free : request.updating ≠ some id) :
    Ready (rows.map (endSession id status reason now)) now request := by
  have keeps : ∀ row, (endSession id status reason now row).isActive = true →
      endSession id status reason now row = row := endSession_active reason now terminal
  cases ready with
  | arrived signIn => exact .arrived signIn
  | locked signIn => exact .locked signIn
  | vacant vacant => exact .vacant (vacant_changed keeps vacant)
  | @reusable _ _ row same slot newest =>
      have kept := endSession_terms id status reason now row
      exact .reusable (kept.trans same) (slot_terms kept.symm slot) (newest_changed keeps newest)
  | inserted carries router device vacant =>
      exact .inserted carries router device (vacant_changed keeps vacant)
  | @updated _ session row _ carries slot here held heldSlot newest =>
      -- the UPDATE keeps the row from ending before the commit
      have other : row.id ≠ id := by
        intro same
        exact free (by rw [← same, here, Request.updating])
      have moved := newest_changed keeps newest
      rw [endSession_other other] at moved
      exact .updated carries slot here held heldSlot moved

theorem vacant_later {rows : List GuestSession} {now later : Int} {signIn : SignIn}
    (passed : now ≤ later) (vacant : Vacant rows now signIn) : Vacant rows later signIn :=
  fun row member slot active => reached_later passed (vacant row member slot active)

theorem pairs_later {rows : List GuestSession} {now later : Int} (passed : now ≤ later)
    (pairs : rows.Pairwise (Overtaken now)) : rows.Pairwise (Overtaken later) :=
  pairs.imp fun overtaken device router same active newerActive =>
    reached_later passed (overtaken device router same active newerActive)

theorem ready_later {rows : List GuestSession} {now later : Int} {request : Request}
    (passed : now ≤ later) (ready : Ready rows now request) : Ready rows later request := by
  cases ready with
  | arrived signIn => exact .arrived signIn
  | locked signIn => exact .locked signIn
  | vacant vacant => exact .vacant (vacant_later passed vacant)
  | reusable same slot newest => exact .reusable same slot newest
  | inserted carries router device vacant =>
      exact .inserted carries router device (vacant_later passed vacant)
  | updated carries slot here held heldSlot newest =>
      exact .updated carries slot here held heldSlot newest

/-! ### Rows that are committed -/

theorem no_slot {signIn : SignIn} (bare : signIn.deviceId = none) (session : GuestSession) :
    ¬ InSlot signIn session := by
  rintro ⟨device, -⟩
  rw [bare] at device
  cases device

theorem bare_of_free {signIn : SignIn} {phase : Phase} (read : phase ≠ .arrived)
    (free : Request.lock ⟨signIn, phase⟩ = none) : signIn.deviceId = none := by
  cases phase with
  | arrived => exact absurd rfl read
  | locked => simpa [Request.lock] using free
  | found candidate => simpa [Request.lock] using free
  | written session created returnedAt => simpa [Request.lock] using free

theorem ready_free {rows after : List GuestSession} {now later : Int} {request : Request}
    (free : request.lock = none) (ready : Ready rows now request) : Ready after later request := by
  cases ready with
  | arrived signIn => exact .arrived signIn
  | locked signIn => exact .locked signIn
  | vacant vacant =>
      have bare := bare_of_free (by simp) free
      exact .vacant fun row _ slot => absurd slot (no_slot bare row)
  | reusable same slot newest => exact absurd slot (no_slot (bare_of_free (by simp) free) _)
  | inserted carries router device vacant =>
      have bare := bare_of_free (by simp) free
      exact .inserted carries router device fun row _ slot => absurd slot (no_slot bare row)
  | updated carries slot here held heldSlot newest =>
      exact absurd slot (no_slot (bare_of_free (by simp) free) _)

theorem ready_appended {rows : List GuestSession} {now : Int} {request : Request}
    {session : GuestSession} (bare : session.deviceId = none) (ready : Ready rows now request) :
    Ready (rows ++ [session]) now request := by
  have outside : ∀ signIn, ¬ InSlot signIn session := by
    rintro signIn ⟨device, -, same⟩
    rw [← same, bare] at device
    cases device
  have vacantToo : ∀ {signIn}, Vacant rows now signIn → Vacant (rows ++ [session]) now signIn := by
    intro signIn vacant
    exact each_started vacant fun slot => (outside signIn slot).elim
  have newestToo : ∀ {signIn row}, Newest rows signIn row →
      Newest (rows ++ [session]) signIn row := by
    rintro signIn row ⟨front, behind, rfl, closed⟩
    refine ⟨front, behind ++ [session], by simp, ?_⟩
    exact each_started closed fun slot => (outside signIn slot).elim
  cases ready with
  | arrived signIn => exact .arrived signIn
  | locked signIn => exact .locked signIn
  | vacant vacant => exact .vacant (vacantToo vacant)
  | reusable same slot newest => exact .reusable same slot (newestToo newest)
  | inserted carries router device vacant =>
      exact .inserted carries router device (vacantToo vacant)
  | updated carries slot here held heldSlot newest =>
      exact .updated carries slot here held heldSlot (newestToo newest)

/-! ### What a sign-in finds and writes -/

theorem find_ready {rows : List GuestSession} {now : Int} (pairs : rows.Pairwise (Overtaken now))
    (signIn : SignIn) :
    Ready rows now ⟨signIn, .found (findReusableActiveSession rows signIn now)⟩ := by
  unfold findReusableActiveSession
  split
  · rename_i bare
    exact .vacant fun row _ slot => absurd slot (no_slot (Option.isNone_iff_eq_none.mp bare) row)
  · rename_i device
    have named : signIn.deviceId.isSome = true := by simpa [Option.isSome_iff_ne_none] using device
    unfold listActiveSessionsForGuest
    split
    · rename_i nowhere
      refine .vacant fun row member slot active => ?_
      have listed := List.mem_reverse.mpr (List.mem_filter.mpr ⟨member, active⟩)
      have passed := List.find?_eq_none.mp nowhere row listed
      simp [slot.2.1, slot.2.2] at passed
    · rename_i candidate first
      obtain ⟨front, behind, rfl, active, picked, passed⟩ := find_newest first
      simp only [Bool.and_eq_true, decide_eq_true_eq] at picked
      have slot : InSlot signIn candidate := ⟨named, picked.1, picked.2⟩
      have closed : ∀ newer ∈ behind, InSlot signIn newer → newer.isActive = false := by
        intro newer member newerSlot
        by_contra still
        have skipped := passed newer member (by simpa using still)
        simp [newerSlot.2.1, newerSlot.2.2] at skipped
      split
      · rename_i reached
        -- the newest one has reached its limit, and so have the older ones
        obtain ⟨-, -, ahead⟩ := List.pairwise_append.mp pairs
        refine .vacant fun row member rowSlot rowActive => ?_
        rcases List.mem_append.mp member with older | others
        · refine ahead row older candidate List.mem_cons_self ?_ ?_ ?_ rowActive active
          · rw [rowSlot.2.2]
            exact named
          · exact rowSlot.2.1.trans slot.2.1.symm
          · exact rowSlot.2.2.trans slot.2.2.symm
        · rcases List.mem_cons.mp others with rfl | newer
          · exact reached
          · rw [closed row newer rowSlot] at rowActive
            cases rowActive
      · exact .reusable rfl slot ⟨front, behind, rfl, closed⟩

theorem reuse_carries {found row : GuestSession} (same : terms row = terms found) (signIn : SignIn)
    (now : Int) : Carries signIn (reuseSession found row signIn now) := by
  simp only [terms, Prod.mk.injEq] at same
  obtain ⟨-, -, -, -, data, session, idle⟩ := same
  simp [Carries, reuseSession, data, session, idle]

theorem write_cases {system next : System} {place : Nat} {request : Request}
    (wrote : system.write guestId place request = some next) :
    (request.phase = .found none ∧ next =
      { system.goesOn place request (.written
          (createSession guestId system.issued request.signIn system.now) true system.now) with
        issued := system.issued + 1 }) ∨
    ∃ found row, request.phase = .found (some found) ∧ row ∈ system.rows ∧ row.id = found.id ∧
      system.rows.find? (fun row => row.id = found.id) = some row ∧
      next = system.goesOn place request
        (.written (reuseSession found row request.signIn system.now) false system.now) := by
  unfold System.write at wrote
  split at wrote
  · rename_i phase
    exact Or.inl ⟨phase, (Option.some.inj wrote).symm⟩
  · rename_i found phase
    obtain ⟨row, first, same⟩ := Option.map_eq_some_iff.mp wrote
    have named := List.find?_some first
    exact Or.inr ⟨found, row, phase, List.mem_of_find?_eq_some first, of_decide_eq_true named,
      first, same.symm⟩
  · cases wrote

theorem commit_cases {system next : System} {place : Nat} {request : Request}
    (committed : system.commit place request = some next) :
    ∃ session created returnedAt, request.phase = .written session created returnedAt ∧ next =
      { system with
        rows := if created then system.rows ++ [session]
          else replaceKeyed GuestSession.id session system.rows
        requests := system.requests.eraseIdx place
        answers := system.answers ++ [⟨request.signIn, session, created, returnedAt⟩] } := by
  unfold System.commit at committed
  split at committed
  · rename_i session created returnedAt phase
    exact ⟨session, created, returnedAt, phase, (Option.some.inj committed).symm⟩
  · cases committed

theorem sound_goesOn {system : System} (sound : Sound system) {place : Nat} {request : Request}
    (found : system.requests[place]? = some request) (phase : Phase)
    (apart : (locks Request.lock (system.goesOn place request phase).requests).Nodup)
    (inserting : Request.inserting ⟨request.signIn, phase⟩ = request.inserting)
    (ready : Ready system.rows system.now ⟨request.signIn, phase⟩) :
    Sound (system.goesOn place request phase) := by
  have kept : locks Request.inserting (system.goesOn place request phase).requests =
      locks Request.inserting system.requests := locks_kept place found inserting
  constructor
  case distinct =>
    have distinct := sound.distinct
    rw [← kept] at distinct
    exact distinct
  case issued =>
    have issued := sound.issued
    rw [← kept] at issued
    exact issued
  case exclusive => exact apart
  case pairs => exact sound.pairs
  case ready => exact each_continued sound.ready place ready
  case created => exact sound.created
  case carries => exact sound.carries

theorem apart_kept {system : System} (sound : Sound system) {place : Nat} {request : Request}
    (found : system.requests[place]? = some request) {phase : Phase}
    (same : Request.lock ⟨request.signIn, phase⟩ = request.lock) :
    (locks Request.lock (system.goesOn place request phase).requests).Nodup := by
  have kept : locks Request.lock (system.goesOn place request phase).requests =
      locks Request.lock system.requests := locks_kept place found same
  have exclusive := sound.exclusive
  rw [← kept] at exclusive
  exact exclusive

theorem sound_write {system next : System} (sound : Sound system) {place : Nat} {request : Request}
    (found : system.requests[place]? = some request)
    (wrote : system.write guestId place request = some next) : Sound next := by
  have ready := found_holds sound.ready found
  obtain ⟨signIn, phase⟩ := request
  rcases write_cases guestId wrote with ⟨read, rfl⟩ | ⟨held, row, read, member, same, -, rfl⟩
  · dsimp only at read
    subst read
    cases ready with
    | vacant vacant =>
        let session := createSession guestId system.issued signIn system.now
        let next : Request := ⟨signIn, .written session true system.now⟩
        have more : (locks Request.inserting (system.requests.set place next)).Perm
            (system.issued :: locks Request.inserting system.requests) :=
          locks_continued place found rfl
        have perm := (more.append_left (system.rows.map GuestSession.id)).trans List.perm_middle
        have apart : (locks Request.lock (system.requests.set place next)).Nodup :=
          apart_kept sound found rfl
        have fresh : system.issued ∉ system.rows.map GuestSession.id ++
            locks Request.inserting system.requests :=
          fun used => Nat.lt_irrefl _ (sound.issued _ used)
        constructor
        case distinct => exact perm.nodup_iff.mpr (List.nodup_cons.mpr ⟨fresh, sound.distinct⟩)
        case issued =>
          intro id member
          rcases List.mem_cons.mp (perm.mem_iff.mp member) with rfl | earlier
          · exact Nat.lt_succ_self _
          · exact Nat.lt_succ_of_lt (sound.issued id earlier)
        case exclusive => exact apart
        case pairs => exact sound.pairs
        case ready =>
          exact each_continued sound.ready place (.inserted ⟨rfl, rfl, rfl⟩ rfl rfl vacant)
        case created => exact sound.created
        case carries => exact sound.carries
  · dsimp only at read
    subst read
    cases ready with
    | @reusable _ _ known sameTerms slot newest =>
        -- ids are distinct, so the UPDATE finds the row that was read
        have here : row = known := by
          have distinct := (List.nodup_append.mp sound.distinct).1
          obtain ⟨front, behind, split, -⟩ := newest
          refine List.inj_on_of_nodup_map distinct member (by simp [split]) ?_
          simp only [terms, Prod.mk.injEq] at sameTerms
          exact same.trans sameTerms.1.symm
        subst here
        refine sound_goesOn sound found _ (apart_kept sound found rfl) rfl ?_
        have inSlot : InSlot signIn (reuseSession held row signIn system.now) := slot
        exact @Ready.updated _ _ _ _ row _ (reuse_carries sameTerms signIn system.now) inSlot rfl rfl
          slot newest

/-! ### Commits -/

theorem pairs_inserted {rows : List GuestSession} {now : Int} {signIn : SignIn}
    {session : GuestSession} (pairs : rows.Pairwise (Overtaken now))
    (router : session.routerId = signIn.routerId) (device : session.deviceId = signIn.deviceId)
    (vacant : Vacant rows now signIn) : (rows ++ [session]).Pairwise (Overtaken now) := by
  -- A new session follows others of its slot only once they have reached their limits.
  refine List.pairwise_append.mpr ⟨pairs, List.pairwise_singleton _ _, ?_⟩
  intro older member newer last named sameRouter sameDevice active _
  obtain rfl := List.mem_singleton.mp last
  have slot : InSlot signIn older :=
    ⟨by rw [← device, ← sameDevice]; exact named, sameRouter.trans router,
      sameDevice.trans device⟩
  exact vacant older member slot active

theorem pairs_reused {front behind : List GuestSession} {now : Int} {signIn : SignIn}
    {row session : GuestSession} (pairs : (front ++ row :: behind).Pairwise (Overtaken now))
    (slot : InSlot signIn session) (heldSlot : InSlot signIn row)
    (status : row.status = session.status)
    (closed : ∀ newer ∈ behind, InSlot signIn newer → newer.isActive = false) :
    (front ++ session :: behind).Pairwise (Overtaken now) := by
  -- A reused session stands where it stood, and newer ones of its slot have ended.
  obtain ⟨ahead, others, across⟩ := List.pairwise_append.mp pairs
  refine List.pairwise_append.mpr ⟨ahead, List.pairwise_cons.mpr ⟨?_, ?_⟩, ?_⟩
  · intro newer member named router device _ active
    have newerSlot : InSlot signIn newer :=
      ⟨slot.1, router.symm.trans slot.2.1, device.symm.trans slot.2.2⟩
    rw [closed newer member newerSlot] at active
    cases active
  · exact (List.pairwise_cons.mp others).2
  · intro older member newer later
    rcases List.mem_cons.mp later with rfl | behindToo
    · have overtaken := across older member row List.mem_cons_self
      intro named router device active newerActive
      refine overtaken named ?_ ?_ active ?_
      · exact router.trans (slot.2.1.trans heldSlot.2.1.symm)
      · exact device.trans (slot.2.2.trans heldSlot.2.2.symm)
      · unfold GuestSession.isActive at newerActive ⊢
        rw [status]
        exact newerActive
    · exact across older member newer (List.mem_cons_of_mem _ behindToo)

theorem others_free {system : System} (sound : Sound system) {place : Nat} {request : Request}
    (found : system.requests[place]? = some request) (held : request.lock = some ()) :
    ∀ other ∈ system.requests.eraseIdx place, other.lock = none := by
  have free := locks_ended_free sound.exclusive found held
  intro other member
  cases taken : other.lock with
  | none => rfl
  | some _ => exact absurd (mem_locks.mpr ⟨other, member, taken⟩) free

theorem sound_inserted {system : System} (sound : Sound system) {place : Nat} {signIn : SignIn}
    {session : GuestSession} {returnedAt : Int}
    (found : system.requests[place]? = some ⟨signIn, .written session true returnedAt⟩)
    (carries : Carries signIn session) (router : session.routerId = signIn.routerId)
    (device : session.deviceId = signIn.deviceId)
    (vacant : Vacant system.rows system.now signIn) :
    Sound { system with
      rows := system.rows ++ [session]
      requests := system.requests.eraseIdx place
      answers := system.answers ++ [⟨signIn, session, true, returnedAt⟩] } := by
  have fewer : ([session.id] ++ locks Request.inserting (system.requests.eraseIdx place)).Perm
      (locks Request.inserting system.requests) :=
    @locks_ended _ _ _ Request.inserting place _ found
  have ids : ((system.rows ++ [session]).map GuestSession.id ++
      locks Request.inserting (system.requests.eraseIdx place)).Perm
        (system.rows.map GuestSession.id ++ locks Request.inserting system.requests) := by
    rw [List.map_append, List.append_assoc]
    exact fewer.append_left _
  constructor
  case distinct => exact ids.nodup_iff.mpr sound.distinct
  case issued => exact fun id member => sound.issued id (ids.mem_iff.mp member)
  case exclusive => exact exclusive_ended sound.exclusive place
  case pairs => exact pairs_inserted sound.pairs router device vacant
  case ready =>
    intro other member
    have ready := each_ended sound.ready place other member
    cases named : signIn.deviceId with
    | none => exact ready_appended (device.trans named) ready
    | some deviceId =>
        have held : Request.lock ⟨signIn, .written session true returnedAt⟩ = some () := by
          simp [Request.lock, named]
        exact ready_free (others_free sound found held other member) ready
  case created =>
    dsimp only
    rw [List.filter_append, List.map_append, List.map_append, sound.created]
    rfl
  case carries => exact each_started sound.carries carries

theorem sound_updated {system : System} (sound : Sound system) {place : Nat} {signIn : SignIn}
    {session row : GuestSession} {returnedAt : Int}
    (found : system.requests[place]? = some ⟨signIn, .written session false returnedAt⟩)
    (carries : Carries signIn session) (slot : InSlot signIn session) (id : row.id = session.id)
    (status : row.status = session.status) (heldSlot : InSlot signIn row)
    (newest : Newest system.rows signIn row) :
    Sound { system with
      rows := replaceKeyed GuestSession.id session system.rows
      requests := system.requests.eraseIdx place
      answers := system.answers ++ [⟨signIn, session, false, returnedAt⟩] } := by
  have fewer : (locks Request.inserting (system.requests.eraseIdx place)).Perm
      (locks Request.inserting system.requests) :=
    @locks_ended _ _ _ Request.inserting place _ found
  have ids : ((replaceKeyed GuestSession.id session system.rows).map GuestSession.id ++
      locks Request.inserting (system.requests.eraseIdx place)).Perm
        (system.rows.map GuestSession.id ++ locks Request.inserting system.requests) := by
    rw [replaceKeyed_keys]
    exact fewer.append_left _
  constructor
  case distinct => exact ids.nodup_iff.mpr sound.distinct
  case issued => exact fun id member => sound.issued id (ids.mem_iff.mp member)
  case exclusive => exact exclusive_ended sound.exclusive place
  case pairs =>
    obtain ⟨front, behind, split, closed⟩ := newest
    have distinct := (List.nodup_append.mp sound.distinct).1
    have pairs := sound.pairs
    dsimp only
    rw [split] at distinct pairs ⊢
    rw [replaceKeyed_split GuestSession.id distinct id]
    exact pairs_reused pairs slot heldSlot status closed
  case ready =>
    intro other member
    have held : Request.lock ⟨signIn, .written session false returnedAt⟩ = some () := by
      simp [Request.lock, slot.1]
    exact ready_free (others_free sound found held other member)
      (each_ended sound.ready place other member)
  case created =>
    dsimp only
    rw [List.filter_append, List.map_append, replaceKeyed_keys, sound.created]
    exact List.append_nil _
  case carries => exact each_started sound.carries carries

theorem sound_commit {system next : System} (sound : Sound system) {place : Nat}
    {request : Request} (found : system.requests[place]? = some request)
    (committed : system.commit place request = some next) : Sound next := by
  have ready := found_holds sound.ready found
  obtain ⟨signIn, phase⟩ := request
  obtain ⟨session, created, returnedAt, written, rfl⟩ := commit_cases committed
  dsimp only at written
  subst written
  cases ready with
  | inserted carries router device vacant =>
      exact sound_inserted sound found carries router device vacant
  | updated carries slot id status heldSlot newest =>
      exact sound_updated sound found carries slot id status heldSlot newest

/-! ### Every step -/

theorem sound_started (now : Int) : Sound (System.started now) := by
  constructor <;> simp [System.started, locks]

theorem sound_step (system next : System) (action : Action) (sound : Sound system)
    (stepped : step guestId system action = some next) : Sound next := by
  cases action with
  | arrive signIn =>
      cases stepped
      have inserting : locks Request.inserting (system.requests ++ [⟨signIn, .arrived⟩]) =
          locks Request.inserting system.requests := locks_started _ rfl
      constructor
      case distinct =>
        dsimp only
        rw [inserting]
        exact sound.distinct
      case issued =>
        dsimp only
        rw [inserting]
        exact sound.issued
      case exclusive => exact exclusive_started sound.exclusive rfl
      case pairs => exact sound.pairs
      case ready => exact each_started sound.ready (.arrived signIn)
      case created => exact sound.created
      case carries => exact sound.carries
  | lock place =>
      obtain ⟨request, found, stepped⟩ := Option.bind_eq_some_iff.mp stepped
      obtain ⟨signIn, phase⟩ := request
      split at stepped
      · rename_i free
        cases stepped
        simp only [Bool.and_eq_true, decide_eq_true_eq] at free
        obtain ⟨⟨rfl, device⟩, nobody⟩ := free
        refine sound_goesOn sound found _ ?_ rfl (.locked signIn)
        refine exclusive_taken sound.exclusive place found rfl (if_pos device) ?_
        rw [nobody]
        exact List.not_mem_nil
      · cases stepped
  | find place =>
      obtain ⟨request, found, stepped⟩ := Option.bind_eq_some_iff.mp stepped
      obtain ⟨signIn, phase⟩ := request
      split at stepped
      · rename_i reads
        cases stepped
        simp only [Request.reads, Bool.or_eq_true, Bool.and_eq_true, decide_eq_true_eq] at reads
        refine sound_goesOn sound found _ (apart_kept sound found ?_) ?_
          (find_ready sound.pairs signIn)
        · rcases reads with rfl | ⟨rfl, bare⟩
          · rfl
          · simp [Request.lock, Option.isNone_iff_eq_none.mp bare]
        · rcases reads with rfl | ⟨rfl, bare⟩
          · rfl
          · rfl
      · cases stepped
  | write place =>
      obtain ⟨request, found, wrote⟩ := Option.bind_eq_some_iff.mp stepped
      exact sound_write guestId sound found wrote
  | commit place =>
      obtain ⟨request, found, committed⟩ := Option.bind_eq_some_iff.mp stepped
      exact sound_commit sound found committed
  | abort place =>
      cases stepped
      have fewer : (system.rows.map GuestSession.id ++
          locks Request.inserting (system.requests.eraseIdx place)).Sublist
            (system.rows.map GuestSession.id ++ locks Request.inserting system.requests) :=
        ((List.eraseIdx_sublist _ place).filterMap _).append_left _
      constructor
      case distinct => exact sound.distinct.sublist fewer
      case issued => exact fun id member => sound.issued id (fewer.subset member)
      case exclusive => exact exclusive_ended sound.exclusive place
      case pairs => exact sound.pairs
      case ready => exact each_ended sound.ready place
      case created => exact sound.created
      case carries => exact sound.carries
  | ends id status reason =>
      simp only [step] at stepped
      split at stepped
      · rename_i allowed
        cases stepped
        simp only [Bool.and_eq_true, decide_eq_true_eq] at allowed
        obtain ⟨terminal, free⟩ := allowed
        have ids : (system.rows.map (endSession id status reason system.now)).map GuestSession.id =
            system.rows.map GuestSession.id := by
          rw [List.map_map]
          refine List.map_congr_left fun row _ => ?_
          have kept := endSession_terms id status reason system.now row
          simp only [terms, Prod.mk.injEq] at kept
          exact kept.1
        constructor
        case distinct =>
          dsimp only
          rw [ids]
          exact sound.distinct
        case issued =>
          dsimp only
          rw [ids]
          exact sound.issued
        case exclusive => exact sound.exclusive
        case pairs => exact pairs_changed (endSession_active reason system.now terminal) sound.pairs
        case ready =>
          intro request member
          refine ready_ends reason (sound.ready request member) terminal ?_
          exact fun updating => free (mem_locks.mpr ⟨request, member, updating⟩)
        case created =>
          dsimp only
          rw [ids]
          exact sound.created
        case carries => exact sound.carries
      · cases stepped
  | elapse duration =>
      cases stepped
      have passed : system.now ≤ system.now + duration := by omega
      constructor
      case distinct => exact sound.distinct
      case issued => exact sound.issued
      case exclusive => exact sound.exclusive
      case pairs => exact pairs_later passed sound.pairs
      case ready => exact fun request member => ready_later passed (sound.ready request member)
      case created => exact sound.created
      case carries => exact sound.carries

theorem sound_reached {admitted : System → Action → Prop} (now : Int) (system : System)
    (reached : Reached (step guestId) admitted (System.started now) system) : Sound system := by
  refine Reached.invariant Sound (sound_started now) ?_ reached
  intro state action next sound _ stepped
  exact sound_step guestId state next action sound stepped

/-! ### Sessions that are live -/

def isLive (session : GuestSession) (now : Int) : Bool :=
  session.isActive && !hasSessionReachedTimeLimit session now

def System.liveSessions (system : System) (routerId deviceId : Nat) : List GuestSession :=
  system.rows.filter fun row =>
    row.routerId = routerId && row.deviceId = some deviceId && isLive row system.now

/-- A write finds the session it reuses still ACTIVE, and short of the limit that the sign-in
grants; a session it opens is granted some time. -/
def calm (system : System) : Action → Bool
  | .write place =>
      (system.requests[place]?).all fun request =>
        match request.phase with
        | .found none => request.signIn.sessionTimeoutMinutes ≠ some 0
        | .found (some found) =>
            (system.rows.find? fun row => row.id = found.id).all fun row =>
              row.isActive && request.signIn.sessionTimeoutMinutes.all fun limit =>
                system.now - row.startedAt < minutes limit
        | _ => true
  | _ => true

theorem liveSessions_le (system : System) (sound : Sound system) (routerId deviceId : Nat) :
    (system.liveSessions routerId deviceId).length ≤ 1 := by
  have pairs : (system.liveSessions routerId deviceId).Pairwise (Overtaken system.now) :=
    sound.pairs.sublist List.filter_sublist
  have each : ∀ row ∈ system.liveSessions routerId deviceId, row.routerId = routerId ∧
      row.deviceId = some deviceId ∧ row.isActive = true ∧
        hasSessionReachedTimeLimit row system.now = false := by
    intro row member
    have kept := (List.mem_filter.mp member).2
    simpa [isLive, and_assoc] using kept
  generalize system.liveSessions routerId deviceId = live at pairs each
  match live with
  | [] => exact Nat.zero_le 1
  | [_] => exact le_refl 1
  | older :: newer :: rest =>
      have overtaken := (List.pairwise_cons.mp pairs).1 newer List.mem_cons_self
      obtain ⟨router, device, active, running⟩ := each older List.mem_cons_self
      obtain ⟨routerToo, deviceToo, activeToo, -⟩ :=
        each newer (List.mem_cons_of_mem _ List.mem_cons_self)
      have reached := overtaken (by rw [device]; rfl) (router.trans routerToo.symm)
        (device.trans deviceToo.symm) active activeToo
      rw [running] at reached
      cases reached

theorem isLive_eq (session : GuestSession) (now : Int) :
    isLive session now = (session.isActive && session.sessionTimeoutMinutes.all fun limit =>
      now - session.startedAt < minutes limit) := by
  unfold isLive hasSessionReachedTimeLimit
  cases session.sessionTimeoutMinutes with
  | none => rfl
  | some limit =>
      rw [Option.any_some, Option.all_some, ← decide_not]
      simp only [not_le]

theorem created_live (id : Nat) (signIn : SignIn) (now : Int) :
    isLive (createSession guestId id signIn now) now =
      decide (signIn.sessionTimeoutMinutes ≠ some 0) := by
  rw [isLive_eq]
  change (true && signIn.sessionTimeoutMinutes.all fun limit => now - now < minutes limit) = _
  rw [Bool.true_and]
  cases signIn.sessionTimeoutMinutes with
  | none => rfl
  | some count =>
      rw [Option.all_some, sub_self, decide_eq_decide, minutes_pos, ne_eq, ne_eq, Option.some.injEq]

theorem write_live (system next : System) (sound : Sound system) (place : Nat)
    (stepped : step guestId system (.write place) = some next) :
    ∃ signIn session created,
      next.requests = system.requests.set place ⟨signIn, .written session created system.now⟩ ∧
        place < system.requests.length ∧ next.answers = system.answers ∧
        isLive session system.now = calm system (.write place) := by
  obtain ⟨request, found, wrote⟩ := Option.bind_eq_some_iff.mp stepped
  have inside := (List.getElem?_eq_some_iff.mp found).1
  have ready := found_holds sound.ready found
  obtain ⟨signIn, phase⟩ := request
  rcases write_cases guestId wrote with ⟨read, rfl⟩ | ⟨held, row, read, -, same, first, rfl⟩
  · dsimp only at read
    subst read
    refine ⟨signIn, _, true, rfl, inside, rfl, ?_⟩
    rw [created_live]
    simp [calm, found]
  · dsimp only at read
    subst read
    have known : Sound (system.goesOn place ⟨signIn, .found (some held)⟩
        (.written (reuseSession held row signIn system.now) false system.now)) :=
      sound_write guestId sound found wrote
    have written := known.ready ⟨signIn, .written (reuseSession held row signIn system.now) false
      system.now⟩ (List.mem_iff_getElem?.mpr ⟨place, by simp [System.goesOn, inside]⟩)
    refine ⟨signIn, _, false, rfl, inside, rfl, ?_⟩
    cases written with
    | updated carries _ _ _ _ _ =>
        have active : (reuseSession held row signIn system.now).isActive = row.isActive := rfl
        have started : (reuseSession held row signIn system.now).startedAt = row.startedAt := rfl
        rw [isLive_eq, carries.2.1, active, started]
        simp only [calm, found, first, Option.all_some]

structure Live (system : System) : Prop where
  answers : ∀ answer ∈ system.answers, isLive answer.session answer.returnedAt = true
  written : ∀ request ∈ system.requests, ∀ session created returnedAt,
    request.phase = .written session created returnedAt → isLive session returnedAt = true

theorem live_step (system next : System) (action : Action) (sound : Sound system)
    (live : Live system) (calmly : calm system action = true)
    (stepped : step guestId system action = some next) : Live next := by
  have unread : ∀ {place : Nat} {request : Request} {phase : Phase},
      (∀ session created returnedAt, phase ≠ .written session created returnedAt) →
        Live (system.goesOn place request phase) := by
    intro place request phase unwritten
    refine ⟨live.answers, each_continued live.written place ?_⟩
    exact fun session created returnedAt same => absurd same (unwritten session created returnedAt)
  cases action with
  | arrive signIn =>
      cases stepped
      refine ⟨live.answers, each_started live.written ?_⟩
      exact fun session created returnedAt same => Phase.noConfusion same
  | lock place =>
      obtain ⟨request, -, stepped⟩ := Option.bind_eq_some_iff.mp stepped
      split at stepped
      · cases stepped
        exact unread fun _ _ _ same => Phase.noConfusion same
      · cases stepped
  | find place =>
      obtain ⟨request, -, stepped⟩ := Option.bind_eq_some_iff.mp stepped
      split at stepped
      · cases stepped
        exact unread fun _ _ _ same => Phase.noConfusion same
      · cases stepped
  | write place =>
      obtain ⟨signIn, session, created, requests, -, answers, returned⟩ :=
        write_live guestId system next sound place stepped
      constructor
      · rw [answers]
        exact live.answers
      · rw [requests]
        refine each_continued live.written place ?_
        intro session created returnedAt same
        cases same
        exact returned.trans calmly
  | commit place =>
      obtain ⟨request, found, committed⟩ := Option.bind_eq_some_iff.mp stepped
      obtain ⟨session, created, returnedAt, written, rfl⟩ := commit_cases committed
      have returned := found_holds live.written found session created returnedAt written
      exact ⟨each_started live.answers returned, each_ended live.written place⟩
  | abort place =>
      cases stepped
      exact ⟨live.answers, each_ended live.written place⟩
  | ends id status reason =>
      simp only [step] at stepped
      split at stepped
      · cases stepped
        exact ⟨live.answers, live.written⟩
      · cases stepped
  | elapse duration =>
      cases stepped
      exact ⟨live.answers, live.written⟩

theorem live_reached (now : Int) (system : System)
    (reached : Reached (step guestId) (fun system action => calm system action = true)
      (System.started now) system) : Live system := by
  have both : Sound system ∧ Live system := by
    refine Reached.invariant (fun state => Sound state ∧ Live state)
      ⟨sound_started now, by simp [System.started], by simp [System.started]⟩ ?_ reached
    rintro state action next ⟨sound, live⟩ calmly stepped
    exact ⟨sound_step guestId state next action sound stepped,
      live_step guestId state next action sound live calmly stepped⟩
  exact both.2

/-- In every run at most one session of a device is live at a router, each sign-in returns the
limits it granted, and those that say so opened the rows there are. A write returns a live session
if and only if it is calm, so that calm runs return nothing else. -/
theorem signIns_reuse_live (now : Int) :
    (∀ system, Reached (step guestId) (fun _ _ => True) (System.started now) system →
      (∀ routerId deviceId, (system.liveSessions routerId deviceId).length ≤ 1) ∧
      (∀ answer ∈ system.answers, Carries answer.signIn answer.session) ∧
      (system.answers.filter Answer.created).map (fun answer => answer.session.id) =
        system.rows.map GuestSession.id ∧
      ∀ place next, step guestId system (.write place) = some next →
        ∃ signIn session created,
          next.requests[place]? = some ⟨signIn, .written session created system.now⟩ ∧
            isLive session system.now = calm system (.write place)) ∧
    ∀ system, Reached (step guestId) (fun system action => calm system action = true)
        (System.started now) system →
      ∀ answer ∈ system.answers, isLive answer.session answer.returnedAt = true := by
  constructor
  · intro system reached
    have sound := sound_reached guestId now system reached
    refine ⟨liveSessions_le system sound, sound.carries, sound.created, ?_⟩
    intro place next stepped
    obtain ⟨signIn, session, created, requests, inside, -, returned⟩ :=
      write_live guestId system next sound place stepped
    refine ⟨signIn, session, created, ?_, returned⟩
    rw [requests, List.getElem?_set_self inside]
  · exact fun system reached => (live_reached guestId now system reached).answers

section Executed

def signIn (limit : Nat) : SignIn := ⟨1, true, some 1, .otpSms, none, none, none, some limit, none⟩

/-- Two sign-ins at once, the second of which waits for the first and reuses its session. -/
theorem signIns_reuse_live_together :
    ∃ system, Reached (step 1) (fun system action => calm system action = true)
        (System.started 0) system ∧
      system.answers.map Answer.created = [true, false] ∧
      (system.liveSessions 1 1).length = 1 ∧ (system.liveSessions 1 1).length ≤ 1 ∧
      ∀ answer ∈ system.answers, isLive answer.session answer.returnedAt = true := by
  obtain ⟨system, reached, seen⟩ := run_observed (step 1) (System.started 0) calm
    (fun system => system.answers.map Answer.created = [true, false] &&
      (system.liveSessions 1 1).length = 1)
    (fun _ _ checked => checked)
    [.arrive (signIn 30), .arrive (signIn 60), .lock 1, .find 1, .write 1, .elapse 1000000,
      .commit 1, .lock 0, .find 0, .write 0, .commit 0] (by decide +kernel)
  simp only [Bool.and_eq_true, decide_eq_true_eq] at seen
  have any := reached.weaken fun _ _ _ => trivial
  exact ⟨system, reached, seen.1, seen.2, ((signIns_reuse_live 1 0).1 system any).1 1 1,
    (signIns_reuse_live 1 0).2 system reached⟩

/-- After 20 of 30 minutes, a sign-in that grants 10 is given the session, past that limit; and one
that ends between read and write is given back as it ended. -/
theorem signIns_reuse_ended :
    (∃ system, Reached (step 1) (fun _ _ => True) (System.started 0) system ∧
      ∃ answer ∈ system.answers, answer.signIn = signIn 10 ∧
        answer.session.status = .active ∧
        hasSessionReachedTimeLimit answer.session answer.returnedAt = true) ∧
    ∃ system, Reached (step 1) (fun _ _ => True) (System.started 0) system ∧
      ∃ answer ∈ system.answers, answer.signIn = signIn 60 ∧
        answer.session.status = .disconnected := by
  constructor
  · obtain ⟨system, reached, seen⟩ := run_observed (step 1) (System.started 0) (fun _ _ => true)
      (fun system => system.answers.any fun answer => answer.signIn = signIn 10 &&
        answer.session.status = .active &&
        hasSessionReachedTimeLimit answer.session answer.returnedAt)
      (fun _ _ _ => trivial)
      [.arrive (signIn 30), .lock 0, .find 0, .write 0, .commit 0, .elapse 1200000000,
        .arrive (signIn 10), .lock 0, .find 0, .write 0, .commit 0] (by decide +kernel)
    obtain ⟨answer, member, held⟩ := List.any_eq_true.mp seen
    simp only [Bool.and_eq_true, decide_eq_true_eq] at held
    exact ⟨system, reached, answer, member, held.1.1, held.1.2, held.2⟩
  · obtain ⟨system, reached, seen⟩ := run_observed (step 1) (System.started 0) (fun _ _ => true)
      (fun system => system.answers.any fun answer => answer.signIn = signIn 60 &&
        answer.session.status = .disconnected)
      (fun _ _ _ => trivial)
      [.arrive (signIn 30), .lock 0, .find 0, .write 0, .commit 0, .arrive (signIn 60), .lock 0,
        .find 0, .ends 0 .disconnected none, .write 0, .commit 0] (by decide +kernel)
    obtain ⟨answer, member, held⟩ := List.any_eq_true.mp seen
    simp only [Bool.and_eq_true, decide_eq_true_eq] at held
    exact ⟨system, reached, answer, member, held.1, held.2⟩

end Executed

end CloudGuest.SessionReuse
