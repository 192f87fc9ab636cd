import CloudGuest.Guest.SessionWrites

/-!
The sweep that ends sessions nothing is heard of any more (guest/service.py,
`enforce_session_timeouts`). Whether a venue reports activity and when a router was
last read is looked up once a run for each of them, and either lookup may fail.
-/

namespace CloudGuest.Guest.TimeoutSweep

open Texts

def SESSION_TIMEOUT_DISCONNECT_REASON : Text := "inactivity_timeout".toList
def SESSION_TIME_LIMIT_DISCONNECT_REASON : Text := "session_time_limit_reached".toList

structure VenueSession where
  session : GuestSession
  organizationId : Nat
  locationId : Nat
  isDeleted : Bool
  deriving DecidableEq

abbrev Venue := Nat × Nat

def VenueSession.venue (row : VenueSession) : Venue := (row.organizationId, row.locationId)

def VenueSession.isActive (row : VenueSession) : Bool := row.session.isActive && !row.isDeleted

def listTimedOutSessions (table : List VenueSession) (now : Int) : List VenueSession :=
  table.filter fun row => isListedTimedOut row.session now && !row.isDeleted

structure Lookups where
  venueReportsGuestActivity : Option (Venue → Option Bool)
  routerActivityRead : Option (Nat → Option RouterActivityRead)

structure Memo where
  observableByVenue : Venue → Option Bool
  readByRouter : Nat → Option RouterActivityRead

def Memo.start : Memo := ⟨fun _ => none, fun _ => none⟩

variable (lookups : Lookups)

def askVenue (memo : Memo) (venue : Venue) : Bool × Memo :=
  match lookups.venueReportsGuestActivity with
  | none => (true, memo)
  | some ask =>
      match memo.observableByVenue venue with
      | some observable => (observable, memo)
      | none =>
          let observable := (ask venue).getD false
          (observable, { memo with
            observableByVenue := Function.update memo.observableByVenue venue (some observable) })

def askRouter (memo : Memo) (ask : Nat → Option RouterActivityRead) (routerId : Nat) :
    RouterActivityRead × Memo :=
  -- A router whose lookup fails counts as one that was never read.
  match memo.readByRouter routerId with
  | some read => (read, memo)
  | none =>
      let read := (ask routerId).getD ⟨true, none⟩
      (read, { memo with readByRouter := Function.update memo.readByRouter routerId (some read) })

def observes (memo : Memo) (row : VenueSession) : Bool × Memo :=
  let (observable, memo) := askVenue lookups memo row.venue
  match observable, lookups.routerActivityRead with
  | true, some ask =>
      let (read, memo) := askRouter memo ask row.session.routerId
      (idleVerdictIsEvidenced row.session (some read), memo)
  | observable, _ => (observable, memo)

def expire (row : VenueSession) (observable : Bool) (now : Int) : VenueSession :=
  { row with session := updateSession row.session (Update.ending {} .expired now
      (some (if observable then SESSION_TIMEOUT_DISCONNECT_REASON
        else SESSION_TIME_LIMIT_DISCONNECT_REASON))) }

def expireEach (now : Int) : Memo → List VenueSession → List (VenueSession × VenueSession)
  | _, [] => []
  | memo, row :: rest =>
      let (observable, memo) := observes lookups memo row
      if isSessionStale row.session now observable then
        (row, expire row observable now) :: expireEach now memo rest
      else expireEach now memo rest

def enforceSessionTimeouts (table : List VenueSession) (now : Int) :
    List (VenueSession × VenueSession) :=
  expireEach lookups now Memo.start (listTimedOutSessions table now)

/-! ### What is remembered is what is answered -/

def venueObservable (venue : Venue) : Bool :=
  match lookups.venueReportsGuestActivity with
  | none => true
  | some ask => (ask venue).getD false

def routerRead (routerId : Nat) : Option RouterActivityRead :=
  lookups.routerActivityRead.map fun ask => (ask routerId).getD ⟨true, none⟩

def evidence (row : VenueSession) : Bool :=
  venueObservable lookups row.venue &&
    idleVerdictIsEvidenced row.session (routerRead lookups row.session.routerId)

structure Memo.Sound (memo : Memo) : Prop where
  venues : ∀ venue observable, memo.observableByVenue venue = some observable →
    venueObservable lookups venue = observable
  routers : ∀ routerId read, memo.readByRouter routerId = some read →
    routerRead lookups routerId = some read

theorem Memo.start_sound : Memo.start.Sound lookups :=
  ⟨fun _ _ told => (nomatch told), fun _ _ told => (nomatch told)⟩

theorem askVenue_sound {memo : Memo} (sound : memo.Sound lookups) (venue : Venue) :
    (askVenue lookups memo venue).1 = venueObservable lookups venue ∧
      (askVenue lookups memo venue).2.Sound lookups := by
  unfold askVenue
  cases asked : lookups.venueReportsGuestActivity with
  | none => exact ⟨by simp [venueObservable, asked], sound⟩
  | some ask =>
      cases told : memo.observableByVenue venue with
      | some observable => exact ⟨(sound.venues venue observable told).symm, sound⟩
      | none =>
          have answer : venueObservable lookups venue = (ask venue).getD false := by
            simp [venueObservable, asked]
          refine ⟨answer.symm, ?_, sound.routers⟩
          intro other observable known
          by_cases same : other = venue
          · subst same
            simp only [Function.update_self, Option.some.injEq] at known
            rw [answer, known]
          · simp only [Function.update_of_ne same] at known
            exact sound.venues other observable known

theorem askRouter_sound {memo : Memo} (sound : memo.Sound lookups)
    {ask : Nat → Option RouterActivityRead} (asked : lookups.routerActivityRead = some ask)
    (routerId : Nat) :
    routerRead lookups routerId = some (askRouter memo ask routerId).1 ∧
      (askRouter memo ask routerId).2.Sound lookups := by
  unfold askRouter
  cases told : memo.readByRouter routerId with
  | some read => exact ⟨sound.routers routerId read told, sound⟩
  | none =>
      have answer : routerRead lookups routerId = some ((ask routerId).getD ⟨true, none⟩) := by
        simp [routerRead, asked]
      refine ⟨answer, sound.venues, ?_⟩
      intro other read known
      by_cases same : other = routerId
      · subst same
        simp only [Function.update_self] at known
        rw [answer, known]
      · simp only [Function.update_of_ne same] at known
        exact sound.routers other read known

theorem observes_sound {memo : Memo} (sound : memo.Sound lookups) (row : VenueSession) :
    (observes lookups memo row).1 = evidence lookups row ∧
      (observes lookups memo row).2.Sound lookups := by
  obtain ⟨venue, afterVenue⟩ := askVenue_sound lookups sound row.venue
  unfold observes evidence
  rw [← venue]
  cases observable : (askVenue lookups memo row.venue).1 with
  | false => exact ⟨by simp [observable], by simpa [observable] using afterVenue⟩
  | true =>
      cases asked : lookups.routerActivityRead with
      | none =>
          have unread : routerRead lookups row.session.routerId = none := by
            simp [routerRead, asked]
          refine ⟨?_, by simpa [observable] using afterVenue⟩
          simp [observable, unread, idleVerdictIsEvidenced]
      | some ask =>
          obtain ⟨read, afterRouter⟩ :=
            askRouter_sound lookups afterVenue asked row.session.routerId
          exact ⟨by simp [observable, read], by simpa [observable] using afterRouter⟩

theorem expireEach_eq (now : Int) {memo : Memo} (sound : memo.Sound lookups)
    (rows : List VenueSession) :
    expireEach lookups now memo rows =
      (rows.filter fun row => isSessionStale row.session now (evidence lookups row)).map
        fun row => (row, expire row (evidence lookups row) now) := by
  -- The run asks nothing twice, and what it does to a session depends on the answers alone.
  induction rows generalizing memo with
  | nil => rfl
  | cons row rest ih =>
      obtain ⟨observable, after⟩ := observes_sound lookups sound row
      simp only [expireEach, observable, ih after, List.filter_cons]
      split <;> simp

theorem mem_enforce (table : List VenueSession) (now : Int) (row written : VenueSession) :
    (row, written) ∈ enforceSessionTimeouts lookups table now ↔
      row ∈ listTimedOutSessions table now ∧
        isSessionStale row.session now (evidence lookups row) = true ∧
        written = expire row (evidence lookups row) now := by
  rw [enforceSessionTimeouts, expireEach_eq lookups now (Memo.start_sound lookups), List.mem_map]
  constructor
  · rintro ⟨other, member, same⟩
    obtain ⟨rfl, rfl⟩ := Prod.mk.inj same
    obtain ⟨listed, stale⟩ := List.mem_filter.mp member
    exact ⟨listed, stale, rfl⟩
  · rintro ⟨listed, stale, rfl⟩
    exact ⟨row, List.mem_filter.mpr ⟨listed, stale⟩, rfl⟩

/-! ### Sound, honest, complete, and nothing immortal -/

/-- The query compares strictly and the predicate does not. -/
def AtBoundary (session : GuestSession) (now : Int) : Prop :=
  now = session.lastActivityAt +
      minutes (sessionIdleCutoffMinutes session + SESSION_ACTIVITY_GRACE_MINUTES) ∨
    ∃ limit, session.sessionTimeoutMinutes = some limit ∧
      now = session.startedAt + minutes (limit + SESSION_ACTIVITY_GRACE_MINUTES)

/-- What the sweep of a table promises; a session left as it is is expired in the end, whatever
later lookups answer and whatever else the table holds. -/
structure Kept (table : List VenueSession) (now : Int) : Prop where
  sound : ∀ row written, (row, written) ∈ enforceSessionTimeouts lookups table now →
    row ∈ table ∧ row.isActive = true ∧
      isSessionStale row.session now (evidence lookups row) = true
  inactivity : ∀ row written, (row, written) ∈ enforceSessionTimeouts lookups table now →
    written.session.disconnectReason = some SESSION_TIMEOUT_DISCONNECT_REASON →
      isSessionTimedOut row.session now = true ∧ evidence lookups row = true
  timeLimit : ∀ row written, (row, written) ∈ enforceSessionTimeouts lookups table now →
    ¬(isSessionTimedOut row.session now = true ∧ evidence lookups row = true) →
      written.session.disconnectReason = some SESSION_TIME_LIMIT_DISCONNECT_REASON
  listed : ∀ row ∈ table, row.isActive = true → ∀ observable,
    isSessionStale row.session now observable = true →
      row ∈ listTimedOutSessions table now ∨ AtBoundary row.session now
  mortal : ∀ row ∈ table, row.isActive = true → ∃ instant, ∀ later, instant ≤ later →
    ∀ (answers : Lookups) (others : List VenueSession), row ∈ others →
      ∃ written, (row, written) ∈ enforceSessionTimeouts answers others later

def isPastTimeLimit (session : GuestSession) (now : Int) : Bool :=
  session.sessionTimeoutMinutes.any fun limit =>
    session.startedAt + minutes (limit + SESSION_ACTIVITY_GRACE_MINUTES) < now

theorem mem_listed (table : List VenueSession) (now : Int) (row : VenueSession) :
    row ∈ listTimedOutSessions table now ↔
      row ∈ table ∧ row.isActive = true ∧ isListedTimedOut row.session now = true := by
  simp only [listTimedOutSessions, List.mem_filter, VenueSession.isActive, isListedTimedOut,
    Bool.and_eq_true]
  tauto

theorem stale_listed (session : GuestSession) (now : Int) (observable : Bool)
    (active : session.isActive = true)
    (stale : isSessionStale session now observable = true) :
    isListedTimedOut session now = true ∨ AtBoundary session now := by
  by_cases boundary : AtBoundary session now
  · exact Or.inr boundary
  · left
    obtain ⟨notIdle, notLimit⟩ := not_or.mp boundary
    have either : isSessionTimedOut session now = true ∨
        hasSessionOverrunTimeLimit session now = true := by
      cases observable with
      | false => exact Or.inr (by simpa [isSessionStale] using stale)
      | true => simpa [isSessionStale] using stale
    simp only [isListedTimedOut, active, Bool.true_and, Bool.or_eq_true, decide_eq_true_eq]
    rcases either with idle | overrun
    · left
      simp only [isSessionTimedOut, decide_eq_true_eq] at idle
      omega
    · right
      cases limit : session.sessionTimeoutMinutes with
      | none => simp [hasSessionOverrunTimeLimit, limit] at overrun
      | some count =>
          have other : now ≠ session.startedAt + minutes (count + SESSION_ACTIVITY_GRACE_MINUTES) :=
            fun same => notLimit ⟨count, limit, same⟩
          simp only [hasSessionOverrunTimeLimit, limit, Option.any_some, decide_eq_true_eq]
            at overrun ⊢
          omega

theorem pastTimeLimit_stale (session : GuestSession) (now : Int) (observable : Bool)
    (past : isPastTimeLimit session now = true) : isSessionStale session now observable = true := by
  have overrun : hasSessionOverrunTimeLimit session now = true := by
    unfold isPastTimeLimit at past
    unfold hasSessionOverrunTimeLimit
    cases limit : session.sessionTimeoutMinutes with
    | none => simp [limit] at past
    | some count =>
        simp only [limit, Option.any_some, decide_eq_true_eq] at past ⊢
        omega
  cases observable <;> simp [isSessionStale, overrun]

theorem pastTimeLimit_listed (session : GuestSession) (now : Int)
    (active : session.isActive = true) (past : isPastTimeLimit session now = true) :
    isListedTimedOut session now = true := by
  unfold isPastTimeLimit at past
  simp [isListedTimedOut, active, past]

theorem listed_cases (session : GuestSession) (now : Int)
    (listed : isListedTimedOut session now = true) :
    isSessionTimedOut session now = true ∨ isPastTimeLimit session now = true := by
  simp only [isListedTimedOut, Bool.and_eq_true, Bool.or_eq_true, decide_eq_true_eq] at listed
  rcases listed.2 with idle | past
  · left
    simp only [isSessionTimedOut, decide_eq_true_eq]
    omega
  · exact Or.inr past

theorem expire_reason (row : VenueSession) (observable : Bool) (now : Int) :
    (expire row observable now).session.disconnectReason =
      some (if observable then SESSION_TIMEOUT_DISCONNECT_REASON
        else SESSION_TIME_LIMIT_DISCONNECT_REASON) := rfl

theorem reasons_differ :
    SESSION_TIMEOUT_DISCONNECT_REASON ≠ SESSION_TIME_LIMIT_DISCONNECT_REASON := by decide

theorem past_swept (table : List VenueSession) (now : Int) (row : VenueSession)
    (member : row ∈ table) (active : row.isActive = true)
    (past : isPastTimeLimit row.session now = true) :
    (row, expire row (evidence lookups row) now) ∈ enforceSessionTimeouts lookups table now := by
  have running : row.session.isActive = true := (Bool.and_eq_true_iff.mp active).1
  apply (mem_enforce lookups table now row _).mpr
  refine ⟨?_, pastTimeLimit_stale row.session now _ past, rfl⟩
  exact (mem_listed table now row).mpr
    ⟨member, active, pastTimeLimit_listed row.session now running past⟩

theorem limited_mortal (row : VenueSession) (active : row.isActive = true) (limit : Nat)
    (limited : row.session.sessionTimeoutMinutes = some limit) :
    ∃ instant, ∀ later, instant ≤ later → ∀ (answers : Lookups) (others : List VenueSession),
      row ∈ others → ∃ written, (row, written) ∈ enforceSessionTimeouts answers others later := by
  refine ⟨row.session.startedAt + minutes (limit + SESSION_ACTIVITY_GRACE_MINUTES) + 1, ?_⟩
  intro later reached answers others member
  have past : isPastTimeLimit row.session later = true := by
    simp only [isPastTimeLimit, limited, Option.any_some, decide_eq_true_eq]
    omega
  exact ⟨_, past_swept answers others later row member active past⟩

theorem unlimited_immortal (row : VenueSession)
    (unlimited : row.session.sessionTimeoutMinutes = none) (table : List VenueSession)
    (now : Int) (written : VenueSession) :
    (row, written) ∉ enforceSessionTimeouts ⟨some fun _ => none, none⟩ table now := by
  intro member
  obtain ⟨-, stale, -⟩ := (mem_enforce _ table now row written).mp member
  simp [isSessionStale, evidence, venueObservable, hasSessionOverrunTimeLimit, unlimited] at stale

/-- The sweep keeps what it promises just where every session has a time limit and none is past it
that is still heard of. -/
theorem timeout_sweep_iff (table : List VenueSession) (now : Int) :
    Kept lookups table now ↔
      ∀ row ∈ table, row.isActive = true →
        row.session.sessionTimeoutMinutes ≠ none ∧
          (evidence lookups row = true → isPastTimeLimit row.session now = true →
            isSessionTimedOut row.session now = true) := by
  constructor
  · intro kept row member active
    constructor
    · intro unlimited
      obtain ⟨instant, expired⟩ := kept.mortal row member active
      obtain ⟨written, swept⟩ := expired instant (le_refl _) ⟨some fun _ => none, none⟩ [row]
        List.mem_cons_self
      exact unlimited_immortal row unlimited [row] instant written swept
    · intro evidenced past
      have swept := past_swept lookups table now row member active past
      refine (kept.inactivity row _ swept ?_).1
      rw [expire_reason, evidenced]
      rfl
  · intro limited
    -- Listed and still heard of, a session is idle: its time limit alone is not passed.
    have idle : ∀ row ∈ table, row.isActive = true → isListedTimedOut row.session now = true →
        evidence lookups row = true → isSessionTimedOut row.session now = true := by
      intro row member active clause evidenced
      rcases listed_cases row.session now clause with idle | past
      · exact idle
      · exact (limited row member active).2 evidenced past
    constructor
    · intro row written swept
      obtain ⟨listed, stale, -⟩ := (mem_enforce lookups table now row written).mp swept
      obtain ⟨member, active, -⟩ := (mem_listed table now row).mp listed
      exact ⟨member, active, stale⟩
    · rintro row written swept reason
      obtain ⟨listed, -, rfl⟩ := (mem_enforce lookups table now row written).mp swept
      obtain ⟨member, active, clause⟩ := (mem_listed table now row).mp listed
      rw [expire_reason] at reason
      cases evidenced : evidence lookups row with
      | false =>
          rw [evidenced] at reason
          exact absurd (Option.some.inj reason).symm reasons_differ
      | true => exact ⟨idle row member active clause evidenced, rfl⟩
    · rintro row written swept unproven
      obtain ⟨listed, -, rfl⟩ := (mem_enforce lookups table now row written).mp swept
      obtain ⟨member, active, clause⟩ := (mem_listed table now row).mp listed
      rw [expire_reason]
      cases evidenced : evidence lookups row with
      | false => rfl
      | true =>
          exact absurd ⟨idle row member active clause evidenced, evidenced⟩ unproven
    · intro row member active observable stale
      have running : row.session.isActive = true := (Bool.and_eq_true_iff.mp active).1
      rcases stale_listed row.session now observable running stale with listed | boundary
      · exact Or.inl ((mem_listed table now row).mpr ⟨member, active, listed⟩)
      · exact Or.inr boundary
    · intro row member active
      obtain ⟨limit, recorded⟩ := Option.ne_none_iff_exists'.mp (limited row member active).1
      exact limited_mortal row active limit recorded

def busy : VenueSession :=
  ⟨⟨1, 1, none, 1, .otpSms, none, .active, 0, none, minutes 39, none, 0, 0, none, some 30, some 30,
    none⟩, 1, 1, false⟩

def unbounded : VenueSession :=
  ⟨⟨2, 2, none, 1, .otpSms, none, .active, 0, none, 0, none, 0, 0, none, none, none, none⟩, 1, 1,
    false⟩

/-- The one is ended for inactivity, and the other never while its venue cannot be asked. -/
theorem busy_unbounded_astray :
    ¬Kept ⟨none, none⟩ [busy] (minutes 41) ∧ ¬Kept ⟨none, none⟩ [unbounded] 0 := by
  constructor
  · intro kept
    have swept : (busy, expire busy true (minutes 41)) ∈
        enforceSessionTimeouts ⟨none, none⟩ [busy] (minutes 41) := by
      decide +kernel
    have idle := kept.inactivity busy _ swept rfl
    revert idle
    decide +kernel
  · intro kept
    obtain ⟨instant, expired⟩ := kept.mortal unbounded List.mem_cons_self (by decide)
    obtain ⟨written, swept⟩ := expired instant (le_refl _) ⟨some fun _ => none, none⟩ [unbounded]
      List.mem_cons_self
    exact unlimited_immortal unbounded rfl [unbounded] instant written swept

end CloudGuest.Guest.TimeoutSweep
