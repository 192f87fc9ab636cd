import CloudGuest.Guest.AccountingTarget
import CloudGuest.Guest.HostTable

/-!
The presence sweep of one router (guest/service.py, `refresh_session_activity_from_router`
and `reconcile_sessions_with_router_presence`, as guest/tasks.py runs them): the sessions
of devices the router's host table lists are credited with when it heard them, and those
of devices it does not list are closed. What raises is rolled back.

Sessions are in the order they are listed in. Events and logging are left out.
-/

namespace CloudGuest.Guest.PresenceSweep

open Texts Faults Latest HostTable
open AccountingTarget (GuestDevice Tables canonicalMacKey)
open Tallies (valueAt)

def SESSION_PRESENCE_GRACE_MINUTES : Nat := 10
def SESSION_PRESENCE_HOST_DEAD_AFTER_SECONDS : Nat := 15 * 60
def SESSION_PRESENCE_DISCONNECT_REASON : Text := "device_left_network".toList

def getDeviceById (tables : Tables) (deviceId : Nat) : Option GuestDevice :=
  tables.devices.find? fun device => device.id = deviceId

def deviceOf (tables : Tables) (session : GuestSession) : Option GuestDevice :=
  session.deviceId.bind (getDeviceById tables)

def isListed (routerId : Nat) (session : GuestSession) : Bool :=
  session.isActive && session.routerId = routerId

def writeListed (routerId : Nat) (change : GuestSession → Option GuestSession) (tables : Tables) :
    Tables × List GuestSession :=
  -- The router's ACTIVE sessions one after another, each written as it is changed, if it is; and
  -- what was written.
  ({ tables with
      sessions := tables.sessions.map fun session =>
        if isListed routerId session then (change session).getD session else session },
    (tables.sessions.filter (isListed routerId)).filterMap change)

def laterSessionActivity (session : GuestSession) (heardAt now : Int) : Option Int :=
  let observed := min heardAt now
  if observed ≤ session.lastActivityAt then none else some observed

def refreshed (tables : Tables) (lastHeard : List (Text × Int)) (now : Int)
    (session : GuestSession) : Option GuestSession := do
  let device ← deviceOf tables session
  let heardAt ← valueAt lastHeard (normalizeMacAddress device.macAddress)
  let observed ← laterSessionActivity session heardAt now
  return updateSession session { lastActivityAt := some observed }

def refreshSessionActivityFromRouter (routerId : Nat) (lastHeard : List (Text × Int)) (now : Int)
    (tables : Tables) : Tables × List GuestSession :=
  if lastHeard = [] then (tables, [])
  else writeListed routerId (refreshed tables lastHeard now) tables

def isSessionPresenceJudgeable (session : GuestSession) (now : Int) (graceMinutes : Nat) : Bool :=
  let cutoff := now - minutes graceMinutes
  session.startedAt ≤ cutoff && session.lastActivityAt ≤ cutoff

def departed (tables : Tables) (presentMacs : Finset Text) (now : Int) (graceMinutes : Nat)
    (session : GuestSession) : Option GuestSession := do
  let _ ← session.deviceId
  if !isSessionPresenceJudgeable session now graceMinutes then none
  else
    let device ← deviceOf tables session
    if normalizeMacAddress device.macAddress ∈ presentMacs then none
    else some (updateSession session
      (Update.ending {} .disconnected now (some SESSION_PRESENCE_DISCONNECT_REASON)))

def reconcileSessionsWithRouterPresence (routerId : Nat) (presentMacs : Finset Text) (now : Int)
    (graceMinutes : Nat) (tables : Tables) : Tables × List GuestSession :=
  writeListed routerId (departed tables presentMacs now graceMinutes) tables

/-- What one run is given beside the rows. The task gives its refresh the instant of the read. -/
structure Pass where
  routerId : Nat
  deadAfterSeconds : Nat
  graceMinutes : Nat
  readAt : Int
  refreshedAt : Int
  reconciledAt : Int

structure Outcome where
  tables : Tables
  refreshed : List GuestSession
  closed : List GuestSession
  deriving DecidableEq

variable {Fraction : Type} (floats : Floats Fraction) (pass : Pass)

def sweep (rows : List HostRow) (tables : Tables) : Except Fault Outcome := do
  let presentMacs ← presentMacsFromHotspotHosts floats pass.deadAfterSeconds rows
  let lastHeard ← lastHeardFromHotspotHosts floats pass.deadAfterSeconds pass.readAt rows
  let refreshed := refreshSessionActivityFromRouter pass.routerId lastHeard pass.refreshedAt tables
  let closed := reconcileSessionsWithRouterPresence pass.routerId presentMacs pass.reconciledAt
    pass.graceMinutes refreshed.1
  return ⟨closed.1, refreshed.2, closed.2⟩

def stored (rows : List HostRow) (tables : Tables) : Tables :=
  match sweep floats pass rows tables with
  | .error _ => tables
  | .ok outcome => outcome.tables

/-! ### What the rows say of one device -/

def SameDevice (stored text : Text) : Prop :=
  ∃ key, canonicalMacKey Uppercase.upper (some stored) = some key ∧
    canonicalMacKey Uppercase.upper (some text) = some key

def SameSpelling (stored text : Text) : Prop :=
  normalizeMacAddress text = normalizeMacAddress stored

def IsPresent (rows : List HostRow) (Address : Text → Prop) : Prop :=
  ∃ row ∈ rows, Live floats pass.deadAfterSeconds row ∧ ∃ text, row.Spells text ∧ Address text

/-- The instants that rows with such an address, none of them dead, say the device was heard at. -/
def heardInstants (rows : List HostRow) (Address : Text → Prop) : Set Int :=
  {instant | ∃ row ∈ rows, Live floats pass.deadAfterSeconds row ∧
    saidHeard floats pass.readAt row = .ok (some instant) ∧ ∃ text, row.Spells text ∧ Address text}

def IsBroken (rows : List HostRow) : Prop :=
  ∃ row ∈ rows, Breaks floats pass.deadAfterSeconds pass.readAt row

def clamped (instants : Set Int) : Set Int := (fun instant => min instant pass.refreshedAt) '' instants

/-- A session of a device that is there stays ACTIVE, and its last activity is the latest of what it
was and what the device's rows say, none of it later than now. -/
structure Attended (rows : List HostRow) (tables : Tables) (before after : GuestSession) :
    Prop where
  kept : ∀ device, isListed pass.routerId before = true → deviceOf tables before = some device →
    IsPresent floats pass rows (SameDevice device.macAddress) → after.status = .active
  moved : ∀ device, isListed pass.routerId before = true → deviceOf tables before = some device →
    IsPresent floats pass rows (SameDevice device.macAddress) →
      IsGreatest (insert before.lastActivityAt
        (clamped pass (heardInstants floats pass rows (SameDevice device.macAddress))))
        after.lastActivityAt

structure Faithful (rows : List HostRow) (tables : Tables) : Prop where
  attended : List.Forall₂ (Attended floats pass rows tables) tables.sessions
    (stored floats pass rows tables).sessions
  orderless : ∀ others : List HostRow, (∀ row, row ∈ others ↔ row ∈ rows) →
    sweep floats pass others tables = sweep floats pass rows tables

/-! ### One session -/

def credited (lastHeard : List (Text × Int)) (device : GuestDevice) (now : Int)
    (session : GuestSession) : GuestSession :=
  { session with
    lastActivityAt := (valueAt lastHeard (normalizeMacAddress device.macAddress)).elim
      session.lastActivityAt fun heardAt => max session.lastActivityAt (min heardAt now) }

theorem laterSessionActivity_latest (session : GuestSession) (heardAt now : Int) :
    (laterSessionActivity session heardAt now).getD session.lastActivityAt =
      max session.lastActivityAt (min heardAt now) := by
  unfold laterSessionActivity
  dsimp only
  split
  · rename_i old
    exact (max_eq_left old).symm
  · rename_i newer
    exact (max_eq_right (not_le.mp newer).le).symm

theorem refreshed_credited {tables : Tables} {session : GuestSession} {device : GuestDevice}
    (found : deviceOf tables session = some device) (lastHeard : List (Text × Int)) (now : Int) :
    (refreshed tables lastHeard now session).getD session =
      credited lastHeard device now session := by
  unfold refreshed credited
  rw [found]
  cases heard : valueAt lastHeard (normalizeMacAddress device.macAddress) with
  | none => simp [heard]
  | some heardAt =>
      have moved := laterSessionActivity_latest session heardAt now
      cases decided : laterSessionActivity session heardAt now with
      | none =>
          rw [decided, Option.getD_none] at moved
          simp [heard, decided, ← moved]
      | some observed =>
          rw [decided, Option.getD_some] at moved
          simp [heard, decided, updateSession, ← moved]

theorem departed_status {tables : Tables} {session : GuestSession} {device : GuestDevice}
    (active : session.status = .active) (found : deviceOf tables session = some device)
    (presentMacs : Finset Text) (now : Int) (graceMinutes : Nat) :
    ((departed tables presentMacs now graceMinutes session).getD session).status = .active ↔
      (isSessionPresenceJudgeable session now graceMinutes = true →
        normalizeMacAddress device.macAddress ∈ presentMacs) := by
  obtain ⟨deviceId, used, -⟩ := Option.bind_eq_some_iff.mp found
  unfold departed
  rw [used, found]
  by_cases judgeable : isSessionPresenceJudgeable session now graceMinutes = true
  · by_cases present : normalizeMacAddress device.macAddress ∈ presentMacs
    · simp [judgeable, present, active]
    · simp [judgeable, present, updateSession, Update.ending]
  · simp [judgeable, active]

theorem departed_activity (tables : Tables) (session : GuestSession) (presentMacs : Finset Text)
    (now : Int) (graceMinutes : Nat) :
    ((departed tables presentMacs now graceMinutes session).getD session).lastActivityAt =
      session.lastActivityAt := by
  unfold departed
  cases session.deviceId with
  | none => rfl
  | some deviceId =>
      by_cases judgeable : isSessionPresenceJudgeable session now graceMinutes = true
      · cases deviceOf tables session with
        | none => simp [judgeable]
        | some device =>
            by_cases present : normalizeMacAddress device.macAddress ∈ presentMacs
            · simp [judgeable, present]
            · simp [judgeable, present, updateSession, Update.ending]
      · simp [judgeable]

/-! ### The whole table -/

theorem refreshed_congr (tables : Tables) {lastHeard others : List (Text × Int)}
    (same : ∀ mac, valueAt others mac = valueAt lastHeard mac) (now : Int) :
    refreshed tables others now = refreshed tables lastHeard now := by
  funext session
  simp only [refreshed, same]

theorem refresh_eq (routerId : Nat) (lastHeard : List (Text × Int)) (now : Int) (tables : Tables) :
    refreshSessionActivityFromRouter routerId lastHeard now tables =
      writeListed routerId (refreshed tables lastHeard now) tables := by
  -- Passing over an empty table of instants changes nothing that is written.
  unfold refreshSessionActivityFromRouter
  split
  · rename_i empty
    have nothing : ∀ session, refreshed tables lastHeard now session = none := by
      intro session
      rw [empty]
      simp [refreshed, valueAt]
    simp [writeListed, nothing]
  · rfl

def settle (presentMacs : Finset Text) (lastHeard : List (Text × Int)) (tables : Tables) : Outcome :=
  let refreshed := writeListed pass.routerId (refreshed tables lastHeard pass.refreshedAt) tables
  let closed := reconcileSessionsWithRouterPresence pass.routerId presentMacs pass.reconciledAt
    pass.graceMinutes refreshed.1
  ⟨closed.1, refreshed.2, closed.2⟩

variable {floats pass}

theorem sweep_settled {rows : List HostRow} {presentMacs : Finset Text}
    {lastHeard : List (Text × Int)}
    (present : presentMacsFromHotspotHosts floats pass.deadAfterSeconds rows = .ok presentMacs)
    (heard : lastHeardFromHotspotHosts floats pass.deadAfterSeconds pass.readAt rows =
      .ok lastHeard) (tables : Tables) :
    sweep floats pass rows tables = .ok (settle pass presentMacs lastHeard tables) := by
  simp only [sweep, present, heard, refresh_eq]
  rfl

theorem sweep_broken {rows : List HostRow} (broken : IsBroken floats pass rows) (tables : Tables) :
    sweep floats pass rows tables = .error .raised := by
  cases swept : sweep floats pass rows tables with
  | error fault =>
      cases fault
      rfl
  | ok outcome =>
      obtain ⟨presentMacs, present, after⟩ := bind_ok.mp swept
      obtain ⟨lastHeard, heard, -⟩ := bind_ok.mp after
      obtain ⟨row, member, breaks⟩ := broken
      exact absurd breaks (collects_iff.mp ⟨⟨presentMacs, present⟩, lastHeard, heard⟩ row member)

theorem broken_or_collects (floats : Floats Fraction) (pass : Pass) (rows : List HostRow) :
    IsBroken floats pass rows ∨
      (¬IsBroken floats pass rows ∧ ∃ presentMacs lastHeard,
        presentMacsFromHotspotHosts floats pass.deadAfterSeconds rows = .ok presentMacs ∧
        lastHeardFromHotspotHosts floats pass.deadAfterSeconds pass.readAt rows =
          .ok lastHeard) := by
  by_cases broken : IsBroken floats pass rows
  · exact Or.inl broken
  · refine Or.inr ⟨broken, ?_⟩
    have readable : ∀ row ∈ rows, ¬Breaks floats pass.deadAfterSeconds pass.readAt row :=
      fun row member breaks => broken ⟨row, member, breaks⟩
    obtain ⟨⟨presentMacs, present⟩, lastHeard, heard⟩ := collects_iff.mpr readable
    exact ⟨presentMacs, lastHeard, present, heard⟩

theorem sweep_congr {rows others : List HostRow} (same : ∀ row, row ∈ others ↔ row ∈ rows)
    (tables : Tables) : sweep floats pass others tables = sweep floats pass rows tables := by
  have sameBroken : IsBroken floats pass others ↔ IsBroken floats pass rows := by
    simp only [IsBroken, same]
  -- A table that raises does so in any order, if at another row.
  rcases broken_or_collects floats pass rows with
    broken | ⟨unbroken, presentMacs, lastHeard, present, heard⟩
  · rw [sweep_broken broken, sweep_broken (sameBroken.mpr broken)]
  · rcases broken_or_collects floats pass others with
      broken | ⟨-, otherMacs, otherHeard, otherPresent, otherLatest⟩
    · exact absurd (sameBroken.mp broken) unbroken
    · have macs : otherMacs = presentMacs := by
        ext mac
        rw [present_iff otherPresent, present_iff present]
        simp only [same]
      have instants : ∀ mac, valueAt otherHeard mac = valueAt lastHeard mac := by
        intro mac
        have latest := heard_latest otherLatest mac
        simp only [same] at latest
        exact latest.unique (heard_latest heard mac)
      rw [sweep_settled present heard, sweep_settled otherPresent otherLatest, macs, settle,
        refreshed_congr tables instants]
      rfl

/-! ### What is left of a session -/

def settleSession (pass : Pass) (presentMacs : Finset Text) (lastHeard : List (Text × Int))
    (tables : Tables) (session : GuestSession) : GuestSession :=
  if isListed pass.routerId session then
    let credited := (refreshed tables lastHeard pass.refreshedAt session).getD session
    (departed tables presentMacs pass.reconciledAt pass.graceMinutes credited).getD credited
  else session

theorem refreshed_listed (tables : Tables) (lastHeard : List (Text × Int)) (now : Int)
    (routerId : Nat) (session : GuestSession) :
    isListed routerId ((refreshed tables lastHeard now session).getD session) =
      isListed routerId session := by
  cases found : deviceOf tables session with
  | none => simp [refreshed, found]
  | some device =>
      rw [refreshed_credited found]
      rfl

theorem settle_sessions (presentMacs : Finset Text) (lastHeard : List (Text × Int))
    (tables : Tables) :
    (settle pass presentMacs lastHeard tables).tables.sessions =
      tables.sessions.map (settleSession pass presentMacs lastHeard tables) := by
  simp only [settle, reconcileSessionsWithRouterPresence, writeListed, List.map_map]
  refine List.map_congr_left fun session _ => ?_
  rw [Function.comp_apply, settleSession]
  by_cases listed : isListed pass.routerId session = true
  · rw [if_pos listed, if_pos listed, if_pos ((refreshed_listed _ _ _ _ _).trans listed)]
    rfl
  · rw [if_neg listed, if_neg listed, if_neg listed]

theorem present_spelled {rows : List HostRow} {presentMacs : Finset Text}
    (unbroken : ¬IsBroken floats pass rows)
    (collected : presentMacsFromHotspotHosts floats pass.deadAfterSeconds rows = .ok presentMacs)
    (address : Text) :
    normalizeMacAddress address ∈ presentMacs ↔
      IsPresent floats pass rows (SameSpelling address) := by
  rw [present_iff collected]
  refine exists_congr fun row => and_congr_right fun member => ?_
  have whole : ¬Breaks floats pass.deadAfterSeconds pass.readAt row :=
    fun breaks => unbroken ⟨row, member, breaks⟩
  rw [presentMac_some]
  constructor
  · rintro ⟨alive, text, spells, same⟩
    exact ⟨live_of_alive alive, text, spells, same⟩
  · rintro ⟨live, text, spells, same⟩
    exact ⟨alive_of_live whole live spells, text, spells, same⟩

theorem heard_spelled {rows : List HostRow} {lastHeard : List (Text × Int)}
    (unbroken : ¬IsBroken floats pass rows)
    (collected : lastHeardFromHotspotHosts floats pass.deadAfterSeconds pass.readAt rows =
      .ok lastHeard) (address : Text) :
    IsLatest (heardInstants floats pass rows (SameSpelling address))
      (valueAt lastHeard (normalizeMacAddress address)) := by
  have latest := heard_latest collected (normalizeMacAddress address)
  have same : heardInstants floats pass rows (SameSpelling address) =
      {instant | ∃ row ∈ rows, heardFrom floats pass.deadAfterSeconds pass.readAt row =
        .ok (some (normalizeMacAddress address, instant))} := by
    ext instant
    refine exists_congr fun row => and_congr_right fun member => ?_
    have whole : ¬Breaks floats pass.deadAfterSeconds pass.readAt row :=
      fun breaks => unbroken ⟨row, member, breaks⟩
    rw [heardFrom_some, presentMac_some]
    constructor
    · rintro ⟨live, said, text, spells, same⟩
      exact ⟨⟨alive_of_live whole live spells, text, spells, same⟩, said⟩
    · rintro ⟨⟨alive, text, spells, same⟩, said⟩
      exact ⟨live_of_alive alive, said, text, spells, same⟩
  rw [same]
  exact latest

theorem listed_active {routerId : Nat} {session : GuestSession}
    (listed : isListed routerId session = true) : session.status = .active := by
  simp only [isListed, GuestSession.isActive, Bool.and_eq_true, decide_eq_true_eq] at listed
  exact listed.1

theorem settleSession_status {rows : List HostRow} {presentMacs : Finset Text}
    {lastHeard : List (Text × Int)} {tables : Tables} {session : GuestSession}
    {device : GuestDevice} (unbroken : ¬IsBroken floats pass rows)
    (present : presentMacsFromHotspotHosts floats pass.deadAfterSeconds rows = .ok presentMacs)
    (heard : lastHeardFromHotspotHosts floats pass.deadAfterSeconds pass.readAt rows =
      .ok lastHeard)
    (listed : isListed pass.routerId session = true)
    (found : deviceOf tables session = some device) :
    (settleSession pass presentMacs lastHeard tables session).status = .active ↔
      (isSessionPresenceJudgeable session pass.reconciledAt pass.graceMinutes = true →
        IsPresent floats pass rows (SameSpelling device.macAddress)) := by
  -- A session is closed if it is old enough and its device's address is not present: one that is
  -- credited is present.
  have active := listed_active listed
  have latest := heard_spelled unbroken heard device.macAddress
  rw [settleSession, if_pos listed, refreshed_credited found, ← present_spelled unbroken present]
  -- What was heard is present too; what was not keeps its last activity.
  cases instant : valueAt lastHeard (normalizeMacAddress device.macAddress) with
  | none =>
      have unmoved : credited lastHeard device pass.refreshedAt session = session := by
        simp [credited, instant]
      rw [unmoved]
      exact departed_status active found presentMacs pass.reconciledAt pass.graceMinutes
  | some heardAt =>
      have there : normalizeMacAddress device.macAddress ∈ presentMacs := by
        rw [instant] at latest
        obtain ⟨row, member, live, -, text, spells, same⟩ := latest.1
        exact (present_spelled unbroken present _).mpr ⟨row, member, live, text, spells, same⟩
      have creditedActive :
          (credited lastHeard device pass.refreshedAt session).status = .active := active
      have kept := (departed_status creditedActive found presentMacs pass.reconciledAt
        pass.graceMinutes).mpr fun _ => there
      exact ⟨fun _ _ => there, fun _ => kept⟩

theorem settleSession_activity {rows : List HostRow} (presentMacs : Finset Text)
    {lastHeard : List (Text × Int)} {tables : Tables} {session : GuestSession}
    {device : GuestDevice} (unbroken : ¬IsBroken floats pass rows)
    (heard : lastHeardFromHotspotHosts floats pass.deadAfterSeconds pass.readAt rows =
      .ok lastHeard)
    (listed : isListed pass.routerId session = true)
    (found : deviceOf tables session = some device) :
    IsGreatest (insert session.lastActivityAt
        (clamped pass (heardInstants floats pass rows (SameSpelling device.macAddress))))
      (settleSession pass presentMacs lastHeard tables session).lastActivityAt := by
  have latest := heard_spelled unbroken heard device.macAddress
  rw [settleSession, if_pos listed, refreshed_credited found]
  dsimp only
  rw [departed_activity]
  exact moved_greatest latest pass.refreshedAt session.lastActivityAt

/-! ### When the sweep keeps its promise -/

/-- What it takes for a session of a device that is there: if it is old enough to be closed, a row
spells the device's address as it is stored; and what other spellings say it was heard at adds
nothing to what that one does. A broken table closes nothing and credits nothing. -/
structure Recognised (floats : Floats Fraction) (pass : Pass) (rows : List HostRow)
    (session : GuestSession) (device : GuestDevice) : Prop where
  spelled : isSessionPresenceJudgeable session pass.reconciledAt pass.graceMinutes = true →
    IsBroken floats pass rows ∨ IsPresent floats pass rows (SameSpelling device.macAddress)
  covered : ∀ instant ∈ heardInstants floats pass rows (SameDevice device.macAddress),
    min instant pass.refreshedAt ≤ session.lastActivityAt ∨
      (¬IsBroken floats pass rows ∧
        ∃ other ∈ heardInstants floats pass rows (SameSpelling device.macAddress),
          min instant pass.refreshedAt ≤ min other pass.refreshedAt)

def hexKey (normalized : Text) : Option Text :=
  let hexOnly := normalized.filter fun char => char ∉ [':', '-', '.']
  if hexOnly.length ≠ 12 then none
  else if hexOnly.any (fun char => !AccountingTarget.isHexDigit char) then none
  else some hexOnly

theorem canonicalMacKey_normalized (raw : Text) :
    canonicalMacKey Uppercase.upper (some raw) = hexKey (normalizeMacAddress raw) := by
  cases raw with
  | nil => rfl
  | cons first rest => rfl

theorem SameSpelling.sameDevice {stored text key : Text} (same : SameSpelling stored text)
    (address : canonicalMacKey Uppercase.upper (some stored) = some key) :
    SameDevice stored text := by
  refine ⟨key, address, ?_⟩
  rw [canonicalMacKey_normalized] at address ⊢
  rw [same, address]

theorem heardInstants_mono {rows : List HostRow} {Address Wider : Text → Prop}
    (wider : ∀ text, Address text → Wider text) :
    heardInstants floats pass rows Address ⊆ heardInstants floats pass rows Wider := by
  rintro instant ⟨row, member, live, said, text, spells, address⟩
  exact ⟨row, member, live, said, text, spells, wider text address⟩

theorem clamped_mono {instants wider : Set Int} (within : instants ⊆ wider) :
    clamped pass instants ⊆ clamped pass wider := Set.image_mono within

theorem IsPresent.address {rows : List HostRow} {stored : Text}
    (there : IsPresent floats pass rows (SameDevice stored)) :
    ∃ key, canonicalMacKey Uppercase.upper (some stored) = some key := by
  obtain ⟨row, -, -, text, -, key, known, -⟩ := there
  exact ⟨key, known⟩

def creditedInstants (floats : Floats Fraction) (pass : Pass) (rows : List HostRow)
    (device : GuestDevice) : Set Int :=
  {instant | ¬IsBroken floats pass rows ∧
    instant ∈ heardInstants floats pass rows (SameSpelling device.macAddress)}

/-- What a run leaves of a session, whether it raises or not. -/
structure Left (floats : Floats Fraction) (pass : Pass) (rows : List HostRow) (tables : Tables)
    (before after : GuestSession) : Prop where
  status : ∀ device, isListed pass.routerId before = true → deviceOf tables before = some device →
    (after.status = .active ↔
      (isSessionPresenceJudgeable before pass.reconciledAt pass.graceMinutes = true →
        IsBroken floats pass rows ∨ IsPresent floats pass rows (SameSpelling device.macAddress)))
  activity : ∀ device, isListed pass.routerId before = true → deviceOf tables before = some device →
    IsGreatest (insert before.lastActivityAt
      (clamped pass (creditedInstants floats pass rows device))) after.lastActivityAt
  others : isListed pass.routerId before = false → after = before

theorem stored_left (floats : Floats Fraction) (pass : Pass) (rows : List HostRow)
    (tables : Tables) :
    ∃ leave : GuestSession → GuestSession,
      (stored floats pass rows tables).sessions = tables.sessions.map leave ∧
        ∀ session, Left floats pass rows tables session (leave session) := by
  rcases broken_or_collects floats pass rows with
    broken | ⟨unbroken, presentMacs, lastHeard, present, heard⟩
  -- What raises is rolled back, and leaves every session as it was.
  · refine ⟨id, ?_, fun session => ⟨?_, ?_, fun _ => rfl⟩⟩
    · rw [List.map_id, stored, sweep_broken broken]
    · intro device listed _
      exact ⟨fun _ _ => Or.inl broken, fun _ => listed_active listed⟩
    · intro device _ _
      have nothing : creditedInstants floats pass rows device = ∅ := by
        simp [creditedInstants, broken]
      rw [nothing, clamped, Set.image_empty, insert_empty_eq]
      exact isGreatest_singleton
  · refine ⟨settleSession pass presentMacs lastHeard tables, ?_, fun session => ⟨?_, ?_, ?_⟩⟩
    · rw [stored, sweep_settled present heard]
      exact settle_sessions presentMacs lastHeard tables
    · intro device listed found
      rw [settleSession_status unbroken present heard listed found, or_iff_right unbroken]
    · intro device listed found
      have all : creditedInstants floats pass rows device =
          heardInstants floats pass rows (SameSpelling device.macAddress) := by
        simp [creditedInstants, unbroken]
      rw [all]
      exact settleSession_activity presentMacs unbroken heard listed found
    · intro unlisted
      rw [settleSession, if_neg (by simp [unlisted])]

theorem covered_iff {rows : List HostRow} {session : GuestSession} {device : GuestDevice}
    {latest : Int}
    (address : ∃ key, canonicalMacKey Uppercase.upper (some device.macAddress) = some key)
    (isLatest : IsGreatest (insert session.lastActivityAt
      (clamped pass (creditedInstants floats pass rows device))) latest) :
    IsGreatest (insert session.lastActivityAt
        (clamped pass (heardInstants floats pass rows (SameDevice device.macAddress)))) latest ↔
      ∀ instant ∈ heardInstants floats pass rows (SameDevice device.macAddress),
        min instant pass.refreshedAt ≤ session.lastActivityAt ∨
          (¬IsBroken floats pass rows ∧
            ∃ other ∈ heardInstants floats pass rows (SameSpelling device.macAddress),
              min instant pass.refreshedAt ≤ min other pass.refreshedAt) := by
  obtain ⟨key, known⟩ := address
  have within : creditedInstants floats pass rows device ⊆
      heardInstants floats pass rows (SameDevice device.macAddress) :=
    fun instant credited =>
      heardInstants_mono (fun _ same => SameSpelling.sameDevice same known) credited.2
  rw [greatest_wider isLatest (Set.insert_subset_insert (clamped_mono within))]
  constructor
  · intro below instant told
    obtain ⟨old, member, less⟩ := below _ (Set.mem_insert_of_mem _ ⟨instant, told, rfl⟩)
    rcases member with rfl | ⟨other, ⟨unbroken, spelled⟩, rfl⟩
    · exact Or.inl less
    · exact Or.inr ⟨unbroken, other, spelled, less⟩
  · intro covered value member
    rcases member with rfl | ⟨instant, told, rfl⟩
    · exact ⟨_, Set.mem_insert _ _, le_rfl⟩
    · rcases covered instant told with old | ⟨unbroken, other, spelled, less⟩
      · exact ⟨_, Set.mem_insert _ _, old⟩
      · exact ⟨_, Set.mem_insert_of_mem _ ⟨other, ⟨unbroken, spelled⟩, rfl⟩, less⟩

/-- The sweep keeps its promise just where it recognises every device that is there, and ACTIVE on
the router, by the spelling of its address. -/
theorem presence_sweep_iff (floats : Floats Fraction) (pass : Pass) (rows : List HostRow)
    (tables : Tables) :
    Faithful floats pass rows tables ↔
      ∀ session ∈ tables.sessions, ∀ device, isListed pass.routerId session = true →
        deviceOf tables session = some device →
        IsPresent floats pass rows (SameDevice device.macAddress) →
        Recognised floats pass rows session device := by
  obtain ⟨leave, sessions, left⟩ := stored_left floats pass rows tables
  have each : List.Forall₂ (Attended floats pass rows tables) tables.sessions
      (stored floats pass rows tables).sessions ↔
        ∀ session ∈ tables.sessions, Attended floats pass rows tables session (leave session) := by
    rw [sessions, List.forall₂_map_right_iff, List.forall₂_same]
  constructor
  · intro faithful session member device listed found there
    have attended := each.mp faithful.attended session member
    constructor
    · exact ((left session).status device listed found).mp (attended.kept device listed found there)
    · exact (covered_iff there.address ((left session).activity device listed found)).mp
        (attended.moved device listed found there)
  · intro recognised
    refine ⟨each.mpr ?_, fun others same => sweep_congr same tables⟩
    intro session member
    constructor
    · intro device listed found there
      exact ((left session).status device listed found).mpr
        (recognised session member device listed found there).spelled
    · intro device listed found there
      exact (covered_iff there.address ((left session).activity device listed found)).mpr
        (recognised session member device listed found there).covered

def microseconds : Floats Nat where
  total amounts := .ok (amounts.map fun part =>
    part.1 * match part.2 with
      | .ms => 1000
      | .us => 1
      | unit => unit.seconds.getD 0 * 1000000).sum
  atLeast fraction bound := bound * 1000000 ≤ fraction
  isNegative _ := false
  micros fraction := .ok fraction

/-- A guest who came twenty minutes ago; their portal wrote dashes. -/
def dashed : Tables :=
  ⟨[⟨1, 1, some 1, 1, .otpSms, none, .active, 0, none, 0, none, 0, 0, none, none, none, none⟩],
    [⟨1, 1, "AA-BB-CC-DD-EE-FF".toList⟩]⟩

def hosts : List HostRow :=
  [⟨some (.text "AA:BB:CC:DD:EE:FF".toList), some (.text "0s".toList), some (.text "0s".toList)⟩]

def twentieth : Pass :=
  ⟨1, SESSION_PRESENCE_HOST_DEAD_AFTER_SECONDS, SESSION_PRESENCE_GRACE_MINUTES, minutes 20,
    minutes 20, minutes 20⟩

/-- They are cut off. -/
theorem dashed_guest_cut_off : ¬Faithful microseconds twentieth hosts dashed := by
  intro faithful
  have attended := faithful.attended
  have swept : (stored microseconds twentieth hosts dashed).sessions =
      [⟨1, 1, some 1, 1, .otpSms, none, .disconnected, 0, some (minutes 20), 0, none, 0, 0, none,
        none, none, some SESSION_PRESENCE_DISCONNECT_REASON⟩] := by
    decide +kernel
  rw [swept] at attended
  obtain ⟨session, -⟩ := List.forall₂_cons.mp attended
  have there : IsPresent microseconds twentieth hosts (SameDevice "AA-BB-CC-DD-EE-FF".toList) := by
    refine ⟨_, List.mem_singleton_self _, ?_, "AA:BB:CC:DD:EE:FF".toList, ⟨_, rfl, rfl⟩,
      "AABBCCDDEEFF".toList, ?_, ?_⟩
    · unfold Live
      decide +kernel
    · decide +kernel
    · decide +kernel
  have kept := session.kept ⟨1, 1, "AA-BB-CC-DD-EE-FF".toList⟩ (by decide) (by decide) there
  cases kept

end CloudGuest.Guest.PresenceSweep
