import CloudGuest.Ipdr.Records

/-!
Which session an address belonged to (`ipdr/join.py`, `SessionIndex`, over the rows of
`IpdrRepository.sessions`). The query keeps every session that can hold an instant of
its range, so the index answers as if it had all of them.
-/

namespace CloudGuest.Ipdr

open Texts Calendar Sorting

section Attribution

variable (grace : Int) (routerId : Uuid) (ip : Text) (moment : Moment)

def holdsAddress (session : SessionInput) : Bool :=
  session.routerId = routerId && normalizeIp session.ipAddress = some ip &&
    session.startedAt ≤ moment &&
    session.endedAt.all fun ended => moment.val ≤ ended.val + grace

def startThenId (session : SessionInput) : Moment ×ₗ Text :=
  toLex (session.startedAt, session.id.val)

def IdsUnique (sessions : List SessionInput) : Prop :=
  ∀ left ∈ sessions, ∀ right ∈ sessions, left.id = right.id → left = right

theorem startThenId_separates {sessions : List SessionInput} (unique : IdsUnique sessions) :
    Separates startThenId sessions := by
  intro left inLeft right inRight same
  have ids : left.id.val = right.id.val := congrArg (fun key => (ofLex key).2) same
  exact unique left inLeft right inRight (Subtype.ext ids)

theorem IdsUnique.filter {sessions : List SessionInput} (unique : IdsUnique sessions)
    (kept : SessionInput → Bool) : IdsUnique (sessions.filter kept) := by
  intro left inLeft right inRight
  exact unique left (List.mem_filter.mp inLeft).1 right (List.mem_filter.mp inRight).1

theorem started_closed (left right : SessionInput) (ordered : startThenId left ≤ startThenId right)
    (started : decide (right.startedAt ≤ moment) = true) :
    decide (left.startedAt ≤ moment) = true := by
  refine decide_eq_true (le_trans ?_ (of_decide_eq_true started))
  rcases Prod.Lex.le_iff.mp ordered with less | ⟨same, -⟩
  · exact le_of_lt less
  · exact le_of_eq same

theorem sessionMatch_greatest {sessions : List SessionInput} (unique : IdsUnique sessions)
    (session : SessionInput) :
    sessionMatch sessions grace routerId ip moment = some session ↔
      Greatest startThenId
        (fun other => other ∈ sessions ∧ holdsAddress grace routerId ip moment other = true)
        session := by
  have separated := startThenId_separates (unique.filter fun session =>
    session.routerId = routerId && normalizeIp session.ipAddress = some ip)
  rw [sessionMatch]
  refine (find_latest (started_closed moment) separated).trans (Greatest.congr ?_)
  intro other
  simp only [holdsAddress, List.mem_filter, Bool.and_eq_true, decide_eq_true_eq, and_assoc]

theorem sessionMatch_none (sessions : List SessionInput) :
    sessionMatch sessions grace routerId ip moment = none ↔
      ∀ session ∈ sessions, ¬ holdsAddress grace routerId ip moment session = true := by
  rw [sessionMatch]
  refine (find_latest_none (started_closed moment)).trans ?_
  constructor
  · intro none session member held
    simp only [holdsAddress, Bool.and_eq_true, decide_eq_true_eq] at held
    refine none session ?_ (decide_eq_true held.1.2) held.2
    exact List.mem_filter.mpr ⟨member, by simpa using held.1.1⟩
  · intro none session member started open'
    obtain ⟨listed, located⟩ := List.mem_filter.mp member
    refine none session listed ?_
    simp only [holdsAddress, Bool.and_eq_true]
    exact ⟨⟨by simpa using located, started⟩, open'⟩

end Attribution

section Query

variable (sources : Sources) (routers : List Uuid) (locationId organizationId : Uuid)
variable (start finish : Int)

theorem join_sessions (routerId : Uuid) (ip : Text) (moment : Moment) (queried : routerId ∈ routers)
    (after : start ≤ moment.val) (before : moment.val < finish) (session : SessionInput)
    (held : holdsAddress sources.grace routerId ip moment session = true) :
    session ∈ (sources.join routers locationId organizationId start finish).sessions ↔
      session ∈ sources.sessions := by
  rw [Sources.join, List.mem_filter, and_iff_left]
  simp only [holdsAddress, Bool.and_eq_true, decide_eq_true_eq] at held
  obtain ⟨⟨⟨router, address⟩, started⟩, ended⟩ := held
  have known : session.ipAddress.isSome = true := by
    cases known : session.ipAddress with
    | none =>
        rw [known] at address
        cases address
    | some text => rfl
  have early : session.startedAt.val ≤ moment.val := started
  simp only [Bool.and_eq_true, decide_eq_true_eq]
  refine ⟨⟨⟨router ▸ queried, known⟩, by omega⟩, ?_⟩
  cases last : session.endedAt with
  | none => rfl
  | some last' =>
      rw [last, Option.all_some] at ended
      have within := of_decide_eq_true ended
      exact decide_eq_true (by omega)

/-- What the index of the rows of the query answers is the newest of all the sessions that held
the address, and none only where no session did. -/
theorem session_attribution (unique : IdsUnique sources.sessions) (routerId : Uuid) (ip : Text)
    (moment : Moment) (queried : routerId ∈ routers) (after : start ≤ moment.val)
    (before : moment.val < finish) :
    let joined := sources.join routers locationId organizationId start finish
    (∀ session, sessionMatch joined.sessions joined.grace routerId ip moment = some session ↔
      Greatest startThenId (fun other => other ∈ sources.sessions ∧
        holdsAddress sources.grace routerId ip moment other = true) session) ∧
    (sessionMatch joined.sessions joined.grace routerId ip moment = none ↔
      ∀ session ∈ sources.sessions,
        ¬ holdsAddress sources.grace routerId ip moment session = true) := by
  intro joined
  have same := join_sessions sources routers locationId organizationId start finish routerId ip
    moment queried after before
  refine ⟨?_, ?_⟩
  · intro session
    refine (sessionMatch_greatest _ routerId ip moment (unique.filter _) session).trans
      (Greatest.congr ?_)
    intro other
    exact and_congr_left (same other)
  · rw [sessionMatch_none]
    refine forall_congr' fun session => ?_
    constructor
    · intro none member held
      exact none ((same session held).mpr member) held
    · intro none member held
      exact none ((same session held).mp member) held

end Query

section Shared

def uuidOf (digit : Char) (isToken : tokenChar digit = true) : Uuid :=
  ⟨[digit], isToken_of_all _ (by simp [isToken])⟩

def epochAfter (seconds : Nat) (inRange : seconds < 1000000) : Moment :=
  ⟨seconds * 1000000, seconds_inRange seconds inRange⟩

theorem zero_inRange : 0 < 1000000 := by decide

def sharing (id : Uuid) (startedAt : Moment) (endedAt : Option Moment) : SessionInput :=
  ⟨id, id, uuidOf 'r' rfl, some "10.0.0.2".toList, startedAt, endedAt, none, none, none, none, none⟩

/-- One from days before that is still open, and two that began together, of which one has ended. -/
def sharedAddress : Sources where
  flows := []
  sessions := [sharing (uuidOf 'c' rfl) (epochAfter 400 (by decide)) (some (epochAfter 500 (by decide))),
    sharing (uuidOf 'b' rfl) (epochAfter 400 (by decide)) none,
    sharing (uuidOf 'a' rfl) (epochAfter 0 zero_inRange) none]
  publicIps := []
  leaseEvents := []
  sightings := []
  infrastructure := fun _ _ => ⟨[], [], []⟩
  grace := 100000000

/-- At the last instant of its grace the ended one still has the address. -/
theorem session_attribution_shared :
    sessionMatch (sharedAddress.join [uuidOf 'r' rfl] (uuidOf 'l' rfl) (uuidOf 'o' rfl) 600000000
        700000000).sessions 100000000 (uuidOf 'r' rfl) "10.0.0.2".toList (epochAfter 600 (by decide)) =
      some (sharing (uuidOf 'c' rfl) (epochAfter 400 (by decide))
        (some (epochAfter 500 (by decide)))) := by
  have unique : IdsUnique sharedAddress.sessions := by
    simp [IdsUnique, sharedAddress, sharing, uuidOf]
  refine ((session_attribution sharedAddress [uuidOf 'r' rfl] (uuidOf 'l' rfl) (uuidOf 'o' rfl)
    600000000 700000000 unique (uuidOf 'r' rfl) "10.0.0.2".toList (epochAfter 600 (by decide))
    (by simp) (by decide +kernel) (by decide +kernel)).1 _).mpr ⟨?_, ?_⟩
  · exact ⟨by simp [sharedAddress], by decide +kernel⟩
  · rintro other ⟨member, -⟩
    simp only [sharedAddress, List.mem_cons, List.not_mem_nil, or_false] at member
    rcases member with rfl | rfl | rfl
    · decide +kernel
    · decide +kernel
    · decide +kernel

end Shared

end CloudGuest.Ipdr
