import CloudGuest.Library.Calls
import CloudGuest.Library.Runs
import CloudGuest.Library.Tables
import CloudGuest.Library.Uuids

/-!
The sessions of the platform's users (auth/service.py, auth/repository.py,
auth/dependencies.py, user/service.py). A refresh reads the row of the token that it is
given and later replaces the token by one conditional update; a revocation lists the rows
that it means and later marks them. Anything may commit between the two.
-/

namespace CloudGuest.Auth
open Uuids Tables Runs Calls

abbrev Instant := Nat

def seconds (instant : Instant) : Nat := instant / 1000000

def micros (seconds : Nat) : Instant := seconds * 1000000

structure Settings where
  accessTokenExpireMinutes : Nat
  refreshTokenExpireDays : Nat

structure User where
  id : Uuid
  isActive : Bool
  tokensInvalidatedAt : Option Instant
  deriving DecidableEq

structure Session where
  id : Uuid
  userId : Uuid
  refreshTokenJti : Uuid
  expiresAt : Instant
  isActive : Bool
  deriving DecidableEq

structure Claims where
  sub : Uuid
  iat : Nat
  exp : Nat
  deriving DecidableEq

/-- Neither the signature nor `exp` is wrong. -/
def Claims.isCurrent (claims : Claims) (now : Instant) : Bool := now < micros claims.exp

structure Pair where
  sessionId : Uuid
  presented : Option Uuid
  jti : Uuid
  access : Claims
  refresh : Claims
  deriving DecidableEq

def createTokenPair (settings : Settings) (sessionId : Uuid) (presented : Option Uuid) (jti userId : Uuid)
    (now : Instant) : Pair where
  sessionId := sessionId
  presented := presented
  jti := jti
  access := ⟨userId, seconds now, seconds (now + micros (settings.accessTokenExpireMinutes * 60))⟩
  refresh := ⟨userId, seconds now, seconds (now + micros (settings.refreshTokenExpireDays * 86400))⟩

inductive Call where
  | signingIn (userId : Uuid)
  | refreshing (jti sessionId userId : Uuid) (since : Instant)
  | revoking (ids : List Uuid) (forced : Option Uuid) (since : Instant)
  deriving DecidableEq

structure System where
  now : Instant
  users : Table User.id
  sessions : Table Session.id
  /-- All that were ever handed out, latest last. -/
  pairs : List Pair
  calls : List Call

/-- Which sessions a request ends: that of a refresh token, one by its id, or all of a user. -/
inductive Selection where
  | token (jti : Uuid)
  | session (id : Uuid)
  | user (id : Uuid) (forced : Bool)
  deriving DecidableEq

inductive Event where
  | beginLogin (userId : Uuid)
  | login (place : Nat) (sessionId jti : Uuid) (stamp : Instant)
  | beginRefresh (jti : Uuid)
  | rotate (place : Nat) (jti : Uuid) (stamp : Instant)
  | beginRevocation (selection : Selection)
  | revoke (place : Nat) (stamp : Instant)
  /-- A request that raises or is cut off. -/
  | stop (place : Nat)
  | setActive (userId : Uuid) (isActive : Bool)
  | elapse (duration : Nat)
  deriving DecidableEq

/-! ### Requests -/

def Session.isExpired (session : Session) (now : Instant) : Bool := session.expiresAt < now

def System.presentedPair (system : System) (jti : Uuid) : Option Pair :=
  system.pairs.find? fun pair => pair.jti = jti && pair.refresh.isCurrent system.now

def System.getSessionByRefreshToken (system : System) (jti : Uuid) : Option Session :=
  system.sessions.rows.find? fun session => session.refreshTokenJti = jti

def System.refreshable (system : System) (jti : Uuid) : Option Call := do
  let pair ← system.presentedPair jti
  let session ← system.getSessionByRefreshToken jti
  let user ← system.users.find pair.refresh.sub
  if session.isActive && !session.isExpired system.now && user.isActive then
    some (.refreshing jti session.id user.id system.now)
  else none

def System.selected (system : System) : Selection → List Uuid
  | .token jti => (system.presentedPair jti).toList.flatMap fun _ =>
      (system.getSessionByRefreshToken jti).toList.map Session.id
  | .session id => (system.sessions.find id).toList.map Session.id
  | .user id _ => (system.sessions.rows.filter fun session =>
      session.userId = id && session.isActive).map Session.id

def Selection.forced : Selection → Option Uuid
  -- `force_logout_user` also invalidates the access tokens.
  | .user id true => some id
  | _ => none

def deactivated : Change Session.id := ⟨fun session => { session with isActive := false }, fun _ => rfl⟩

def rotatedTo (jti : Uuid) : Change Session.id :=
  ⟨fun session => { session with refreshTokenJti := jti }, fun _ => rfl⟩

def invalidatedAt (instant : Instant) : Change User.id :=
  ⟨fun user => { user with tokensInvalidatedAt := some instant }, fun _ => rfl⟩

def withActive (isActive : Bool) : Change User.id := ⟨fun user => { user with isActive }, fun _ => rfl⟩

def System.ended (system : System) (place : Nat) : System :=
  { system with calls := system.calls.eraseIdx place }

def System.isFresh (system : System) (jti : Uuid) : Bool := jti ∉ system.pairs.map Pair.jti

def rotates (jti sessionId : Uuid) (session : Session) : Bool :=
  session.id == sessionId && session.refreshTokenJti = jti && session.isActive

def System.hand (system : System) (pair : Pair) : System := { system with pairs := system.pairs ++ [pair] }

section Steps

variable (settings : Settings)

def System.signIn (system : System) (place : Nat) (userId sessionId jti : Uuid) (stamp : Instant) : System :=
  { system.ended place with
    sessions := system.sessions.insertNew
      ⟨sessionId, userId, jti, system.now + micros (settings.refreshTokenExpireDays * 86400), true⟩ }.hand
    (createTokenPair settings sessionId none jti userId stamp)

def System.rotated (system : System) (place : Nat) (presented sessionId userId jti : Uuid) (stamp : Instant) :
    System :=
  { system.ended place with
    sessions := system.sessions.updateWhere (rotates presented sessionId) (rotatedTo jti) }.hand
    (createTokenPair settings sessionId (some presented) jti userId stamp)

def System.revoked (system : System) (place : Nat) (ids : List Uuid) (forced : Option Uuid) (stamp : Instant) :
    System :=
  { system.ended place with
    sessions := system.sessions.updateWhere (fun session => session.id ∈ ids) deactivated
    users := system.users.updateWhere (fun user => forced = some user.id) (invalidatedAt stamp) }

def step (system : System) : Event → Option System
  | .beginLogin userId =>
      if (system.users.find userId).any User.isActive then
        some { system with calls := system.calls ++ [.signingIn userId] }
      else none
  | .login place sessionId jti stamp =>
      match system.calls[place]? with
      | some (.signingIn userId) =>
          if system.isFresh jti && decide (sessionId ∉ system.sessions.rows.map Session.id) &&
              decide (stamp ≤ system.now) then
            some (system.signIn settings place userId sessionId jti stamp)
          else none
      | _ => none
  | .beginRefresh jti => (system.refreshable jti).map fun call => { system with calls := system.calls ++ [call] }
  | .rotate place jti stamp =>
      match system.calls[place]? with
      | some (.refreshing presented sessionId userId since) =>
          if system.isFresh jti && decide (since ≤ stamp) && decide (stamp ≤ system.now) then
            if system.sessions.rows.any (rotates presented sessionId) then
              some (system.rotated settings place presented sessionId userId jti stamp)
            else some (system.ended place)
          else none
      | _ => none
  | .beginRevocation selection =>
      some { system with
        calls := system.calls ++ [.revoking (system.selected selection) selection.forced system.now] }
  | .revoke place stamp =>
      match system.calls[place]? with
      | some (.revoking ids forced since) =>
          if decide (since ≤ stamp) && decide (stamp ≤ system.now) then some (system.revoked place ids forced stamp)
          else none
      | _ => none
  | .stop place => some (system.ended place)
  | .setActive userId isActive =>
      some { system with users := system.users.updateWhere (fun user => user.id = userId) (withActive isActive) }
  | .elapse duration => some { system with now := system.now + duration }

end Steps

def System.authenticates (system : System) (claims : Claims) : Bool :=
  claims.isCurrent system.now && (system.users.find claims.sub).any fun user =>
    user.isActive && user.tokensInvalidatedAt.all (· ≤ micros claims.iat)

/-! ### What a step can do -/

inductive Stepped (settings : Settings) (system : System) : System → Prop where
  | goesOn {after : System} (sessions : after.sessions = system.sessions) (pairs : after.pairs = system.pairs)
      (users : after.users = system.users) (later : system.now ≤ after.now)
      (calls : ∀ call ∈ after.calls, call ∈ system.calls ∨ (∃ jti, system.refreshable jti = some call) ∨
        (∃ userId, call = .signingIn userId) ∨ ∃ ids forced, call = .revoking ids forced system.now) :
      Stepped settings system after
  | signedIn {place : Nat} {userId sessionId jti : Uuid} {stamp : Instant}
      (fresh : jti ∉ system.pairs.map Pair.jti) (new : sessionId ∉ system.sessions.rows.map Session.id) :
      Stepped settings system (system.signIn settings place userId sessionId jti stamp)
  | rotated {place : Nat} {presented sessionId userId jti : Uuid} {since stamp : Instant}
      (found : system.calls[place]? = some (.refreshing presented sessionId userId since))
      (fresh : jti ∉ system.pairs.map Pair.jti)
      (hit : system.sessions.rows.any (rotates presented sessionId) = true) :
      Stepped settings system (system.rotated settings place presented sessionId userId jti stamp)
  | revoked {place : Nat} {ids : List Uuid} {forced : Option Uuid} {since stamp : Instant}
      (found : system.calls[place]? = some (.revoking ids forced since)) (begun : since ≤ stamp) :
      Stepped settings system (system.revoked place ids forced stamp)
  | activated (userId : Uuid) (isActive : Bool) : Stepped settings system
      { system with users := system.users.updateWhere (fun user => user.id = userId) (withActive isActive) }

theorem step_cases {settings : Settings} {system after : System} {event : Event}
    (stepped : step settings system event = some after) : Stepped settings system after := by
  have begun : ∀ started : Call, ((∃ jti, system.refreshable jti = some started) ∨
      (∃ userId, started = .signingIn userId) ∨ ∃ ids forced, started = .revoking ids forced system.now) →
      Stepped settings system { system with calls := system.calls ++ [started] } := by
    intro started why
    refine .goesOn rfl rfl rfl (Nat.le_refl _) fun call listing => ?_
    rcases List.mem_append.mp listing with earlier | last
    · exact .inl earlier
    · exact .inr (List.mem_singleton.mp last ▸ why)
  have ended : ∀ place, Stepped settings system (system.ended place) := fun place =>
    .goesOn rfl rfl rfl (Nat.le_refl _) fun call listing => .inl (List.mem_of_mem_eraseIdx listing)
  cases event with
  | beginLogin userId =>
      simp only [step] at stepped
      split at stepped
      · obtain rfl := Option.some.inj stepped
        exact begun _ (.inr (.inl ⟨userId, rfl⟩))
      · cases stepped
  | login place sessionId jti stamp =>
      simp only [step] at stepped
      split at stepped
      · split at stepped
        · next passed =>
            obtain rfl := Option.some.inj stepped
            simp only [System.isFresh, Bool.and_eq_true, decide_eq_true_eq] at passed
            exact .signedIn passed.1.1 passed.1.2
        · cases stepped
      · cases stepped
  | beginRefresh jti =>
      obtain ⟨call, read, rfl⟩ := Option.map_eq_some_iff.mp stepped
      exact begun call (.inl ⟨jti, read⟩)
  | rotate place jti stamp =>
      simp only [step] at stepped
      split at stepped
      · next presented sessionId userId since found =>
          split at stepped
          · next passed =>
              simp only [System.isFresh, Bool.and_eq_true, decide_eq_true_eq] at passed
              split at stepped
              · next hit =>
                  obtain rfl := Option.some.inj stepped
                  exact .rotated found passed.1.1 hit
              · obtain rfl := Option.some.inj stepped
                exact ended place
          · cases stepped
      · cases stepped
  | beginRevocation selection =>
      obtain rfl := Option.some.inj stepped
      exact begun _ (.inr (.inr ⟨_, _, rfl⟩))
  | revoke place stamp =>
      simp only [step] at stepped
      split at stepped
      · next ids forced since found =>
          split at stepped
          · next passed =>
              obtain rfl := Option.some.inj stepped
              simp only [Bool.and_eq_true, decide_eq_true_eq] at passed
              exact .revoked found passed.1
          · cases stepped
      · cases stepped
  | stop place =>
      obtain rfl := Option.some.inj stepped
      exact ended place
  | setActive userId isActive =>
      obtain rfl := Option.some.inj stepped
      exact .activated userId isActive
  | elapse duration =>
      obtain rfl := Option.some.inj stepped
      exact .goesOn rfl rfl rfl (Nat.le_add_right _ _) fun call listing => .inl listing

/-! ### What is kept -/

def System.pairsOf (system : System) (sessionId : Uuid) : List Pair :=
  system.pairs.filter fun pair => pair.sessionId = sessionId

def IsRead (system : System) : Call → Prop
  | .refreshing _ sessionId userId _ =>
      ∃ session ∈ system.sessions.rows, session.id = sessionId ∧ session.userId = userId
  | _ => True

/-- Each pair but the first of a session was handed out for the refresh token of the pair before it, and the
row has that of the last. -/
structure Sound (system : System) : Prop where
  jtis : (system.pairs.map Pair.jti).Nodup
  chain : ∀ session ∈ system.sessions.rows, (system.pairsOf session.id).map Pair.jti =
    (system.pairsOf session.id).filterMap Pair.presented ++ [session.refreshTokenJti]
  known : ∀ pair ∈ system.pairs, ∃ session ∈ system.sessions.rows,
    session.id = pair.sessionId ∧ session.userId = pair.refresh.sub
  once : (system.pairs.filterMap Pair.presented).Nodup
  read : ∀ call ∈ system.calls, IsRead system call

section Keeping

variable {settings : Settings} {system after : System}

theorem pairsOf_handed {pair : Pair} (pairs : after.pairs = system.pairs ++ [pair]) (sessionId : Uuid) :
    after.pairsOf sessionId = system.pairsOf sessionId ++ if pair.sessionId = sessionId then [pair] else [] := by
  rw [System.pairsOf, pairs, List.filter_append, System.pairsOf]
  by_cases same : pair.sessionId = sessionId <;> simp [same]

theorem Sound.owner (sound : Sound system) {pair : Pair} {session : Session} (listed : pair ∈ system.pairs)
    (stored : session ∈ system.sessions.rows) (same : pair.jti = session.refreshTokenJti) :
    pair.sessionId = session.id := by
  have held : session.refreshTokenJti ∈ (system.pairsOf session.id).map Pair.jti := by
    rw [sound.chain session stored]
    exact List.mem_append_right _ (List.mem_singleton_self _)
  obtain ⟨other, mine, equal⟩ := List.mem_map.mp held
  obtain ⟨present, named⟩ := List.mem_filter.mp mine
  obtain rfl := List.inj_on_of_nodup_map sound.jtis listed present (same.trans equal.symm)
  exact of_decide_eq_true named

theorem refreshable_ok {jti : Uuid} {call : Call} (begun : system.refreshable jti = some call) :
    ∃ presented sessionId userId since, call = .refreshing presented sessionId userId since := by
  simp only [System.refreshable, Option.bind_eq_bind, Option.bind_eq_some_iff] at begun
  obtain ⟨pair, presented, session, found, user, known, begun⟩ := begun
  split at begun
  · exact ⟨_, _, _, _, (Option.some.inj begun).symm⟩
  · cases begun

theorem Sound.refreshable (sound : Sound system) {jti : Uuid} {call : Call}
    (begun : system.refreshable jti = some call) : IsRead system call := by
  simp only [System.refreshable, Option.bind_eq_bind, Option.bind_eq_some_iff] at begun
  obtain ⟨pair, presented, session, found, user, known, begun⟩ := begun
  split at begun
  · obtain rfl := Option.some.inj begun
    have matched := List.find?_some presented
    have stored := List.mem_of_find?_eq_some found
    simp only [Bool.and_eq_true, decide_eq_true_eq] at matched
    have same : session.refreshTokenJti = jti := by simpa using List.find?_some found
    have mine := sound.owner (List.mem_of_find?_eq_some presented) stored (matched.1.trans same.symm)
    obtain ⟨owner, kept, named, owned⟩ := sound.known pair (List.mem_of_find?_eq_some presented)
    obtain rfl := List.inj_on_of_nodup_map system.sessions.unique kept stored (named.trans mine)
    exact ⟨owner, stored, rfl, owned.trans (find_mem _ _ _ known).2.symm⟩
  · cases begun

theorem Sound.exchanged (sound : Sound system) {session : Session} (stored : session ∈ system.sessions.rows) :
    session.refreshTokenJti ∉ system.pairs.filterMap Pair.presented := by
  intro exchanged
  obtain ⟨pair, listed, given⟩ := List.mem_filterMap.mp exchanged
  obtain ⟨other, kept, named, -⟩ := sound.known pair listed
  have mine : pair ∈ system.pairsOf other.id := List.mem_filter.mpr ⟨listed, decide_eq_true named.symm⟩
  have chain := sound.chain other kept
  have before : session.refreshTokenJti ∈ (system.pairsOf other.id).filterMap Pair.presented :=
    List.mem_filterMap.mpr ⟨pair, mine, given⟩
  -- it came with a pair of the same session, so that session is the row's
  have came : session.refreshTokenJti ∈ (system.pairsOf other.id).map Pair.jti := by
    rw [chain]
    exact List.mem_append_left _ before
  obtain ⟨source, issued, same⟩ := List.mem_map.mp came
  obtain ⟨present, owned⟩ := List.mem_filter.mp issued
  have one : other.id = session.id := (of_decide_eq_true owned).symm.trans (sound.owner present stored same)
  obtain rfl := List.inj_on_of_nodup_map system.sessions.unique kept stored one
  have distinct : ((system.pairsOf other.id).map Pair.jti).Nodup :=
    sound.jtis.sublist (List.filter_sublist.map Pair.jti)
  rw [chain, List.nodup_append] at distinct
  exact distinct.2.2 _ before _ (List.mem_singleton_self _) rfl

theorem IsRead.of_rows {call : Call} (read : IsRead system call) (rows : ∀ session ∈ system.sessions.rows,
    ∃ left ∈ after.sessions.rows, left.id = session.id ∧ left.userId = session.userId) : IsRead after call := by
  cases call with
  | refreshing jti sessionId userId since =>
      obtain ⟨session, stored, rfl, rfl⟩ := read
      exact rows session stored
  | signingIn userId => trivial
  | revoking ids forced => trivial

theorem Sound.kept (sound : Sound system) (change : Session → Session)
    (same : ∀ session, (change session).id = session.id ∧ (change session).userId = session.userId ∧
      (change session).refreshTokenJti = session.refreshTokenJti)
    (rows : after.sessions.rows = system.sessions.rows.map change) (pairs : after.pairs = system.pairs)
    (calls : ∀ call ∈ after.calls, IsRead system call) : Sound after := by
  have listed : ∀ session ∈ system.sessions.rows,
      ∃ left ∈ after.sessions.rows, left.id = session.id ∧ left.userId = session.userId := by
    intro session stored
    refine ⟨change session, ?_, (same session).1, (same session).2.1⟩
    rw [rows]
    exact List.mem_map_of_mem stored
  refine ⟨pairs ▸ sound.jtis, ?_, ?_, pairs ▸ sound.once, fun call listing => (calls call listing).of_rows listed⟩
  · intro left stored
    rw [rows] at stored
    obtain ⟨session, present, rfl⟩ := List.mem_map.mp stored
    rw [(same session).1, (same session).2.2, System.pairsOf, pairs]
    exact sound.chain session present
  · intro pair issued
    rw [pairs] at issued
    obtain ⟨session, stored, named, owned⟩ := sound.known pair issued
    obtain ⟨left, kept, equal, mine⟩ := listed session stored
    exact ⟨left, kept, equal.trans named, mine.trans owned⟩

theorem Sound.handed (sound : Sound system) {pair : Pair} (pairs : after.pairs = system.pairs ++ [pair])
    (fresh : pair.jti ∉ system.pairs.map Pair.jti)
    (rows : ∀ left ∈ after.sessions.rows, if left.id = pair.sessionId then left.refreshTokenJti = pair.jti ∧
        (system.pairsOf left.id).map Pair.jti = (system.pairsOf left.id).filterMap Pair.presented ++
          pair.presented.toList
      else left ∈ system.sessions.rows)
    (listed : ∀ session ∈ system.sessions.rows,
      ∃ left ∈ after.sessions.rows, left.id = session.id ∧ left.userId = session.userId)
    (owned : ∃ left ∈ after.sessions.rows, left.id = pair.sessionId ∧ left.userId = pair.refresh.sub)
    (unused : ∀ jti ∈ pair.presented, jti ∉ system.pairs.filterMap Pair.presented)
    (calls : ∀ call ∈ after.calls, IsRead system call) : Sound after := by
  refine ⟨?_, ?_, ?_, ?_, fun call listing => (calls call listing).of_rows listed⟩
  · rw [pairs, List.map_append, List.map_singleton, ← List.concat_eq_append]
    exact sound.jtis.concat fresh
  · intro left stored
    have place := rows left stored
    rw [pairsOf_handed pairs]
    split at place
    · next here =>
        rw [if_pos here.symm, List.map_append, List.filterMap_append, place.2, place.1]
        cases given : pair.presented <;> simp [given]
    · next elsewhere =>
        rw [if_neg (Ne.symm elsewhere), List.append_nil]
        exact sound.chain left place
  · intro issued listing
    rw [pairs] at listing
    rcases List.mem_append.mp listing with earlier | last
    · obtain ⟨session, stored, named, mine⟩ := sound.known issued earlier
      obtain ⟨left, kept, equal, same⟩ := listed session stored
      exact ⟨left, kept, equal.trans named, same.trans mine⟩
    · obtain rfl := List.mem_singleton.mp last
      exact owned
  · rw [pairs, List.filterMap_append]
    cases given : pair.presented with
    | none => simpa [given] using sound.once
    | some jti =>
        simp only [List.filterMap_cons, given, List.filterMap_nil]
        rw [← List.concat_eq_append]
        exact sound.once.concat (unused jti given)

theorem Sound.signIn (sound : Sound system) (settings : Settings) {place : Nat} {userId sessionId jti : Uuid}
    {stamp : Instant} (fresh : jti ∉ system.pairs.map Pair.jti)
    (new : sessionId ∉ system.sessions.rows.map Session.id) :
    Sound (system.signIn settings place userId sessionId jti stamp) := by
  have rows : (system.signIn settings place userId sessionId jti stamp).sessions.rows = system.sessions.rows ++
      [⟨sessionId, userId, jti, system.now + micros (settings.refreshTokenExpireDays * 86400), true⟩] := by
    simp [System.signIn, System.hand, Table.insertNew, new]
  have nothing : system.pairsOf sessionId = [] := by
    refine List.filter_eq_nil_iff.mpr fun pair issued mine => ?_
    obtain ⟨session, stored, named, -⟩ := sound.known pair issued
    exact new (List.mem_map.mpr ⟨session, stored, named.trans (of_decide_eq_true mine)⟩)
  refine @Sound.handed system _ sound (createTokenPair settings sessionId none jti userId stamp) rfl fresh
    ?_ ?_ ?_ ?_ ?_
  · intro left stored
    rw [rows] at stored
    rcases List.mem_append.mp stored with earlier | last
    · have apart : left.id ≠ sessionId := fun same => new (same ▸ List.mem_map_of_mem earlier)
      rw [createTokenPair, if_neg apart]
      exact earlier
    · obtain rfl := List.mem_singleton.mp last
      rw [createTokenPair, if_pos rfl, nothing]
      exact ⟨rfl, rfl⟩
  · intro session stored
    rw [rows]
    exact ⟨session, List.mem_append_left _ stored, rfl, rfl⟩
  · rw [rows]
    exact ⟨_, List.mem_append_right _ (List.mem_singleton_self _), rfl, rfl⟩
  · intro other given
    cases given
  · exact fun call listing => sound.read call (List.mem_of_mem_eraseIdx listing)

theorem Sound.rotated (sound : Sound system) (settings : Settings) {place : Nat}
    {presented sessionId userId jti : Uuid} {since stamp : Instant}
    (found : system.calls[place]? = some (.refreshing presented sessionId userId since))
    (fresh : jti ∉ system.pairs.map Pair.jti)
    (hit : system.sessions.rows.any (rotates presented sessionId) = true) :
    Sound (system.rotated settings place presented sessionId userId jti stamp) := by
  obtain ⟨row, stored, passed⟩ := List.any_eq_true.mp hit
  simp only [rotates, Bool.and_eq_true, beq_iff_eq, decide_eq_true_eq] at passed
  obtain ⟨⟨named, token⟩, active⟩ := passed
  have selected : rotates presented sessionId row = true := by simp [rotates, named, token, active]
  obtain ⟨owner, kept, same, mine⟩ := sound.read _ (List.mem_of_getElem? found)
  obtain rfl := List.inj_on_of_nodup_map system.sessions.unique kept stored (same.trans named.symm)
  have identity := fun session => idOf_changeRow (rotates presented sessionId) (rotatedTo jti) session
  refine @Sound.handed system _ sound (createTokenPair settings sessionId (some presented) jti userId stamp) rfl
    fresh ?_ ?_ ?_ ?_ ?_
  · intro left listing
    obtain ⟨session, present, rfl⟩ := List.mem_map.mp listing
    rw [identity]
    by_cases here : session.id = sessionId
    · obtain rfl := List.inj_on_of_nodup_map system.sessions.unique present stored (here.trans named.symm)
      have chain := sound.chain session stored
      rw [token] at chain
      rw [createTokenPair, if_pos here, changeRow, if_pos selected]
      exact ⟨rfl, chain⟩
    · have skipped : rotates presented sessionId session = false := by simp [rotates, here]
      rw [createTokenPair, if_neg here, changeRow, if_neg (by simp [skipped])]
      exact present
  · intro session present
    refine ⟨_, List.mem_map_of_mem present, identity session, ?_⟩
    unfold changeRow
    split <;> rfl
  · refine ⟨_, List.mem_map_of_mem stored, (identity owner).trans same, ?_⟩
    rw [changeRow, if_pos selected]
    exact mine
  · intro other given
    obtain rfl := Option.some.inj given
    exact token ▸ sound.exchanged stored
  · exact fun call listing => sound.read call (List.mem_of_mem_eraseIdx listing)

theorem Sound.revoked (sound : Sound system) {place : Nat} {ids : List Uuid} {forced : Option Uuid}
    {stamp : Instant} : Sound (system.revoked place ids forced stamp) := by
  refine sound.kept (changeRow (fun session : Session => decide (session.id ∈ ids)) deactivated.apply) ?_ rfl rfl
    (fun call listing => sound.read call (List.mem_of_mem_eraseIdx listing))
  intro session
  unfold changeRow
  split <;> exact ⟨rfl, rfl, rfl⟩

theorem sound_step (sound : Sound system) {event : Event} (stepped : step settings system event = some after) :
    Sound after := by
  have same : ∀ after : System, after.sessions = system.sessions → after.pairs = system.pairs →
      (∀ call ∈ after.calls, IsRead system call) → Sound after := by
    intro after sessions pairs calls
    refine sound.kept (fun session => session) (fun _ => ⟨rfl, rfl, rfl⟩) ?_ pairs calls
    rw [sessions, List.map_id']
  cases step_cases stepped with
  | goesOn sessions pairs users later calls =>
      refine same after sessions pairs fun call listing => ?_
      rcases calls call listing with earlier | ⟨jti, begun⟩ | ⟨userId, rfl⟩ | ⟨ids, forced, rfl⟩
      · exact sound.read call earlier
      · exact sound.refreshable begun
      · trivial
      · trivial
  | signedIn fresh new => exact sound.signIn settings fresh new
  | rotated found fresh hit => exact sound.rotated settings found fresh hit
  | revoked found begun => exact sound.revoked
  | activated userId isActive => exact same _ rfl rfl sound.read

end Keeping

/-! ### After a revocation -/

section Ending

variable {settings : Settings} {system after : System}

def System.isOver (system : System) (sessionId : Uuid) : Prop :=
  ∃ session ∈ system.sessions.rows, session.id = sessionId ∧ session.isActive = false

theorem over_step {sessionId : Uuid} (gone : system.isOver sessionId) {event : Event}
    (stepped : step settings system event = some after) :
    after.isOver sessionId ∧ after.pairsOf sessionId = system.pairsOf sessionId := by
  -- A session that is over stays so, and gets no further pair.
  obtain ⟨session, stored, rfl, inactive⟩ := gone
  cases step_cases stepped with
  | goesOn sessions pairs users later calls =>
      refine ⟨⟨session, sessions ▸ stored, rfl, inactive⟩, ?_⟩
      rw [System.pairsOf, pairs, System.pairsOf]
  | @signedIn place userId sessionId jti stamp fresh new =>
      have apart : sessionId ≠ session.id := fun equal => new (equal ▸ List.mem_map_of_mem stored)
      refine ⟨⟨session, ?_, rfl, inactive⟩, ?_⟩
      · simp [System.signIn, System.hand, Table.insertNew, new, stored]
      · rw [@pairsOf_handed system _ _ rfl, createTokenPair, if_neg apart, List.append_nil]
  | @rotated place presented sessionId userId jti since stamp found fresh hit =>
      obtain ⟨row, kept, passed⟩ := List.any_eq_true.mp hit
      simp only [rotates, Bool.and_eq_true, beq_iff_eq, decide_eq_true_eq] at passed
      have apart : sessionId ≠ session.id := by
        intro equal
        obtain rfl := List.inj_on_of_nodup_map system.sessions.unique kept stored (passed.1.1.trans equal)
        rw [passed.2] at inactive
        cases inactive
      refine ⟨⟨_, List.mem_map_of_mem stored, idOf_changeRow _ _ session, ?_⟩, ?_⟩
      · unfold changeRow
        split <;> exact inactive
      · rw [@pairsOf_handed system _ _ rfl, createTokenPair, if_neg apart, List.append_nil]
  | revoked found begun =>
      refine ⟨⟨_, List.mem_map_of_mem stored, idOf_changeRow _ _ session, ?_⟩, rfl⟩
      unfold changeRow
      split
      · rfl
      · exact inactive
  | activated userId isActive => exact ⟨⟨session, stored, rfl, inactive⟩, rfl⟩

/-- All access tokens of the user from before an instant are invalid, and no forced logout of the user that is
under way began before it. -/
structure System.Invalidated (system : System) (userId : Uuid) (instant : Instant) : Prop where
  past : instant ≤ system.now
  marked : ∀ user, system.users.find userId = some user → ∃ mark, user.tokensInvalidatedAt = some mark ∧ instant ≤ mark
  calls : ∀ ids since, Call.revoking ids (some userId) since ∈ system.calls → instant ≤ since

theorem invalidated_step {userId : Uuid} {instant : Instant} (invalid : system.Invalidated userId instant)
    {event : Event} (stepped : step settings system event = some after) : after.Invalidated userId instant := by
  have fewer : ∀ place ids since, Call.revoking ids (some userId) since ∈ system.calls.eraseIdx place →
      instant ≤ since := fun place ids since listing => invalid.calls ids since (List.mem_of_mem_eraseIdx listing)
  cases step_cases stepped with
  | goesOn sessions pairs users later calls =>
      refine ⟨invalid.past.trans later, users ▸ invalid.marked, fun ids since listing => ?_⟩
      rcases calls _ listing with earlier | ⟨jti, begun⟩ | ⟨other, equal⟩ | ⟨others, forced, equal⟩
      · exact invalid.calls ids since earlier
      · obtain ⟨presented, sessionId, owner, read, equal⟩ := refreshable_ok begun
        cases equal
      · cases equal
      · cases equal
        exact invalid.past
  | signedIn fresh new => exact ⟨invalid.past, invalid.marked, fewer _⟩
  | rotated found fresh hit => exact ⟨invalid.past, invalid.marked, fewer _⟩
  | @revoked place ids forced since stamp found begun =>
      refine ⟨invalid.past, fun user known => ?_, fewer _⟩
      simp only [System.revoked, find_updateWhere] at known
      obtain ⟨old, held, rfl⟩ := Option.map_eq_some_iff.mp known
      unfold changeRow
      split
      · next hit =>
          rw [of_decide_eq_true hit, (find_mem _ _ _ held).2] at found
          exact ⟨stamp, rfl, (invalid.calls ids since (List.mem_of_getElem? found)).trans begun⟩
      · exact invalid.marked old held
  | activated other isActive =>
      refine ⟨invalid.past, fun user known => ?_, invalid.calls⟩
      rw [find_updateWhere] at known
      obtain ⟨old, held, rfl⟩ := Option.map_eq_some_iff.mp known
      obtain ⟨mark, kept, later⟩ := invalid.marked old held
      refine ⟨mark, ?_, later⟩
      rw [← kept]
      unfold changeRow
      split <;> rfl

/-- A forced logout invalidates what was issued before it and the others of the user that overlap it began. -/
theorem invalidated_forced {userId : Uuid} {ids : List Uuid} {place : Nat} {instant stamp : Instant}
    (past : instant ≤ system.now) (begun : instant ≤ stamp)
    (calls : ∀ ids since, Call.revoking ids (some userId) since ∈ system.calls → instant ≤ since) :
    (system.revoked place ids (some userId) stamp).Invalidated userId instant := by
  refine ⟨past, fun user known => ?_, fun others since listing => calls others since (List.mem_of_mem_eraseIdx listing)⟩
  simp only [System.revoked, find_updateWhere] at known
  obtain ⟨old, held, rfl⟩ := Option.map_eq_some_iff.mp known
  have named := (find_mem _ _ _ held).2
  rw [changeRow, if_pos (decide_eq_true (by rw [named]))]
  exact ⟨stamp, rfl, begun⟩

theorem authenticates_later {userId : Uuid} {instant : Instant} (invalid : system.Invalidated userId instant)
    {claims : Claims} (sub : claims.sub = userId) (accepted : system.authenticates claims = true) :
    instant ≤ micros claims.iat := by
  obtain ⟨user, known, passed⟩ := (Option.any_eq_true _ _).mp ((Bool.and_eq_true _ _).mp accepted).2
  obtain ⟨mark, held, later⟩ := invalid.marked user (sub ▸ known)
  simp only [held, Option.all_some, Bool.and_eq_true, decide_eq_true_eq] at passed
  exact later.trans passed.2

end Ending

/-! ### Runs -/

section Running

variable {settings : Settings} {start system before after later : System}

theorem sound_reached (sound : Sound start) (reached : Reached (step settings) (fun _ _ => True) start system) :
    Sound system :=
  reached.invariant Sound sound fun _ _ _ kept _ stepped => sound_step kept stepped

theorem over_reached {sessionId : Uuid} (gone : system.isOver sessionId)
    (reached : Reached (step settings) (fun _ _ => True) system later) :
    later.isOver sessionId ∧ later.pairsOf sessionId = system.pairsOf sessionId := by
  refine reached.invariant (fun state => state.isOver sessionId ∧
    state.pairsOf sessionId = system.pairsOf sessionId) ⟨gone, rfl⟩ fun state event next kept _ stepped => ?_
  obtain ⟨still, same⟩ := over_step kept.1 stepped
  exact ⟨still, same.trans kept.2⟩

theorem revoke_ok {place : Nat} {ids : List Uuid} {forced : Option Uuid} {since stamp : Instant}
    (found : before.calls[place]? = some (.revoking ids forced since))
    (stepped : step settings before (.revoke place stamp) = some after) :
    after = before.revoked place ids forced stamp ∧ since ≤ stamp ∧ stamp ≤ before.now := by
  simp only [step, found] at stepped
  split at stepped
  · next passed =>
      simp only [Bool.and_eq_true, decide_eq_true_eq] at passed
      exact ⟨(Option.some.inj stepped).symm, passed⟩
  · cases stepped

theorem over_revoked {place : Nat} {ids : List Uuid} {forced : Option Uuid} {stamp : Instant} {session : Session}
    (stored : session ∈ before.sessions.rows) (listed : session.id ∈ ids) :
    (before.revoked place ids forced stamp).isOver session.id := by
  refine ⟨changeRow (fun session => decide (session.id ∈ ids)) deactivated.apply session,
    List.mem_map_of_mem stored, idOf_changeRow _ _ session, ?_⟩
  rw [changeRow, if_pos (decide_eq_true listed)]
  rfl

theorem stays_step {sessionId : Uuid} (stored : sessionId ∈ system.sessions.rows.map Session.id) {event : Event}
    (stepped : step settings system event = some after) : sessionId ∈ after.sessions.rows.map Session.id := by
  obtain ⟨session, listed, rfl⟩ := List.mem_map.mp stored
  cases step_cases stepped with
  | goesOn sessions pairs users later calls =>
      rw [sessions]
      exact stored
  | signedIn fresh new => simp [System.signIn, System.hand, Table.insertNew, new, stored]
  | rotated found fresh hit =>
      exact List.mem_map.mpr ⟨_, List.mem_map_of_mem listed, idOf_changeRow _ _ session⟩
  | revoked found begun => exact List.mem_map.mpr ⟨_, List.mem_map_of_mem listed, idOf_changeRow _ _ session⟩
  | activated userId isActive => exact stored

theorem stays_reached {sessionId : Uuid} (stored : sessionId ∈ system.sessions.rows.map Session.id)
    (reached : Reached (step settings) (fun _ _ => True) system later) :
    sessionId ∈ later.sessions.rows.map Session.id :=
  reached.invariant (fun state => sessionId ∈ state.sessions.rows.map Session.id) stored
    fun _ _ _ kept _ stepped => stays_step kept stepped

theorem over_listed {place : Nat} {ids : List Uuid} {forced : Option Uuid} {since stamp : Instant} {sessionId : Uuid}
    (stored : sessionId ∈ system.sessions.rows.map Session.id) (listed : sessionId ∈ ids)
    (waited : Reached (step settings) (fun _ _ => True) system before)
    (found : before.calls[place]? = some (.revoking ids forced since))
    (stepped : step settings before (.revoke place stamp) = some after) : after.isOver sessionId := by
  obtain ⟨session, kept, rfl⟩ := List.mem_map.mp (stays_reached stored waited)
  obtain ⟨rfl, -⟩ := revoke_ok found stepped
  exact over_revoked kept listed

theorem selected_stored {selection : Selection} {sessionId : Uuid} (listed : sessionId ∈ system.selected selection) :
    sessionId ∈ system.sessions.rows.map Session.id := by
  cases selection with
  | token jti =>
      obtain ⟨pair, -, read⟩ := List.mem_flatMap.mp listed
      obtain ⟨session, found, rfl⟩ := List.mem_map.mp read
      exact List.mem_map_of_mem (List.mem_of_find?_eq_some (Option.mem_toList.mp found))
  | session id =>
      obtain ⟨session, found, rfl⟩ := List.mem_map.mp listed
      exact List.mem_map_of_mem (find_mem _ _ _ (Option.mem_toList.mp found)).1
  | user id forced =>
      obtain ⟨session, kept, rfl⟩ := List.mem_map.mp listed
      exact List.mem_map_of_mem (List.mem_filter.mp kept).1

theorem over_user {place : Nat} {userId : Uuid} {forced : Bool} {caller : Option Uuid} {since stamp : Instant}
    {session : Session} (stored : session ∈ system.sessions.rows) (owned : session.userId = userId)
    (waited : Reached (step settings) (fun _ _ => True) system before)
    (found : before.calls[place]? = some (.revoking (system.selected (.user userId forced)) caller since))
    (stepped : step settings before (.revoke place stamp) = some after) : after.isOver session.id := by
  -- A revocation of all of a user's sessions ends every one that there was when it began.
  by_cases active : session.isActive = true
  · have listed : session.id ∈ system.selected (.user userId forced) :=
      List.mem_map_of_mem (List.mem_filter.mpr ⟨stored, by simp [owned, active]⟩)
    exact over_listed (List.mem_map_of_mem stored) listed waited found stepped
  · have gone : system.isOver session.id := ⟨session, stored, rfl, Bool.eq_false_iff.mpr active⟩
    exact (over_step (over_reached gone waited).1 stepped).1

theorem invalidated_reached {userId : Uuid} {instant : Instant} (invalid : after.Invalidated userId instant)
    (reached : Reached (step settings) (fun _ _ => True) after later) : later.Invalidated userId instant :=
  reached.invariant (fun state => state.Invalidated userId instant) invalid
    fun _ _ _ kept _ stepped => invalidated_step kept stepped

/-- Every refresh token is exchanged at most once, and the pairs of a session are one chain, whose last token the
row has. A revocation that commits in any later state ends all sessions that it listed, of a user all that there
were, and they get no pair from then on; a forced one moreover ends every access token of the user that is older
than it and the forced logouts of the same user that overlap it. -/
theorem revoked_sessions_stay_over (sound : Sound start)
    (reached : Reached (step settings) (fun _ _ => True) start system) :
    (system.pairs.filterMap Pair.presented).Nodup ∧
      (∀ session ∈ system.sessions.rows, (system.pairsOf session.id).map Pair.jti =
        (system.pairsOf session.id).filterMap Pair.presented ++ [session.refreshTokenJti]) ∧
      ∀ (selection : Selection) (before after later : System) (place : Nat) (stamp : Instant),
        Reached (step settings) (fun _ _ => True) system before →
        before.calls[place]? = some (.revoking (system.selected selection) selection.forced system.now) →
        step settings before (.revoke place stamp) = some after →
        Reached (step settings) (fun _ _ => True) after later →
        (∀ sessionId, sessionId ∈ system.selected selection ∨ (∃ session ∈ system.sessions.rows,
            ∃ forced, session.id = sessionId ∧ selection = .user session.userId forced) →
          later.isOver sessionId ∧ later.pairsOf sessionId = after.pairsOf sessionId) ∧
        ∀ userId instant, selection.forced = some userId →
          (∀ ids since, Call.revoking ids (some userId) since ∈ before.calls → instant ≤ since) →
          ∀ claims : Claims, claims.sub = userId → later.authenticates claims = true → instant ≤ micros claims.iat := by
  have kept := sound_reached sound reached
  refine ⟨kept.once, kept.chain, fun selection before after later place stamp waited found stepped ran => ⟨?_, ?_⟩⟩
  · intro sessionId meant
    refine over_reached (?_ : after.isOver sessionId) ran
    rcases meant with listed | ⟨session, stored, forced, rfl, rfl⟩
    · exact over_listed (selected_stored listed) listed waited found stepped
    · exact over_user stored rfl waited found stepped
  · intro userId instant forced calls claims sub accepted
    rw [forced] at found
    obtain ⟨rfl, begun, past⟩ := revoke_ok found stepped
    have early := calls _ _ (List.mem_of_getElem? found)
    have invalid := @invalidated_forced before userId (system.selected selection) place instant stamp
      ((early.trans begun).trans past) (early.trans begun) calls
    exact authenticates_later (invalidated_reached invalid ran) sub accepted

def System.started (users : Table User.id) : System := ⟨0, users, ⟨[], .nil⟩, [], []⟩

theorem sound_started (users : Table User.id) : Sound (.started users) where
  jtis := .nil
  chain := by simp [System.started]
  known := by simp [System.started]
  once := .nil
  read := by simp [System.started]

/-- A login, two refreshes with one token, of which the second to write is refused, and then a forced logout. -/
theorem revoked_sessions_stay_over_forced : ∃ system later : System,
    system.pairs.filterMap Pair.presented = [7] ∧ later.isOver 1 ∧ later.pairsOf 1 = system.pairsOf 1 ∧
      ∀ claims : Claims, claims.sub = 0 → later.authenticates claims = true → 5000000 ≤ micros claims.iat := by
  let start := System.started ⟨[⟨0, true, none⟩], by decide⟩
  obtain ⟨system, reached, seen⟩ := @run_observed System Event (fun _ _ => True) (step ⟨15, 7⟩) start
    (fun _ _ => true)
    (fun system => system.now = 5000000 && system.calls = [] && system.selected (.user 0 true) = [1] &&
      system.pairs.filterMap Pair.presented = [7])
    (fun _ _ _ => trivial)
    [.beginLogin 0, .login 0 1 7 0, .elapse 5000000, .beginRefresh 7, .beginRefresh 7, .rotate 1 8 5000000,
      .rotate 0 9 5000000] (by decide +kernel)
  simp only [Bool.and_eq_true, decide_eq_true_eq] at seen
  obtain ⟨⟨⟨now, idle⟩, listed⟩, exchanged⟩ := seen
  let before : System := { system with calls := [.revoking [1] (some 0) 5000000] }
  have begun : step ⟨15, 7⟩ system (.beginRevocation (.user 0 true)) = some before := by
    simp only [step, before, now, idle, listed, Selection.forced, List.nil_append]
  have stepped : step ⟨15, 7⟩ before (.revoke 0 5000000) = some (before.revoked 0 [1] (some 0) 5000000) := by
    simp [step, before, now]
  have stays := (revoked_sessions_stay_over (sound_started _) reached).2.2 (.user 0 true) before _ _ 0 5000000
    (.next .start trivial begun) (by rw [listed, now]; rfl) stepped .start
  obtain ⟨gone, same⟩ := stays.1 1 (.inl (listed ▸ List.mem_singleton_self 1))
  refine ⟨system, _, exchanged, gone, same, stays.2 0 5000000 rfl ?_⟩
  intro ids since underWay
  simp only [before, List.mem_singleton, Call.revoking.injEq] at underWay
  exact underWay.2.2.ge

end Running

end CloudGuest.Auth
