import CloudGuest.Library.Calls
import CloudGuest.Library.Counters
import CloudGuest.Library.Runs

/-!
How many codes an identifier may ask for (otp/service.py, `OtpRateLimiter
.check_and_increment`). Each Redis command is a step of its own, any number of
requests are under way, and each may stop between two commands. The limit holds in
every run, since one command both counts and answers; the expiry is a second
command, and a request that stops before it leaves a key that never expires.
-/

namespace CloudGuest.OtpRateLimiter
open Calls Counters Runs

/-- What `INCR` answered, and in which life of the key: it begins where there was none. -/
structure Ticket where
  window : Nat
  current : Nat
  deriving DecidableEq

/-- A request that was counted; the first of a window is to set the expiry before it goes on. -/
structure Counted where
  ticket : Ticket
  expires : Bool
  deriving DecidableEq

structure System where
  store : Store
  windows : Nat
  requests : List Counted
  admitted : List Ticket
  /-- The seconds that `OtpRequestRateLimitExceededError` names. -/
  refused : List Nat
  deriving DecidableEq

def System.started (now : Nat) : System := ⟨⟨now, none⟩, 0, [], [], []⟩

inductive Action where
  | incr
  | expire (request : Nat)
  | answer (request : Nat)
  | stop (request : Nat)
  | elapse (seconds : Nat)
  deriving DecidableEq

def System.window (system : System) : Nat :=
  if system.store.entry.isNone then system.windows + 1 else system.windows

def System.ticket (system : System) : Ticket := ⟨system.window, system.store.incr.count⟩

variable (maxRequests windowMinutes : Nat)

def step (system : System) : Action → Option System
  | .incr =>
      some { system with
        store := system.store.incr
        windows := system.window
        requests := system.requests ++ [⟨system.ticket, system.ticket.current == 1⟩] }
  | .expire place =>
      (system.requests[place]?).bind fun request =>
        if request.expires then
          some { system with
            store := system.store.expire (windowMinutes * 60)
            requests := system.requests.set place { request with expires := false } }
        else none
  | .answer place =>
      (system.requests[place]?).bind fun request =>
        if request.expires then none
        else
          let ended := { system with requests := system.requests.eraseIdx place }
          if maxRequests < request.ticket.current then
            some { ended with
              refused := system.refused ++ [system.store.retryAfter (windowMinutes * 60)] }
          else some { ended with admitted := system.admitted ++ [request.ticket] }
  | .stop place => some { system with requests := system.requests.eraseIdx place }
  | .elapse seconds => some { system with store := system.store.elapse seconds }

/-- A request that stops leaves a key with an expiry, or another request that is to set it. -/
def calm (system : System) : Action → Bool
  | .stop place =>
      system.store.entry.all (·.expiresAt.isSome) ||
        (system.requests.eraseIdx place).any Counted.expires
  | _ => true

def System.admittedIn (system : System) (window : Nat) : Nat :=
  system.admitted.countP fun ticket => ticket.window = window

/-! ### The limit -/

def System.tickets (system : System) : List Ticket :=
  system.admitted ++ system.requests.map Counted.ticket

/-- No ticket is handed out twice, the next one is new, and those admitted are within the limit. -/
structure Sound (system : System) : Prop where
  distinct : system.tickets.Nodup
  issued : ∀ ticket ∈ system.tickets, ticket.window ≤ system.windows ∧ 1 ≤ ticket.current
  counted : ∀ ticket ∈ system.tickets, ticket.window = system.windows →
    system.store.entry.isSome → ticket.current ≤ system.store.count
  admitted : ∀ ticket ∈ system.admitted, ticket.current ≤ maxRequests

theorem sound_started (now : Nat) : Sound maxRequests (System.started now) := by
  constructor <;> simp [System.started, System.tickets]

theorem sound_fewer (system next : System) (sound : Sound maxRequests system)
    (fewer : next.tickets.Subperm system.tickets) (windows : next.windows = system.windows)
    (store : next.store = system.store)
    (admitted : ∀ ticket ∈ next.admitted, ticket.current ≤ maxRequests) :
    Sound maxRequests next := by
  have among := fewer.subset
  constructor
  case distinct =>
    obtain ⟨part, same, within⟩ := fewer
    exact same.nodup_iff.mp (sound.distinct.sublist within)
  case issued =>
    intro ticket member
    rw [windows]
    exact sound.issued ticket (among member)
  case counted =>
    intro ticket member
    rw [windows, store]
    exact sound.counted ticket (among member)
  case admitted => exact admitted

theorem sound_store (system : System) (sound : Sound maxRequests system) (store : Store)
    (kept : store.entry.isSome → system.store.entry.isSome ∧ system.store.count = store.count) :
    Sound maxRequests { system with store } := by
  -- Redis commands other than `INCR` neither make a key nor take from its count while it lives.
  refine ⟨sound.distinct, sound.issued, ?_, sound.admitted⟩
  intro ticket member current present
  obtain ⟨before, same⟩ := kept present
  have counted := sound.counted ticket member current before
  rwa [same] at counted

theorem ticket_unused (system : System) (sound : Sound maxRequests system) :
    ∀ ticket ∈ system.tickets, ticket.window < system.window ∨
      ticket.window = system.window ∧ ticket.current < system.ticket.current := by
  intro ticket member
  have issued := (sound.issued ticket member).1
  unfold System.window
  cases held : system.store.entry with
  | none => exact Or.inl (Nat.lt_succ_of_le issued)
  | some entry =>
      rcases Nat.lt_or_eq_of_le issued with earlier | same
      · exact Or.inl earlier
      · have counted := sound.counted ticket member same (by simp [held])
        refine Or.inr ⟨same, ?_⟩
        simp only [System.ticket, count_incr]
        omega

theorem tickets_incr (system : System) (expires : Bool) :
    System.tickets { system with
      store := system.store.incr
      windows := system.window
      requests := system.requests ++ [⟨system.ticket, expires⟩] } =
    system.tickets ++ [system.ticket] := by
  simp [System.tickets]

theorem sound_incr (system : System) (sound : Sound maxRequests system) (expires : Bool) :
    Sound maxRequests { system with
      store := system.store.incr
      windows := system.window
      requests := system.requests ++ [⟨system.ticket, expires⟩] } := by
  have unused := ticket_unused maxRequests system sound
  constructor
  case distinct =>
    rw [tickets_incr]
    refine List.nodup_append.mpr ⟨sound.distinct, List.nodup_singleton _, ?_⟩
    intro ticket member other last same
    obtain rfl := List.mem_singleton.mp last
    subst same
    -- the window of an unused ticket is new, or its number is
    rcases unused _ member with earlier | ⟨-, counted⟩
    · exact Nat.lt_irrefl _ earlier
    · exact Nat.lt_irrefl _ counted
  case issued =>
    rw [tickets_incr]
    refine each_started ?_ ⟨le_refl _, by simp [System.ticket]⟩
    intro ticket member
    refine ⟨?_, (sound.issued ticket member).2⟩
    rcases unused ticket member with earlier | ⟨same, -⟩
    · exact Nat.le_of_lt earlier
    · exact Nat.le_of_eq same
  case counted =>
    rw [tickets_incr]
    refine each_started ?_ fun _ _ => le_refl _
    intro ticket member current _
    rcases unused ticket member with earlier | ⟨-, counted⟩
    · exact absurd current (Nat.ne_of_lt earlier)
    · exact Nat.le_of_lt counted
  case admitted => exact sound.admitted

theorem tickets_ended (system : System) {place : Nat} {request : Counted}
    (found : system.requests[place]? = some request) :
    ((system.admitted ++ [request.ticket]) ++
      (system.requests.eraseIdx place).map Counted.ticket).Perm system.tickets := by
  obtain ⟨within, rfl⟩ := List.getElem?_eq_some_iff.mp found
  rw [List.append_assoc]
  refine List.Perm.append_left _ ?_
  exact (List.getElem_cons_eraseIdx_perm within).map Counted.ticket

theorem sound_step (system next : System) (action : Action) (sound : Sound maxRequests system)
    (stepped : step maxRequests windowMinutes system action = some next) :
    Sound maxRequests next := by
  cases action with
  | incr =>
      cases stepped
      exact sound_incr maxRequests system sound _
  | expire place =>
      obtain ⟨request, found, stepped⟩ := Option.bind_eq_some_iff.mp stepped
      split at stepped
      · cases stepped
        have kept : (system.requests.set place { request with expires := false }).map
            Counted.ticket = system.requests.map Counted.ticket :=
          read_continued Counted.ticket found rfl
        refine sound_store maxRequests { system with
          requests := system.requests.set place { request with expires := false } } ?_ _ ?_
        · refine sound_fewer maxRequests system _ sound ?_ rfl rfl sound.admitted
          simp only [System.tickets, kept]
          exact List.Subperm.refl _
        · intro present
          cases held : system.store.entry with
          | none => simp [Store.expire, held] at present
          | some entry =>
              by_cases zero : windowMinutes * 60 = 0
              · simp [Store.expire, held, zero] at present
              · simp [Store.expire, Store.count, Store.get, held, zero]
      · cases stepped
  | answer place =>
      obtain ⟨request, found, stepped⟩ := Option.bind_eq_some_iff.mp stepped
      split at stepped
      · cases stepped
      · dsimp only at stepped
        by_cases exceeded : maxRequests < request.ticket.current
        · rw [if_pos exceeded] at stepped
          cases stepped
          refine sound_fewer maxRequests system _ sound ?_ rfl rfl sound.admitted
          exact (((List.eraseIdx_sublist _ place).map Counted.ticket).append_left _).subperm
        · rw [if_neg exceeded] at stepped
          cases stepped
          refine sound_fewer maxRequests system _ sound ?_ rfl rfl ?_
          · exact (tickets_ended system found).subperm
          · exact each_started sound.admitted (Nat.le_of_not_lt exceeded)
  | stop place =>
      cases stepped
      refine sound_fewer maxRequests system _ sound ?_ rfl rfl sound.admitted
      exact (((List.eraseIdx_sublist _ place).map Counted.ticket).append_left _).subperm
  | elapse seconds =>
      cases stepped
      refine sound_store maxRequests system sound _ ?_
      intro present
      obtain ⟨entry, kept⟩ := Option.isSome_iff_exists.mp present
      have held := (Option.filter_eq_some_iff.mp kept).1
      simp [Store.count, Store.get, held, kept]

theorem requests_limited (now : Nat) (system : System)
    (reached : Reached (step maxRequests windowMinutes) (fun _ _ => True) (System.started now) system)
    (window : Nat) : system.admittedIn window ≤ maxRequests := by
  have sound : Sound maxRequests system := by
    refine Reached.invariant (Sound maxRequests) (sound_started maxRequests now) ?_ reached
    intro state action next held _ stepped
    exact sound_step maxRequests windowMinutes state next action held stepped
  have distinct : (system.admitted.filter fun ticket => ticket.window = window).Nodup :=
    (sound.distinct.sublist (List.sublist_append_left _ _)).filter _
  have numbers : ((system.admitted.filter fun ticket => ticket.window = window).map
      Ticket.current).Nodup := by
    refine List.Nodup.map_on ?_ distinct
    intro ticket member other another same
    have here := (List.mem_filter.mp member).2
    have there := (List.mem_filter.mp another).2
    simp only [decide_eq_true_eq] at here there
    cases ticket
    cases other
    simp_all
  have fewer := tickets_limited numbers maxRequests ?_
  · rwa [List.length_map, ← List.countP_eq_length_filter] at fewer
  · intro number member
    obtain ⟨ticket, among, rfl⟩ := List.mem_map.mp member
    have held := (List.mem_filter.mp among).1
    exact ⟨(sound.issued ticket (List.mem_append_left _ held)).2, sound.admitted ticket held⟩

/-! ### The expiry -/

def System.expiring (system : System) : Nat := system.requests.countP Counted.expires

structure Expires (system : System) : Prop where
  guarded : Guarded (windowMinutes * 60) system.expiring system.store
  refused : ∀ seconds ∈ system.refused, seconds ≤ windowMinutes * 60

theorem expires_step (system next : System) (action : Action)
    (held : Expires windowMinutes system) (calmly : calm system action = true)
    (stepped : step maxRequests windowMinutes system action = some next) :
    Expires windowMinutes next := by
  cases action with
  | incr =>
      cases stepped
      refine ⟨?_, held.refused⟩
      unfold System.expiring
      rw [counted_started]
      refine guarded_incr held.guarded ?_ (Nat.le_add_right _ _)
      intro absent
      simp [System.expiring, System.ticket, absent]
  | expire place =>
      obtain ⟨request, found, stepped⟩ := Option.bind_eq_some_iff.mp stepped
      split at stepped
      · cases stepped
        exact ⟨guarded_expire _ _ _, held.refused⟩
      · cases stepped
  | answer place =>
      obtain ⟨request, found, stepped⟩ := Option.bind_eq_some_iff.mp stepped
      split at stepped
      · cases stepped
      · rename_i settled
        have others := counted_ended Counted.expires found
        simp only [settled, Bool.toNat_false, Nat.add_zero] at others
        have guarded : Guarded (windowMinutes * 60)
            ((system.requests.eraseIdx place).countP Counted.expires) system.store := by
          rw [others]
          exact held.guarded
        dsimp only at stepped
        split at stepped
        · cases stepped
          exact ⟨guarded, each_started held.refused (retryAfter_le held.guarded)⟩
        · cases stepped
          exact ⟨guarded, held.refused⟩
  | stop place =>
      cases stepped
      refine ⟨guarded_pending held.guarded ?_, held.refused⟩
      intro entry present undated
      have dated : system.store.entry.all (·.expiresAt.isSome) = false := by
        rw [show system.store.entry = some entry from present]
        simp [undated]
      simp only [calm, dated, Bool.false_or] at calmly
      exact List.countP_pos_iff.mpr (List.any_eq_true.mp calmly)
  | elapse seconds =>
      cases stepped
      exact ⟨guarded_elapse held.guarded seconds, held.refused⟩

/-- While no request stops as the last one that would set it, the key has an expiry or a request
is on its way to set it. -/
theorem key_expires (now : Nat) (system : System)
    (reached : Reached (step maxRequests windowMinutes)
      (fun system action => calm system action = true) (System.started now) system) :
    Expires windowMinutes system := by
  refine Reached.invariant (Expires windowMinutes) ⟨guarded_absent rfl, by simp [System.started]⟩
    ?_ reached
  intro state action next held calmly stepped
  exact expires_step maxRequests windowMinutes state next action held calmly stepped

end CloudGuest.OtpRateLimiter
