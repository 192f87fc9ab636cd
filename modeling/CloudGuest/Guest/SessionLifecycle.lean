import CloudGuest.Guest.SessionWrites
import CloudGuest.Library.Calls
import CloudGuest.Library.Runs

/-!
The status of a guest session under all its writers at once. Each checks the status
it read and writes later, whatever the row has become meanwhile: no row lock is taken
before the read, and no version is asked for in the UPDATE. So a late write can take
a session out of a terminal status, or bring one back that has ended.
-/

namespace CloudGuest.SessionLifecycle
open Calls Guest Runs Texts
open GuestTeams (GuestSessionStatus guestSessionStatusTransitions)

structure Call where
  operation : Operation
  found : GuestSession
  readAt : Int
  deriving DecidableEq

/-- The row, how many writes have named its `ended_at`, and the operations under way. -/
structure System where
  row : GuestSession
  endings : Nat
  calls : List Call
  deriving DecidableEq

def System.started (row : GuestSession) : System :=
  ⟨{ row with status := .active, endedAt := none }, 0, []⟩

inductive Action where
  /-- An operation that its check turns away leaves no trace. -/
  | read (operation : Operation) (now : Int)
  | write (call : Nat) (now : Int)
  | abort (call : Nat)
  deriving DecidableEq

def Call.update (call : Call) (row : GuestSession) (now : Int) : Update :=
  call.operation.update call.found call.readAt row now

def step (system : System) : Action → Option System
  | .read operation now =>
      if operation.admits system.row now then
        some { system with calls := system.calls ++ [⟨operation, system.row, now⟩] }
      else some system
  | .write place now =>
      (system.calls[place]?).map fun call =>
        let update := call.update system.row now
        { row := updateSession system.row update
          endings := system.endings + update.endedAt.isSome.toNat
          calls := system.calls.eraseIdx place }
  | .abort place => some { system with calls := system.calls.eraseIdx place }

/-- The step changes the status along the graph, and nothing of how a session ended. -/
def Lawful (taken : Taken System Action) : Prop :=
  let before := taken.before.row
  let after := taken.after.row
  (after.status ≠ before.status →
    after.status ∈ guestSessionStatusTransitions before.status) ∧
  (isTerminal before.status = true →
    after.status = before.status ∧ after.endedAt = before.endedAt)

/-- `ended_at` is set exactly where the status is terminal, and was written once. -/
structure Ended (system : System) : Prop where
  set : system.row.endedAt.isSome = isTerminal system.row.status
  once : system.endings = (isTerminal system.row.status).toNat

/-- A status lands where the graph leads to it, or where it is already and the session goes on. -/
def lands (current target : GuestSessionStatus) : Bool :=
  validateSessionStatusTransition current target || (current = target && !isTerminal target)

/-- A write that names a status finds the row in one from which that status lands. -/
def calm (system : System) : Action → Bool
  | .write place now =>
      (system.calls[place]?).all fun call =>
        (call.update system.row now).status.all fun target => lands system.row.status target
  | _ => true

/-! ### One step -/

theorem update_names (call : Call) (row : GuestSession) (now : Int)
    (admitted : call.operation.admits call.found call.readAt = true) :
    (call.update row now).Ends ∧ ∀ target, (call.update row now).status = some target →
      validateSessionStatusTransition call.found.status target = true ∨
      validateSessionStatusTransition row.status target = true := by
  -- Every status an operation writes is an edge from the status it read, or from the one the row
  -- has at the write.
  obtain ⟨operation, found, readAt⟩ := call
  cases operation with
  | disconnect reason =>
      refine ⟨ending_ends _ _ _ rfl, ?_⟩
      rintro target ⟨⟩
      exact Or.inl admitted
  | terminate reason =>
      refine ⟨ending_ends _ _ _ rfl, ?_⟩
      rintro target ⟨⟩
      exact Or.inl admitted
  | pause reason =>
      refine ⟨rfl, ?_⟩
      rintro target ⟨⟩
      exact Or.inl admitted
  | resume =>
      refine ⟨rfl, ?_⟩
      rintro target ⟨⟩
      exact Or.inl admitted
  | extend additionalMinutes =>
      refine ⟨rfl, ?_⟩
      rintro target ⟨⟩
  | recordUsage uploadedDelta downloadedDelta answers =>
      obtain ⟨ends, named⟩ := recordUsage_names found row uploadedDelta downloadedDelta answers now
      refine ⟨ends, ?_⟩
      intro target written
      rcases named with nothing | expired
      · exact absurd (nothing.symm.trans written) (by simp)
      · obtain rfl := Option.some.inj (expired.symm.trans written)
        left
        have active : found.status = .active := of_decide_eq_true admitted
        rw [active]
        rfl
  | accountingStop uploadedTotal downloadedTotal isNasOnly disconnectReason =>
      obtain ⟨ends, named⟩ := accountingStop_names found row uploadedTotal downloadedTotal isNasOnly
        disconnectReason now
      refine ⟨ends, ?_⟩
      intro target written
      rcases named with nothing | ⟨disconnected, active | active⟩
      · exact absurd (nothing.symm.trans written) (by simp)
      · obtain rfl := Option.some.inj (disconnected.symm.trans written)
        right
        rw [active]
        rfl
      · obtain rfl := Option.some.inj (disconnected.symm.trans written)
        left
        dsimp only
        rw [active]
        rfl
  | enforceTimeouts answers =>
      refine ⟨ending_ends _ _ _ rfl, ?_⟩
      rintro target ⟨⟩
      left
      simp only [Operation.admits, isListedTimedOut, GuestSession.isActive, Bool.and_eq_true,
        decide_eq_true_eq] at admitted
      dsimp only
      rw [admitted.1.1]
      rfl
  | closeForNasRestart reason =>
      refine ⟨ending_ends _ _ _ rfl, ?_⟩
      rintro target ⟨⟩
      left
      have active : found.status = .active := of_decide_eq_true admitted
      rw [active]
      rfl

structure Sound (system : System) : Prop where
  admitted : ∀ call ∈ system.calls, call.operation.admits call.found call.readAt = true

theorem sound_step (system next : System) (action : Action) (sound : Sound system)
    (stepped : step system action = some next) : Sound next := by
  cases action with
  | read operation now =>
      simp only [step] at stepped
      split at stepped
      · rename_i admitted
        cases stepped
        exact ⟨each_started sound.admitted admitted⟩
      · cases stepped
        exact sound
  | write place now =>
      obtain ⟨call, found, written⟩ := Option.map_eq_some_iff.mp stepped
      subst written
      exact ⟨each_ended sound.admitted place⟩
  | abort place =>
      cases stepped
      exact ⟨each_ended sound.admitted place⟩

structure Written (system next : System) (target : GuestSessionStatus) : Prop where
  status : next.row.status = target
  endedAt : isTerminal target = false → next.row.endedAt = system.row.endedAt
  set : isTerminal target = true → next.row.endedAt.isSome = true
  endings : next.endings = system.endings + (isTerminal target).toNat

theorem step_cases (system next : System) (action : Action) (sound : Sound system)
    (stepped : step system action = some next) :
    (calm system action = true ∧ next.row.status = system.row.status ∧
      next.row.endedAt = system.row.endedAt ∧ next.endings = system.endings) ∨
    ∃ target, Written system next target ∧ calm system action = lands system.row.status target := by
  cases action with
  | read operation now =>
      simp only [step] at stepped
      split at stepped
      · cases stepped
        exact Or.inl ⟨rfl, rfl, rfl, rfl⟩
      · cases stepped
        exact Or.inl ⟨rfl, rfl, rfl, rfl⟩
  | write place now =>
      obtain ⟨call, found, written⟩ := Option.map_eq_some_iff.mp stepped
      subst written
      have ends := (update_names call system.row now (found_holds sound.admitted found)).1
      cases named : (call.update system.row now).status with
      | none =>
          rw [Update.Ends, named, Option.any_none] at ends
          have absent : (call.update system.row now).endedAt = none := by simpa using ends
          left
          simp [calm, found, named, updateSession, absent]
      | some target =>
          rw [Update.Ends, named, Option.any_some] at ends
          right
          refine ⟨target, ⟨?_, ?_, ?_, ?_⟩, ?_⟩
          · simp [updateSession, named]
          · intro goesOn
            rw [goesOn] at ends
            have absent : (call.update system.row now).endedAt = none := by simpa using ends
            simp [updateSession, absent]
          · intro terminal
            rw [terminal] at ends
            obtain ⟨moment, given⟩ := Option.isSome_iff_exists.mp ends
            simp [updateSession, given]
          · rw [← ends]
          · simp [calm, found, named]
  | abort place =>
      cases stepped
      exact Or.inl ⟨rfl, rfl, rfl, rfl⟩

theorem lands_cases {current target : GuestSessionStatus} (landed : lands current target = true) :
    isTerminal current = false ∧
      (target = current ∨ target ∈ guestSessionStatusTransitions current) := by
  cases current <;> cases target <;> revert landed <;> decide

theorem terminal_of_astray {current target : GuestSessionStatus}
    (astray : lands current target = false) :
    target ∉ guestSessionStatusTransitions current ∧
      (target = current → isTerminal current = true) := by
  cases current <;> cases target <;> revert astray <;> decide

theorem calm_step (system next : System) (action : Action) (sound : Sound system)
    (ended : Ended system) (calmly : calm system action = true)
    (stepped : step system action = some next) :
    Ended next ∧ Lawful ⟨system, action, next⟩ := by
  rcases step_cases system next action sound stepped with
    ⟨-, status, endedAt, endings⟩ | ⟨target, written, landed⟩
  · refine ⟨⟨?_, ?_⟩, ?_, ?_⟩
    · rw [status, endedAt]
      exact ended.set
    · rw [status, endings]
      exact ended.once
    · exact fun changed => absurd status changed
    · exact fun _ => ⟨status, endedAt⟩
  · rw [calmly] at landed
    obtain ⟨live, reached⟩ := lands_cases landed.symm
    have unset : system.row.endedAt.isSome = false := ended.set.trans live
    have unended : system.endings = 0 := by
      rw [ended.once, live]
      rfl
    refine ⟨⟨?_, ?_⟩, ?_, ?_⟩
    · rw [written.status]
      cases terminal : isTerminal target with
      | false =>
          rw [written.endedAt terminal]
          exact unset
      | true => exact written.set terminal
    · rw [written.status, written.endings, unended, Nat.zero_add]
    · intro changed
      dsimp only at changed ⊢
      rw [written.status] at changed ⊢
      exact reached.resolve_left changed
    · intro terminal
      exact absurd (live.symm.trans terminal) (by decide)

theorem astray_step (system next : System) (action : Action) (sound : Sound system)
    (ended : Ended system) (wrongly : calm system action = false)
    (stepped : step system action = some next) :
    ¬ (Ended next ∧ Lawful ⟨system, action, next⟩) := by
  rintro ⟨endedAgain, lawful⟩
  rcases step_cases system next action sound stepped with ⟨calmly, -⟩ | ⟨target, written, landed⟩
  · exact absurd (calmly.symm.trans wrongly) (by decide)
  · rw [wrongly] at landed
    obtain ⟨noEdge, again⟩ := terminal_of_astray landed.symm
    by_cases same : target = system.row.status
    · -- the session had ended, and its `ended_at` is written a second time
      have terminal := again same
      subst same
      have once := endedAgain.once
      rw [written.endings, written.status, ended.once, terminal] at once
      exact absurd once (by decide)
    · have changed := lawful.1
      dsimp only at changed
      rw [written.status] at changed
      exact noEdge (changed same)

theorem unmoved_calm (system : System) (sound : Sound system) (place : Nat) (now : Int)
    (call : Call) (found : system.calls[place]? = some call)
    (unmoved : system.row.status = call.found.status) : calm system (.write place now) = true := by
  have named := (update_names call system.row now (found_holds sound.admitted found)).2
  simp only [calm, found, Option.all_some]
  cases written : (call.update system.row now).status with
  | none => rfl
  | some target =>
      have edge := named target written
      rw [← unmoved, or_self] at edge
      simp [lands, edge]

/-! ### Every run -/

theorem sound_reached {admitted : System → Action → Prop} (row : GuestSession) (system : System)
    (reached : Reached step admitted (System.started row) system) : Sound system := by
  refine Reached.invariant Sound ⟨by simp [System.started]⟩ ?_ reached
  intro state action next sound _ stepped
  exact sound_step state next action sound stepped

theorem ended_reached (row : GuestSession) (system : System)
    (reached : Reached step (fun system action => calm system action = true)
      (System.started row) system) : Ended system := by
  have both : Sound system ∧ Ended system := by
    refine Reached.invariant (fun state => Sound state ∧ Ended state)
      ⟨⟨by simp [System.started]⟩, rfl, rfl⟩ ?_ reached
    rintro state action next ⟨sound, ended⟩ calmly stepped
    exact ⟨sound_step state next action sound stepped,
      (calm_step state next action sound ended calmly stepped).1⟩
  exact both.2

/-- While every status lands where the graph leads from the status the row then has, every change
of status is an edge, what has ended stays as it ended, and `ended_at` is set once, at the end. The
first write that does not land breaks this. A write that finds the status its operation had read
always lands. -/
theorem session_graph_kept (row : GuestSession) :
    (∀ trace final, Traced step (fun system action => calm system action = true)
        (System.started row) trace final →
      Ended final ∧ ∀ taken ∈ trace, Lawful taken) ∧
    (∀ system, Reached step (fun system action => calm system action = true)
        (System.started row) system →
      ∀ action next, step system action = some next → calm system action = false →
        ¬ (Ended next ∧ Lawful ⟨system, action, next⟩)) ∧
    ∀ system, Reached step (fun _ _ => True) (System.started row) system →
      ∀ place now call, system.calls[place]? = some call →
        system.row.status = call.found.status → calm system (.write place now) = true := by
  refine ⟨?_, ?_, ?_⟩
  · intro trace final traced
    refine ⟨ended_reached row final traced.reached, ?_⟩
    refine Traced.always Lawful ?_ traced
    intro state action next reached calmly stepped
    exact (calm_step state next action (sound_reached row state reached)
      (ended_reached row state reached) calmly stepped).2
  · intro system reached action next stepped wrongly
    exact astray_step system next action (sound_reached row system reached)
      (ended_reached row system reached) wrongly stepped
  · intro system reached place now call found unmoved
    exact unmoved_calm system (sound_reached row system reached) place now call found unmoved

section Executed

def session : GuestSession :=
  ⟨1, 1, some 1, 1, .otpSms, none, .active, 0, none, 0, none, 0, 0, none, none, none, none⟩

/-- A session that is paused, extended meanwhile, and resumed; an overrun disconnect is dropped. -/
theorem session_graph_kept_paused :
    (∃ trace final, Traced step (fun system action => calm system action = true)
        (System.started session) trace final ∧
      final.row.status = .active ∧ final.row.sessionTimeoutMinutes = some 20 ∧ Ended final ∧
      ∀ taken ∈ trace, Lawful taken) ∧
    ∃ system next action, Reached step (fun system action => calm system action = true)
        (System.started session) system ∧ step system action = some next ∧
      ¬ (Ended next ∧ Lawful ⟨system, action, next⟩) := by
  constructor
  · obtain ⟨system, reached, seen⟩ := run_observed step (System.started session) calm
      (fun system => system.row.status = .active && system.row.sessionTimeoutMinutes = some 20)
      (fun _ _ checked => checked)
      [.read (.pause none) 1, .read (.extend 20) 2, .write 0 3, .write 0 4, .read .resume 5,
        .read (.disconnect none) 6, .write 0 7, .abort 0] (by decide +kernel)
    obtain ⟨trace, traced⟩ := reached.traced
    simp only [Bool.and_eq_true, decide_eq_true_eq] at seen
    have held := (session_graph_kept session).1 trace system traced
    exact ⟨trace, system, traced, seen.1, seen.2, held.1, held.2⟩
  · obtain ⟨system, reached, seen⟩ := run_observed step (System.started session) calm
      (fun system => (step system (.write 0 4)).isSome && !calm system (.write 0 4))
      (fun _ _ checked => checked)
      [.read (.disconnect none) 1, .read (.terminate none) 2, .write 1 3] (by decide +kernel)
    simp only [Bool.and_eq_true, Bool.not_eq_true', Option.isSome_iff_exists] at seen
    obtain ⟨⟨next, stepped⟩, astray⟩ := seen
    exact ⟨system, next, .write 0 4, reached, stepped,
      (session_graph_kept session).2.1 system reached _ next stepped astray⟩

/-- A terminated session becomes a disconnected one, its end rewritten; and a paused one is
disconnected and then resumed, with its `ended_at`. -/
theorem session_graph_left :
    (∃ system next action, Reached step (fun _ _ => True) (System.started session) system ∧
      step system action = some next ∧
      system.row.status = .terminated ∧ system.row.endedAt = some 3 ∧
      next.row.status = .disconnected ∧ next.row.endedAt = some 4 ∧
      ¬ Lawful ⟨system, action, next⟩) ∧
    ∃ system, Reached step (fun _ _ => True) (System.started session) system ∧
      system.row.status = .active ∧ system.row.endedAt = some 4 ∧ ¬ Ended system := by
  constructor
  · obtain ⟨system, reached, seen⟩ := run_observed step (System.started session) (fun _ _ => true)
      (fun system => system.row.status = .terminated && system.row.endedAt = some 3 &&
        (step system (.write 0 4)).any fun next =>
          next.row.status = .disconnected && next.row.endedAt = some 4)
      (fun _ _ _ => trivial)
      [.read (.disconnect none) 1, .read (.terminate none) 2, .write 1 3] (by decide +kernel)
    simp only [Bool.and_eq_true, decide_eq_true_eq, Option.any_eq_true] at seen
    obtain ⟨⟨status, endedAt⟩, next, stepped, nextStatus, nextEnd⟩ := seen
    refine ⟨system, next, .write 0 4, reached, stepped, status, endedAt, nextStatus, nextEnd, ?_⟩
    intro lawful
    have kept := lawful.2 (by rw [status]; rfl)
    dsimp only at kept
    rw [nextStatus, status] at kept
    exact absurd kept.1 (by decide)
  · obtain ⟨system, reached, seen⟩ := run_observed step (System.started session) (fun _ _ => true)
      (fun system => system.row.status = .active && system.row.endedAt = some 4)
      (fun _ _ _ => trivial)
      [.read (.pause none) 1, .write 0 2, .read .resume 3, .read (.disconnect none) 4, .write 1 4,
        .write 0 5] (by decide +kernel)
    simp only [Bool.and_eq_true, decide_eq_true_eq] at seen
    refine ⟨system, reached, seen.1, seen.2, ?_⟩
    intro ended
    have set := ended.set
    rw [seen.1, seen.2] at set
    exact absurd set (by decide)

end Executed

end CloudGuest.SessionLifecycle
