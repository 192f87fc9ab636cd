import Mathlib.Logic.Basic

/-!
Computations that can raise: which exceptions can leave one, and how that
composes, one after the other and over the items of a list.
-/

namespace CloudGuest.Faults

universe u v
variable {Fault : Type u} {Value Other : Type v}

def Raises (Allowed : Fault → Prop) (run : Except Fault Value) : Prop :=
  ∀ fault, run = .error fault → Allowed fault

variable {Allowed : Fault → Prop}

theorem raises_ok (value : Value) : Raises Allowed (.ok value) := by
  intro fault raised
  cases raised

theorem raises_pure (value : Value) : Raises Allowed (pure value : Except Fault Value) :=
  raises_ok value

theorem raises_error {fault : Fault} (allowed : Allowed fault) :
    Raises Allowed (.error fault : Except Fault Value) := by
  intro other raised
  cases raised
  exact allowed

theorem bind_ok {run : Except Fault Value} {after : Value → Except Fault Other} {value : Other} :
    (run >>= after) = .ok value ↔ ∃ first, run = .ok first ∧ after first = .ok value := by
  cases run with
  | error fault => simp [bind, Except.bind]
  | ok first => simp [bind, Except.bind]

theorem raises_bind {run : Except Fault Value} {after : Value → Except Fault Other}
    (first : Raises Allowed run) (later : ∀ value, run = .ok value → Raises Allowed (after value)) :
    Raises Allowed (run >>= after) := by
  cases run with
  | error fault =>
      intro other raised
      cases raised
      exact first fault rfl
  | ok value => exact later value rfl

theorem raises_mono {Wider : Fault → Prop} {run : Except Fault Value}
    (wider : ∀ fault, Allowed fault → Wider fault) (raises : Raises Allowed run) :
    Raises Wider run :=
  fun fault raised => wider fault (raises fault raised)

def Fails (Kind : Fault → Prop) (run : Except Fault Value) : Prop :=
  ∃ fault, run = .error fault ∧ Kind fault

section Fails

variable {Kind : Fault → Prop}

@[simp] theorem fails_ok (value : Value) : ¬ Fails Kind (.ok value) := by
  rintro ⟨fault, raised, -⟩
  cases raised

@[simp] theorem fails_error {fault : Fault} :
    Fails Kind (.error fault : Except Fault Value) ↔ Kind fault := by
  simp [Fails]

theorem fails_bind {run : Except Fault Value} {after : Value → Except Fault Other} :
    Fails Kind (run >>= after) ↔
      Fails Kind run ∨ ∃ value, run = .ok value ∧ Fails Kind (after value) := by
  cases run with
  | error fault =>
      have stopped : (Except.error fault >>= after) = .error fault := rfl
      simp [stopped]
  | ok value =>
      have passed : (Except.ok value >>= after) = after value := rfl
      simp [passed]

end Fails

theorem mapM_some {Item : Type*} {Read : Type*} (read : Item → Option Read) (items : List Item)
    (values : List Read) : items.mapM read = some values ↔
      (∀ item ∈ items, (read item).isSome) ∧ values = items.filterMap read := by
  induction items generalizing values with
  | nil =>
      rw [List.mapM_nil]
      exact ⟨fun same => ⟨by simp, (Option.some.inj same).symm⟩,
        fun same => congrArg some same.2.symm⟩
  | cons item rest ih =>
      rw [List.mapM_cons, List.forall_mem_cons]
      cases first : read item with
      | none => simp
      | some value =>
          rw [List.filterMap_cons_some first]
          simp only [Option.bind_eq_bind, Option.bind_some, Option.bind_eq_some_iff, ih,
            Option.pure_def, Option.some.injEq, Option.isSome_some, true_and]
          constructor
          · rintro ⟨_, ⟨all, rfl⟩, rfl⟩
            exact ⟨all, rfl⟩
          · rintro ⟨all, rfl⟩
            exact ⟨_, ⟨all, rfl⟩, rfl⟩

theorem foldlM_error {State : Type v} {Item : Type*} {step : State → Item → Except Fault State}
    {items : List Item} {state : State} {fault : Fault} :
    items.foldlM step state = .error fault ↔ ∃ front item back reached,
      items = front ++ item :: back ∧ front.foldlM step state = .ok reached ∧
        step reached item = .error fault := by
  induction items generalizing state with
  | nil =>
      constructor
      · intro raised
        cases raised
      · rintro ⟨front, item, back, reached, split, -⟩
        simp at split
  | cons first rest ih =>
      rw [List.foldlM_cons]
      cases taken : step state first with
      | error other =>
          constructor
          · intro raised
            exact ⟨[], first, rest, state, rfl, rfl, taken.trans raised⟩
          · rintro ⟨front, item, back, reached, split, before, raised⟩
            cases front with
            | nil =>
                obtain ⟨rfl, rfl⟩ := List.cons.inj split
                cases before
                exact taken.symm.trans raised
            | cons earlier front =>
                obtain ⟨rfl, rfl⟩ := List.cons.inj split
                rw [List.foldlM_cons, taken] at before
                cases before
      | ok next =>
          have later : ((Except.ok next : Except Fault State) >>= fun state =>
            rest.foldlM step state) = rest.foldlM step next := rfl
          rw [later, ih]
          constructor
          · rintro ⟨front, item, back, reached, rfl, before, raised⟩
            refine ⟨first :: front, item, back, reached, rfl, ?_, raised⟩
            rw [List.foldlM_cons, taken]
            exact before
          · rintro ⟨front, item, back, reached, split, before, raised⟩
            cases front with
            | nil =>
                obtain ⟨rfl, rfl⟩ := List.cons.inj split
                cases before
                cases taken.symm.trans raised
            | cons earlier front =>
                obtain ⟨rfl, rfl⟩ := List.cons.inj split
                rw [List.foldlM_cons, taken] at before
                exact ⟨front, item, back, reached, rfl, before, raised⟩

section Gathering

variable {State : Type v} {Item Read : Type*}

def gather (read : Item → Except Fault (Option Read)) (take : State → Read → State)
    (state : State) (items : List Item) : Except Fault State :=
  items.foldlM (fun state item =>
    match read item with
    | .error fault => .error fault
    | .ok none => .ok state
    | .ok (some found) => .ok (take state found)) state

def taken (read : Item → Except Fault (Option Read)) (items : List Item) : List Read :=
  items.filterMap fun item => (read item).toOption.join

theorem mem_taken {read : Item → Except Fault (Option Read)} {items : List Item} {found : Read} :
    found ∈ taken read items ↔ ∃ item ∈ items, read item = .ok (some found) := by
  have joined : ∀ item, (read item).toOption.join = some found ↔
      read item = .ok (some found) := by
    intro item
    cases read item with
    | error fault => simp [Except.toOption]
    | ok answer => cases answer <;> simp [Except.toOption]
  simp only [taken, List.mem_filterMap, joined]

theorem gather_ok_iff {read : Item → Except Fault (Option Read)} {take : State → Read → State}
    {state result : State} {items : List Item} :
    gather read take state items = .ok result ↔
      (∀ item ∈ items, ∃ answer, read item = .ok answer) ∧
        result = (taken read items).foldl take state := by
  -- What is taken moves the state on, so the induction is for any state.
  induction items generalizing state with
  | nil =>
      rw [show gather read take state [] = .ok state from rfl, Except.ok.injEq]
      simp [taken, eq_comm]
  | cons item rest ih =>
      rw [List.forall_mem_cons]
      cases answered : read item with
      | error fault =>
          have raised : gather read take state (item :: rest) = .error fault := by
            simp [gather, answered, List.foldlM_cons, bind, Except.bind]
          simp [raised]
      | ok answer =>
          cases answer with
          | none =>
              have passed : gather read take state (item :: rest) =
                  gather read take state rest := by
                simp [gather, answered, List.foldlM_cons, bind, Except.bind]
              have others : taken read (item :: rest) = taken read rest := by
                simp [taken, answered, Except.toOption]
              rw [passed, others, ih]
              simp
          | some found =>
              have stepped : gather read take state (item :: rest) =
                  gather read take (take state found) rest := by
                simp [gather, answered, List.foldlM_cons, bind, Except.bind]
              have others : taken read (item :: rest) = found :: taken read rest := by
                simp [taken, answered, Except.toOption]
              rw [stepped, others, List.foldl_cons, ih]
              simp

end Gathering

end CloudGuest.Faults
