import Mathlib

/-!
The calls under way beside a shared row, as a list: a call is appended when it
starts, replaced when it goes on, and erased when it ends. What holds of each
call under way is kept by all three, and so is that no two of them hold one
lock, where a call takes a lock only while nobody has it.
-/

namespace CloudGuest.Calls

universe u
variable {Call : Type u} {Holds : Call → Prop} {calls : List Call}

theorem each_started (each : ∀ call ∈ calls, Holds call) {started : Call} (new : Holds started) :
    ∀ call ∈ calls ++ [started], Holds call := by
  intro call member
  rcases List.mem_append.mp member with earlier | last
  · exact each call earlier
  · obtain rfl := List.mem_singleton.mp last
    exact new

theorem each_continued (each : ∀ call ∈ calls, Holds call) (place : Nat) {next : Call}
    (new : Holds next) : ∀ call ∈ calls.set place next, Holds call := by
  intro call member
  rcases List.mem_or_eq_of_mem_set member with other | rfl
  · exact each call other
  · exact new

theorem each_ended (each : ∀ call ∈ calls, Holds call) (place : Nat) :
    ∀ call ∈ calls.eraseIdx place, Holds call :=
  fun call member => each call (List.mem_of_mem_eraseIdx member)

theorem found_holds (each : ∀ call ∈ calls, Holds call) {place : Nat} {call : Call}
    (found : calls[place]? = some call) : Holds call :=
  each call (List.mem_of_getElem? found)

theorem read_continued {Value : Type u} (read : Call → Value) {place : Nat} {call next : Call}
    (found : calls[place]? = some call) (same : read next = read call) :
    (calls.set place next).map read = calls.map read := by
  induction calls generalizing place with
  | nil => simp at found
  | cons first rest ih =>
      cases place with
      | zero =>
          obtain rfl : first = call := by simpa using found
          simp [same]
      | succ place =>
          have tail := ih (by simpa using found)
          rw [List.set_cons_succ, List.map_cons, List.map_cons, tail]

/-! ### Counting the calls -/

section Counting

variable (counts : Call → Bool)

theorem counted_started (started : Call) :
    (calls ++ [started]).countP counts = calls.countP counts + (counts started).toNat := by
  rw [List.countP_append, List.countP_singleton]
  cases counts started <;> rfl

theorem counted_continued {place : Nat} {call : Call} (found : calls[place]? = some call)
    (next : Call) :
    (calls.set place next).countP counts + (counts call).toNat =
      calls.countP counts + (counts next).toNat := by
  induction calls generalizing place with
  | nil => simp at found
  | cons first rest ih =>
      cases place with
      | zero =>
          obtain rfl : first = call := by simpa using found
          rw [List.set_cons_zero, List.countP_cons, List.countP_cons]
          cases counts first <;> cases counts next <;> simp
      | succ place =>
          have tail := ih (by simpa using found)
          rw [List.set_cons_succ, List.countP_cons, List.countP_cons]
          omega

theorem counted_ended {place : Nat} {call : Call} (found : calls[place]? = some call) :
    (calls.eraseIdx place).countP counts + (counts call).toNat = calls.countP counts := by
  induction calls generalizing place with
  | nil => simp at found
  | cons first rest ih =>
      cases place with
      | zero =>
          obtain rfl : first = call := by simpa using found
          rw [List.eraseIdx_cons_zero, List.countP_cons]
          cases counts first <;> simp
      | succ place =>
          have tail := ih (by simpa using found)
          rw [List.eraseIdx_cons_succ, List.countP_cons, List.countP_cons]
          omega

theorem counted_erased (place : Nat) :
    (calls.eraseIdx place).countP counts ≤ calls.countP counts :=
  (List.eraseIdx_sublist calls place).countP_le

end Counting

theorem summed_ended (weight : Call → Int) {place : Nat} {call : Call} (found : calls[place]? = some call) :
    (calls.map weight).sum = weight call + ((calls.eraseIdx place).map weight).sum := by
  obtain ⟨inside, rfl⟩ := List.getElem?_eq_some_iff.mp found
  have split := ((List.getElem_cons_eraseIdx_perm inside).map weight).sum_eq
  rw [List.map_cons, List.sum_cons] at split
  exact split.symm

theorem summed_erased (weight : Call → Int) (nonneg : ∀ call ∈ calls, 0 ≤ weight call) (place : Nat) :
    ((calls.eraseIdx place).map weight).sum ≤ (calls.map weight).sum := by
  cases found : calls[place]? with
  | none => rw [List.eraseIdx_of_length_le (List.getElem?_eq_none_iff.mp found)]
  | some call =>
      have split := summed_ended weight found
      have positive := nonneg call (List.mem_of_getElem? found)
      omega

/-- A column after a flush: it is written if the session changed it from what it had read. -/
def flushed {Value : Type u} [DecidableEq Value] (found assigned held : Value) : Value :=
  if assigned = found then held else assigned

@[simp] theorem flushed_same {Value : Type u} [DecidableEq Value] (found held : Value) :
    flushed found found held = held := by
  simp [flushed]

@[simp] theorem flushed_held {Value : Type u} [DecidableEq Value] (assigned held : Value) :
    flushed held assigned held = assigned := by
  unfold flushed
  split
  · rename_i same
    exact same.symm
  · rfl

theorem flushed_changed {Value : Type u} [DecidableEq Value] {found assigned : Value}
    (changed : assigned ≠ found) (held : Value) : flushed found assigned held = assigned := by
  simp [flushed, changed]

/-! ### Locks -/

section Locks

universe v
variable {Key : Type v} (lock : Call → Option Key)

def locks (calls : List Call) : List Key := calls.filterMap lock

variable {lock}

theorem mem_locks {key : Key} :
    key ∈ locks lock calls ↔ ∃ call ∈ calls, lock call = some key := List.mem_filterMap

theorem locks_started (started : Call) (free : lock started = none) :
    locks lock (calls ++ [started]) = locks lock calls := by
  simp [locks, free]

theorem locks_continued (place : Nat) {call next : Call} (found : calls[place]? = some call)
    (free : lock call = none) :
    (locks lock (calls.set place next)).Perm ((lock next).toList ++ locks lock calls) := by
  induction calls generalizing place with
  | nil => simp at found
  | cons first rest ih =>
      cases place with
      | zero =>
          obtain rfl : first = call := by simpa using found
          cases taken : lock next with
          | none => simp [locks, free, taken]
          | some key => simp [locks, free, taken]
      | succ place =>
          have rest := ih place (by simpa using found)
          simp only [locks, List.set_cons_succ, List.filterMap_cons] at rest ⊢
          cases held : lock first with
          | none => exact rest
          | some key =>
              refine (List.Perm.cons key rest).trans ?_
              exact List.perm_middle.symm

theorem locks_kept (place : Nat) {call next : Call} (found : calls[place]? = some call)
    (same : lock next = lock call) : locks lock (calls.set place next) = locks lock calls := by
  induction calls generalizing place with
  | nil => simp at found
  | cons first rest ih =>
      cases place with
      | zero =>
          obtain rfl : first = call := by simpa using found
          simp [locks, List.filterMap_cons, same]
      | succ place =>
          have tail := ih place (by simpa using found)
          simp only [locks, List.set_cons_succ, List.filterMap_cons] at tail ⊢
          rw [tail]

theorem locks_ended (place : Nat) {call : Call} (found : calls[place]? = some call) :
    ((lock call).toList ++ locks lock (calls.eraseIdx place)).Perm (locks lock calls) := by
  induction calls generalizing place with
  | nil => simp at found
  | cons first rest ih =>
      cases place with
      | zero =>
          obtain rfl : first = call := by simpa using found
          cases held : lock first with
          | none => simp [locks, held]
          | some key => simp [locks, held]
      | succ place =>
          have rest := ih place (by simpa using found)
          simp only [locks, List.eraseIdx_cons_succ, List.filterMap_cons] at rest ⊢
          cases held : lock first with
          | none => exact rest
          | some key => exact List.perm_middle.trans (List.Perm.cons key rest)

theorem locks_ended_free (exclusive : (locks lock calls).Nodup) {place : Nat} {call : Call}
    {key : Key} (found : calls[place]? = some call) (held : lock call = some key) :
    key ∉ locks lock (calls.eraseIdx place) := by
  have apart := (locks_ended place found).nodup_iff.mpr exclusive
  rw [held, Option.toList_some, List.singleton_append, List.nodup_cons] at apart
  exact apart.1

theorem exclusive_started (exclusive : (locks lock calls).Nodup) {started : Call}
    (free : lock started = none) : (locks lock (calls ++ [started])).Nodup := by
  rw [locks_started started free]
  exact exclusive

theorem exclusive_taken (exclusive : (locks lock calls).Nodup) (place : Nat) {call next : Call}
    {key : Key} (found : calls[place]? = some call) (free : lock call = none)
    (taken : lock next = some key) (nobody : key ∉ locks lock calls) :
    (locks lock (calls.set place next)).Nodup := by
  rw [(locks_continued place found free).nodup_iff, taken, Option.toList_some,
    List.singleton_append, List.nodup_cons]
  exact ⟨nobody, exclusive⟩

theorem exclusive_ended (exclusive : (locks lock calls).Nodup) (place : Nat) :
    (locks lock (calls.eraseIdx place)).Nodup :=
  exclusive.sublist ((List.eraseIdx_sublist calls place).filterMap lock)

end Locks

end CloudGuest.Calls
