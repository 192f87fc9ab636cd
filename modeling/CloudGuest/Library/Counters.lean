import Mathlib.Data.Option.Basic
import Mathlib.Data.List.Nodup
import Mathlib.Data.List.Perm.Subperm
import Mathlib.Data.List.Range

/-!
A counter that expires: the key of a store with the commands `GET`, `INCR`, `EXPIRE`,
`TTL` and `DEL`. `INCR` makes a key that is not there, without an expiry: who made it
is to set one. A store is guarded while every key has an expiry ahead or someone is
still to set it.
-/

namespace CloudGuest.Counters

structure Entry where
  count : Nat
  expiresAt : Option Nat
  deriving DecidableEq

structure Store where
  now : Nat
  entry : Option Entry
  deriving DecidableEq

def Store.get (store : Store) : Option Nat := store.entry.map Entry.count

def Store.count (store : Store) : Nat := store.get.getD 0

def Store.incr (store : Store) : Store :=
  match store.entry with
  | none => { store with entry := some ⟨1, none⟩ }
  | some entry => { store with entry := some { entry with count := entry.count + 1 } }

def Store.expire (store : Store) (seconds : Nat) : Store :=
  { store with entry := store.entry.bind fun entry =>
      if seconds = 0 then none
      else some { entry with expiresAt := some (store.now + seconds) } }

def Store.delete (store : Store) : Store := { store with entry := none }

def Store.ttl (store : Store) : Int :=
  match store.entry with
  | none => -2
  | some entry => match entry.expiresAt with
    | none => -1
    | some due => (due : Int) - store.now

def Entry.isDue (entry : Entry) (now : Nat) : Bool := entry.expiresAt.any (· ≤ now)

def Store.elapse (store : Store) (seconds : Nat) : Store :=
  { now := store.now + seconds
    entry := store.entry.filter fun entry => !entry.isDue (store.now + seconds) }

/-! ### The count -/

@[simp] theorem count_incr (store : Store) : store.incr.count = store.count + 1 := by
  unfold Store.incr
  cases held : store.entry <;> simp [Store.count, Store.get, held]

@[simp] theorem count_delete (store : Store) : store.delete.count = 0 := rfl

theorem count_elapse (store : Store) (seconds : Nat) :
    (store.elapse seconds).count ≤ store.count := by
  cases held : store.entry with
  | none => simp [Store.count, Store.get, Store.elapse, held]
  | some entry =>
      by_cases due : entry.isDue (store.now + seconds) <;>
        simp [Store.count, Store.get, Store.elapse, held, Option.filter_some, due]

/-! ### Expiries -/

/-- Every key expires within the window, or some of the `pending` are to give it an expiry. -/
def Guarded (window pending : Nat) (store : Store) : Prop :=
  ∀ entry, store.entry = some entry →
    match entry.expiresAt with
    | none => 0 < pending
    | some due => store.now < due ∧ due ≤ store.now + window

variable {window pending later : Nat} {store : Store}

theorem guarded_absent (absent : store.entry = none) : Guarded window pending store := by
  intro entry held
  rw [absent] at held
  cases held

theorem guarded_pending (guarded : Guarded window pending store)
    (enough : ∀ entry, store.entry = some entry → entry.expiresAt = none → 0 < later) :
    Guarded window later store := by
  intro entry held
  have before := guarded entry held
  cases due : entry.expiresAt with
  | none => exact enough entry held due
  | some moment =>
      rw [due] at before
      exact before

theorem guarded_more (guarded : Guarded window pending store) (more : pending ≤ later) :
    Guarded window later store := by
  refine guarded_pending guarded ?_
  intro entry held undated
  have before := guarded entry held
  rw [undated] at before
  exact Nat.lt_of_lt_of_le before more

theorem guarded_incr (guarded : Guarded window pending store)
    (set : store.count = 0 → pending < later) (kept : pending ≤ later) :
    Guarded window later store.incr := by
  intro entry counted
  unfold Store.incr at counted
  cases held : store.entry with
  | none =>
      simp only [held] at counted
      obtain rfl := Option.some.inj counted
      have opened := set (by simp [Store.count, Store.get, held])
      exact Nat.lt_of_le_of_lt (Nat.zero_le _) opened
  | some before =>
      simp only [held] at counted
      obtain rfl := Option.some.inj counted
      have more := guarded_more guarded kept before held
      simpa only [Store.incr, held] using more

theorem guarded_expire (pending : Nat) (store : Store) (seconds : Nat) :
    Guarded seconds pending (store.expire seconds) := by
  intro entry dated
  obtain ⟨before, -, set⟩ := Option.bind_eq_some_iff.mp dated
  by_cases zero : seconds = 0
  · rw [if_pos zero] at set
    cases set
  · rw [if_neg zero] at set
    obtain rfl := Option.some.inj set
    exact ⟨Nat.lt_add_of_pos_right (Nat.pos_of_ne_zero zero), le_refl _⟩

theorem guarded_elapse (guarded : Guarded window pending store) (seconds : Nat) :
    Guarded window pending (store.elapse seconds) := by
  intro entry kept
  obtain ⟨held, alive⟩ := Option.filter_eq_some_iff.mp kept
  have before := guarded entry held
  cases due : entry.expiresAt with
  | none =>
      rw [due] at before
      exact before
  | some moment =>
      rw [due] at before
      simp only [Entry.isDue, due, Option.any_some, Bool.not_eq_true', decide_eq_false_iff_not,
        not_le] at alive
      exact ⟨alive, by simp only [Store.elapse]; omega⟩

theorem guarded_gone (guarded : Guarded window 0 store) : (store.elapse window).entry = none := by
  refine Option.filter_eq_none_iff.mpr ?_
  intro entry held
  have before := guarded entry held
  cases due : entry.expiresAt with
  | none =>
      rw [due] at before
      exact absurd before (Nat.lt_irrefl 0)
  | some moment =>
      rw [due] at before
      simpa [Entry.isDue, due] using before.2

def Store.retryAfter (store : Store) (window : Nat) : Nat :=
  -- The seconds a refusal names: the rest of the key's life, or the whole window if it has none.
  if 0 < store.ttl then store.ttl.toNat else window

theorem retryAfter_pos (store : Store) (some : 0 < window) : 0 < store.retryAfter window := by
  unfold Store.retryAfter
  by_cases left : 0 < store.ttl
  · rw [if_pos left]
    omega
  · rw [if_neg left]
    exact some

theorem retryAfter_le (guarded : Guarded window pending store) :
    store.retryAfter window ≤ window := by
  unfold Store.retryAfter
  by_cases left : 0 < store.ttl
  · rw [if_pos left]
    cases held : store.entry with
    | none => simp [Store.ttl, held] at left
    | some entry =>
        have before := guarded entry held
        cases due : entry.expiresAt with
        | none => simp [Store.ttl, held, due] at left
        | some moment =>
            rw [due] at before
            simp only [Store.ttl, held, due]
            omega
  · rw [if_neg left]

/-! ### Tickets -/

theorem tickets_limited {numbers : List Nat} (distinct : numbers.Nodup) (most : Nat)
    (within : ∀ number ∈ numbers, 1 ≤ number ∧ number ≤ most) : numbers.length ≤ most := by
  have among : numbers ⊆ List.range' 1 most := by
    intro number member
    have bounds := within number member
    simp only [List.mem_range'_1]
    omega
  have fewer := (List.subperm_of_subset distinct among).length_le
  rwa [List.length_range'] at fewer

end CloudGuest.Counters
