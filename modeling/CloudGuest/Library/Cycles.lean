import Mathlib.Algebra.Order.Ring.Int

/-!
A window that comes back in every period and may run over the turn of it: from its
first instant up to, but not including, its last. The first instant outside it that
is not before a given one.
-/

namespace CloudGuest.Cycles

variable (period first last : Int)

def inWindow (place : Int) : Bool :=
  -- Whether a place in the period is in the window; with its ends the same, none is.
  if first ≤ last then first ≤ place && place < last else first ≤ place || place < last

def windowEnd (time : Int) : Int :=
  let candidate := time - time % period + last
  if candidate ≤ time then candidate + period else candidate

variable {period first last}

theorem emod_of_between {start time : Int} (turn : start % period = 0) (after : start ≤ time)
    (before : time < start + period) : time % period = time - start := by
  have split : time = (time - start) + start := by omega
  rw [split, Int.add_emod, turn, Int.add_zero, Int.emod_emod, Int.emod_eq_of_lt (by omega) (by omega)]
  omega

theorem turn_of (period time : Int) : (time - time % period) % period = 0 :=
  Int.emod_eq_zero_of_dvd (Int.dvd_self_sub_emod)

theorem windowEnd_after {time : Int} (positive : 0 < period) (nonneg : 0 ≤ last) :
    time < windowEnd period last time := by
  have below := Int.emod_lt_of_pos time positive
  have above := Int.emod_nonneg time positive.ne'
  unfold windowEnd
  dsimp only
  split
  · omega
  · omega

theorem windowEnd_outside {time : Int} (inside : last < period) (nonneg : 0 ≤ last) :
    inWindow first last (windowEnd period last time % period) = false := by
  have turn := turn_of period time
  have place : windowEnd period last time % period = last := by
    unfold windowEnd
    dsimp only
    split
    · rw [Int.add_emod_right, emod_of_between turn (by omega) (by omega)]
      omega
    · rw [emod_of_between turn (by omega) (by omega)]
      omega
  rw [place, inWindow]
  split <;> simp only [Bool.and_eq_false_iff, Bool.or_eq_false_iff, decide_eq_false_iff_not] <;>
    omega

theorem inWindow_until {time other : Int} (positive : 0 < period) (inside : last < period)
    (within : inWindow first last (time % period) = true) (after : time ≤ other)
    (before : other < windowEnd period last time) :
    inWindow first last (other % period) = true := by
  have turn := turn_of period time
  have below := Int.emod_lt_of_pos time positive
  have above := Int.emod_nonneg time positive.ne'
  unfold windowEnd at before
  unfold inWindow at within ⊢
  dsimp only at before
  -- The other instant is in the period of the time or, if the window runs over its turn, in the next.
  by_cases same : other < time - time % period + period
  · rw [emod_of_between turn (by omega) same]
    by_cases plain : first ≤ last
    · simp only [plain, ↓reduceIte, Bool.and_eq_true, decide_eq_true_eq] at within ⊢
      split at before
      · omega
      · omega
    · simp only [plain, ↓reduceIte, Bool.or_eq_true, decide_eq_true_eq] at within ⊢
      split at before
      · omega
      · omega
  · have next : (time - time % period + period) % period = 0 := by
      rw [Int.add_emod_right]
      exact turn
    split at before
    · rw [emod_of_between next (by omega) (by omega)]
      by_cases plain : first ≤ last
      · simp only [plain, ↓reduceIte, Bool.and_eq_true, decide_eq_true_eq] at within
        omega
      · simp only [plain, ↓reduceIte, Bool.or_eq_true, decide_eq_true_eq]
        omega
    · omega

end CloudGuest.Cycles
