import CloudGuest.Library.Sweeps
import Mathlib.Order.Bounds.Basic
import Mathlib.Data.Set.Image

/-!
The most sessions that were alive at once within a window
(analytics/peak_concurrency.py). A session is alive from its start up to, but not
including, its end, both clipped to the window; one without an end is alive to the
end of the window. Instants are those of any linear order.
-/

namespace CloudGuest.PeakConcurrency
open RunningTotals Sorting Sweeps

variable {Instant : Type*} [LinearOrder Instant]

abbrev Interval (Instant : Type*) := Instant × Option Instant

section Window

variable (windowStart windowEnd : Instant)

def clippedStart (interval : Interval Instant) : Instant := max interval.1 windowStart

def clippedEnd (interval : Interval Instant) : Instant :=
  min (interval.2.getD windowEnd) windowEnd

def eventsOf (interval : Interval Instant) : List (Instant × Int) :=
  if clippedEnd windowEnd interval ≤ clippedStart windowStart interval then []
  else [(clippedStart windowStart interval, 1), (clippedEnd windowEnd interval, -1)]

def computePeakConcurrentSessions (intervals : List (Interval Instant)) : Int :=
  let events := intervals.flatMap (eventsOf windowStart windowEnd)
  if events = [] then 0 else (sweep (sortOn inOrder events)).2

/-- Whether the half-open interval, with both ends clipped to the window, holds an instant. -/
def isAlive (instant : Instant) : Interval Instant → Bool
  | (startedAt, some endedAt) =>
      max startedAt windowStart ≤ instant && instant < min endedAt windowEnd
  | (startedAt, none) => max startedAt windowStart ≤ instant && instant < windowEnd

def alive (intervals : List (Interval Instant)) (instant : Instant) : Nat :=
  intervals.countP (isAlive windowStart windowEnd instant)

theorem isAlive_clipped (instant : Instant) (interval : Interval Instant) :
    isAlive windowStart windowEnd instant interval =
      (decide (clippedStart windowStart interval ≤ instant) &&
        decide (instant < clippedEnd windowEnd interval)) := by
  obtain ⟨startedAt, _ | endedAt⟩ := interval
  · simp [isAlive, clippedStart, clippedEnd]
  · simp [isAlive, clippedStart, clippedEnd]

theorem level_eventsOf (interval : Interval Instant) (instant : Instant) :
    level (eventsOf windowStart windowEnd interval) instant =
      (isAlive windowStart windowEnd instant interval).toNat := by
  rw [isAlive_clipped]
  unfold eventsOf
  by_cases empty : clippedEnd windowEnd interval ≤ clippedStart windowStart interval
  · have never : clippedStart windowStart interval ≤ instant →
        ¬ instant < clippedEnd windowEnd interval := by
      intro started
      exact not_lt_of_ge (empty.trans started)
    -- An interval outside the window, or with its ends the wrong way round, makes no change.
    rw [if_pos empty]
    by_cases started : clippedStart windowStart interval ≤ instant
    · simp [level, never started]
    · simp [level, started]
  · rw [if_neg empty]
    by_cases started : clippedStart windowStart interval ≤ instant
    · by_cases ended : clippedEnd windowEnd interval ≤ instant
      · simp [level, total, started, ended, not_lt_of_ge ended]
      · simp [level, total, started, ended, lt_of_not_ge ended]
    · have notEnded : ¬ clippedEnd windowEnd interval ≤ instant :=
        fun ended => started ((le_of_not_ge empty).trans ended)
      simp [level, started, notEnded]

theorem level_events (intervals : List (Interval Instant)) (instant : Instant) :
    level (intervals.flatMap (eventsOf windowStart windowEnd)) instant =
      alive windowStart windowEnd intervals instant := by
  induction intervals with
  | nil => rfl
  | cons interval rest ih =>
      rw [List.flatMap_cons, level_append, ih, level_eventsOf, alive, alive, List.countP_cons]
      cases isAlive windowStart windowEnd instant interval with
      | true => simp [Int.add_comm]
      | false => simp

theorem peak_greatest (intervals : List (Interval Instant)) :
    IsGreatest (Set.range fun instant => (alive windowStart windowEnd intervals instant : Int))
      (computePeakConcurrentSessions windowStart windowEnd intervals) := by
  have swept : 0 ≤ computePeakConcurrentSessions windowStart windowEnd intervals ∧
      (∀ instant, (alive windowStart windowEnd intervals instant : Int) ≤
        computePeakConcurrentSessions windowStart windowEnd intervals) ∧
      (computePeakConcurrentSessions windowStart windowEnd intervals ≤ 0 ∨
        ∃ instant, computePeakConcurrentSessions windowStart windowEnd intervals ≤
          alive windowStart windowEnd intervals instant) := by
    have levels := level_events windowStart windowEnd intervals
    unfold computePeakConcurrentSessions
    dsimp only
    split
    · rename_i nothing
      rw [nothing] at levels
      refine ⟨le_refl _, ?_, .inl (le_refl _)⟩
      intro instant
      rw [← levels instant]
      exact le_refl _
    · have peak := sweep_peak (intervals.flatMap (eventsOf windowStart windowEnd))
      simp only [levels] at peak
      exact peak
  obtain ⟨nonneg, bound, reached⟩ := swept
  refine ⟨?_, ?_⟩
  -- The peak starts at zero; where it stays there, no instant has more than none alive.
  · rcases reached with low | ⟨instant, attained⟩
    · refine ⟨windowStart, le_antisymm (bound windowStart) ?_⟩
      exact low.trans (Int.natCast_nonneg _)
    · exact ⟨instant, le_antisymm (bound instant) attained⟩
  · rintro count ⟨instant, rfl⟩
    exact bound instant

/-- The peak is exact, and the order of the list does not matter. -/
theorem peak_exact (intervals : List (Interval Instant)) :
    IsGreatest (Set.range fun instant => (alive windowStart windowEnd intervals instant : Int))
        (computePeakConcurrentSessions windowStart windowEnd intervals) ∧
      ∀ others : List (Interval Instant), others.Perm intervals →
        computePeakConcurrentSessions windowStart windowEnd others =
          computePeakConcurrentSessions windowStart windowEnd intervals := by
  refine ⟨peak_greatest windowStart windowEnd intervals, ?_⟩
  intro others same
  have counts : (fun instant => (alive windowStart windowEnd others instant : Int)) =
      fun instant => (alive windowStart windowEnd intervals instant : Int) := by
    funext instant
    rw [alive, same.countP_eq]
    rfl
  have greatest := peak_greatest windowStart windowEnd others
  rw [counts] at greatest
  exact greatest.unique (peak_greatest windowStart windowEnd intervals)

/-- A session that ends when another starts does not overlap it. -/
example : computePeakConcurrentSessions (0 : Int) 100 [(10, some 20), (20, none), (15, some 20)] = 2 :=
  by decide +kernel

end Window

end CloudGuest.PeakConcurrency
