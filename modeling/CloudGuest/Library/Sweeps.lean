import CloudGuest.Library.RunningTotals
import CloudGuest.Library.Sorting
import Mathlib.Algebra.Order.BigOperators.Group.List
import Mathlib.Algebra.Order.Group.Int
import Mathlib.Data.List.Induction

/-!
A sweep over timed changes: the changes are taken in order of their time, at one time
the smaller first, and the highest running sum is kept. The level of a time is the
sum of the changes up to and including it. The sweep ends at the highest level, or
at zero where no level is higher: what it passes within one time is never above both
the level before and the level after.
-/

namespace CloudGuest.Sweeps
open RunningTotals Sorting

variable {Time : Type*}

def sweepStep (held : Int × Int) (event : Time × Int) : Int × Int :=
  let running := held.1 + event.2
  (running, if held.2 < running then running else held.2)

def sweep (events : List (Time × Int)) : Int × Int := events.foldl sweepStep (0, 0)

theorem sweep_append (events : List (Time × Int)) (event : Time × Int) :
    sweep (events ++ [event]) = sweepStep (sweep events) event := by
  simp [sweep]

theorem sweep_highest (events : List (Time × Int)) :
    (sweep events).1 = total Prod.snd events ∧
      (∃ front back, events = front ++ back ∧ (sweep events).2 = total Prod.snd front) ∧
      ∀ front back, events = front ++ back → total Prod.snd front ≤ (sweep events).2 := by
  induction events using List.reverseRecOn with
  | nil =>
      refine ⟨rfl, ⟨[], [], rfl, rfl⟩, ?_⟩
      intro front back split
      obtain ⟨rfl, rfl⟩ := List.append_eq_nil_iff.mp split.symm
      exact le_refl _
  | append_singleton events event ih =>
      obtain ⟨running, ⟨front, back, split, highest⟩, bound⟩ := ih
      have grown : total Prod.snd (events ++ [event]) = total Prod.snd events + event.2 := by simp [total]
      have above : (sweep events).2 ≤ (sweep (events ++ [event])).2 ∧
          total Prod.snd (events ++ [event]) ≤ (sweep (events ++ [event])).2 := by
        rw [sweep_append, grown]
        simp only [sweepStep, running]
        split
        · omega
        · omega
      refine ⟨?_, ?_, ?_⟩
      · rw [sweep_append, grown, ← running]
        rfl
      · rw [sweep_append]
        simp only [sweepStep, running]
        split
        · exact ⟨events ++ [event], [], by simp, grown.symm⟩
        · exact ⟨front, back ++ [event], by rw [split, List.append_assoc], highest⟩
      · intro part rest cut
        rcases List.eq_nil_or_concat rest with rfl | ⟨before, last, rfl⟩
        · rw [List.append_nil] at cut
          rw [← cut]
          exact above.2
        · rw [List.concat_eq_append, ← List.append_assoc] at cut
          obtain ⟨rfl, -⟩ := List.append_inj' cut rfl
          exact (bound part before rfl).trans above.1

section Sorted

variable [LinearOrder Time]

def inOrder (event : Time × Int) : Time ×ₗ Int := toLex event

def level (events : List (Time × Int)) (time : Time) : Int :=
  total Prod.snd (events.filter fun event => event.1 ≤ time)

theorem level_append (front back : List (Time × Int)) (time : Time) :
    level (front ++ back) time = level front time + level back time := by
  rw [level, List.filter_append, total_append]
  rfl

theorem level_perm {events others : List (Time × Int)} (same : events.Perm others) (time : Time) :
    level events time = level others time :=
  ((same.filter _).map Prod.snd).sum_eq

variable {events : List (Time × Int)}

/-- The level of a time is the sum of a front part of the sorted changes. -/
theorem level_front (sorted : events.Pairwise fun left right => inOrder left ≤ inOrder right)
    (time : Time) : ∃ front back, events = front ++ back ∧ level events time = total Prod.snd front := by
  induction events with
  | nil => exact ⟨[], [], rfl, rfl⟩
  | cons event rest ih =>
      obtain ⟨below, ascending⟩ := List.pairwise_cons.mp sorted
      by_cases early : event.1 ≤ time
      · obtain ⟨front, back, split, sums⟩ := ih ascending
        refine ⟨event :: front, back, by rw [split, List.cons_append], ?_⟩
        simp only [level, List.filter_cons, early, decide_true, ↓reduceIte, total, List.map_cons,
          List.sum_cons] at sums ⊢
        rw [sums]
      · refine ⟨[], event :: rest, rfl, ?_⟩
        have late : ∀ other ∈ rest, ¬ other.1 ≤ time := by
          intro other member reached
          have ordered : event.1 ≤ other.1 := by
            rcases Prod.Lex.le_iff.mp (below other member) with less | ⟨same, -⟩
            · exact le_of_lt less
            · exact le_of_eq same
          exact early (ordered.trans reached)
        have nothing : rest.filter (fun other => decide (other.1 ≤ time)) = [] := by
          rw [List.filter_eq_nil_iff]
          intro other member
          simpa using late other member
        simp only [level, List.filter_cons, early, decide_false, Bool.false_eq_true, ↓reduceIte,
          nothing]

theorem total_front_le (sorted : events.Pairwise fun left right => inOrder left ≤ inOrder right)
    (front back : List (Time × Int)) (split : events = front ++ back) :
    total Prod.snd front ≤ 0 ∨ ∃ time, total Prod.snd front ≤ level events time := by
  -- A front part that ends with an increase has a sum of at most the level of its last time: what
  -- is left of that time are increases.
  induction front using List.reverseRecOn generalizing back with
  | nil => exact .inl (le_refl _)
  | append_singleton front event ih =>
      have earlier := ih (event :: back) (by rw [split, List.append_assoc]; rfl)
      have grown : total Prod.snd (front ++ [event]) = total Prod.snd front + event.2 := by simp [total]
      by_cases rises : 0 < event.2
      · right
        refine ⟨event.1, ?_⟩
        rw [split, List.append_assoc, List.pairwise_append] at sorted
        obtain ⟨-, after, before⟩ := sorted
        have passed : level (front ++ [event]) event.1 = total Prod.snd (front ++ [event]) := by
          rw [level, List.filter_eq_self.mpr]
          intro other member
          refine decide_eq_true ?_
          rcases List.mem_append.mp member with inFront | isEvent
          · rcases Prod.Lex.le_iff.mp (before other inFront event (by simp)) with less | ⟨same, -⟩
            · exact le_of_lt less
            · exact le_of_eq same
          · obtain rfl := List.mem_singleton.mp isEvent
            exact le_refl _
        have left : 0 ≤ level back event.1 := by
          refine List.sum_nonneg ?_
          intro change member
          obtain ⟨other, inLevel, rfl⟩ := List.mem_map.mp member
          obtain ⟨inBack, reached⟩ := List.mem_filter.mp inLevel
          rcases Prod.Lex.le_iff.mp ((List.pairwise_cons.mp after).1 other inBack) with
            less | ⟨-, larger⟩
          · exact absurd (of_decide_eq_true reached) (not_le_of_gt less)
          · exact le_trans (le_of_lt rises) larger
        rw [split, level_append, passed]
        omega
      · rcases earlier with low | ⟨time, bound⟩
        · left
          omega
        · right
          exact ⟨time, by omega⟩

theorem sweep_peak (events : List (Time × Int)) :
    let peak := (sweep (sortOn inOrder events)).2
    0 ≤ peak ∧ (∀ time, level events time ≤ peak) ∧
      (peak ≤ 0 ∨ ∃ time, peak ≤ level events time) := by
  intro peak
  have same := level_perm (sortOn_perm inOrder events)
  have sorted := sortOn_ascending inOrder events
  obtain ⟨-, ⟨front, back, split, highest⟩, bound⟩ := sweep_highest (sortOn inOrder events)
  refine ⟨bound [] _ rfl, ?_, ?_⟩
  · intro time
    obtain ⟨before, after, cut, sums⟩ := level_front sorted time
    rw [← same time, sums]
    exact bound before after cut
  · have reached := total_front_le sorted front back split
    rw [← highest] at reached
    rcases reached with low | ⟨time, bound⟩
    · exact .inl low
    · exact .inr ⟨time, by rwa [← same time]⟩

end Sorted

end CloudGuest.Sweeps
