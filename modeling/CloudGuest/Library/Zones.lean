import Mathlib.Data.List.GetD
import Mathlib.Algebra.Order.Group.Int
import Mathlib.Tactic.Common

/-!
Local time whose offset changes at instants. A change that sets the clock back makes
local times come twice, told apart by a fold, and one that sets it forward skips some.
A local time that no change repeats or skips is reached once: the clock is before it
up to one instant and never again.
-/

namespace CloudGuest.Zones

/-! ### Bisection -/

def search (marks : List Int) (value : Int) : Nat → Nat → Nat → Nat
  -- The loop of `bisect.bisect_right`, with enough fuel for its interval.
  | 0, low, _ => low
  | fuel + 1, low, high =>
      if low < high then
        if value < marks.getD ((low + high) / 2) 0 then
          search marks value fuel low ((low + high) / 2)
        else search marks value fuel ((low + high) / 2 + 1) high
      else low

def bisectRight (marks : List Int) (value : Int) : Nat :=
  search marks value marks.length 0 marks.length

structure Parts (marks : List Int) (value : Int) (count : Nat) : Prop where
  bounded : count ≤ marks.length
  split : ∀ index, index < marks.length → (index < count ↔ marks.getD index 0 ≤ value)

theorem search_parts {marks : List Int} {value : Int} {count : Nat}
    (parts : Parts marks value count) (fuel low high : Nat) (lower : low ≤ count)
    (upper : count ≤ high) (inside : high ≤ marks.length) (enough : high - low ≤ fuel) :
    search marks value fuel low high = count := by
  induction fuel generalizing low high with
  | zero =>
      simp only [search]
      omega
  | succ fuel ih =>
      simp only [search]
      split
      · have middle := parts.split ((low + high) / 2) (by omega)
        split
        · exact ih low _ lower (by omega) (by omega) (by omega)
        · exact ih _ high (by omega) upper inside (by omega)
      · omega

theorem bisectRight_parts {marks : List Int} {value : Int} {count : Nat}
    (parts : Parts marks value count) : bisectRight marks value = count :=
  search_parts parts _ _ _ (Nat.zero_le _) parts.bounded (le_refl _) (by omega)

theorem parts_nil (value : Int) : Parts [] value 0 :=
  ⟨le_refl 0, fun _ inside => absurd inside (Nat.not_lt_zero _)⟩

theorem Parts.passed {mark value : Int} {marks : List Int} {count : Nat}
    (parts : Parts marks value count) (reached : mark ≤ value) :
    Parts (mark :: marks) value (count + 1) := by
  refine ⟨Nat.succ_le_succ parts.bounded, ?_⟩
  intro index inside
  cases index with
  | zero => simp [reached]
  | succ index =>
      have later := parts.split index (by simpa using inside)
      simpa using later

theorem parts_ahead {value : Int} {marks : List Int} (ahead : ∀ mark ∈ marks, value < mark) :
    Parts marks value 0 := by
  refine ⟨Nat.zero_le _, ?_⟩
  intro index inside
  have later := ahead marks[index] (List.getElem_mem inside)
  rw [List.getD_eq_getElem _ _ inside]
  omega

/-! ### Zones -/

structure Change where
  instant : Int
  offset : Int

structure Zone where
  first : Int
  changes : List Change
  ordered : changes.Pairwise fun earlier later => earlier.instant < later.instant

def offsetAfter : Int → List Change → Nat → Int
  | before, [], _ => before
  | before, _ :: _, 0 => before
  | _, change :: rest, count + 1 => offsetAfter change.offset rest count

def wallMarks (fold : Bool) : Int → List Change → List Int
  | _, [] => []
  | before, change :: rest =>
      (change.instant + if fold then min before change.offset else max before change.offset) ::
        wallMarks fold change.offset rest

def Zone.passed (zone : Zone) (time : Int) : Nat :=
  bisectRight (zone.changes.map Change.instant) time

def Zone.offsetAt (zone : Zone) (time : Int) : Int :=
  offsetAfter zone.first zone.changes (zone.passed time)

def Zone.wall (zone : Zone) (time : Int) : Int := time + zone.offsetAt time

/-- An instant at which the local time comes for the second time. -/
def Zone.isFold (zone : Zone) (time : Int) : Bool :=
  match zone.passed time with
  | 0 => false
  | count + 1 =>
      time - (zone.changes.map Change.instant).getD count 0 <
        offsetAfter zone.first zone.changes count -
          offsetAfter zone.first zone.changes (count + 1)

def Zone.localOffset (zone : Zone) (fold : Bool) (wall : Int) : Int :=
  offsetAfter zone.first zone.changes (bisectRight (wallMarks fold zone.first zone.changes) wall)

/-! ### The offset as a walk over the changes -/

def offsetWalk : Int → List Change → Int → Int
  | before, [], _ => before
  | before, change :: rest, time =>
      if time < change.instant then before else offsetWalk change.offset rest time

theorem offsetWalk_early (before : Int) (changes : List Change) (time : Int)
    (early : ∀ change ∈ changes, time < change.instant) :
    offsetWalk before changes time = before := by
  cases changes with
  | nil => rfl
  | cons change rest => exact if_pos (early change List.mem_cons_self)

theorem offsetAfter_passed (before : Int) (changes : List Change) (time : Int)
    (ordered : changes.Pairwise fun earlier later => earlier.instant < later.instant) :
    ∃ count, Parts (changes.map Change.instant) time count ∧
      offsetAfter before changes count = offsetWalk before changes time := by
  induction changes generalizing before with
  | nil => exact ⟨0, parts_nil time, rfl⟩
  | cons change rest ih =>
      obtain ⟨after, later⟩ := List.pairwise_cons.mp ordered
      by_cases early : time < change.instant
      · refine ⟨0, parts_ahead ?_, by simp [offsetAfter, offsetWalk, early]⟩
        intro mark member
        obtain ⟨other, listed, rfl⟩ := List.mem_map.mp member
        rcases List.mem_cons.mp listed with rfl | next
        · exact early
        · exact early.trans (after other next)
      · obtain ⟨count, parts, walked⟩ := ih change.offset later
        exact ⟨count + 1, parts.passed (not_lt.mp early),
          by simp [offsetAfter, offsetWalk, early, walked]⟩

theorem Zone.offsetAt_walk (zone : Zone) (time : Int) :
    zone.offsetAt time = offsetWalk zone.first zone.changes time := by
  obtain ⟨count, parts, walked⟩ := offsetAfter_passed zone.first zone.changes time zone.ordered
  rw [Zone.offsetAt, Zone.passed, bisectRight_parts parts, walked]

/-! ### Local times that are reached once -/

section Spared

/-- A change leaves a local time alone: the clock passes it before the change, or after; or the
change repeats the times from it on or skips it, but of what is asked the first is meant, and a time
skipped long enough ago. -/
def Change.Spares (before : Int) (change : Change) (wall now : Int) (fold : Bool) : Prop :=
  change.instant + max before change.offset ≤ wall ∨
  wall < change.instant + min before change.offset ∨
  (fold = false ∧ change.instant + change.offset = wall ∧ wall < change.instant + before) ∨
  (fold = false ∧ change.instant + before ≤ wall ∧ wall < change.instant + change.offset ∧
    wall - before ≤ now)

instance (before : Int) (change : Change) (wall now : Int) (fold : Bool) :
    Decidable (change.Spares before wall now fold) := inferInstanceAs (Decidable (_ ∨ _ ∨ _ ∨ _))

def SparedBy : Int → List Change → Int → Int → Bool → Prop
  | _, [], _, _, _ => True
  | before, change :: rest, wall, now, fold =>
      change.Spares before wall now fold ∧ SparedBy change.offset rest wall now fold

def decideSpared : ∀ before changes wall now fold, Decidable (SparedBy before changes wall now fold)
  | _, [], _, _, _ => isTrue trivial
  | before, change :: rest, wall, now, fold =>
      have := decideSpared change.offset rest wall now fold
      inferInstanceAs (Decidable (change.Spares before wall now fold ∧
        SparedBy change.offset rest wall now fold))

instance (before : Int) (changes : List Change) (wall now : Int) (fold : Bool) :
    Decidable (SparedBy before changes wall now fold) := decideSpared before changes wall now fold

def Zone.Spares (zone : Zone) (wall now : Int) (fold : Bool) : Prop :=
  SparedBy zone.first zone.changes wall now fold

instance (zone : Zone) (wall now : Int) (fold : Bool) : Decidable (zone.Spares wall now fold) :=
  inferInstanceAs (Decidable (SparedBy _ _ _ _ _))

def settledOffset (wall : Int) : Int → List Change → Int
  | before, [] => before
  | before, change :: rest =>
      if change.instant + max before change.offset ≤ wall then settledOffset wall change.offset rest
      else before

def Zone.settled (zone : Zone) (wall : Int) : Int :=
  wall - settledOffset wall zone.first zone.changes

variable {wall now : Int} {fold : Bool}

theorem spared_after (before since : Int) (changes : List Change)
    (later : ∀ change ∈ changes, since < change.instant)
    (ordered : changes.Pairwise fun earlier later => earlier.instant < later.instant)
    (spared : SparedBy before changes wall now fold) (reached : wall ≤ since + before) :
    (∀ time, since ≤ time → wall ≤ time + offsetWalk before changes time) ∧
      ∀ mark ∈ wallMarks fold before changes, wall < mark := by
  induction changes generalizing before since with
  | nil =>
      refine ⟨?_, fun _ member => absurd member List.not_mem_nil⟩
      intro time passed
      simp only [offsetWalk]
      omega
  | cons change rest ih =>
      obtain ⟨here, after⟩ := spared
      obtain ⟨next, sorted⟩ := List.pairwise_cons.mp ordered
      have first := later change List.mem_cons_self
      -- The clock is past the local time when the change comes, and is not set back behind it.
      have kept : wall ≤ change.instant + change.offset ∧ wall < change.instant +
          if fold then min before change.offset else max before change.offset := by
        rcases here with behind | ahead | ⟨rfl, repeated, again⟩ | ⟨rfl, skipped, short, -⟩
        · omega
        · split <;> omega
        · simp only [Bool.false_eq_true, ↓reduceIte]
          omega
        · omega
      obtain ⟨walked, marks⟩ := ih change.offset change.instant next sorted after kept.1
      constructor
      · intro time passed
        simp only [offsetWalk]
        split
        · omega
        · exact walked time (by omega)
      · intro mark member
        rcases List.mem_cons.mp member with rfl | further
        · exact kept.2
        · exact marks mark further

/-- A local time that is spared is reached once, and its name stands for that instant but for one
that is skipped. -/
theorem spared_once (before : Int) (changes : List Change)
    (ordered : changes.Pairwise fun earlier later => earlier.instant < later.instant)
    (spared : SparedBy before changes wall now fold) :
    (∃ count, Parts (wallMarks fold before changes) wall count ∧
      offsetAfter before changes count = settledOffset wall before changes) ∧
    ∃ reached, (∀ time, time < reached ↔ time + offsetWalk before changes time < wall) ∧
      reached ≤ wall - settledOffset wall before changes ∧
      (wall - settledOffset wall before changes = reached ∨
        wall - settledOffset wall before changes ≤ now) := by
  induction changes generalizing before with
  | nil =>
      refine ⟨⟨0, parts_nil wall, rfl⟩, wall - before, ?_, le_refl _, Or.inl rfl⟩
      intro time
      simp only [offsetWalk]
      omega
  | cons change rest ih =>
      obtain ⟨here, after⟩ := spared
      obtain ⟨next, sorted⟩ := List.pairwise_cons.mp ordered
      -- A change is past if the local time is past it on either side, and else yet to come.
      by_cases behind : change.instant + max before change.offset ≤ wall
      · obtain ⟨⟨count, parts, offset⟩, reached, once, bound, same⟩ := ih change.offset sorted after
        have early := once change.instant
        have ahead : offsetWalk change.offset rest (change.instant - 1) = change.offset :=
          offsetWalk_early change.offset rest _ fun other member => by
            have := next other member
            omega
        have untilThen := (once (change.instant - 1)).mpr (by omega)
        simp only [settledOffset, if_pos behind]
        refine ⟨⟨count + 1, parts.passed ?_, offset⟩, reached, ?_, bound, same⟩
        · split <;> omega
        · intro time
          simp only [offsetWalk]
          split
          · omega
          · exact once time
      · simp only [settledOffset, if_neg behind]
        have kept : wall ≤ change.instant + change.offset ∧ wall < change.instant +
            if fold then min before change.offset else max before change.offset := by
          rcases here with passed | ahead | ⟨rfl, repeated, again⟩ | ⟨rfl, skipped, short, -⟩
          · exact absurd passed behind
          · split <;> omega
          · simp only [Bool.false_eq_true, ↓reduceIte]
            omega
          · simp only [Bool.false_eq_true, ↓reduceIte]
            omega
        obtain ⟨walked, marks⟩ :=
          spared_after change.offset change.instant rest next sorted after kept.1
        constructor
        · refine ⟨0, parts_ahead ?_, rfl⟩
          intro mark member
          rcases List.mem_cons.mp member with rfl | further
          · exact kept.2
          · exact marks mark further
        · -- It is reached before the change, or skipped by it.
          refine ⟨min (wall - before) change.instant, ?_, min_le_left _ _, ?_⟩
          · intro time
            simp only [offsetWalk]
            split
            · omega
            · have later := walked time (by omega)
              omega
          · rcases here with passed | ahead | ⟨-, repeated, again⟩ | ⟨-, skipped, short, long⟩
            · exact absurd passed behind
            · left
              omega
            · left
              omega
            · exact Or.inr long

theorem Zone.spares_once (zone : Zone) (spared : zone.Spares wall now fold) :
    zone.localOffset fold wall = wall - zone.settled wall ∧
    ∃ reached, (∀ time, time < reached ↔ zone.wall time < wall) ∧
      reached ≤ zone.settled wall ∧
      (zone.settled wall = reached ∨ zone.settled wall ≤ now) := by
  obtain ⟨⟨count, parts, offset⟩, reached, once, bound, same⟩ :=
    spared_once zone.first zone.changes zone.ordered spared
  constructor
  · rw [Zone.localOffset, bisectRight_parts parts, offset, Zone.settled]
    omega
  · refine ⟨reached, ?_, bound, same⟩
    intro time
    rw [Zone.wall, zone.offsetAt_walk]
    exact once time

end Spared

end CloudGuest.Zones
