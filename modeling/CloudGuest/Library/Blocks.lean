import Mathlib.Data.List.Induction
import Mathlib.Data.List.Pairwise
import Mathlib.Data.List.TakeWhile
import Mathlib.Order.Lattice

/-!
Blocks of a linear order that are nested or disjoint, as aligned blocks of numbers
are. Taken in order of their first place, at one place the wider first, and without
those that start inside the one kept before, what is left are the outermost blocks,
in order and apart. A place is then looked up in one of them only: the last that
does not start after it.
-/

namespace CloudGuest.Blocks

variable {Block Place : Type*} [LinearOrder Place]
variable (first last : Block → Place)

def Within (inner outer : Block) : Prop :=
  first outer ≤ first inner ∧ last inner ≤ last outer

def Holds (place : Place) (block : Block) : Prop := first block ≤ place ∧ place ≤ last block

structure Laminar (blocks : List Block) : Prop where
  nonempty : ∀ block ∈ blocks, first block ≤ last block
  either : ∀ left ∈ blocks, ∀ right ∈ blocks,
    Within first last left right ∨ Within first last right left ∨
      last left < first right ∨ last right < first left

def Precedes (left right : Block) : Prop :=
  first left < first right ∨ (first left = first right ∧ last right ≤ last left)

def keepStep (kept : List Block) (block : Block) : List Block :=
  match kept.getLast? with
  | some before => if first block ≤ last before then kept else kept ++ [block]
  | none => [block]

def outermost (blocks : List Block) : List Block := blocks.foldl (keepStep first last) []

def candidate (blocks : List Block) (place : Place) : Option Block :=
  (blocks.takeWhile fun block => first block ≤ place).getLast?

variable {first last}

theorem Within.trans {inner middle outer : Block} (left : Within first last inner middle)
    (right : Within first last middle outer) : Within first last inner outer :=
  ⟨right.1.trans left.1, left.2.trans right.2⟩

/-- The blocks kept are some of those seen, apart and in order, and every one seen is within one. -/
structure Kept (first last : Block → Place) (seen kept : List Block) : Prop where
  among : ∀ block ∈ kept, block ∈ seen
  apart : kept.Pairwise fun left right => last left < first right
  covers : ∀ block ∈ seen, ∃ outer ∈ kept, Within first last block outer

theorem Kept.skip {seen kept : List Block} {block outer : Block}
    (held : Kept first last seen kept) (member : outer ∈ kept)
    (within : Within first last block outer) :
    Kept first last (seen ++ [block]) kept := by
  refine ⟨fun other inKept => List.mem_append_left _ (held.among other inKept), held.apart, ?_⟩
  intro other inSeen
  rcases List.mem_append.mp inSeen with old | new
  · exact held.covers other old
  · obtain rfl := List.mem_singleton.mp new
    exact ⟨outer, member, within⟩

theorem Kept.add {seen kept : List Block} {block : Block}
    (held : Kept first last seen kept)
    (past : ∀ other ∈ kept, last other < first block) :
    Kept first last (seen ++ [block]) (kept ++ [block]) := by
  refine ⟨?_, ?_, ?_⟩
  · intro other member
    rcases List.mem_append.mp member with old | new
    · exact List.mem_append_left _ (held.among other old)
    · exact List.mem_append_right _ new
  · refine List.pairwise_append.mpr ⟨held.apart, List.pairwise_singleton _ _, ?_⟩
    intro other inKept new isNew
    obtain rfl := List.mem_singleton.mp isNew
    exact past other inKept
  · intro other inSeen
    rcases List.mem_append.mp inSeen with old | new
    · obtain ⟨outer, inKept, within⟩ := held.covers other old
      exact ⟨outer, List.mem_append_left _ inKept, within⟩
    · obtain rfl := List.mem_singleton.mp new
      exact ⟨other, by simp, le_refl _, le_refl _⟩

theorem within_kept {blocks : List Block} (laminar : Laminar first last blocks) {block before : Block}
    (member : block ∈ blocks) (inBlocks : before ∈ blocks)
    (precedes : Precedes first last before block) (starts : first block ≤ last before) :
    Within first last block before := by
  -- A block that starts inside the one kept last is within it: it does not start before it, and of
  -- two that start together the wider comes first.
  have ahead : first before ≤ first block := by
    rcases precedes with less | ⟨same, -⟩
    · exact le_of_lt less
    · exact le_of_eq same
  rcases laminar.either block member before inBlocks with within | around | earlier | later
  · exact within
  · rcases precedes with less | ⟨same, wider⟩
    · exact absurd around.1 (not_le_of_gt less)
    · exact ⟨le_of_eq same, wider⟩
  · have own := laminar.nonempty block member
    exact absurd (own.trans_lt earlier) (not_lt_of_ge ahead)
  · exact absurd starts (not_le_of_gt later)

theorem outermost_kept (blocks : List Block) (laminar : Laminar first last blocks)
    (sorted : blocks.Pairwise (Precedes first last)) :
    Kept first last blocks (outermost first last blocks) := by
  induction blocks using List.reverseRecOn with
  | nil => exact ⟨by simp [outermost], by simp [outermost], by simp⟩
  | append_singleton seen block ih =>
      obtain ⟨sortedSeen, -, across⟩ := List.pairwise_append.mp sorted
      have fewer : Laminar first last seen :=
        ⟨fun other inSeen => laminar.nonempty other (List.mem_append_left _ inSeen),
          fun left inLeft right inRight => laminar.either left (List.mem_append_left _ inLeft) right
            (List.mem_append_left _ inRight)⟩
      have held := ih fewer sortedSeen
      have unfolded : outermost first last (seen ++ [block]) =
          keepStep first last (outermost first last seen) block := by
        simp [outermost]
      rw [unfolded, keepStep]
      rcases List.eq_nil_or_concat (outermost first last seen) with nothing | ⟨front, before, kept⟩
      · rw [nothing] at held ⊢
        exact held.add (by simp)
      · rw [List.concat_eq_append] at kept
        have inKept : before ∈ outermost first last seen := by simp [kept]
        have inSeen := held.among before inKept
        simp only [kept, List.getLast?_concat]
        split
        · rename_i starts
          rw [← kept]
          exact held.skip inKept (within_kept laminar (by simp) (List.mem_append_left _ inSeen)
            (across before inSeen block (by simp)) starts)
        · rename_i beyond
          rw [← kept]
          refine held.add ?_
          intro other inOthers
          rw [kept] at inOthers
          rcases List.mem_append.mp inOthers with inFront | isLast
          · have apart := held.apart
            rw [kept, List.pairwise_append] at apart
            exact (apart.2.2 other inFront before (by simp)).trans_le
              ((fewer.nonempty before inSeen).trans (le_of_not_ge beyond))
          · obtain rfl := List.mem_singleton.mp isLast
            exact lt_of_not_ge beyond

section Lookup

variable {kept : List Block} {place : Place}

theorem candidate_mem {block : Block} (found : candidate first kept place = some block) :
    block ∈ kept ∧ first block ≤ place := by
  have inFront := List.mem_of_getLast? found
  exact ⟨(List.takeWhile_prefix _).mem inFront, by simpa using List.mem_takeWhile_imp inFront⟩

theorem candidate_holds (nonempty : ∀ block ∈ kept, first block ≤ last block)
    (apart : kept.Pairwise fun left right => last left < first right) {block : Block}
    (member : block ∈ kept) (holds : Holds first last place block) :
    candidate first kept place = some block := by
  obtain ⟨front, back, rfl⟩ := List.append_of_mem member
  obtain ⟨-, behind, across⟩ := List.pairwise_append.mp apart
  have early : ∀ other ∈ front, decide (first other ≤ place) = true := by
    intro other inFront
    have before := across other inFront block List.mem_cons_self
    have own := nonempty other (List.mem_append_left _ inFront)
    exact decide_eq_true ((own.trans (le_of_lt before)).trans holds.1)
  have late : back.takeWhile (fun other => decide (first other ≤ place)) = [] := by
    cases back with
    | nil => rfl
    | cons next rest =>
        have after := (List.pairwise_cons.mp behind).1 next List.mem_cons_self
        rw [List.takeWhile_cons_of_neg]
        simpa using holds.2.trans_lt after
  have own : decide (first block ≤ place) = true := decide_eq_true holds.1
  rw [candidate, List.takeWhile_append_of_pos early, List.takeWhile_cons, own, late]
  simp

end Lookup

theorem kept_same {kept : List Block} (nonempty : ∀ block ∈ kept, first block ≤ last block)
    (apart : kept.Pairwise fun left right => last left < first right) {left right : Block}
    (inLeft : left ∈ kept) (inRight : right ∈ kept) (within : Within first last left right) :
    left = right := by
  have place : Holds first last (first left) right :=
    ⟨within.1, (nonempty left inLeft).trans within.2⟩
  have own := candidate_holds nonempty apart inLeft ⟨le_refl _, nonempty left inLeft⟩
  rw [candidate_holds nonempty apart inRight place] at own
  exact (Option.some.inj own).symm

theorem Kept.outermost {seen kept : List Block}
    (held : Kept first last seen kept)
    (nonempty : ∀ block ∈ seen, first block ≤ last block) {block other : Block}
    (member : block ∈ kept) (inSeen : other ∈ seen) (within : Within first last block other) :
    first other = first block ∧ last other = last block := by
  obtain ⟨outer, inKept, around⟩ := held.covers other inSeen
  have same : block = outer := kept_same (fun kept inKept => nonempty kept (held.among kept inKept))
    held.apart member inKept (within.trans around)
  subst same
  exact ⟨le_antisymm within.1 around.1, le_antisymm around.2 within.2⟩

end CloudGuest.Blocks
