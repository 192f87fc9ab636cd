import Mathlib.Data.List.Pairwise
import Mathlib.Logic.Relation
import Mathlib.Order.MinMax

/-!
Stitching a list of pieces in order: a piece that joins the one held is absorbed
into it, any other closes it and is held next. Over intervals in order of their
start, where a piece joins when it starts within reach of the end held so far, the
results are the chains of pieces that lead from one to the next within reach.
-/

namespace CloudGuest.Stitching

universe u v
variable {Item : Type u}

section Fold

variable (joins : Item → Item → Bool) (absorb : Item → Item → Item)

def stitchFrom (current : Item) : List Item → List Item
  | [] => [current]
  | piece :: rest =>
      if joins current piece then stitchFrom (absorb current piece) rest
      else current :: stitchFrom piece rest

def stitch : List Item → List Item
  | [] => []
  | first :: rest => stitchFrom joins absorb first rest

variable {joins absorb}

theorem stitchFrom_all (Holds : Item → Prop)
    (preserved : ∀ current piece, Holds current → Holds piece → Holds (absorb current piece))
    (current : Item) (pieces : List Item) (held : Holds current)
    (given : ∀ piece ∈ pieces, Holds piece) :
    ∀ result ∈ stitchFrom joins absorb current pieces, Holds result := by
  induction pieces generalizing current with
  | nil => simpa [stitchFrom] using held
  | cons piece rest ih =>
      have first := given piece List.mem_cons_self
      have later := fun other member => given other (List.mem_cons_of_mem piece member)
      unfold stitchFrom
      split
      · exact ih _ (preserved _ _ held first) later
      · intro result member
        rcases List.mem_cons.mp member with rfl | inRest
        · exact held
        · exact ih piece first later result inRest

theorem stitch_all (Holds : Item → Prop)
    (preserved : ∀ current piece, Holds current → Holds piece → Holds (absorb current piece))
    (pieces : List Item) (given : ∀ piece ∈ pieces, Holds piece) :
    ∀ result ∈ stitch joins absorb pieces, Holds result := by
  cases pieces with
  | nil => simp [stitch]
  | cons first rest =>
      exact stitchFrom_all Holds preserved first rest (given first List.mem_cons_self)
        fun piece member => given piece (List.mem_cons_of_mem first member)

variable {Time : Type v} [LinearOrder Time] {start : Item → Time}

theorem stitchFrom_ascending (Good : Item → Prop)
    (preserved : ∀ current piece, Good current → Good piece → Good (absorb current piece))
    (keeps : ∀ current piece, start (absorb current piece) = start current)
    (apart : ∀ current piece, Good current → Good piece → start current ≤ start piece →
      joins current piece = false → start current < start piece)
    (current : Item) (pieces : List Item) (good : Good current)
    (allGood : ∀ piece ∈ pieces, Good piece)
    (sorted : (current :: pieces).Pairwise fun left right => start left ≤ start right) :
    (stitchFrom joins absorb current pieces).Pairwise
        (fun left right => start left < start right) ∧
      ∀ result ∈ stitchFrom joins absorb current pieces, start current ≤ start result := by
  -- Results start one after the other when a piece that starts with the held one always joins.
  induction pieces generalizing current with
  | nil => simp [stitchFrom]
  | cons piece rest ih =>
      obtain ⟨below, ascending⟩ := List.pairwise_cons.mp sorted
      obtain ⟨belowPiece, ascendingRest⟩ := List.pairwise_cons.mp ascending
      have first := allGood piece List.mem_cons_self
      have later := fun other member => allGood other (List.mem_cons_of_mem piece member)
      unfold stitchFrom
      split
      -- The piece is absorbed: what is held keeps its start, so the order stays.
      · have shifted : (absorb current piece :: rest).Pairwise
            fun left right => start left ≤ start right := by
          refine List.pairwise_cons.mpr ⟨?_, ascendingRest⟩
          intro other member
          rw [keeps]
          exact below other (List.mem_cons_of_mem piece member)
        have results := ih _ (preserved _ _ good first) later shifted
        rw [keeps] at results
        exact results
      · rename_i separate
        -- The piece stands apart: what was held is a result, and all others start after it.
        have gap := apart current piece good first (below piece List.mem_cons_self)
          (Bool.eq_false_iff.mpr separate)
        obtain ⟨pairs, above⟩ := ih piece first later ascending
        constructor
        · refine List.pairwise_cons.mpr ⟨?_, pairs⟩
          intro result member
          exact lt_of_lt_of_le gap (above result member)
        · intro result member
          rcases List.mem_cons.mp member with rfl | inRest
          · exact le_refl _
          · exact le_trans (le_of_lt gap) (above result inRest)

theorem stitch_ascending (Good : Item → Prop)
    (preserved : ∀ current piece, Good current → Good piece → Good (absorb current piece))
    (keeps : ∀ current piece, start (absorb current piece) = start current)
    (apart : ∀ current piece, Good current → Good piece → start current ≤ start piece →
      joins current piece = false → start current < start piece)
    (pieces : List Item) (allGood : ∀ piece ∈ pieces, Good piece)
    (sorted : pieces.Pairwise fun left right => start left ≤ start right) :
    (stitch joins absorb pieces).Pairwise fun left right => start left < start right := by
  cases pieces with
  | nil => simp [stitch]
  | cons first rest =>
      exact (stitchFrom_ascending Good preserved keeps apart first rest
        (allGood first List.mem_cons_self)
        (fun piece member => allGood piece (List.mem_cons_of_mem first member)) sorted).1

end Fold

section Intervals

variable {Time : Type v} [LinearOrder Time]

/-- Absorbing a piece extends the interval held, and pieces join within reach of its end. -/
structure Laws (joins : Item → Item → Bool) (absorb : Item → Item → Item)
    (start finish : Item → Time) (reach : Time → Time) (Timed : Item → Prop) : Prop where
  timed : ∀ current piece, Timed current → Timed piece → Timed (absorb current piece)
  start_absorb : ∀ current piece, start (absorb current piece) = start current
  finish_absorb : ∀ current piece,
    finish (absorb current piece) = max (finish current) (finish piece)
  joins_iff : ∀ current piece, Timed current → Timed piece →
    (joins current piece = true ↔ start piece ≤ reach (finish current))
  ordered : ∀ item, Timed item → start item ≤ finish item
  extends_time : ∀ time, time ≤ reach time
  monotone : Monotone reach

variable {joins : Item → Item → Bool} {absorb : Item → Item → Item}
variable {start finish : Item → Time} {reach : Time → Time} {Timed : Item → Prop}

def Follows (start finish : Item → Time) (reach : Time → Time) (pieces : List Item)
    (earlier later : Item) : Prop :=
  earlier ∈ pieces ∧ later ∈ pieces ∧ start earlier ≤ start later ∧
    start later ≤ reach (finish earlier)

def Chain (start finish : Item → Time) (reach : Time → Time) (pieces : List Item) :
    Item → Item → Prop :=
  Relation.ReflTransGen (Follows start finish reach pieces)

def Fresh (start finish : Item → Time) (reach : Time → Time) (pieces : List Item)
    (piece : Item) : Prop :=
  ∀ other ∈ pieces, start other < start piece → reach (finish other) < start piece

section Images

variable {Source : Type v} {image : Source → Item} {sources : List Source} {pieces : List Item}
variable {begins ends : Source → Time}

structure Images (start finish : Item → Time) (begins ends : Source → Time)
    (image : Source → Item) (sources : List Source) (pieces : List Item) : Prop where
  members : ∀ item, item ∈ pieces ↔ ∃ source ∈ sources, image source = item
  starts : ∀ source ∈ sources, start (image source) = begins source
  finishes : ∀ source ∈ sources, finish (image source) = ends source

theorem Images.chain (images : Images start finish begins ends image sources pieces)
    (first : Source) (inSources : first ∈ sources) (item : Item) :
    Chain start finish reach pieces (image first) item ↔
      ∃ last ∈ sources, image last = item ∧ Chain begins ends reach sources first last := by
  constructor
  · intro chained
    induction chained with
    | refl => exact ⟨first, inSources, rfl, Relation.ReflTransGen.refl⟩
    | tail _ step ih =>
        obtain ⟨before, inBefore, rfl, chained⟩ := ih
        obtain ⟨-, inPieces, forward, near⟩ := step
        obtain ⟨last, inLast, rfl⟩ := (images.members _).mp inPieces
        rw [images.starts before inBefore, images.starts last inLast] at forward
        rw [images.starts last inLast, images.finishes before inBefore] at near
        exact ⟨last, inLast, rfl, chained.tail ⟨inBefore, inLast, forward, near⟩⟩
  · rintro ⟨last, -, rfl, chained⟩
    refine Relation.ReflTransGen.lift image ?_ _ _ chained
    intro earlier later step
    obtain ⟨inEarlier, inLater, forward, near⟩ := step
    refine ⟨(images.members _).mpr ⟨earlier, inEarlier, rfl⟩,
      (images.members _).mpr ⟨later, inLater, rfl⟩, ?_, ?_⟩
    · rw [images.starts earlier inEarlier, images.starts later inLater]
      exact forward
    · rw [images.starts later inLater, images.finishes earlier inEarlier]
      exact near

theorem Images.fresh (images : Images start finish begins ends image sources pieces)
    (source : Source) (inSources : source ∈ sources) :
    Fresh start finish reach pieces (image source) ↔ Fresh begins ends reach sources source := by
  have begin := images.starts source inSources
  constructor
  · intro fresh other inOthers earlier
    have apart := fresh (image other) ((images.members _).mpr ⟨other, inOthers, rfl⟩)
    rw [images.starts other inOthers, images.finishes other inOthers, begin] at apart
    exact apart earlier
  · intro fresh item inPieces earlier
    obtain ⟨other, inOthers, rfl⟩ := (images.members _).mp inPieces
    rw [images.starts other inOthers, begin] at earlier
    rw [images.finishes other inOthers, begin]
    exact fresh other inOthers earlier

end Images

/-- The interval a result covers: from a fresh piece to the end of one its chain leads to. -/
def Spanned (start finish : Item → Time) (reach : Time → Time) (pieces : List Item)
    (result : Item) : Prop :=
  ∃ first ∈ pieces, ∃ last ∈ pieces, start first = start result ∧
    Fresh start finish reach pieces first ∧ Chain start finish reach pieces first last ∧
    finish last = finish result

/-- The pieces absorbed so far into the one held, and those of the results before it. -/
structure Held (start finish : Item → Time) (reach : Time → Time)
    (pieces before run : List Item) (current : Item) : Prop where
  inPieces : ∀ piece ∈ run, piece ∈ pieces
  first : ∃ first ∈ run, start first = start current ∧
    ∀ piece ∈ run, start first ≤ start piece ∧ Chain start finish reach pieces first piece
  last : ∃ last ∈ run, finish last = finish current
  bounded : ∀ piece ∈ run, finish piece ≤ finish current
  apart : ∀ piece ∈ before, reach (finish piece) < start current

theorem Held.spanned {pieces before run pending : List Item} {current : Item}
    (held : Held start finish reach pieces before run current)
    (split : ∀ piece ∈ pieces, piece ∈ before ∨ piece ∈ run ∨ piece ∈ pending)
    (later : ∀ piece ∈ pending, start current ≤ start piece) :
    Spanned start finish reach pieces current := by
  obtain ⟨first, inRun, starts, chained⟩ := held.first
  obtain ⟨last, lastInRun, ends⟩ := held.last
  refine ⟨first, held.inPieces first inRun, last, held.inPieces last lastInRun, starts, ?_,
    (chained last lastInRun).2, ends⟩
  intro other member earlier
  -- What starts before the result is in an earlier one, and none of those reaches it.
  rcases split other member with inBefore | inSame | inPending
  · rw [starts]
    exact held.apart other inBefore
  · exact absurd earlier (not_lt_of_ge (chained other inSame).1)
  · rw [starts] at earlier
    exact absurd earlier (not_lt_of_ge (later other inPending))

theorem Held.absorbed (laws : Laws joins absorb start finish reach Timed)
    {pieces before run : List Item} {current piece : Item}
    (held : Held start finish reach pieces before run current) (member : piece ∈ pieces)
    (above : ∀ other ∈ run, start other ≤ start piece)
    (near : start piece ≤ reach (finish current)) :
    Held start finish reach pieces before (run ++ [piece]) (absorb current piece) := by
  obtain ⟨first, inRun, starts, chained⟩ := held.first
  obtain ⟨last, lastInRun, ends⟩ := held.last
  have link : Chain start finish reach pieces first piece :=
    (chained last lastInRun).2.tail ⟨held.inPieces last lastInRun, member, above last lastInRun,
      ends ▸ near⟩
  refine ⟨?_, ⟨first, List.mem_append_left _ inRun, ?_, ?_⟩, ?_, ?_, ?_⟩
  · intro other inAppended
    rcases List.mem_append.mp inAppended with inOld | isNew
    · exact held.inPieces other inOld
    · obtain rfl : other = piece := by simpa using isNew
      exact member
  · rw [laws.start_absorb, starts]
  · intro other inAppended
    rcases List.mem_append.mp inAppended with inOld | isNew
    · exact chained other inOld
    · obtain rfl : other = piece := by simpa using isNew
      exact ⟨above first inRun, link⟩
  · rw [laws.finish_absorb]
    rcases le_total (finish current) (finish piece) with below | past
    · exact ⟨piece, by simp, (max_eq_right below).symm⟩
    · exact ⟨last, List.mem_append_left _ lastInRun, by rw [ends, max_eq_left past]⟩
  · rw [laws.finish_absorb]
    intro other inAppended
    rcases List.mem_append.mp inAppended with inOld | isNew
    · exact le_trans (held.bounded other inOld) (le_max_left _ _)
    · obtain rfl : other = piece := by simpa using isNew
      exact le_max_right _ _
  · rw [laws.start_absorb]
    exact held.apart

theorem Held.closed (laws : Laws joins absorb start finish reach Timed)
    {pieces before run : List Item} {current piece : Item}
    (held : Held start finish reach pieces before run current) (member : piece ∈ pieces)
    (after : start current ≤ start piece) (far : reach (finish current) < start piece) :
    Held start finish reach pieces (before ++ run) [piece] piece := by
  refine ⟨by simpa using member, ⟨piece, by simp, rfl, ?_⟩, ⟨piece, by simp, rfl⟩, by simp, ?_⟩
  · intro other isPiece
    obtain rfl : other = piece := by simpa using isPiece
    exact ⟨le_refl _, Relation.ReflTransGen.refl⟩
  · intro other earlier
    rcases List.mem_append.mp earlier with inBefore | inRun
    · exact lt_of_lt_of_le (held.apart other inBefore) after
    · exact lt_of_le_of_lt (laws.monotone (held.bounded other inRun)) far

/-- The results over some pieces: spanned by chains, covering what they must, far apart. -/
structure Stitched (start finish : Item → Time) (reach : Time → Time)
    (pieces covered results : List Item) : Prop where
  spanned : ∀ result ∈ results, Spanned start finish reach pieces result
  covers : ∀ piece ∈ covered, ∃ result ∈ results,
    start result ≤ start piece ∧ finish piece ≤ finish result
  apart : results.Pairwise fun left right => reach (finish left) < start right

theorem stitchFrom_stitched (laws : Laws joins absorb start finish reach Timed)
    (pieces before run pending : List Item) (current : Item)
    (held : Held start finish reach pieces before run current) (timed : Timed current)
    (allTimed : ∀ piece ∈ pending, Timed piece) (inPieces : ∀ piece ∈ pending, piece ∈ pieces)
    (split : ∀ piece ∈ pieces, piece ∈ before ∨ piece ∈ run ∨ piece ∈ pending)
    (sorted : (run ++ pending).Pairwise fun left right => start left ≤ start right) :
    Stitched start finish reach pieces (run ++ pending)
        (stitchFrom joins absorb current pending) ∧
      ∀ result ∈ stitchFrom joins absorb current pending, start current ≤ start result := by
  induction pending generalizing before run current with
  | nil =>
      have spanned := held.spanned split (by simp)
      obtain ⟨first, inRun, starts, chained⟩ := held.first
      refine ⟨⟨by simpa [stitchFrom] using spanned, ?_, by simp [stitchFrom]⟩, by simp [stitchFrom]⟩
      intro piece member
      rw [List.append_nil] at member
      refine ⟨current, by simp [stitchFrom], ?_, held.bounded piece member⟩
      rw [← starts]
      exact (chained piece member).1
  | cons piece rest ih =>
      obtain ⟨first, inRun, starts, chained⟩ := held.first
      obtain ⟨-, pendingSorted, across⟩ := List.pairwise_append.mp sorted
      have above : ∀ other ∈ run, start other ≤ start piece := fun other inOld =>
        across other inOld piece List.mem_cons_self
      have after : start current ≤ start piece := starts ▸ above first inRun
      have member := inPieces piece List.mem_cons_self
      have pieceTimed := allTimed piece List.mem_cons_self
      have restTimed := fun other inRest => allTimed other (List.mem_cons_of_mem piece inRest)
      have restPieces := fun other inRest => inPieces other (List.mem_cons_of_mem piece inRest)
      unfold stitchFrom
      split
      · rename_i joined
        -- The piece is absorbed: it extends the run of what is held.
        have near := (laws.joins_iff current piece timed pieceTimed).mp joined
        have results := ih before (run ++ [piece]) (absorb current piece)
          (held.absorbed laws member above near) (laws.timed _ _ timed pieceTimed) restTimed
          restPieces (by
            intro other inAll
            rcases split other inAll with inBefore | inOld | inPending
            · exact .inl inBefore
            · exact .inr (.inl (List.mem_append_left _ inOld))
            · rcases List.mem_cons.mp inPending with rfl | inRest
              · exact .inr (.inl (by simp))
              · exact .inr (.inr inRest)) (by simpa using sorted)
        rw [laws.start_absorb] at results
        simpa using results
      · rename_i separate
        -- The piece begins a run of its own; what was held is a result.
        have far : reach (finish current) < start piece := by
          rw [laws.joins_iff current piece timed pieceTimed] at separate
          exact lt_of_not_ge separate
        obtain ⟨results, above⟩ := ih (before ++ run) [piece] piece
          (held.closed laws member after far) pieceTimed restTimed restPieces (by
            intro other inAll
            rcases split other inAll with inBefore | inOld | inPending
            · exact .inl (List.mem_append_left _ inBefore)
            · exact .inl (List.mem_append_right _ inOld)
            · rcases List.mem_cons.mp inPending with rfl | inRest
              · exact .inr (.inl (by simp))
              · exact .inr (.inr inRest)) (by simpa using pendingSorted)
        have later : ∀ other ∈ piece :: rest, start current ≤ start other := fun other inPending =>
          starts ▸ across first inRun other inPending
        refine ⟨⟨?_, ?_, ?_⟩, ?_⟩
        · intro result member
          rcases List.mem_cons.mp member with rfl | inRest
          · exact held.spanned split later
          · exact results.spanned result inRest
        · intro other member
          rcases List.mem_append.mp member with inOld | inPending
          · refine ⟨current, List.mem_cons_self, ?_, held.bounded other inOld⟩
            rw [← starts]
            exact (chained other inOld).1
          · obtain ⟨result, inResults, fits⟩ := results.covers other (by simpa using inPending)
            exact ⟨result, List.mem_cons_of_mem _ inResults, fits⟩
        · refine List.pairwise_cons.mpr ⟨?_, results.apart⟩
          intro result inResults
          exact lt_of_lt_of_le far (above result inResults)
        · intro result member
          rcases List.mem_cons.mp member with rfl | inRest
          · exact le_refl _
          · exact le_trans after (above result inRest)

theorem stitch_stitched (laws : Laws joins absorb start finish reach Timed) (pieces : List Item)
    (allTimed : ∀ piece ∈ pieces, Timed piece)
    (sorted : pieces.Pairwise fun left right => start left ≤ start right) :
    Stitched start finish reach pieces pieces (stitch joins absorb pieces) := by
  cases pieces with
  | nil => exact ⟨by simp [stitch], by simp, by simp [stitch]⟩
  | cons first rest =>
      have held : Held start finish reach (first :: rest) [] [first] first :=
        ⟨by simp, ⟨first, by simp, rfl, by
            simp only [List.mem_singleton, forall_eq]
            exact ⟨le_refl _, Relation.ReflTransGen.refl⟩⟩,
          ⟨first, by simp, rfl⟩, by simp, by simp⟩
      exact (stitchFrom_stitched laws (first :: rest) [] [first] rest first held
        (allTimed first List.mem_cons_self)
        (fun piece member => allTimed piece (List.mem_cons_of_mem first member))
        (fun piece member => List.mem_cons_of_mem first member) (by simp) sorted).1

theorem chain_before_fresh (pieces : List Item) (piece earlier later : Item)
    (fresh : Fresh start finish reach pieces piece)
    (chained : Chain start finish reach pieces earlier later)
    (before : start earlier < start piece) : start later < start piece := by
  induction chained with
  | refl => exact before
  | tail _ step ih =>
      obtain ⟨member, -, -, near⟩ := step
      exact lt_of_le_of_lt near (fresh _ member ih)

theorem stitched_either {results : List Item} {left right : Item}
    (apart : results.Pairwise fun left right => reach (finish left) < start right)
    (inLeft : left ∈ results) (inRight : right ∈ results) (different : left ≠ right) :
    reach (finish left) < start right ∨ reach (finish right) < start left := by
  have both : results.Pairwise fun left right =>
      reach (finish left) < start right ∨ reach (finish right) < start left :=
    apart.imp Or.inl
  have symmetric : Std.Symm fun left right : Item =>
      reach (finish left) < start right ∨ reach (finish right) < start left :=
    ⟨fun _ _ either => either.symm⟩
  exact both.forall inLeft inRight different

theorem Stitched.of_fresh (laws : Laws joins absorb start finish reach Timed)
    {pieces results : List Item}
    (stitched : Stitched start finish reach pieces pieces results)
    (allTimed : ∀ piece ∈ pieces, Timed piece) (piece : Item) (member : piece ∈ pieces)
    (fresh : Fresh start finish reach pieces piece) :
    ∃ result ∈ results, start result = start piece ∧
      ∀ last, Chain start finish reach pieces piece last → finish last ≤ finish result := by
  obtain ⟨result, inResults, begins, ends⟩ := stitched.covers piece member
  have starts : start result = start piece := by
    refine le_antisymm begins (le_of_not_gt ?_)
    intro earlier
    obtain ⟨first, -, last, inPieces, firstStarts, -, chained, lastEnds⟩ :=
      stitched.spanned result inResults
    have before := chain_before_fresh pieces piece first last fresh chained (firstStarts ▸ earlier)
    have short := fresh last inPieces before
    have long : start piece ≤ reach (finish last) :=
      calc start piece ≤ finish piece := laws.ordered piece (allTimed piece member)
        _ ≤ finish result := ends
        _ = finish last := lastEnds.symm
        _ ≤ reach (finish last) := laws.extends_time _
    exact not_lt_of_ge long short
  refine ⟨result, inResults, starts, ?_⟩
  intro last chained
  have within : start result ≤ start last ∧ finish last ≤ finish result := by
    induction chained with
    | refl => exact ⟨le_of_eq starts, ends⟩
    | @tail before after _ step ih =>
        obtain ⟨-, inPieces, forward, near⟩ := step
        obtain ⟨other, inOthers, otherBegins, otherEnds⟩ := stitched.covers after inPieces
        have reached : start after ≤ reach (finish result) := near.trans (laws.monotone ih.2)
        -- Only the result itself can cover what a chain from its first piece reaches.
        by_cases same : other = result
        · subst other
          exact ⟨otherBegins, otherEnds⟩
        · exfalso
          rcases stitched_either stitched.apart inResults inOthers (Ne.symm same) with
            resultFirst | otherFirst
          · exact not_lt_of_ge reached (lt_of_lt_of_le resultFirst otherBegins)
          · have past : reach (finish other) < reach (finish other) :=
              calc reach (finish other) < start result := otherFirst
                _ ≤ start before := ih.1
                _ ≤ start after := forward
                _ ≤ finish after := laws.ordered after (allTimed after inPieces)
                _ ≤ finish other := otherEnds
                _ ≤ reach (finish other) := laws.extends_time _
            exact lt_irrefl _ past
  exact within.2

end Intervals

end CloudGuest.Stitching
