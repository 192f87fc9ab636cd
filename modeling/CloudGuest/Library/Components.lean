import CloudGuest.Library.Stitching
import Mathlib.Algebra.BigOperators.Group.List.Basic
import Mathlib.Data.List.Induction
import Mathlib.Data.List.Perm.Basic

/-!
The connected components of intervals, where two are near when neither starts out of
reach of the other's end. Stitching intervals in order of their start gives one
result for each component: the runs of pieces absorbed into one result are the
components.
-/

namespace CloudGuest.Stitching

universe u v
variable {Item : Type u} {Time : Type v} [LinearOrder Time]

section Nearness

variable (start finish : Item → Time) (reach : Time → Time)

def Near (left right : Item) : Prop :=
  start right ≤ reach (finish left) ∧ start left ≤ reach (finish right)

def Connected (items : List Item) : Item → Item → Prop :=
  Relation.ReflTransGen fun left right =>
    left ∈ items ∧ right ∈ items ∧ Near start finish reach left right

variable {start finish reach}

theorem Connected.symm {items : List Item} {left right : Item}
    (connected : Connected start finish reach items left right) :
    Connected start finish reach items right left := by
  induction connected with
  | refl => exact Relation.ReflTransGen.refl
  | tail _ step ih =>
      obtain ⟨inLeft, inRight, near⟩ := step
      exact Relation.ReflTransGen.head ⟨inRight, inLeft, near.2, near.1⟩ ih

theorem connected_congr {items others : List Item} (same : ∀ item, item ∈ items ↔ item ∈ others)
    (left right : Item) : Connected start finish reach items left right ↔
      Connected start finish reach others left right := by
  have steps : (fun left right => left ∈ items ∧ right ∈ items ∧
      Near start finish reach left right) =
      fun left right => left ∈ others ∧ right ∈ others ∧ Near start finish reach left right := by
    funext left right
    rw [same left, same right]
  rw [Connected, steps]
  rfl

theorem connected_image {Source : Type v} {begins ends : Source → Time} {image : Source → Item}
    {sources : List Source} {items : List Item}
    (images : Images start finish begins ends image sources items)
    (ordered : ∀ source ∈ sources, begins source ≤ reach (ends source)) {left right : Source}
    (inLeft : left ∈ sources) (inRight : right ∈ sources) :
    Connected begins ends reach sources left right ↔
      Connected start finish reach items (image left) (image right) := by
  have nearness : ∀ first ∈ sources, ∀ second ∈ sources,
      (Near start finish reach (image first) (image second) ↔
        Near begins ends reach first second) := by
    intro first inFirst second inSecond
    rw [Near, images.starts first inFirst, images.starts second inSecond,
      images.finishes first inFirst, images.finishes second inSecond]
    rfl
  constructor
  · intro connected
    refine Relation.ReflTransGen.lift image ?_ _ _ connected
    rintro first second ⟨inFirst, inSecond, near⟩
    exact ⟨(images.members _).mpr ⟨first, inFirst, rfl⟩,
      (images.members _).mpr ⟨second, inSecond, rfl⟩, (nearness first inFirst second inSecond).mpr near⟩
  · intro connected
    have reached : ∀ item, Connected start finish reach items (image left) item →
        ∃ source ∈ sources, image source = item ∧
          Connected begins ends reach sources left source := by
      intro item way
      induction way with
      | refl => exact ⟨left, inLeft, rfl, Relation.ReflTransGen.refl⟩
      | tail _ step ih =>
          obtain ⟨before, inBefore, rfl, earlier⟩ := ih
          obtain ⟨-, inItems, near⟩ := step
          obtain ⟨after, inAfter, rfl⟩ := (images.members _).mp inItems
          exact ⟨after, inAfter, rfl,
            earlier.tail ⟨inBefore, inAfter, (nearness before inBefore after inAfter).mp near⟩⟩
    obtain ⟨source, inSource, same, way⟩ := reached _ connected
    -- A source with the same image has the same times.
    refine way.tail ⟨inSource, inRight, ?_⟩
    refine (nearness source inSource right inRight).mp ?_
    rw [same, Near, images.starts right inRight, images.finishes right inRight]
    exact ⟨ordered right inRight, ordered right inRight⟩

end Nearness

structure Run (Item : Type u) where
  first : Item
  rest : List Item

def Run.items (run : Run Item) : List Item := run.first :: run.rest

def Run.snoc (run : Run Item) (piece : Item) : Run Item := ⟨run.first, run.rest ++ [piece]⟩

def Run.absorbed (absorb : Item → Item → Item) (run : Run Item) : Item :=
  run.rest.foldl absorb run.first

theorem Run.snoc_items (run : Run Item) (piece : Item) :
    (run.snoc piece).items = run.items ++ [piece] := rfl

theorem Run.snoc_absorbed (absorb : Item → Item → Item) (run : Run Item) (piece : Item) :
    (run.snoc piece).absorbed absorb = absorb (run.absorbed absorb) piece := by
  simp [Run.absorbed, Run.snoc]

section Runs

variable {joins : Item → Item → Bool} {absorb : Item → Item → Item}
variable {start finish : Item → Time} {reach : Time → Time} {Timed : Item → Prop}

structure Covers (start finish : Item → Time) (Timed : Item → Prop) (run : Run Item)
    (result : Item) : Prop where
  timed : Timed result
  starts : start result = start run.first
  ends : ∃ piece ∈ run.items, finish piece = finish result
  bounded : ∀ piece ∈ run.items, finish piece ≤ finish result

theorem Run.covers (laws : Laws joins absorb start finish reach Timed) (run : Run Item)
    (timed : ∀ piece ∈ run.items, Timed piece) :
    Covers start finish Timed run (run.absorbed absorb) := by
  obtain ⟨first, rest⟩ := run
  induction rest using List.reverseRecOn with
  | nil => exact ⟨timed first (by simp [Run.items]), rfl, ⟨first, by simp [Run.items], rfl⟩,
      by simp [Run.items, Run.absorbed]⟩
  | append_singleton rest piece ih =>
      have whole : (⟨first, rest ++ [piece]⟩ : Run Item) = Run.snoc ⟨first, rest⟩ piece := rfl
      rw [whole, Run.snoc_items] at timed
      obtain ⟨held, starts, ⟨last, inItems, ends⟩, bounded⟩ :=
        ih fun other member => timed other (List.mem_append_left _ member)
      rw [whole, Run.snoc_absorbed]
      refine ⟨laws.timed _ _ held (timed piece (by simp)), ?_, ?_, ?_⟩
      · rw [laws.start_absorb, starts]
        rfl
      · rw [laws.finish_absorb, Run.snoc_items]
        rcases le_total (finish (Run.absorbed absorb ⟨first, rest⟩)) (finish piece) with below | past
        · exact ⟨piece, by simp, (max_eq_right below).symm⟩
        · exact ⟨last, List.mem_append_left _ inItems, by rw [ends, max_eq_left past]⟩
      · rw [laws.finish_absorb, Run.snoc_items]
        intro other member
        rcases List.mem_append.mp member with old | new
        · exact (bounded other old).trans (le_max_left _ _)
        · obtain rfl := List.mem_singleton.mp new
          exact le_max_right _ _

/-- How some pieces fall into runs: each run is connected, and out of reach of those after it. -/
structure Split (start finish : Item → Time) (reach : Time → Time) (pieces covered : List Item)
    (runs : List (Run Item)) : Prop where
  whole : runs.flatMap Run.items = covered
  linked : ∀ run ∈ runs, ∀ piece ∈ run.items, Connected start finish reach pieces run.first piece
  apart : runs.Pairwise fun earlier later =>
    ∀ left ∈ earlier.items, ∀ right ∈ later.items, reach (finish left) < start right

theorem stitchFrom_split (laws : Laws joins absorb start finish reach Timed) (pieces : List Item)
    (run : Run Item) (pending : List Item)
    (timed : ∀ piece ∈ run.items ++ pending, Timed piece)
    (inPieces : ∀ piece ∈ run.items ++ pending, piece ∈ pieces)
    (sorted : (run.items ++ pending).Pairwise fun left right => start left ≤ start right)
    (linked : ∀ piece ∈ run.items, Connected start finish reach pieces run.first piece) :
    ∃ runs, stitchFrom joins absorb (run.absorbed absorb) pending =
        runs.map (Run.absorbed absorb) ∧
      Split start finish reach pieces (run.items ++ pending) runs := by
  induction pending generalizing run with
  | nil => exact ⟨[run], rfl, by simp, by simpa using linked, List.pairwise_singleton _ _⟩
  | cons piece rest ih =>
      have covers := run.covers laws fun other member => timed other (List.mem_append_left _ member)
      obtain ⟨last, inRun, ends⟩ := covers.ends
      have pieceTimed := timed piece (by simp)
      obtain ⟨-, sortedPending, across⟩ := List.pairwise_append.mp sorted
      unfold stitchFrom
      split
      · rename_i joined
        have near := (laws.joins_iff _ _ covers.timed pieceTimed).mp joined
        rw [← ends] at near
        have back : start last ≤ reach (finish piece) :=
          calc start last ≤ start piece := across last inRun piece List.mem_cons_self
            _ ≤ finish piece := laws.ordered piece pieceTimed
            _ ≤ reach (finish piece) := laws.extends_time _
        have regrouped : (run.snoc piece).items ++ rest = run.items ++ piece :: rest := by
          simp [Run.snoc_items]
        have longer : ∀ other ∈ (run.snoc piece).items,
            Connected start finish reach pieces (run.snoc piece).first other := by
          intro other member
          rw [Run.snoc_items] at member
          rcases List.mem_append.mp member with old | new
          · exact linked other old
          · obtain rfl := List.mem_singleton.mp new
            exact (linked last inRun).tail ⟨inPieces last (List.mem_append_left _ inRun),
              inPieces other (by simp), near, back⟩
        rw [← run.snoc_absorbed absorb piece, ← regrouped]
        rw [← regrouped] at timed inPieces sorted
        exact ih (run.snoc piece) timed inPieces sorted longer
      · rename_i separate
        rw [laws.joins_iff _ _ covers.timed pieceTimed, not_le] at separate
        obtain ⟨runs, results, split⟩ := ih ⟨piece, []⟩
          (fun other member => timed other (List.mem_append_right _ member))
          (fun other member => inPieces other (List.mem_append_right _ member)) sortedPending
          (by
            intro other member
            obtain rfl := List.mem_singleton.mp member
            exact Relation.ReflTransGen.refl)
        have fresh : (⟨piece, []⟩ : Run Item).absorbed absorb = piece := rfl
        rw [fresh] at results
        refine ⟨run :: runs, by rw [results, List.map_cons], ?_, ?_, ?_⟩
        · rw [List.flatMap_cons, split.whole]
          rfl
        · intro other member
          rcases List.mem_cons.mp member with rfl | inRest
          · exact linked
          · exact split.linked other inRest
        · refine List.pairwise_cons.mpr ⟨?_, split.apart⟩
          intro other member left inLeft right inRight
          have behind : right ∈ piece :: rest := by
            have covered : right ∈ runs.flatMap Run.items :=
              List.mem_flatMap.mpr ⟨other, member, inRight⟩
            rwa [split.whole] at covered
          have later : start piece ≤ start right := by
            rcases List.mem_cons.mp behind with rfl | inRest
            · exact le_refl _
            · exact (List.pairwise_cons.mp sortedPending).1 right inRest
          calc reach (finish left)
              ≤ reach (finish (run.absorbed absorb)) := laws.monotone (covers.bounded left inLeft)
            _ < start piece := separate
            _ ≤ start right := later

theorem stitch_split (laws : Laws joins absorb start finish reach Timed) (pieces : List Item)
    (timed : ∀ piece ∈ pieces, Timed piece)
    (sorted : pieces.Pairwise fun left right => start left ≤ start right) :
    ∃ runs, stitch joins absorb pieces = runs.map (Run.absorbed absorb) ∧
      Split start finish reach pieces pieces runs := by
  cases pieces with
  | nil => exact ⟨[], rfl, rfl, by simp, List.Pairwise.nil⟩
  | cons first rest =>
      refine stitchFrom_split laws (first :: rest) ⟨first, []⟩ rest timed
        (fun piece member => member) sorted ?_
      intro piece member
      obtain rfl := List.mem_singleton.mp member
      exact Relation.ReflTransGen.refl

theorem Split.component {pieces : List Item} {runs : List (Run Item)}
    (split : Split start finish reach pieces pieces runs) {run : Run Item} (member : run ∈ runs)
    {piece : Item} (inRun : piece ∈ run.items) (other : Item) :
    Connected start finish reach pieces piece other ↔ other ∈ run.items := by
  constructor
  · intro connected
    induction connected with
    | refl => exact inRun
    | @tail before after _ step ih =>
        obtain ⟨-, inPieces, near⟩ := step
        rw [← split.whole] at inPieces
        obtain ⟨next, inRuns, inNext⟩ := List.mem_flatMap.mp inPieces
        obtain ⟨front, back, rfl⟩ := List.append_of_mem member
        obtain ⟨-, behind, across⟩ := List.pairwise_append.mp split.apart
        rcases List.mem_append.mp inRuns with ahead | following
        · have far := across next ahead run List.mem_cons_self after inNext before ih
          exact absurd near.2 (not_le_of_gt far)
        · rcases List.mem_cons.mp following with rfl | later
          · exact inNext
          · have far := (List.pairwise_cons.mp behind).1 next later before ih after inNext
            exact absurd near.1 (not_le_of_gt far)
  · intro inItems
    exact (split.linked run member piece inRun).symm.trans (split.linked run member other inItems)

theorem Split.sublist {pieces covered : List Item} {runs : List (Run Item)}
    (split : Split start finish reach pieces covered runs) {run : Run Item} (member : run ∈ runs) :
    run.items.Sublist covered := by
  obtain ⟨front, back, rfl⟩ := List.append_of_mem member
  rw [← split.whole, List.flatMap_append, List.flatMap_cons]
  exact (List.sublist_append_left _ _).trans (List.sublist_append_right _ _)

theorem Split.filter_component {pieces : List Item} {runs : List (Run Item)}
    (split : Split start finish reach pieces pieces runs)
    (ordered : ∀ piece ∈ pieces, start piece ≤ reach (finish piece)) {run : Run Item}
    (member : run ∈ runs) {chosen : Item → Bool}
    (chooses : ∀ piece, chosen piece = true ↔ piece ∈ run.items) :
    pieces.filter chosen = run.items := by
  have apart := split.apart
  have whole := split.whole
  obtain ⟨front, back, rfl⟩ := List.append_of_mem member
  obtain ⟨-, behind, across⟩ := List.pairwise_append.mp apart
  have others : ∀ runs : List (Run Item), (∀ other ∈ runs, ∀ piece ∈ other.items, piece ∉ run.items) →
      (runs.flatMap Run.items).filter chosen = [] := by
    intro runs absent
    rw [List.filter_eq_nil_iff]
    intro piece inRuns
    obtain ⟨other, inOther, inItems⟩ := List.mem_flatMap.mp inRuns
    rw [chooses]
    exact absent other inOther piece inItems
  have own : run.items.filter chosen = run.items :=
    List.filter_eq_self.mpr fun piece inItems => (chooses piece).mpr inItems
  have reached : ∀ piece ∈ run.items, start piece ≤ reach (finish piece) := fun piece inItems =>
    ordered piece ((split.sublist member).mem inItems)
  rw [← whole, List.flatMap_append, List.flatMap_cons, List.filter_append, List.filter_append, own,
    others front, others back, List.nil_append, List.append_nil]
  · intro other inBack piece inOther inItems
    have far := (List.pairwise_cons.mp behind).1 other inBack piece inItems piece inOther
    exact absurd (reached piece inItems) (not_le_of_gt far)
  · intro other inFront piece inOther inItems
    have far := across other inFront run List.mem_cons_self piece inOther piece inItems
    exact absurd (reached piece inItems) (not_le_of_gt far)

end Runs

section Sums

variable {joins : Item → Item → Bool} {absorb : Item → Item → Item}

theorem stitch_sum {Amount : Type v} [AddMonoid Amount] (amount : Item → Amount)
    (adds : ∀ current piece, amount (absorb current piece) = amount current + amount piece)
    (pieces : List Item) :
    ((stitch joins absorb pieces).map amount).sum = (pieces.map amount).sum := by
  have from' : ∀ (pieces : List Item) (current : Item),
      ((stitchFrom joins absorb current pieces).map amount).sum =
        amount current + (pieces.map amount).sum := by
    intro pieces
    induction pieces with
    | nil => intro current; simp [stitchFrom]
    | cons piece rest ih =>
        intro current
        unfold stitchFrom
        split
        · rw [ih, adds, List.map_cons, List.sum_cons, add_assoc]
        · rw [List.map_cons, List.sum_cons, ih, List.map_cons, List.sum_cons]
  cases pieces with
  | nil => rfl
  | cons first rest => exact from' rest first

end Sums

end CloudGuest.Stitching
