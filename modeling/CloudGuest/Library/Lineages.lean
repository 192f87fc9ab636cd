import Mathlib.Data.List.Basic

/-!
Rows of a table that follow one another: a row may name the place of the one it was
made from. What is kept along each such link is kept along every lineage.
-/

namespace CloudGuest.Lineages

universe u
variable {Row : Type u} (follows : Row → Option Nat) {Link : Row → Row → Prop} {rows : List Row}

inductive Lineage (rows : List Row) (first : Nat) : Nat → List Row → Prop where
  | single {row : Row} (stored : rows[first]? = some row) : Lineage rows first first [row]
  | next {last place : Nat} {chain : List Row} {row : Row}
      (lineage : Lineage rows first last chain) (stored : rows[place]? = some row)
      (linked : follows row = some last) : Lineage rows first place (chain ++ [row])

def Linked (Link : Row → Row → Prop) (rows : List Row) : Prop :=
  ∀ row ∈ rows, ∀ prior, follows row = some prior →
    ∃ older, rows[prior]? = some older ∧ Link older row

variable {follows}

/-- What holds of a single row, and goes on along a link, holds of a lineage. -/
theorem Lineage.induct {Holds : Row → Row → List Row → Prop} (links : Linked follows Link rows)
    (single : ∀ row, Holds row row [row])
    (next : ∀ first last row chain, Holds first last chain → Link last row →
      Holds first row (chain ++ [row]))
    {first last : Nat} {chain : List Row} (lineage : Lineage follows rows first last chain) :
    ∃ older newer, rows[first]? = some older ∧ rows[last]? = some newer ∧
      Holds older newer chain := by
  induction lineage with
  | single stored => exact ⟨_, _, stored, stored, single _⟩
  | @next last place chain row _ stored linked ih =>
      obtain ⟨older, newer, storedFirst, storedLast, held⟩ := ih
      obtain ⟨prior, storedPrior, link⟩ := links row (List.mem_of_getElem? stored) last linked
      obtain rfl : newer = prior := Option.some.inj (storedLast.symm.trans storedPrior)
      exact ⟨older, row, storedFirst, stored, next older newer row chain held link⟩

theorem linked_appended (links : Linked follows Link rows) {row : Row}
    (new : ∀ prior, follows row = some prior → ∃ older, rows[prior]? = some older ∧ Link older row) :
    Linked follows Link (rows ++ [row]) := by
  have still : ∀ {place : Nat} {older : Row}, rows[place]? = some older →
      (rows ++ [row])[place]? = some older := by
    intro place older stored
    rw [List.getElem?_append_left (List.getElem?_eq_some_iff.mp stored).1]
    exact stored
  intro newer member prior followed
  have earlier : ∃ older, rows[prior]? = some older ∧ Link older newer := by
    rcases List.mem_append.mp member with before | last
    · exact links newer before prior followed
    · obtain rfl := List.mem_singleton.mp last
      exact new prior followed
  obtain ⟨older, stored, link⟩ := earlier
  exact ⟨older, still stored, link⟩

theorem linked_replaced (links : Linked follows Link rows) {place : Nat} {row next : Row}
    (stored : rows[place]? = some row) (same : follows next = follows row)
    (after : ∀ newer ∈ rows, follows newer = some place → Link row newer → Link next newer)
    (behind : ∀ older, (follows row).isSome → Link older row → Link older next) :
    Linked follows Link (rows.set place next) := by
  have inside := (List.getElem?_eq_some_iff.mp stored).1
  have held := List.mem_of_getElem? stored
  -- the row that is followed is the one that changes, or stays
  have relink : ∀ newer ∈ rows, ∀ prior, follows newer = some prior →
      ∃ older, (rows.set place next)[prior]? = some older ∧ Link older newer := by
    intro newer member prior followed
    obtain ⟨older, storedOlder, link⟩ := links newer member prior followed
    by_cases here : place = prior
    · subst here
      obtain rfl : row = older := Option.some.inj (stored.symm.trans storedOlder)
      exact ⟨next, List.getElem?_set_self inside, after newer member followed link⟩
    · exact ⟨older, by rw [List.getElem?_set_ne here, storedOlder], link⟩
  intro newer member prior followed
  rcases List.mem_or_eq_of_mem_set member with kept | rfl
  · exact relink newer kept prior followed
  · rw [same] at followed
    obtain ⟨older, storedOlder, link⟩ := relink row held prior followed
    exact ⟨older, storedOlder, behind older (by rw [followed]; rfl) link⟩

end CloudGuest.Lineages
