import Mathlib.Algebra.BigOperators.Group.List.Basic
import Mathlib.Algebra.Order.Monoid.Defs

/-!
Append-only journals. Each row carries a signed `delta` and the balance
`after` it. A journal is running when every row's balance is the total of
the rows up to and including it, which is what a reader of one row relies
on without reading the rows before it. A journal whose rows carry labels has
one part a label; when no part is negative, none exceeds the whole.
-/

namespace CloudGuest.RunningTotals

universe u v
variable {Row : Type u} {Amount : Type v} [AddMonoid Amount]

def total (delta : Row → Amount) (rows : List Row) : Amount := (rows.map delta).sum

@[simp] theorem total_nil (delta : Row → Amount) : total delta [] = 0 := rfl

@[simp] theorem total_append (delta : Row → Amount) (front back : List Row) :
    total delta (front ++ back) = total delta front + total delta back := by
  simp [total]

@[simp] theorem total_singleton (delta : Row → Amount) (row : Row) :
    total delta [row] = delta row := by
  simp [total]

def Running (delta after : Row → Amount) (rows : List Row) : Prop :=
  ∀ front row back, rows = front ++ row :: back → after row = total delta (front ++ [row])

theorem running_nil (delta after : Row → Amount) : Running delta after [] := by
  intro front row back split
  simp at split

theorem running_concat (delta after : Row → Amount) (rows : List Row) (added : Row)
    (running : Running delta after rows)
    (balance : after added = total delta rows + delta added) :
    Running delta after (rows ++ [added]) := by
  -- Appending keeps a journal running when the new row's balance is the old total plus its own
  -- delta. Older rows keep their prefix.
  intro front row back split
  rcases List.eq_nil_or_concat back with rfl | ⟨middle, last, rfl⟩
  · obtain ⟨rfl, same⟩ := List.append_inj' split rfl
    obtain rfl : added = row := by simpa using same
    simpa using balance
  · have regrouped : rows ++ [added] = (front ++ row :: middle) ++ [last] := by
      simpa using split
    exact running front row middle (List.append_inj' regrouped rfl).1

section Parts

universe w
variable {Label : Type w} [DecidableEq Label]

def part (label : Row → Label) (wanted : Label) (rows : List Row) : List Row :=
  rows.filter fun row => label row == wanted

def others (label : Row → Label) (wanted : Label) (rows : List Row) : List Row :=
  rows.filter fun row => label row != wanted

theorem part_others (label : Row → Label) (left right : Label) (rows : List Row) :
    part label left (others label right rows) =
      if left = right then [] else part label left rows := by
  simp only [part, others, List.filter_filter]
  split
  · rename_i same
    subst same
    simp
  · rename_i different
    refine List.filter_congr ?_
    intro row _
    by_cases here : label row = left
    · simp [here, different]
    · simp [here]

variable {Sum : Type v} [AddCommMonoid Sum]

theorem total_part_add_others (delta : Row → Sum) (label : Row → Label) (wanted : Label)
    (rows : List Row) :
    total delta (part label wanted rows) + total delta (others label wanted rows) =
      total delta rows := by
  induction rows with
  | nil => simp [part, others]
  | cons row rest ih =>
      simp only [total, part, others, List.map_cons, List.sum_cons] at ih ⊢
      rw [← ih]
      by_cases here : label row = wanted
      · simp [here, add_assoc]
      · simp [here, add_left_comm]

variable [PartialOrder Sum] [IsOrderedAddMonoid Sum]

theorem total_nonneg_of_parts (delta : Row → Sum) (label : Row → Label) (rows : List Row)
    (nonneg : ∀ wanted, 0 ≤ total delta (part label wanted rows)) : 0 ≤ total delta rows := by
  -- Taking one label out leaves a shorter journal whose parts are parts of this one.
  induction size : rows.length using Nat.strong_induction_on generalizing rows with
  | _ length ih =>
      cases rows with
      | nil => simp
      | cons row rest =>
          rw [← total_part_add_others delta label (label row)]
          refine add_nonneg (nonneg (label row)) (ih _ ?_ _ ?_ rfl)
          · have shorter := List.length_filter_le (fun other => label other != label row) rest
            simp only [others, List.filter_cons, bne_self_eq_false, List.length_cons] at size ⊢
            simp only [Bool.false_eq_true, if_false]
            omega
          · intro wanted
            rw [part_others]
            split
            · simp
            · exact nonneg wanted

theorem parts_le_total (delta : Row → Sum) (label : Row → Label) (labels : List Label)
    (distinct : labels.Nodup) (rows : List Row)
    (nonneg : ∀ other, 0 ≤ total delta (part label other rows)) :
    (labels.map fun wanted => total delta (part label wanted rows)).sum ≤ total delta rows := by
  induction labels generalizing rows with
  | nil => exact total_nonneg_of_parts delta label rows nonneg
  | cons first rest ih =>
      obtain ⟨absent, apart⟩ := List.nodup_cons.mp distinct
      have left : ∀ other, 0 ≤ total delta (part label other (others label first rows)) := by
        intro other
        rw [part_others]
        split
        · simp
        · exact nonneg other
      have same : (rest.map fun wanted => total delta (part label wanted (others label first rows))) =
          rest.map fun wanted => total delta (part label wanted rows) := by
        refine List.map_congr_left ?_
        intro wanted member
        rw [part_others, if_neg]
        rintro rfl
        exact absent member
      calc ((first :: rest).map fun wanted => total delta (part label wanted rows)).sum
          = total delta (part label first rows) +
              (rest.map fun wanted => total delta (part label wanted rows)).sum := by simp
        _ ≤ total delta (part label first rows) + total delta (others label first rows) := by
            rw [← same]
            exact add_le_add_right (ih apart (others label first rows) left) _
        _ = total delta rows := total_part_add_others delta label first rows

end Parts

end CloudGuest.RunningTotals
