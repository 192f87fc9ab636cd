import CloudGuest.Library.RunningTotals
import CloudGuest.Library.Texts

/-!
Templates: texts with placeholders `{{name}}`, as a left-to-right substitution of
a pattern reads them. A template is cut into pieces once; filling it in puts a text for each
placeholder, and a measure that adds up over characters adds up over the pieces.
-/

namespace CloudGuest.Templates
open Texts RunningTotals

inductive Piece where
  | literal (char : Char)
  | slot (name : Text)
  deriving DecidableEq

variable (nameChar : Char → Bool)

def placeholder : Text → Option Text
  | '\x7b' :: '\x7b' :: rest =>
      match rest.takeWhile nameChar, rest.dropWhile nameChar with
      | first :: name, '\x7d' :: '\x7d' :: _ => some (first :: name)
      | _, _ => none
  | _ => none

def piecesFrom : Nat → Text → List Piece
  -- The pieces from a place on, where `skip` characters still belong to a placeholder.
  | _, [] => []
  | skip + 1, _ :: rest => piecesFrom skip rest
  | 0, char :: rest =>
      match placeholder nameChar (char :: rest) with
      | some name => .slot name :: piecesFrom (name.length + 3) rest
      | none => .literal char :: piecesFrom 0 rest

def pieces (template : Text) : List Piece := piecesFrom nameChar 0 template

def fillPiece (values : Text → Text) : Piece → Text
  | .literal char => [char]
  | .slot name => values name

def fill (values : Text → Text) (template : List Piece) : Text :=
  template.flatMap (fillPiece values)

def slots : List Piece → List Text
  | [] => []
  | .literal _ :: rest => slots rest
  | .slot name :: rest => name :: slots rest

def literals : List Piece → Text
  | [] => []
  | .literal char :: rest => char :: literals rest
  | .slot _ :: rest => literals rest

variable (values : Text → Text) (template : List Piece)

theorem all_fill (holds : Char → Bool) :
    (fill values template).all holds =
      ((literals template).all holds && (slots template).all fun name =>
        (values name).all holds) := by
  induction template with
  | nil => rfl
  | cons piece rest ih =>
      rw [fill, List.flatMap_cons, List.all_append, ← fill, ih]
      cases piece with
      | literal char => simp [fillPiece, literals, slots, Bool.and_assoc]
      | slot name => simp [fillPiece, literals, slots, Bool.and_left_comm]

theorem total_fill (weight : Char → Nat) :
    total weight (fill values template) =
      total weight (literals template) +
        ((slots template).map fun name => total weight (values name)).sum := by
  induction template with
  | nil => rfl
  | cons piece rest ih =>
      rw [fill, List.flatMap_cons, total_append, ← fill, ih]
      cases piece with
      | literal char => simp [fillPiece, literals, slots, total, Nat.add_assoc]
      | slot name => simp [fillPiece, literals, slots, Nat.add_left_comm]

end CloudGuest.Templates
