import CloudGuest.Library.Texts

/-!
`str.lower` over Unicode 15: the rows of the character database that map one code
point to another, the two code points of `İ`, and the sigma that ends a word. Lower
case is settled: lowering it again, or stripping it again, changes nothing.
-/

namespace CloudGuest.Casing

open Texts

/-- Every `step`-th code point from `first` to `last`; `first` is lowered to `low`. -/
structure Row where
  first : Nat
  last : Nat
  step : Nat
  low : Nat

def Row.covers (row : Row) (code : Nat) : Bool :=
  row.first ≤ code && code ≤ row.last && (code - row.first) % row.step = 0

def Row.lowered (row : Row) (code : Nat) : Nat := row.low + (code - row.first)

def rows : List Row :=
  [⟨65, 90, 1, 97⟩, ⟨192, 214, 1, 224⟩, ⟨216, 222, 1, 248⟩, ⟨256, 302, 2, 257⟩,
    ⟨306, 310, 2, 307⟩, ⟨313, 327, 2, 314⟩, ⟨330, 374, 2, 331⟩, ⟨376, 376, 2, 255⟩,
    ⟨377, 381, 2, 378⟩, ⟨385, 385, 2, 595⟩, ⟨386, 388, 2, 387⟩, ⟨390, 390, 2, 596⟩,
    ⟨391, 391, 2, 392⟩, ⟨393, 394, 1, 598⟩, ⟨395, 395, 2, 396⟩, ⟨398, 398, 2, 477⟩,
    ⟨399, 399, 2, 601⟩, ⟨400, 400, 2, 603⟩, ⟨401, 401, 2, 402⟩, ⟨403, 403, 2, 608⟩,
    ⟨404, 404, 2, 611⟩, ⟨406, 406, 2, 617⟩, ⟨407, 407, 2, 616⟩, ⟨408, 408, 2, 409⟩,
    ⟨412, 412, 2, 623⟩, ⟨413, 413, 2, 626⟩, ⟨415, 415, 2, 629⟩, ⟨416, 420, 2, 417⟩,
    ⟨422, 422, 2, 640⟩, ⟨423, 423, 2, 424⟩, ⟨425, 425, 2, 643⟩, ⟨428, 428, 2, 429⟩,
    ⟨430, 430, 2, 648⟩, ⟨431, 431, 2, 432⟩, ⟨433, 434, 1, 650⟩, ⟨435, 437, 2, 436⟩,
    ⟨439, 439, 2, 658⟩, ⟨440, 440, 2, 441⟩, ⟨444, 444, 2, 445⟩, ⟨452, 452, 2, 454⟩,
    ⟨453, 453, 2, 454⟩, ⟨455, 455, 2, 457⟩, ⟨456, 456, 2, 457⟩, ⟨458, 458, 2, 460⟩,
    ⟨459, 475, 2, 460⟩, ⟨478, 494, 2, 479⟩, ⟨497, 497, 2, 499⟩, ⟨498, 500, 2, 499⟩,
    ⟨502, 502, 2, 405⟩, ⟨503, 503, 2, 447⟩, ⟨504, 542, 2, 505⟩, ⟨544, 544, 2, 414⟩,
    ⟨546, 562, 2, 547⟩, ⟨570, 570, 2, 11365⟩, ⟨571, 571, 2, 572⟩, ⟨573, 573, 2, 410⟩,
    ⟨574, 574, 2, 11366⟩, ⟨577, 577, 2, 578⟩, ⟨579, 579, 2, 384⟩, ⟨580, 580, 2, 649⟩,
    ⟨581, 581, 2, 652⟩, ⟨582, 590, 2, 583⟩, ⟨880, 882, 2, 881⟩, ⟨886, 886, 2, 887⟩,
    ⟨895, 895, 2, 1011⟩, ⟨902, 902, 2, 940⟩, ⟨904, 906, 1, 941⟩, ⟨908, 908, 2, 972⟩,
    ⟨910, 911, 1, 973⟩, ⟨913, 929, 1, 945⟩, ⟨931, 939, 1, 963⟩, ⟨975, 975, 2, 983⟩,
    ⟨984, 1006, 2, 985⟩, ⟨1012, 1012, 2, 952⟩, ⟨1015, 1015, 2, 1016⟩, ⟨1017, 1017, 2, 1010⟩,
    ⟨1018, 1018, 2, 1019⟩, ⟨1021, 1023, 1, 891⟩, ⟨1024, 1039, 1, 1104⟩, ⟨1040, 1071, 1, 1072⟩,
    ⟨1120, 1152, 2, 1121⟩, ⟨1162, 1214, 2, 1163⟩, ⟨1216, 1216, 2, 1231⟩, ⟨1217, 1229, 2, 1218⟩,
    ⟨1232, 1326, 2, 1233⟩, ⟨1329, 1366, 1, 1377⟩, ⟨4256, 4293, 1, 11520⟩, ⟨4295, 4295, 2, 11559⟩,
    ⟨4301, 4301, 2, 11565⟩, ⟨5024, 5103, 1, 43888⟩, ⟨5104, 5109, 1, 5112⟩, ⟨7312, 7354, 1, 4304⟩,
    ⟨7357, 7359, 1, 4349⟩, ⟨7680, 7828, 2, 7681⟩, ⟨7838, 7838, 2, 223⟩, ⟨7840, 7934, 2, 7841⟩,
    ⟨7944, 7951, 1, 7936⟩, ⟨7960, 7965, 1, 7952⟩, ⟨7976, 7983, 1, 7968⟩, ⟨7992, 7999, 1, 7984⟩,
    ⟨8008, 8013, 1, 8000⟩, ⟨8025, 8031, 2, 8017⟩, ⟨8040, 8047, 1, 8032⟩, ⟨8072, 8079, 1, 8064⟩,
    ⟨8088, 8095, 1, 8080⟩, ⟨8104, 8111, 1, 8096⟩, ⟨8120, 8121, 1, 8112⟩, ⟨8122, 8123, 1, 8048⟩,
    ⟨8124, 8124, 2, 8115⟩, ⟨8136, 8139, 1, 8050⟩, ⟨8140, 8140, 2, 8131⟩, ⟨8152, 8153, 1, 8144⟩,
    ⟨8154, 8155, 1, 8054⟩, ⟨8168, 8169, 1, 8160⟩, ⟨8170, 8171, 1, 8058⟩, ⟨8172, 8172, 2, 8165⟩,
    ⟨8184, 8185, 1, 8056⟩, ⟨8186, 8187, 1, 8060⟩, ⟨8188, 8188, 2, 8179⟩, ⟨8486, 8486, 2, 969⟩,
    ⟨8490, 8490, 2, 107⟩, ⟨8491, 8491, 2, 229⟩, ⟨8498, 8498, 2, 8526⟩, ⟨8544, 8559, 1, 8560⟩,
    ⟨8579, 8579, 2, 8580⟩, ⟨9398, 9423, 1, 9424⟩, ⟨11264, 11311, 1, 11312⟩,
    ⟨11360, 11360, 2, 11361⟩, ⟨11362, 11362, 2, 619⟩, ⟨11363, 11363, 2, 7549⟩,
    ⟨11364, 11364, 2, 637⟩, ⟨11367, 11371, 2, 11368⟩, ⟨11373, 11373, 2, 593⟩,
    ⟨11374, 11374, 2, 625⟩, ⟨11375, 11375, 2, 592⟩, ⟨11376, 11376, 2, 594⟩,
    ⟨11378, 11378, 2, 11379⟩, ⟨11381, 11381, 2, 11382⟩, ⟨11390, 11391, 1, 575⟩,
    ⟨11392, 11490, 2, 11393⟩, ⟨11499, 11501, 2, 11500⟩, ⟨11506, 11506, 2, 11507⟩,
    ⟨42560, 42604, 2, 42561⟩, ⟨42624, 42650, 2, 42625⟩, ⟨42786, 42798, 2, 42787⟩,
    ⟨42802, 42862, 2, 42803⟩, ⟨42873, 42875, 2, 42874⟩, ⟨42877, 42877, 2, 7545⟩,
    ⟨42878, 42886, 2, 42879⟩, ⟨42891, 42891, 2, 42892⟩, ⟨42893, 42893, 2, 613⟩,
    ⟨42896, 42898, 2, 42897⟩, ⟨42902, 42920, 2, 42903⟩, ⟨42922, 42922, 2, 614⟩,
    ⟨42923, 42923, 2, 604⟩, ⟨42924, 42924, 2, 609⟩, ⟨42925, 42925, 2, 620⟩,
    ⟨42926, 42926, 2, 618⟩, ⟨42928, 42928, 2, 670⟩, ⟨42929, 42929, 2, 647⟩,
    ⟨42930, 42930, 2, 669⟩, ⟨42931, 42931, 2, 43859⟩, ⟨42932, 42946, 2, 42933⟩,
    ⟨42948, 42948, 2, 42900⟩, ⟨42949, 42949, 2, 642⟩, ⟨42950, 42950, 2, 7566⟩,
    ⟨42951, 42953, 2, 42952⟩, ⟨42960, 42960, 2, 42961⟩, ⟨42966, 42968, 2, 42967⟩,
    ⟨42997, 42997, 2, 42998⟩, ⟨65313, 65338, 1, 65345⟩, ⟨66560, 66599, 1, 66600⟩,
    ⟨66736, 66771, 1, 66776⟩, ⟨66928, 66938, 1, 66967⟩, ⟨66940, 66954, 1, 66979⟩,
    ⟨66956, 66962, 1, 66995⟩, ⟨66964, 66965, 1, 67003⟩, ⟨68736, 68786, 1, 68800⟩,
    ⟨71840, 71871, 1, 71872⟩, ⟨93760, 93791, 1, 93792⟩, ⟨125184, 125217, 1, 125218⟩]

def lowerCode (code : Nat) : Nat :=
  match rows.find? (·.covers code) with
  | some row => row.lowered code
  | none => code

def capitalSigma : Nat := 931

def dottedI : Nat := 304

def lowerChar (char : Char) : Text :=
  if char.toNat = dottedI then ['i', Char.ofNat 775] else [Char.ofNat (lowerCode char.toNat)]

structure Properties where
  cased : Char → Bool
  ignorable : Char → Bool

variable (properties : Properties)

def besideLetter (side : Text) : Bool :=
  (side.dropWhile properties.ignorable).head?.any properties.cased

def lowerSigma (before after : Text) : Char :=
  -- `handle_capital_sigma`; the text before the place is given backwards.
  if besideLetter properties before && !besideLetter properties after then Char.ofNat 962
  else Char.ofNat 963

def lowerFrom : Text → Text → Text
  | _, [] => []
  | before, char :: after =>
      (if char.toNat = capitalSigma then [lowerSigma properties before after]
        else lowerChar char) ++ lowerFrom (char :: before) after

def lower (text : Text) : Text := lowerFrom properties [] text

section Settled

/-- The code points of a range are no lowered form of the row's, being elsewhere or between. -/
def Row.avoids (row : Row) (first last step : Nat) : Bool :=
  Nat.blt (Nat.add row.low (Nat.sub row.last row.first)) first || Nat.blt last row.low ||
    (Nat.beq step 2 && Nat.beq row.step 2 && Nat.beq (Nat.mod (Nat.add row.low first) 2) 1)

def excluded : List (Nat × Nat) :=
  [(9, 13), (28, 32), (133, 133), (160, 160), (304, 304), (5760, 5760), (8192, 8202),
    (8232, 8233), (8239, 8239), (8287, 8287), (12288, 12288)]

theorem rows_avoided :
    (rows.all fun row => rows.all fun other => row.avoids other.first other.last other.step) =
      true := by decide +kernel

theorem excluded_avoided :
    (rows.all fun row => excluded.all fun range => row.avoids range.1 range.2 1) = true := by
  decide +kernel

theorem Row.not_between (row : Row) (first last step code : Nat)
    (avoids : row.avoids first last step = true) (covered : row.covers code = true) :
    ¬(first ≤ row.lowered code ∧ row.lowered code ≤ last ∧
      (row.lowered code - first) % step = 0) := by
  simp only [Row.covers, Bool.and_eq_true, decide_eq_true_eq] at covered
  obtain ⟨⟨above, below⟩, multiple⟩ := covered
  simp only [Row.avoids, Nat.add_eq, Nat.sub_eq, Bool.or_eq_true, Nat.blt_eq, Bool.and_eq_true,
    Nat.beq_eq] at avoids
  rintro ⟨high, low, between⟩
  unfold Row.lowered at high low between
  -- The row is below the range, above it, or on the code points the range steps over.
  rcases avoids with (before | after) | ⟨⟨rfl, two⟩, odd⟩
  · omega
  · omega
  · rw [two] at multiple
    change (row.low + first) % 2 = 1 at odd
    omega

theorem lowerCode_lowered (row : Row) (member : row ∈ rows) (code : Nat)
    (covered : row.covers code = true) : lowerCode (row.lowered code) = row.lowered code := by
  have missing : rows.find? (·.covers (row.lowered code)) = none := by
    rw [List.find?_eq_none]
    intro other otherMember again
    have avoids := List.all_eq_true.mp (List.all_eq_true.mp rows_avoided row member) other
      otherMember
    apply row.not_between _ _ _ code avoids covered
    simpa [Row.covers, and_assoc] using again
  simp [lowerCode, missing]

theorem lowered_not_excluded (row : Row) (member : row ∈ rows) (code : Nat)
    (covered : row.covers code = true) :
    ∀ range ∈ excluded, ¬(range.1 ≤ row.lowered code ∧ row.lowered code ≤ range.2) := by
  intro range rangeMember inside
  have avoids := List.all_eq_true.mp (List.all_eq_true.mp excluded_avoided row member) range
    rangeMember
  exact row.not_between _ _ _ code avoids covered ⟨inside.1, inside.2, Nat.mod_one _⟩

def settledChar (char : Char) : Bool :=
  lowerChar char = [char] && char.toNat ≠ capitalSigma && !isSpace char

theorem named_settled :
    ([Char.ofNat 0, 'i', Char.ofNat 775, Char.ofNat 962, Char.ofNat 963] : Text).all settledChar =
      true ∧ lowerCode capitalSigma ≠ capitalSigma := by
  -- The null character, what the dotted `İ` is lowered to, and the two small sigmas.
  decide +kernel

theorem row_settled (row : Row) (member : row ∈ rows) (code : Nat)
    (covered : row.covers code = true) : settledChar (Char.ofNat (row.lowered code)) = true := by
  -- A row may lead to no character at all; the character made of that is the null one.
  by_cases valid : (row.lowered code).isValidChar
  · have same : (Char.ofNat (row.lowered code)).toNat = row.lowered code := by
      rw [Char.ofNat, dif_pos valid]
      rfl
    have outside := lowered_not_excluded row member code covered
    simp only [excluded, List.mem_cons, List.not_mem_nil, or_false, forall_eq_or_imp,
      forall_eq] at outside
    have fixed := lowerCode_lowered row member code covered
    have sigma : row.lowered code ≠ capitalSigma := by
      intro sigma
      rw [sigma] at fixed
      exact named_settled.2 fixed
    have plain : row.lowered code ≠ dottedI := by
      unfold dottedI
      omega
    simp only [settledChar, lowerChar, isSpace, same, if_neg plain, fixed, Bool.and_eq_true,
      decide_eq_true_eq, Bool.not_eq_true', Bool.or_eq_false_iff, Bool.and_eq_false_iff,
      decide_eq_false_iff_not, List.mem_cons, List.not_mem_nil, or_false]
    refine ⟨⟨trivial, sigma⟩, ?_⟩
    omega
  · rw [Char.ofNat, dif_neg valid]
    exact List.all_eq_true.mp named_settled.1 (Char.ofNat 0) (by simp)

theorem lowerChar_cases (char low : Char) (member : low ∈ lowerChar char) :
    settledChar low = true ∨ low = char ∧ lowerChar char = [char] := by
  unfold lowerChar at member
  split at member
  · left
    rcases List.mem_pair.mp member with rfl | rfl
    · exact List.all_eq_true.mp named_settled.1 'i' (by simp)
    · exact List.all_eq_true.mp named_settled.1 (Char.ofNat 775) (by simp)
  · rename_i plain
    obtain rfl := List.mem_singleton.mp member
    unfold lowerCode
    split
    · rename_i row found
      have covered : row.covers char.toNat = true := by simpa using List.find?_some found
      exact .inl (row_settled row (List.mem_of_find?_eq_some found) _ covered)
    · rename_i missing
      right
      simp [lowerChar, plain, lowerCode, missing]

def Low (char : Char) : Prop := lowerChar char = [char] ∧ char.toNat ≠ capitalSigma

theorem settledChar_low (char : Char) (settled : settledChar char = true) : Low char := by
  simp only [settledChar, Bool.and_eq_true, decide_eq_true_eq] at settled
  exact settled.1

theorem settledChar_not_space (char : Char) (settled : settledChar char = true) :
    isSpace char = false := by
  simp only [settledChar, Bool.and_eq_true, Bool.not_eq_true'] at settled
  exact settled.2

theorem lowerChar_low (char : Char) (plain : char.toNat ≠ capitalSigma) :
    ∀ low ∈ lowerChar char, Low low := by
  intro low member
  rcases lowerChar_cases char low member with settled | ⟨rfl, fixed⟩
  · exact settledChar_low low settled
  · exact ⟨fixed, plain⟩

theorem lowerChar_not_space (char : Char) (plain : isSpace char = false) :
    ∀ low ∈ lowerChar char, isSpace low = false := by
  intro low member
  rcases lowerChar_cases char low member with settled | ⟨rfl, -⟩
  · exact settledChar_not_space low settled
  · exact plain

theorem lowerSigma_settled (before after : Text) :
    settledChar (lowerSigma properties before after) = true := by
  unfold lowerSigma
  split
  · exact List.all_eq_true.mp named_settled.1 (Char.ofNat 962) (by simp)
  · exact List.all_eq_true.mp named_settled.1 (Char.ofNat 963) (by simp)

def lowered (before : Text) (char : Char) (after : Text) : Text :=
  if char.toNat = capitalSigma then [lowerSigma properties before after] else lowerChar char

theorem lowered_low (before : Text) (char : Char) (after : Text) :
    ∀ low ∈ lowered properties before char after, Low low := by
  unfold lowered
  split
  · simpa using settledChar_low _ (lowerSigma_settled properties before after)
  · rename_i plain
    exact lowerChar_low char plain

theorem lowered_not_space (before : Text) (char : Char) (after : Text)
    (plain : isSpace char = false) :
    ∀ low ∈ lowered properties before char after, isSpace low = false := by
  unfold lowered
  split
  · simpa using settledChar_not_space _ (lowerSigma_settled properties before after)
  · exact lowerChar_not_space char plain

theorem lowered_nonempty (before : Text) (char : Char) (after : Text) :
    lowered properties before char after ≠ [] := by
  unfold lowered lowerChar
  split <;> [skip; split] <;> simp

theorem lowerFrom_cons (before : Text) (char : Char) (after : Text) :
    lowerFrom properties before (char :: after) =
      lowered properties before char after ++ lowerFrom properties (char :: before) after := rfl

theorem lowerFrom_low (before text : Text) : ∀ low ∈ lowerFrom properties before text, Low low := by
  induction text generalizing before with
  | nil => simp [lowerFrom]
  | cons char after ih =>
      -- What stands before only decides which small sigma is written, and both are low.
      intro low member
      rw [lowerFrom_cons] at member
      rcases List.mem_append.mp member with here | later
      · exact lowered_low properties before char after low here
      · exact ih _ low later

theorem lowerFrom_of_low (before text : Text) (all : ∀ char ∈ text, Low char) :
    lowerFrom properties before text = text := by
  induction text generalizing before with
  | nil => rfl
  | cons char after ih =>
      obtain ⟨fixed, plain⟩ := all char List.mem_cons_self
      have here : lowered properties before char after = [char] := by
        rw [lowered, if_neg plain, fixed]
      rw [lowerFrom_cons, here, ih _ fun other member => all other (List.mem_cons_of_mem _ member)]
      rfl

theorem lower_lower (text : Text) : lower properties (lower properties text) = lower properties text :=
  lowerFrom_of_low properties [] _ (lowerFrom_low properties [] text)

theorem lowerFrom_getLast (before text : Text)
    (last : ∀ char ∈ text.getLast?, isSpace char = false) :
    ∀ char ∈ (lowerFrom properties before text).getLast?, isSpace char = false := by
  induction text generalizing before with
  | nil => simp [lowerFrom]
  | cons char after ih =>
      intro low found
      rw [lowerFrom_cons] at found
      cases after with
      | nil =>
          rw [lowerFrom, List.append_nil] at found
          exact lowered_not_space properties before char [] (last char rfl) low
            (List.mem_of_getLast? found)
      -- The last character written comes of the last one read, as each of them writes some.
      | cons next rest =>
          have more : lowerFrom properties (char :: before) (next :: rest) ≠ [] := by
            rw [lowerFrom_cons]
            exact List.append_ne_nil_of_left_ne_nil (lowered_nonempty properties _ _ _) _
          rw [List.getLast?_append_of_ne_nil _ more] at found
          exact ih (char :: before) (by simpa using last) low found

theorem lower_stripped (text : Text) (stripped : Stripped text) :
    Stripped (lower properties text) := by
  refine ⟨?_, lowerFrom_getLast properties [] text stripped.2⟩
  cases text with
  | nil => simp [lower, lowerFrom]
  | cons char after =>
      intro low found
      rw [lower, lowerFrom_cons, List.head?_append_of_ne_nil _ (lowered_nonempty properties _ _ _)]
        at found
      exact lowered_not_space properties [] char after (stripped.1 char rfl) low
        (List.mem_of_head? found)

end Settled

end CloudGuest.Casing
