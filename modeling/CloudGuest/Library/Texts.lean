import Mathlib

/-!
Texts as lists of code points. `decimal` is the decimal numeral without sign
or padding, `padded` the one of a fixed width; both can always be read back, as
can the parts of a text joined by a separator none of them contains, and a text
from its bytes.
-/

namespace CloudGuest.Texts

abbrev Text := List Char

instance : LawfulBEq Text := List.instLawfulBEq

def decimal (number : Nat) : Text := Nat.toDigits 10 number

theorem decimal_injective : Function.Injective decimal := by
  intro left right equal
  have decoded := congrArg (fun digits => Nat.ofDigitChars 10 digits 0) equal
  simpa [decimal, Nat.ofDigitChars_ten_toDigits] using decoded

theorem decimal_digits (number : Nat) : ∀ char ∈ decimal number, char.isDigit = true :=
  fun _ member => Nat.isDigit_of_mem_toDigits (by omega) (by omega) member

def digitValue (char : Char) : Option Nat :=
  if char.isDigit then some (char.toNat - '0'.toNat) else none

def padded : Nat → Nat → Text
  | 0, _ => []
  | width + 1, number =>
      Nat.digitChar (number / 10 ^ width % 10) :: padded width (number % 10 ^ width)

def readDigits : Nat → Nat → Text → Option (Nat × Text)
  | 0, value, text => some (value, text)
  | _ + 1, _, [] => none
  | width + 1, value, char :: rest =>
      (digitValue char).bind fun digit => readDigits width (value * 10 + digit) rest

theorem digitValue_digitChar (digit : Nat) (small : digit < 10) :
    digitValue (Nat.digitChar digit) = some digit := by
  have all : ∀ digit : Fin 10, digitValue (Nat.digitChar digit) = some digit.val := by decide
  exact all ⟨digit, small⟩

theorem readDigits_padded (width value number : Nat) (rest : Text) (fits : number < 10 ^ width) :
    readDigits width value (padded width number ++ rest) =
      some (value * 10 ^ width + number, rest) := by
  induction width generalizing value number with
  | zero =>
      obtain rfl : number = 0 := by simpa using fits
      simp [padded, readDigits]
  | succ width ih =>
      have positive : 0 < 10 ^ width := Nat.pow_pos (by omega)
      have leading : number / 10 ^ width < 10 := by
        rw [Nat.div_lt_iff_lt_mul positive]
        rwa [Nat.pow_succ, Nat.mul_comm] at fits
      have step := ih (value * 10 + number / 10 ^ width) (number % 10 ^ width)
        (Nat.mod_lt number positive)
      have total : (value * 10 + number / 10 ^ width) * 10 ^ width + number % 10 ^ width =
          value * 10 ^ (width + 1) + number := by
        have divided := Nat.div_add_mod number (10 ^ width)
        rw [Nat.pow_succ, Nat.add_mul]
        grind
      simp [padded, readDigits, Nat.mod_eq_of_lt leading, digitValue_digitChar _ leading, step,
        total]

theorem padded_digits (width number : Nat) : ∀ char ∈ padded width number, char.isDigit = true := by
  induction width generalizing number with
  | zero => simp [padded]
  | succ width ih =>
      have digits : ∀ digit : Fin 10, (Nat.digitChar digit).isDigit = true := by decide
      intro char member
      rcases List.mem_cons.mp member with rfl | later
      · exact digits ⟨number / 10 ^ width % 10, Nat.mod_lt _ (by omega)⟩
      · exact ih _ char later

def tokenChar (char : Char) : Bool := char.isAlphanum || char ∈ ['-', ':', '.', '+']

def IsToken (text : Text) : Prop := ∀ char ∈ text, tokenChar char = true

theorem isToken_of_all (text : Text) (all : text.all tokenChar = true) : IsToken text :=
  List.all_eq_true.mp all

theorem IsToken.append {left right : Text} (leftToken : IsToken left) (rightToken : IsToken right) :
    IsToken (left ++ right) := by
  intro char member
  rcases List.mem_append.mp member with inLeft | inRight
  · exact leftToken char inLeft
  · exact rightToken char inRight

theorem IsToken.cons {char : Char} {text : Text} (first : tokenChar char = true)
    (rest : IsToken text) : IsToken (char :: text) := by
  intro other member
  rcases List.mem_cons.mp member with rfl | later
  · exact first
  · exact rest other later

theorem isToken_of_digits {text : Text} (digits : ∀ char ∈ text, char.isDigit = true) :
    IsToken text := by
  intro char member
  simp [tokenChar, Char.isAlphanum, digits char member]

theorem decimal_token (number : Nat) : IsToken (decimal number) :=
  isToken_of_digits (decimal_digits number)

theorem padded_token (width number : Nat) : IsToken (padded width number) :=
  isToken_of_digits (padded_digits width number)

def joined (separator : Char) : List Text → Text
  | [] => []
  | [part] => part
  | part :: next :: rest => part ++ separator :: joined separator (next :: rest)

theorem joined_token (separator : Char) (parts : List Text) (isToken : tokenChar separator = true)
    (tokens : ∀ part ∈ parts, IsToken part) : IsToken (joined separator parts) := by
  induction parts with
  | nil => simp [joined, IsToken]
  | cons part rest ih =>
      have first := tokens part List.mem_cons_self
      have later := ih fun other member => tokens other (List.mem_cons_of_mem _ member)
      cases rest with
      | nil => exact first
      | cons next rest => exact first.append (.cons isToken later)

def isSpace (char : Char) : Bool :=
  let code := char.toNat
  (9 ≤ code && code ≤ 13) || (28 ≤ code && code ≤ 32) || (8192 ≤ code && code ≤ 8202) ||
    code ∈ [133, 160, 5760, 8232, 8233, 8239, 8287, 12288]

def strip (text : Text) : Text := (text.dropWhile isSpace).rdropWhile isSpace

theorem tokenChar_codes (char : Char) (token : tokenChar char = true) :
    (43 ≤ char.toNat ∧ char.toNat ≤ 58) ∨ (65 ≤ char.toNat ∧ char.toNat ≤ 90) ∨
      (97 ≤ char.toNat ∧ char.toNat ≤ 122) := by
  simp only [tokenChar, Char.isAlphanum, Char.isAlpha, Char.isUpper, Char.isLower, Char.isDigit,
    Bool.or_eq_true, Bool.and_eq_true, decide_eq_true_eq, ge_iff_le, UInt32.le_iff_toNat_le,
    List.mem_cons, List.not_mem_nil, or_false] at token
  change (((65 ≤ char.toNat ∧ char.toNat ≤ 90) ∨ (97 ≤ char.toNat ∧ char.toNat ≤ 122)) ∨
    48 ≤ char.toNat ∧ char.toNat ≤ 57) ∨ _ at token
  rcases token with alphanumeric | rfl | rfl | rfl | rfl
  · omega
  · decide
  · decide
  · decide
  · decide

theorem tokenChar_not_space (char : Char) (token : tokenChar char = true) :
    isSpace char = false := by
  have codes := tokenChar_codes char token
  simp only [isSpace, Bool.or_eq_false_iff, Bool.and_eq_false_iff, decide_eq_false_iff_not,
    List.mem_cons, List.not_mem_nil, or_false]
  omega

theorem strip_token (text : Text) (token : IsToken text) : strip text = text := by
  have front : text.dropWhile isSpace = text := by
    cases text with
    | nil => rfl
    | cons char rest =>
        simp [tokenChar_not_space char (token char List.mem_cons_self)]
  rw [strip, front, List.rdropWhile_eq_self_iff]
  intro nonempty
  simp [tokenChar_not_space _ (token _ (List.getLast_mem nonempty))]

def Stripped (text : Text) : Prop :=
  (∀ char ∈ text.head?, isSpace char = false) ∧ ∀ char ∈ text.getLast?, isSpace char = false

theorem strip_stripped (text : Text) : Stripped (strip text) := by
  constructor
  · intro char first
    obtain ⟨rest, whole⟩ := List.rdropWhile_prefix isSpace (text.dropWhile isSpace)
    have head : (text.dropWhile isSpace).head? = some char := by
      rw [← whole, List.head?_append]
      simp [show List.head? (List.rdropWhile isSpace (text.dropWhile isSpace)) = some char from first]
    have notSpace := List.head?_dropWhile_not isSpace text
    rw [head] at notSpace
    simpa using notSpace
  · intro char last
    obtain ⟨nonempty, same⟩ := List.mem_getLast?_eq_getLast last
    have notSpace := List.rdropWhile_last_not isSpace (text.dropWhile isSpace) nonempty
    rw [same]
    simpa [strip] using notSpace

theorem strip_of_stripped (text : Text) (stripped : Stripped text) : strip text = text := by
  have front : text.dropWhile isSpace = text := by
    cases text with
    | nil => rfl
    | cons char rest => simp [stripped.1 char rfl]
  rw [strip, front, List.rdropWhile_eq_self_iff]
  intro nonempty
  simp [stripped.2 _ (List.getLast_mem_getLast? nonempty)]

theorem dropWhile_spaces (spaces text : Text) (all : ∀ char ∈ spaces, isSpace char = true) :
    (spaces ++ text).dropWhile isSpace = text.dropWhile isSpace := by
  have gone : spaces.dropWhile isSpace = [] := List.dropWhile_eq_nil_iff.mpr all
  rw [List.dropWhile_append, gone]
  rfl

theorem strip_surrounded (before text after : Text) (nonempty : text ≠ [])
    (stripped : Stripped text) (spaces : ∀ char ∈ before ++ after, isSpace char = true) :
    strip (before ++ text ++ after) = text := by
  have front : (before ++ text ++ after).dropWhile isSpace = text ++ after := by
    rw [List.append_assoc, dropWhile_spaces before _ fun char member =>
      spaces char (List.mem_append_left _ member)]
    obtain ⟨first, rest, rfl⟩ := List.exists_cons_of_ne_nil nonempty
    simp [stripped.1 first rfl]
  have back : (text ++ after).reverse.dropWhile isSpace = text.reverse.dropWhile isSpace := by
    rw [List.reverse_append, dropWhile_spaces after.reverse _ fun char member =>
      spaces char (List.mem_append_right _ (List.mem_reverse.mp member))]
  have same := strip_of_stripped text stripped
  have unchanged : text.dropWhile isSpace = text := by
    obtain ⟨first, rest, rfl⟩ := List.exists_cons_of_ne_nil nonempty
    simp [stripped.1 first rfl]
  rw [strip, unchanged, List.rdropWhile] at same
  rw [strip, front, List.rdropWhile, back, same]

theorem append_separator (separator : Char) (left right leftRest rightRest : Text)
    (leftPlain : separator ∉ left) (rightPlain : separator ∉ right)
    (equal : left ++ separator :: leftRest = right ++ separator :: rightRest) :
    left = right ∧ leftRest = rightRest := by
  induction left generalizing right with
  | nil =>
      cases right with
      | nil => simpa using equal
      | cons char right =>
          simp only [List.nil_append, List.cons_append, List.cons.injEq] at equal
          simp [equal.1] at rightPlain
  | cons char left ih =>
      cases right with
      | nil =>
          simp only [List.nil_append, List.cons_append, List.cons.injEq] at equal
          simp [equal.1] at leftPlain
      | cons other right =>
          simp only [List.cons_append, List.cons.injEq] at equal
          simp only [List.mem_cons, not_or] at leftPlain rightPlain
          obtain ⟨same, rest⟩ := ih right leftPlain.2 rightPlain.2 equal.2
          exact ⟨by rw [equal.1, same], rest⟩

/-- Joined texts tell their parts, when as many parts without the separator were joined. -/
theorem joined_injective (separator : Char) (left right : List Text)
    (lengths : left.length = right.length) (leftPlain : ∀ part ∈ left, separator ∉ part)
    (rightPlain : ∀ part ∈ right, separator ∉ part)
    (equal : joined separator left = joined separator right) : left = right := by
  induction left generalizing right with
  | nil => exact (List.length_eq_zero_iff.mp lengths.symm).symm
  | cons part left ih =>
      cases right with
      | nil => simp at lengths
      | cons other right =>
          simp only [List.length_cons, Nat.add_right_cancel_iff] at lengths
          simp only [List.mem_cons, forall_eq_or_imp] at leftPlain rightPlain
          cases left with
          | nil =>
              obtain rfl : right = [] := List.length_eq_zero_iff.mp lengths.symm
              simpa [joined] using equal
          | cons next left =>
              cases right with
              | nil => simp at lengths
              | cons after right =>
                  simp only [joined] at equal
                  obtain ⟨first, rest⟩ := append_separator separator part other _ _
                    leftPlain.1 rightPlain.1 equal
                  rw [first, ih (after :: right) lengths leftPlain.2 rightPlain.2 rest]

def utf8 (text : Text) : List Nat := (text.flatMap String.utf8EncodeChar).map UInt8.toNat

def fromUtf8 (bytes : List Nat) : Option Text :=
  ((bytes.map UInt8.ofNat).toByteArray.utf8Decode?).map Array.toList

theorem utf8_bytes (text : Text) : ∀ byte ∈ utf8 text, byte < 256 := by
  intro byte member
  obtain ⟨unit, -, rfl⟩ := List.mem_map.mp member
  exact unit.toNat_lt

theorem fromUtf8_utf8 (text : Text) : fromUtf8 (utf8 text) = some text := by
  have units : UInt8.ofNat ∘ UInt8.toNat = id := by
    funext unit
    simp
  have decoded : text.utf8Encode.utf8Decode? = some text.toArray := List.utf8Decode?_utf8Encode
  rw [fromUtf8, utf8, List.map_map, units, List.map_id, ← List.utf8Encode, decoded]
  simp

def replacementChar : Char := Char.ofNat 65533

def utf8Lead (byte : Nat) : Option (Nat × List (Nat × Nat)) :=
  if byte < 128 then some (byte, [])
  else if 194 ≤ byte ∧ byte ≤ 223 then some (byte % 32, [(128, 191)])
  else if byte = 224 then some (0, [(160, 191), (128, 191)])
  else if byte = 237 then some (13, [(128, 159), (128, 191)])
  else if 225 ≤ byte ∧ byte ≤ 239 then some (byte % 16, [(128, 191), (128, 191)])
  else if byte = 240 then some (0, [(144, 191), (128, 191), (128, 191)])
  else if 241 ≤ byte ∧ byte ≤ 243 then
    some (byte % 8, [(128, 191), (128, 191), (128, 191)])
  else if byte = 244 then some (4, [(128, 143), (128, 191), (128, 191)])
  else none

def fromUtf8From : Nat × List (Nat × Nat) → List Nat → Text
  -- Reading with the bytes still expected; what cannot be read becomes one replacement a piece.
  | (_, []), [] => []
  | (_, _ :: _), [] => [replacementChar]
  | (value, expected), byte :: rest =>
      let fresh : Text := match utf8Lead byte with
        | some (lead, []) => Char.ofNat lead :: fromUtf8From (0, []) rest
        | some (lead, more) => fromUtf8From (lead, more) rest
        | none => replacementChar :: fromUtf8From (0, []) rest
      match expected with
      | [] => fresh
      | (low, high) :: more =>
          if low ≤ byte ∧ byte ≤ high then
            let value := value * 64 + byte % 64
            if more = [] then Char.ofNat value :: fromUtf8From (0, []) rest
            else fromUtf8From (value, more) rest
          else replacementChar :: fresh

def fromUtf8Replacing (bytes : List Nat) : Text := fromUtf8From (0, []) bytes

end CloudGuest.Texts
