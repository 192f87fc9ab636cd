import CloudGuest.Library.Texts

/-!
URL-safe Base64. The decoder is the lenient machine of Python's `binascii`:
characters outside the alphabet are skipped, a completed padding ends the input,
and an unfinished quantum is an error. Encoded bytes are read back, also when the
padding was stripped and put back by length.
-/

namespace CloudGuest.Base64

open Texts

def alphabet (value : Nat) : Char :=
  if value < 26 then Char.ofNat ('A'.toNat + value)
  else if value < 52 then Char.ofNat ('a'.toNat + (value - 26))
  else if value < 62 then Char.ofNat ('0'.toNat + (value - 52))
  else if value = 62 then '-'
  else '_'

def valueOf (char : Char) : Option Nat :=
  if 'A' ≤ char ∧ char ≤ 'Z' then some (char.toNat - 'A'.toNat)
  else if 'a' ≤ char ∧ char ≤ 'z' then some (char.toNat - 'a'.toNat + 26)
  else if '0' ≤ char ∧ char ≤ '9' then some (char.toNat - '0'.toNat + 52)
  -- The standard characters pass too: only `-` and `_` are translated before decoding.
  else if char = '-' ∨ char = '+' then some 62
  else if char = '_' ∨ char = '/' then some 63
  else none

def encode : List Nat → Text
  | [] => []
  | [first] => [alphabet (first / 4), alphabet (first % 4 * 16), '=', '=']
  | [first, second] =>
      [alphabet (first / 4), alphabet (first % 4 * 16 + second / 16), alphabet (second % 16 * 4), '=']
  | first :: second :: third :: rest =>
      alphabet (first / 4) :: alphabet (first % 4 * 16 + second / 16) ::
        alphabet (second % 16 * 4 + third / 64) :: alphabet (third % 64) :: encode rest

/-- What the decoder holds between characters: its place in the quantum, the bits left over, and
the padding just seen. -/
structure Quantum where
  place : Nat
  left : Nat
  pads : Nat

def decodeFrom (held : Quantum) : Text → Option (List Nat)
  | [] => if held.place = 0 then some [] else none
  | char :: rest =>
      if char = '=' then
        if 2 ≤ held.place then
          if 4 ≤ held.place + (held.pads + 1) then some []
          else decodeFrom { held with pads := held.pads + 1 } rest
        else decodeFrom held rest
      else
        match valueOf char with
        | none => decodeFrom held rest
        | some value =>
            match held.place with
            | 0 => decodeFrom ⟨1, value, 0⟩ rest
            | 1 => (decodeFrom ⟨2, value % 16, 0⟩ rest).map ((held.left * 4 + value / 16) :: ·)
            | 2 => (decodeFrom ⟨3, value % 4, 0⟩ rest).map ((held.left * 16 + value / 4) :: ·)
            | _ => (decodeFrom ⟨0, 0, 0⟩ rest).map ((held.left * 64 + value) :: ·)

def decode (text : Text) : Option (List Nat) := decodeFrom ⟨0, 0, 0⟩ text

def encodeBare (bytes : List Nat) : Text := (encode bytes).rdropWhile (· = '=')

def pad (text : Text) : Text := text ++ List.replicate ((4 - text.length % 4) % 4) '='

theorem valueOf_alphabet (value : Nat) (small : value < 64) :
    alphabet value ≠ '=' ∧ valueOf (alphabet value) = some value := by
  have all : ∀ value : Fin 64,
      alphabet value ≠ '=' ∧ valueOf (alphabet value) = some value.val := by decide
  exact all ⟨value, small⟩

section Characters

variable (left pads value : Nat) (small : value < 64) (rest : Text)
include small

theorem decodeFrom_first :
    decodeFrom ⟨0, left, pads⟩ (alphabet value :: rest) = decodeFrom ⟨1, value, 0⟩ rest := by
  obtain ⟨notPad, read⟩ := valueOf_alphabet value small
  simp [decodeFrom, notPad, read]

theorem decodeFrom_second :
    decodeFrom ⟨1, left, pads⟩ (alphabet value :: rest) =
      (decodeFrom ⟨2, value % 16, 0⟩ rest).map ((left * 4 + value / 16) :: ·) := by
  obtain ⟨notPad, read⟩ := valueOf_alphabet value small
  simp [decodeFrom, notPad, read]

theorem decodeFrom_third :
    decodeFrom ⟨2, left, pads⟩ (alphabet value :: rest) =
      (decodeFrom ⟨3, value % 4, 0⟩ rest).map ((left * 16 + value / 4) :: ·) := by
  obtain ⟨notPad, read⟩ := valueOf_alphabet value small
  simp [decodeFrom, notPad, read]

theorem decodeFrom_fourth :
    decodeFrom ⟨3, left, pads⟩ (alphabet value :: rest) =
      (decodeFrom ⟨0, 0, 0⟩ rest).map ((left * 64 + value) :: ·) := by
  obtain ⟨notPad, read⟩ := valueOf_alphabet value small
  simp [decodeFrom, notPad, read]

end Characters

theorem decode_encode (bytes : List Nat) (small : ∀ byte ∈ bytes, byte < 256) :
    decode (encode bytes) = some bytes := by
  unfold decode
  induction bytes using encode.induct with
  | case1 => rfl
  | case2 first =>
      simp only [List.mem_singleton, forall_eq] at small
      rw [encode, decodeFrom_first _ _ _ (by omega), decodeFrom_second _ _ _ (by omega)]
      simp [decodeFrom]
      omega
  | case3 first second =>
      simp only [List.mem_cons, List.not_mem_nil, or_false, forall_eq_or_imp, forall_eq] at small
      rw [encode, decodeFrom_first _ _ _ (by omega), decodeFrom_second _ _ _ (by omega),
        decodeFrom_third _ _ _ (by omega)]
      simp [decodeFrom]
      omega
  | case4 first second third rest ih =>
      simp only [List.mem_cons, forall_eq_or_imp] at small
      rw [encode, decodeFrom_first _ _ _ (by omega), decodeFrom_second _ _ _ (by omega),
        decodeFrom_third _ _ _ (by omega), decodeFrom_fourth _ _ _ (by omega), ih small.2.2.2]
      simp only [Option.map_some, Option.some.injEq, List.cons.injEq, and_true]
      omega

theorem encode_split (bytes : List Nat) (small : ∀ byte ∈ bytes, byte < 256) :
    ∃ bare : Text, (∀ char ∈ bare, char ≠ '=') ∧ encode bytes = pad bare := by
  have plain : ∀ value < 64, alphabet value ≠ '=' := fun value bound =>
    (valueOf_alphabet value bound).1
  induction bytes using encode.induct with
  | case1 => exact ⟨[], by simp, rfl⟩
  | case2 first =>
      simp only [List.mem_singleton, forall_eq] at small
      refine ⟨[alphabet (first / 4), alphabet (first % 4 * 16)], ?_, rfl⟩
      simp [plain (first / 4) (by omega), plain (first % 4 * 16) (by omega)]
  | case3 first second =>
      simp only [List.mem_cons, List.not_mem_nil, or_false, forall_eq_or_imp, forall_eq] at small
      refine ⟨[alphabet (first / 4), alphabet (first % 4 * 16 + second / 16),
        alphabet (second % 16 * 4)], ?_, rfl⟩
      simp [plain (first / 4) (by omega), plain (first % 4 * 16 + second / 16) (by omega),
        plain (second % 16 * 4) (by omega)]
  | case4 first second third rest ih =>
      simp only [List.mem_cons, forall_eq_or_imp] at small
      obtain ⟨bare, others, encoded⟩ := ih small.2.2.2
      refine ⟨alphabet (first / 4) :: alphabet (first % 4 * 16 + second / 16) ::
        alphabet (second % 16 * 4 + third / 64) :: alphabet (third % 64) :: bare, ?_, ?_⟩
      · simpa [plain (first / 4) (by omega), plain (first % 4 * 16 + second / 16) (by omega),
          plain (second % 16 * 4 + third / 64) (by omega), plain (third % 64) (by omega)]
          using others
      · have length : (bare.length + 4) % 4 = bare.length % 4 := by omega
        simp [encode, encoded, pad, length]

theorem rdropWhile_pad (bare : Text) (plain : ∀ char ∈ bare, char ≠ '=') :
    (pad bare).rdropWhile (· = '=') = bare := by
  have strip : ∀ count, (bare ++ List.replicate count '=').rdropWhile (· = '=') = bare := by
    intro count
    induction count with
    | zero =>
        rw [List.replicate_zero, List.append_nil, List.rdropWhile_eq_self_iff]
        intro nonempty
        simpa using plain _ (List.getLast_mem nonempty)
    | succ count ih =>
        rw [List.replicate_succ', ← List.append_assoc, List.rdropWhile_concat_pos _ _ _ (by simp)]
        exact ih
  exact strip _

/-- Stripping the padding and putting it back by length loses nothing. -/
theorem decode_encodeBare (bytes : List Nat) (small : ∀ byte ∈ bytes, byte < 256) :
    decode (pad (encodeBare bytes)) = some bytes := by
  obtain ⟨bare, plain, encoded⟩ := encode_split bytes small
  rw [encodeBare, encoded, rdropWhile_pad bare plain, ← encoded]
  exact decode_encode bytes small

end CloudGuest.Base64
