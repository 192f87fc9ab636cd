import CloudGuest.Library.Json
import Mathlib.Tactic.Ring

/-!
UUIDs as 128 bits, and their text of five groups of hexadecimal digits as Python's
`uuid` module writes it. Reading takes the digits with or without the hyphens.
-/

namespace CloudGuest.Uuids

open Texts Json

abbrev Uuid := BitVec 128

instance : LawfulBEq Uuid := inferInstance

def hexPadded : Nat → Nat → Text
  | 0, _ => []
  | width + 1, number => hexDigit (number / 16 ^ width) :: hexPadded width (number % 16 ^ width)

def readHex : Nat → Text → Option Nat
  | value, [] => some value
  | value, char :: rest => (hexValue char).bind fun digit => readHex (value * 16 + digit) rest

def uuidText (id : Uuid) : Text :=
  let hex := hexPadded 32 id.toNat
  hex.take 8 ++ '-' :: (hex.drop 8).take 4 ++ '-' :: (hex.drop 12).take 4 ++
    '-' :: (hex.drop 16).take 4 ++ '-' :: hex.drop 20

def readUuid (text : Text) : Option Uuid :=
  let hex := text.filter (· ≠ '-')
  if hex.length = 32 then (readHex 0 hex).map (BitVec.ofNat 128) else none

theorem hexValue_hexDigit (value : Nat) : hexValue (hexDigit value) = some (value % 16) := by
  have all : ∀ digit : Fin 16, hexValue (Nat.digitChar digit) = some digit.val := by decide
  exact all ⟨value % 16, Nat.mod_lt _ (by omega)⟩

theorem hexDigit_ne_hyphen (value : Nat) : hexDigit value ≠ '-' := by
  have all : ∀ digit : Fin 16, Nat.digitChar digit ≠ '-' := by decide
  exact all ⟨value % 16, Nat.mod_lt _ (by omega)⟩

theorem length_hexPadded (width number : Nat) : (hexPadded width number).length = width := by
  induction width generalizing number with
  | zero => rfl
  | succ width ih => simp [hexPadded, ih]

theorem hexPadded_ne_hyphen (width number : Nat) : ∀ char ∈ hexPadded width number, char ≠ '-' := by
  induction width generalizing number with
  | zero => simp [hexPadded]
  | succ width ih =>
      intro char member
      rcases List.mem_cons.mp member with rfl | later
      · exact hexDigit_ne_hyphen _
      · exact ih _ char later

theorem readHex_hexPadded (width value number : Nat) (fits : number < 16 ^ width) :
    readHex value (hexPadded width number) = some (value * 16 ^ width + number) := by
  induction width generalizing value number with
  | zero =>
      obtain rfl : number = 0 := by simpa using fits
      simp [hexPadded, readHex]
  | succ width ih =>
      have positive : 0 < 16 ^ width := Nat.pow_pos (by omega)
      have leading : number / 16 ^ width < 16 := by
        rw [Nat.div_lt_iff_lt_mul positive]
        rwa [Nat.pow_succ, Nat.mul_comm] at fits
      have total : (value * 16 + number / 16 ^ width) * 16 ^ width + number % 16 ^ width =
          value * 16 ^ (width + 1) + number := by
        calc (value * 16 + number / 16 ^ width) * 16 ^ width + number % 16 ^ width
            = value * 16 ^ (width + 1) + (16 ^ width * (number / 16 ^ width) + number % 16 ^ width) := by
              ring
          _ = value * 16 ^ (width + 1) + number := by rw [Nat.div_add_mod]
      rw [hexPadded, readHex, hexValue_hexDigit, Nat.mod_eq_of_lt leading, Option.bind_some,
        ih _ _ (Nat.mod_lt number positive), total]

theorem filter_uuidText (id : Uuid) : (uuidText id).filter (· ≠ '-') = hexPadded 32 id.toNat := by
  have plain : ∀ part : Text, part <:+: hexPadded 32 id.toNat → part.filter (· ≠ '-') = part := by
    intro part inside
    rw [List.filter_eq_self]
    intro char member
    exact decide_eq_true (hexPadded_ne_hyphen _ _ char (inside.subset member))
  have taken : ∀ first count : Nat, ((hexPadded 32 id.toNat).drop first).take count <:+:
      hexPadded 32 id.toNat := fun first count =>
    (List.take_prefix count _).isInfix.trans (List.drop_suffix first _).isInfix
  have hyphen : decide ('-' ≠ '-') = false := by decide
  unfold uuidText
  simp only [List.filter_append, List.filter_cons, hyphen, Bool.false_eq_true, if_false]
  rw [plain _ (List.take_prefix 8 _).isInfix, plain _ (taken 8 4), plain _ (taken 12 4),
    plain _ (taken 16 4), plain _ (List.drop_suffix 20 _).isInfix]
  have join : ∀ first count : Nat, ((hexPadded 32 id.toNat).drop first).take count ++
      (hexPadded 32 id.toNat).drop (first + count) = (hexPadded 32 id.toNat).drop first := by
    intro first count
    rw [← List.drop_drop, List.take_append_drop]
  rw [List.append_assoc, List.append_assoc, List.append_assoc, join 16 4, join 12 4, join 8 4]
  exact List.take_append_drop 8 _

theorem readUuid_uuidText (id : Uuid) : readUuid (uuidText id) = some id := by
  have small : id.toNat < 16 ^ 32 := lt_of_lt_of_eq id.isLt (by norm_num)
  rw [readUuid]
  simp only [filter_uuidText, length_hexPadded, if_true, readHex_hexPadded 32 0 _ small,
    Option.map_some, Nat.zero_mul, Nat.zero_add, BitVec.ofNat_toNat, BitVec.setWidth_eq]

end CloudGuest.Uuids
