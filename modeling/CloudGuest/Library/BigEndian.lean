import Mathlib

/-!
Numbers as bytes, the most significant first. A number that fits the width is read
back from the bytes written for it, and the bytes of two fields one after the other
read as the first shifted past the second.
-/

namespace CloudGuest.BigEndian

def read (raw : List UInt8) : Nat := raw.foldl (fun value byte => value * 256 + byte.toNat) 0

def write : Nat → Nat → List UInt8
  | 0, _ => []
  | width + 1, number => UInt8.ofNat (number / 256 ^ width) :: write width (number % 256 ^ width)

@[simp] theorem write_length (width number : Nat) : (write width number).length = width := by
  induction width generalizing number with
  | zero => rfl
  | succ width ih => simp [write, ih]

theorem read_from (raw : List UInt8) (value : Nat) :
    raw.foldl (fun value byte => value * 256 + byte.toNat) value =
      value * 256 ^ raw.length + read raw := by
  induction raw generalizing value with
  | nil => simp [read]
  | cons byte rest ih =>
      have single := ih (0 * 256 + byte.toNat)
      simp only [read, List.foldl_cons, List.length_cons] at ih single ⊢
      rw [ih (value * 256 + byte.toNat), single, Nat.pow_succ]
      ring

theorem read_append (front back : List UInt8) :
    read (front ++ back) = read front * 256 ^ back.length + read back := by
  rw [read, List.foldl_append]
  exact read_from back (read front)

@[simp] theorem read_nil : read [] = 0 := rfl

theorem read_cons (byte : UInt8) (rest : List UInt8) :
    read (byte :: rest) = byte.toNat * 256 ^ rest.length + read rest := by
  have front : read [byte] = byte.toNat := by simp [read]
  rw [← front, ← read_append]
  rfl

theorem read_write (width number : Nat) (fits : number < 256 ^ width) :
    read (write width number) = number := by
  induction width generalizing number with
  | zero =>
      obtain rfl : number = 0 := by simpa using fits
      rfl
  | succ width ih =>
      have positive : 0 < 256 ^ width := Nat.pow_pos (by omega)
      have leading : number / 256 ^ width < 256 := by
        rw [Nat.div_lt_iff_lt_mul positive]
        rwa [Nat.pow_succ, Nat.mul_comm] at fits
      rw [write, read_cons, write_length, ih _ (Nat.mod_lt number positive),
        UInt8.toNat_ofNat_of_lt' leading, Nat.div_add_mod']

end CloudGuest.BigEndian
