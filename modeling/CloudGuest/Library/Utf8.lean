import CloudGuest.Library.Texts

/-!
UTF-8 as Python writes it is read back by the decoder that replaces what it cannot
read: nothing of a text's own bytes is replaced.
-/

namespace CloudGuest.Texts

theorem fromUtf8From_single (byte value : Nat) (rest : List Nat)
    (lead : utf8Lead byte = some (value, [])) :
    fromUtf8From (0, []) (byte :: rest) = Char.ofNat value :: fromUtf8From (0, []) rest := by
  rw [fromUtf8From]
  simp only [lead]

theorem fromUtf8From_lead (byte value : Nat) (range : Nat × Nat) (more : List (Nat × Nat))
    (rest : List Nat) (lead : utf8Lead byte = some (value, range :: more)) :
    fromUtf8From (0, []) (byte :: rest) = fromUtf8From (value, range :: more) rest := by
  rw [fromUtf8From]
  simp only [lead]

theorem fromUtf8From_last (value byte low high : Nat) (rest : List Nat)
    (inRange : low ≤ byte ∧ byte ≤ high) :
    fromUtf8From (value, [(low, high)]) (byte :: rest) =
      Char.ofNat (value * 64 + byte % 64) :: fromUtf8From (0, []) rest := by
  rw [fromUtf8From]
  simp only [if_pos inRange, if_true]

theorem fromUtf8From_next (value byte low high : Nat) (next : Nat × Nat) (more : List (Nat × Nat))
    (rest : List Nat) (inRange : low ≤ byte ∧ byte ≤ high) :
    fromUtf8From (value, (low, high) :: next :: more) (byte :: rest) =
      fromUtf8From (value * 64 + byte % 64, next :: more) rest := by
  rw [fromUtf8From]
  simp only [if_pos inRange, List.cons_ne_nil, if_false]

theorem char_codes (char : Char) :
    char.toNat < 55296 ∨ 57343 < char.toNat ∧ char.toNat < 1114112 := char.valid

theorem fromUtf8From_char (char : Char) (rest : List Nat) :
    fromUtf8From (0, []) ((String.utf8EncodeChar char).map UInt8.toNat ++ rest) =
      char :: fromUtf8From (0, []) rest := by
  have codes := char_codes char
  have same : Char.ofNat char.toNat = char := Char.ofNat_toNat char
  have byte (number : Nat) (small : number < 256) : (UInt8.ofNat number).toNat = number :=
    UInt8.toNat_ofNat_of_lt' small
  unfold String.utf8EncodeChar
  dsimp only
  rw [show char.val.toNat = char.toNat from rfl]
  generalize char.toNat = code at codes same
  split
  · have lead : utf8Lead code = some (code, []) := by
      rw [utf8Lead, if_pos (by omega)]
    simp only [List.map_cons, List.map_nil, List.cons_append, List.nil_append]
    rw [byte code (by omega), fromUtf8From_single code code rest lead, same]
  · split
    · have lead : utf8Lead (code / 64 % 32 + 192) = some (code / 64, [(128, 191)]) := by
        rw [utf8Lead, if_neg (by omega), if_pos (by omega)]
        congr 2
        omega
      simp only [List.map_cons, List.map_nil, List.cons_append, List.nil_append]
      rw [byte _ (by omega), byte _ (by omega), fromUtf8From_lead _ _ _ _ _ lead,
        fromUtf8From_last _ _ _ _ _ (by omega),
        show code / 64 * 64 + (code % 64 + 128) % 64 = code by omega, same]
    · split
      · -- The second byte's range depends on the first one where a code point could be overlong
        -- or a surrogate.
        obtain ⟨low, high, lead, second⟩ : ∃ low high, utf8Lead (code / 4096 % 16 + 224) =
            some (code / 4096, [(low, high), (128, 191)]) ∧
              low ≤ code / 64 % 64 + 128 ∧ code / 64 % 64 + 128 ≤ high := by
          unfold utf8Lead
          rw [if_neg (by omega), if_neg (by omega)]
          by_cases first : code / 4096 = 0
          · rw [if_pos (by omega)]
            exact ⟨160, 191, by rw [first], by omega, by omega⟩
          · rw [if_neg (by omega)]
            by_cases surrogates : code / 4096 = 13
            · rw [if_pos (by omega)]
              exact ⟨128, 159, by rw [surrogates], by omega, by omega⟩
            · rw [if_neg (by omega), if_pos (by omega)]
              refine ⟨128, 191, ?_, by omega, by omega⟩
              congr 2
              omega
        simp only [List.map_cons, List.map_nil, List.cons_append, List.nil_append]
        rw [byte _ (by omega), byte _ (by omega), byte _ (by omega),
          fromUtf8From_lead _ _ _ _ _ lead, fromUtf8From_next _ _ _ _ _ _ _ second,
          fromUtf8From_last _ _ _ _ _ (by omega), show (code / 4096 * 64 + (code / 64 % 64 + 128) %
            64) * 64 + (code % 64 + 128) % 64 = code by omega, same]
      · obtain ⟨low, high, lead, second⟩ : ∃ low high, utf8Lead (code / 262144 % 8 + 240) =
            some (code / 262144, [(low, high), (128, 191), (128, 191)]) ∧
              low ≤ code / 4096 % 64 + 128 ∧ code / 4096 % 64 + 128 ≤ high := by
          unfold utf8Lead
          rw [if_neg (by omega), if_neg (by omega), if_neg (by omega), if_neg (by omega),
            if_neg (by omega)]
          by_cases first : code / 262144 = 0
          · rw [if_pos (by omega)]
            exact ⟨144, 191, by rw [first], by omega, by omega⟩
          · rw [if_neg (by omega)]
            by_cases last : code / 262144 = 4
            · rw [if_neg (by omega), if_pos (by omega)]
              exact ⟨128, 143, by rw [last], by omega, by omega⟩
            · rw [if_pos (by omega)]
              refine ⟨128, 191, ?_, by omega, by omega⟩
              congr 2
              omega
        simp only [List.map_cons, List.map_nil, List.cons_append, List.nil_append]
        rw [byte _ (by omega), byte _ (by omega), byte _ (by omega), byte _ (by omega),
          fromUtf8From_lead _ _ _ _ _ lead, fromUtf8From_next _ _ _ _ _ _ _ second,
          fromUtf8From_next _ _ _ _ _ _ _ (by omega), fromUtf8From_last _ _ _ _ _ (by omega),
          show ((code / 262144 * 64 + (code / 4096 % 64 + 128) % 64) * 64 +
            (code / 64 % 64 + 128) % 64) * 64 + (code % 64 + 128) % 64 = code by omega, same]

theorem fromUtf8Replacing_utf8 (text : Text) : fromUtf8Replacing (utf8 text) = text := by
  unfold fromUtf8Replacing utf8
  induction text with
  | nil => rfl
  | cons char rest ih =>
      rw [List.flatMap_cons, List.map_append, fromUtf8From_char, ih]

end CloudGuest.Texts
