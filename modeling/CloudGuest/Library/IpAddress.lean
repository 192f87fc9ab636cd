import CloudGuest.Library.Texts

/-!
Internet addresses as Python's `ipaddress` reads and prints them: dotted IPv4
without leading zeros; IPv6 with one run of zeros left out, an IPv4 tail and a
zone. The canonical text of an address without a zone is a single token.
-/

namespace CloudGuest.IpAddress

open Texts

def splitOn (separator : Char) : Text → List Text
  | [] => [[]]
  | char :: rest =>
      if char = separator then [] :: splitOn separator rest
      else
        match splitOn separator rest with
        | [] => [[char]]
        | first :: more => (char :: first) :: more

def readOctet (text : Text) : Option Nat :=
  if text = [] ∨ text.any (fun char => !char.isDigit) ∨ 3 < text.length ∨
      (text ≠ ['0'] ∧ text.head? = some '0') then none
  else
    let value := Nat.ofDigitChars 10 text 0
    if value ≤ 255 then some value else none

def readV4 (text : Text) : Option (List Nat) :=
  let octets := splitOn '.' text
  if octets.length = 4 then octets.mapM readOctet else none

def dotted (octets : List Nat) : Text := joined '.' (octets.map decimal)

def hexadecimal (number : Nat) : Text := Nat.toDigits 16 number

def hexValue (char : Char) : Option Nat :=
  if char.isDigit then some (char.toNat - '0'.toNat)
  else if 'a' ≤ char ∧ char ≤ 'f' then some (char.toNat - 'a'.toNat + 10)
  else if 'A' ≤ char ∧ char ≤ 'F' then some (char.toNat - 'A'.toNat + 10)
  else none

def readGroup (text : Text) : Option Nat :=
  if text = [] ∨ 4 < text.length then none
  else (text.mapM hexValue).map fun digits => digits.foldl (fun value digit => value * 16 + digit) 0

def expandTail (parts : List Text) : Option (List Text) :=
  match parts.getLast? with
  | some last =>
      if '.' ∈ last then
        (readV4 last).map fun octets =>
          parts.dropLast ++ [hexadecimal (octets.getD 0 0 * 256 + octets.getD 1 0),
            hexadecimal (octets.getD 2 0 * 256 + octets.getD 3 0)]
      else some parts
  | none => none

def emptyPlaces (parts : List Text) : List Nat :=
  (List.range (parts.length - 2)).filterMap fun place =>
    if parts[place + 1]? = some [] then some (place + 1) else none

def readV6 (text : Text) : Option (List Nat) :=
  let split := splitOn ':' text
  if split.length < 3 then none
  else do
    let parts ← expandTail split
    if 9 < parts.length then none
    else
      let openFront := parts.head? = some []
      let openBack := parts.getLast? = some []
      match emptyPlaces parts with
      | [] => if parts.length = 8 ∧ ¬openFront ∧ ¬openBack then parts.mapM readGroup else none
      | [place] =>
          let front := if openFront then place - 1 else place
          let back := if openBack then parts.length - place - 2 else parts.length - place - 1
          if (openFront ∧ front ≠ 0) ∨ (openBack ∧ back ≠ 0) ∨ 8 ≤ front + back then none
          else do
            let high ← (parts.take front).mapM readGroup
            let low ← (parts.drop (parts.length - back)).mapM readGroup
            return high ++ List.replicate (8 - (front + back)) 0 ++ low
      | _ => none

def longestZeros (place : Nat) (current best : Nat × Nat) : List Nat → Nat × Nat
  | [] => best
  | 0 :: rest =>
      let current := if current.2 = 0 then (place, 1) else (current.1, current.2 + 1)
      longestZeros (place + 1) current (if best.2 < current.2 then current else best) rest
  | _ :: rest => longestZeros (place + 1) (0, 0) best rest

def compressed (groups : List Nat) : Text :=
  let (place, length) := longestZeros 0 (0, 0) (0, 0) groups
  let texts := groups.map hexadecimal
  if 1 < length then
    joined ':' ((if place = 0 then [[]] else []) ++ texts.take place ++ [[]] ++
      texts.drop (place + length) ++ if place + length = texts.length then [[]] else [])
  else joined ':' texts

def v6Text (groups : List Nat) : Text :=
  -- An IPv4-mapped address keeps its dotted tail.
  if groups.take 6 = [0, 0, 0, 0, 0, 65535] then
    [':', ':', 'f', 'f', 'f', 'f', ':'] ++ dotted
      [groups.getD 6 0 / 256, groups.getD 6 0 % 256, groups.getD 7 0 / 256, groups.getD 7 0 % 256]
  else compressed groups

def ipAddress (text : Text) : Option Text :=
  match readV4 text with
  | some octets => some (dotted octets)
  | none =>
      if '/' ∈ text then none
      else
        match text.span (· ≠ '%') with
        | (address, []) => (readV6 address).map v6Text
        | (address, _ :: zone) =>
            if zone = [] ∨ '%' ∈ zone then none
            else (readV6 address).map fun groups => v6Text groups ++ '%' :: zone

theorem hexadecimal_token (number : Nat) : IsToken (hexadecimal number) := by
  have digits : ∀ digit : Fin 16, tokenChar (Nat.digitChar digit) = true := by decide
  have core : ∀ fuel number, ∀ rest : Text, IsToken rest →
      IsToken (Nat.toDigitsCore 16 fuel number rest) := by
    intro fuel
    induction fuel with
    | zero => intro number rest token; exact token
    | succ fuel ih =>
        intro number rest token
        have first : IsToken (Nat.digitChar (number % 16) :: rest) :=
          .cons (digits ⟨number % 16, Nat.mod_lt _ (by omega)⟩) token
        rw [Nat.toDigitsCore]
        split
        · exact first
        · exact ih _ _ first
  exact core _ _ _ (by simp [IsToken])

theorem dotted_token (octets : List Nat) : IsToken (dotted octets) := by
  refine joined_token '.' _ (by decide) ?_
  intro part member
  obtain ⟨octet, -, rfl⟩ := List.mem_map.mp member
  exact decimal_token octet

theorem compressed_token (groups : List Nat) : IsToken (compressed groups) := by
  have texts : ∀ part ∈ groups.map hexadecimal, IsToken part := by
    intro part member
    obtain ⟨group, -, rfl⟩ := List.mem_map.mp member
    exact hexadecimal_token group
  have nothing : IsToken [] := by simp [IsToken]
  simp only [compressed]
  split
  · refine joined_token ':' _ (by decide) ?_
    intro part member
    simp only [List.mem_append, List.mem_singleton] at member
    rcases member with (((front | high) | rfl) | low) | back
    · split at front <;> simp_all
    · exact texts part (List.mem_of_mem_take high)
    · exact nothing
    · exact texts part (List.mem_of_mem_drop low)
    · split at back <;> simp_all
  · exact joined_token ':' _ (by decide) texts

theorem v6Text_token (groups : List Nat) : IsToken (v6Text groups) := by
  have mapped : IsToken [':', ':', 'f', 'f', 'f', 'f', ':'] := isToken_of_all _ (by decide)
  unfold v6Text
  split
  · exact mapped.append (dotted_token _)
  · exact compressed_token groups

theorem ipAddress_token (text canonical : Text) (read : ipAddress text = some canonical)
    (zoneless : '%' ∉ canonical) : IsToken canonical := by
  unfold ipAddress at read
  split at read
  · obtain rfl := Option.some.inj read
    exact dotted_token _
  · split at read
    · cases read
    · split at read
      · obtain ⟨groups, -, rfl⟩ := Option.map_eq_some_iff.mp read
        exact v6Text_token groups
      · split at read
        · cases read
        · obtain ⟨groups, -, rfl⟩ := Option.map_eq_some_iff.mp read
          simp at zoneless

end CloudGuest.IpAddress
