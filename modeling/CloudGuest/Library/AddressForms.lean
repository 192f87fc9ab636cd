import CloudGuest.Library.Faults
import CloudGuest.Library.IpAddress

/-!
The canonical text of an address reads as that address again: each octet and group
by itself, then the three ways the groups of IPv6 are written, with every group,
with one run of zeros left out, and with an IPv4 tail.
-/

namespace CloudGuest.IpAddress

open Texts

section Splitting

theorem splitOn_nonempty (separator : Char) (text : Text) : splitOn separator text ≠ [] := by
  cases text with
  | nil => simp [splitOn]
  | cons char rest =>
      rw [splitOn]
      split
      · simp
      · split <;> simp

theorem splitOn_plain (separator : Char) (text : Text) (plain : separator ∉ text) :
    splitOn separator text = [text] := by
  induction text with
  | nil => rfl
  | cons char rest ih =>
      simp only [List.mem_cons, not_or] at plain
      rw [splitOn, if_neg (Ne.symm plain.1), ih plain.2]

theorem splitOn_append (separator : Char) (part rest : Text) (plain : separator ∉ part) :
    splitOn separator (part ++ separator :: rest) = part :: splitOn separator rest := by
  induction part with
  | nil => simp [splitOn]
  | cons char part ih =>
      simp only [List.mem_cons, not_or] at plain
      rw [List.cons_append, splitOn, if_neg (Ne.symm plain.1), ih plain.2]

theorem splitOn_joined (separator : Char) (parts : List Text) (nonempty : parts ≠ [])
    (plain : ∀ part ∈ parts, separator ∉ part) :
    splitOn separator (joined separator parts) = parts := by
  induction parts with
  | nil => exact absurd rfl nonempty
  | cons part rest ih =>
      cases rest with
      | nil => exact splitOn_plain separator part (plain part List.mem_cons_self)
      | cons next rest =>
          rw [joined, splitOn_append separator part _ (plain part List.mem_cons_self),
            ih (by simp) fun other member => plain other (List.mem_cons_of_mem _ member)]

theorem mem_splitOn (separator char : Char) (text : Text) (other : char ≠ separator)
    (member : char ∈ text) : ∃ part ∈ splitOn separator text, char ∈ part := by
  induction text with
  | nil => simp at member
  | cons first rest ih =>
      rw [splitOn]
      split
      · rename_i same
        rcases List.mem_cons.mp member with rfl | later
        · exact absurd same other
        · obtain ⟨part, partMember, inside⟩ := ih later
          exact ⟨part, List.mem_cons_of_mem _ partMember, inside⟩
      · split
        · rename_i nothing
          exact absurd nothing (splitOn_nonempty separator rest)
        · rename_i part more equal
          rcases List.mem_cons.mp member with rfl | later
          · exact ⟨char :: part, by simp, by simp⟩
          · obtain ⟨found, foundMember, inside⟩ := ih later
            rw [equal] at foundMember
            rcases List.mem_cons.mp foundMember with rfl | after
            · exact ⟨first :: found, by simp, by simp [inside]⟩
            · exact ⟨found, by simp [after], inside⟩

end Splitting

section Octets

theorem readOctet_decimal (octet : Nat) (small : octet ≤ 255) :
    readOctet (decimal octet) = some octet := by
  have all : ∀ octet : Fin 256, readOctet (decimal octet) = some octet.val := by decide +kernel
  exact all ⟨octet, by omega⟩

theorem readOctet_small (text : Text) (octet : Nat) (read : readOctet text = some octet) :
    octet ≤ 255 := by
  unfold readOctet at read
  split at read
  · cases read
  · dsimp only at read
    split at read
    · rename_i small
      cases read
      exact small
    · cases read

theorem readOctet_foreign (text : Text) (char : Char) (member : char ∈ text)
    (foreign : char.isDigit = false) : readOctet text = none := by
  have some_foreign : text.any (fun char => !char.isDigit) = true :=
    List.any_eq_true.mpr ⟨char, member, by simp [foreign]⟩
  simp [readOctet, some_foreign]

theorem readV4_dotted (octets : List Nat) (four : octets.length = 4)
    (small : ∀ octet ∈ octets, octet ≤ 255) : readV4 (dotted octets) = some octets := by
  have nonempty : octets.map decimal ≠ [] := by
    intro empty
    simp [List.map_eq_nil_iff.mp empty] at four
  have plain : ∀ part ∈ octets.map decimal, '.' ∉ part := by
    intro part member dot
    obtain ⟨octet, -, rfl⟩ := List.mem_map.mp member
    have digit := decimal_digits octet '.' dot
    simp at digit
  have read : ∀ octets : List Nat, (∀ octet ∈ octets, octet ≤ 255) →
      (octets.map decimal).mapM readOctet = some octets := by
    intro octets small
    induction octets with
    | nil => rfl
    | cons octet rest ih =>
        simp only [List.mem_cons, forall_eq_or_imp] at small
        simp [readOctet_decimal octet small.1, ih small.2]
  rw [readV4, dotted, splitOn_joined '.' _ nonempty plain, List.length_map, if_pos four]
  exact read octets small

theorem mapM_some_forall {α β : Type} (read : α → Option β) (items : List α) (values : List β)
    (all : items.mapM read = some values) :
    values.length = items.length ∧ ∀ value ∈ values, ∃ item ∈ items, read item = some value := by
  obtain ⟨each, rfl⟩ := (Faults.mapM_some read items values).mp all
  exact ⟨List.filterMap_length_eq_length.mpr each, fun value member => List.mem_filterMap.mp member⟩

theorem readV4_valid (text : Text) (octets : List Nat) (read : readV4 text = some octets) :
    octets.length = 4 ∧ ∀ octet ∈ octets, octet ≤ 255 := by
  unfold readV4 at read
  dsimp only at read
  split at read
  · rename_i four
    obtain ⟨lengths, members⟩ := mapM_some_forall readOctet _ octets read
    refine ⟨lengths.trans four, ?_⟩
    intro octet member
    obtain ⟨part, -, partRead⟩ := members octet member
    exact readOctet_small part octet partRead
  · cases read

theorem readV4_colon (text : Text) (colon : ':' ∈ text) : readV4 text = none := by
  cases read : readV4 text with
  | none => rfl
  | some octets =>
      unfold readV4 at read
      dsimp only at read
      split at read
      · obtain ⟨part, member, inside⟩ := mem_splitOn '.' ':' text (by decide) colon
        have octet := ((Faults.mapM_some readOctet _ octets).mp read).1 part member
        simp [readOctet_foreign part ':' inside (by decide)] at octet
      · cases read

end Octets

section Groups

def hexFold (digits : List Nat) : Nat := digits.foldl (fun value digit => value * 16 + digit) 0

theorem hexValue_digitChar (digit : Nat) (small : digit < 16) :
    hexValue (Nat.digitChar digit) = some digit := by
  have all : ∀ digit : Fin 16, hexValue (Nat.digitChar digit) = some digit.val := by decide
  exact all ⟨digit, small⟩

theorem hexadecimal_read (group : Nat) :
    ∃ digits, (hexadecimal group).mapM hexValue = some digits ∧ hexFold digits = group := by
  induction group using Nat.strong_induction_on with
  | _ group ih =>
      -- One digit is read as it is; before more of them stands the number without its last.
      by_cases small : group < 16
      · exact ⟨[group], by
          simp [hexadecimal, Nat.toDigits_of_lt_base small, hexValue_digitChar group small],
          by simp [hexFold]⟩
      · obtain ⟨digits, read, value⟩ := ih (group / 16) (by omega)
        have split : hexadecimal group =
            hexadecimal (group / 16) ++ [Nat.digitChar (group % 16)] :=
          Nat.toDigits_of_base_le (by omega) (by omega)
        refine ⟨digits ++ [group % 16], ?_, ?_⟩
        · rw [split, List.mapM_append, read]
          simp [hexValue_digitChar (group % 16) (by omega)]
        · unfold hexFold at value ⊢
          rw [List.foldl_append, value]
          simp only [List.foldl_cons, List.foldl_nil]
          omega

theorem readGroup_hexadecimal (group : Nat) (small : group < 65536) :
    readGroup (hexadecimal group) = some group := by
  have short : (hexadecimal group).length ≤ 4 :=
    (Nat.length_toDigits_le_iff (by omega) (by omega)).mpr (by simpa using small)
  obtain ⟨digits, read, value⟩ := hexadecimal_read group
  rw [readGroup, if_neg (by simp [hexadecimal, Nat.toDigits_ne_nil]; exact short), read]
  exact congrArg some value

theorem hexValue_small (char : Char) (digit : Nat) (read : hexValue char = some digit) :
    digit < 16 := by
  unfold hexValue at read
  split at read
  · rename_i decimal
    obtain rfl := Option.some.inj read
    simp only [Char.isDigit, Bool.and_eq_true, decide_eq_true_eq, ge_iff_le,
      UInt32.le_iff_toNat_le] at decimal
    change 48 ≤ char.toNat ∧ char.toNat ≤ 57 at decimal
    change char.toNat - 48 < 16
    omega
  · split at read
    · rename_i letter
      obtain rfl := Option.some.inj read
      change 97 ≤ char.toNat ∧ char.toNat ≤ 102 at letter
      change char.toNat - 97 + 10 < 16
      omega
    · split at read
      · rename_i letter
        obtain rfl := Option.some.inj read
        change 65 ≤ char.toNat ∧ char.toNat ≤ 70 at letter
        change char.toNat - 65 + 10 < 16
        omega
      · cases read

theorem hexFold_small (digits : List Nat) (small : ∀ digit ∈ digits, digit < 16) :
    hexFold digits < 16 ^ digits.length := by
  induction digits using List.reverseRecOn with
  | nil => simp [hexFold]
  | append_singleton digits last ih =>
      have before := ih fun digit member => small digit (by simp [member])
      have here := small last (by simp)
      unfold hexFold at before ⊢
      rw [List.foldl_append, List.length_append, List.length_singleton, Nat.pow_succ]
      simp only [List.foldl_cons, List.foldl_nil]
      omega

theorem readGroup_small (text : Text) (group : Nat) (read : readGroup text = some group) :
    group < 65536 := by
  unfold readGroup at read
  split at read
  · cases read
  · rename_i bounded
    obtain ⟨digits, digitsRead, rfl⟩ := Option.map_eq_some_iff.mp read
    obtain ⟨lengths, members⟩ := mapM_some_forall hexValue text digits digitsRead
    have small := hexFold_small digits fun digit member => by
      obtain ⟨char, -, charRead⟩ := members digit member
      exact hexValue_small char digit charRead
    have short : digits.length ≤ 4 := by omega
    calc hexFold digits < 16 ^ digits.length := small
      _ ≤ 16 ^ 4 := Nat.pow_le_pow_right (by omega) short

end Groups

section Runs

def ZerosAt (groups : List Nat) (run : Nat × Nat) : Prop :=
  run.1 + run.2 ≤ groups.length ∧ ∀ place, run.1 ≤ place → place < run.1 + run.2 →
    groups[place]? = some 0

theorem zerosAt_empty (groups : List Nat) : ZerosAt groups (0, 0) :=
  ⟨Nat.zero_le _, fun _ above below => absurd below (Nat.not_lt_of_le above)⟩

theorem longestZeros_zeros (groups seen rest : List Nat) (whole : groups = seen ++ rest)
    (current best : Nat × Nat) (currentZeros : ZerosAt groups current)
    (ending : current.2 ≠ 0 → current.1 + current.2 = seen.length)
    (bestZeros : ZerosAt groups best) :
    ZerosAt groups (longestZeros seen.length current best rest) := by
  induction rest generalizing seen current best with
  | nil => simpa [longestZeros] using bestZeros
  | cons group rest ih =>
      have next : groups = (seen ++ [group]) ++ rest := by simp [whole]
      have here : groups[seen.length]? = some group := by simp [whole]
      have inside : seen.length < groups.length := by simp [whole]
      have length : (seen ++ [group]).length = seen.length + 1 := by simp
      cases group with
      | succ group =>
          rw [longestZeros, ← length]
          · exact ih _ next _ _ (zerosAt_empty groups) (by simp) bestZeros
          · simp
      | zero =>
          have grown : ZerosAt groups
              (if current.2 = 0 then (seen.length, 1) else (current.1, current.2 + 1)) ∧
              (if current.2 = 0 then (seen.length, 1) else (current.1, current.2 + 1)).1 +
                (if current.2 = 0 then (seen.length, 1) else (current.1, current.2 + 1)).2 =
                  seen.length + 1 := by
            split
            · refine ⟨⟨by simpa using inside, ?_⟩, rfl⟩
              intro place above below
              obtain rfl : place = seen.length := by omega
              exact here
            · rename_i running
              have last := ending running
              refine ⟨⟨by omega, ?_⟩, by omega⟩
              intro place above below
              -- A place of the longer run is in the run before, or is the zero just seen.
              rcases Nat.lt_or_ge place (current.1 + current.2) with before | after
              · exact currentZeros.2 place above before
              · obtain rfl : place = seen.length := by omega
                exact here
          rw [longestZeros, ← length]
          generalize (if current.2 = 0 then (seen.length, 1) else (current.1, current.2 + 1)) =
            longer at grown ⊢
          refine ih _ next _ _ grown.1 (fun _ => by rw [grown.2, length]) ?_
          split
          · exact grown.1
          · exact bestZeros

theorem longestZeros_run (groups : List Nat) :
    ZerosAt groups (longestZeros 0 (0, 0) (0, 0) groups) :=
  longestZeros_zeros groups [] groups rfl (0, 0) (0, 0) (zerosAt_empty groups) (by simp)
    (zerosAt_empty groups)

end Runs

section Parts

structure GroupText (text : Text) (group : Nat) : Prop where
  nonempty : text ≠ []
  colon : ':' ∉ text
  dot : '.' ∉ text
  read : readGroup text = some group

theorem hexadecimal_group (group : Nat) (small : group < 65536) :
    GroupText (hexadecimal group) group where
  nonempty := Nat.toDigits_ne_nil
  colon member := by
    obtain ⟨digits, read, -⟩ := hexadecimal_read group
    exact absurd (((Faults.mapM_some hexValue _ digits).mp read).1 ':' member) (by decide)
  dot member := by
    obtain ⟨digits, read, -⟩ := hexadecimal_read group
    exact absurd (((Faults.mapM_some hexValue _ digits).mp read).1 '.' member) (by decide)
  read := readGroup_hexadecimal group small

def ending (texts : List Text) : List Text := if texts = [] then [[]] else texts

def gapParts (high low : List Text) : List Text := ending high ++ [] :: ending low

theorem ending_length (texts : List Text) : (ending texts).length = max 1 texts.length := by
  unfold ending
  split
  · simp [*]
  · rename_i nonempty
    have positive := List.length_pos_of_ne_nil nonempty
    omega

theorem ending_place (texts : List Text) (plain : ∀ text ∈ texts, text ≠ []) (place : Nat)
    (nothing : (ending texts)[place]? = some []) : texts = [] ∧ place = 0 := by
  unfold ending at nothing
  split at nothing
  · rename_i empty
    cases place with
    | zero => exact ⟨empty, rfl⟩
    | succ place => simp at nothing
  · exact absurd rfl (plain [] (List.mem_of_getElem? nothing))

theorem emptyPlaces_eq (parts : List Text) (place : Nat) (first : 1 ≤ place)
    (last : place + 1 < parts.length)
    (only : ∀ other, 1 ≤ other → other + 1 < parts.length →
      (parts[other]? = some [] ↔ other = place)) : emptyPlaces parts = [place] := by
  have counted : ∀ bound, bound ≤ parts.length - 2 →
      ((List.range bound).filterMap fun index =>
        if parts[index + 1]? = some [] then some (index + 1) else none) =
          if place ≤ bound then [place] else [] := by
    intro bound
    induction bound with
    | zero =>
        intro _
        rw [if_neg (by omega)]
        rfl
    | succ bound ih =>
        intro within
        have here := only (bound + 1) (by omega) (by omega)
        rw [List.range_succ, List.filterMap_append, ih (by omega)]
        simp only [List.filterMap_cons, List.filterMap_nil]
        by_cases same : bound + 1 = place
        · rw [if_pos (here.mpr same), if_neg (by omega), if_pos (by omega), same]
          rfl
        · rw [if_neg (mt here.mp same)]
          by_cases before : place ≤ bound
          · rw [if_pos before, if_pos (by omega)]
            rfl
          · rw [if_neg before, if_neg (by omega)]
            rfl
  rw [emptyPlaces, counted _ le_rfl, if_pos (by omega)]

theorem emptyPlaces_gap (high low : List Text) (highPlain : ∀ text ∈ high, text ≠ [])
    (lowPlain : ∀ text ∈ low, text ≠ []) :
    emptyPlaces (gapParts high low) = [max 1 high.length] := by
  have length : (gapParts high low).length = max 1 high.length + 1 + max 1 low.length := by
    simp [gapParts, ending_length]
    omega
  apply emptyPlaces_eq
  · omega
  · omega
  · intro other first last
    unfold gapParts
    rcases Nat.lt_trichotomy other (max 1 high.length) with before | rfl | after
    · rw [List.getElem?_append_left (by rw [ending_length]; exact before)]
      refine ⟨fun nothing => ?_, fun same => by omega⟩
      have place := (ending_place high highPlain other nothing).2
      omega
    · rw [List.getElem?_append_right (by rw [ending_length]), ending_length]
      simp
    · rw [List.getElem?_append_right (by rw [ending_length]; omega), ending_length]
      obtain ⟨place, rfl⟩ : ∃ place, other = max 1 high.length + 1 + place :=
        ⟨other - (max 1 high.length + 1), by omega⟩
      have shifted : max 1 high.length + 1 + place - max 1 high.length = place + 1 := by omega
      rw [shifted, List.getElem?_cons_succ]
      refine ⟨fun nothing => ?_, fun same => by omega⟩
      obtain ⟨rfl, rfl⟩ := ending_place low lowPlain place nothing
      simp only [List.length_nil] at length
      omega

theorem mapM_readGroup (texts : List Text) (groups : List Nat)
    (paired : List.Forall₂ GroupText texts groups) : texts.mapM readGroup = some groups := by
  induction paired with
  | nil => rfl
  | cons first _ ih => simp [first.read, ih]

theorem gapParts_take (high low : List Text) : (gapParts high low).take high.length = high := by
  unfold gapParts ending
  split
  · simp [*]
  · simp

theorem gapParts_drop (high low : List Text) :
    (gapParts high low).drop ((gapParts high low).length - low.length) = low := by
  have whole : gapParts high low =
      (ending high ++ if low = [] then [[], []] else [[]]) ++ low := by
    unfold gapParts ending
    by_cases empty : low = [] <;> simp [empty]
  rw [whole, List.length_append, Nat.add_sub_cancel]
  simp

theorem gapParts_head (high low : List Text) (plain : ∀ text ∈ high, text ≠ []) :
    (gapParts high low).head? = some [] ↔ high = [] := by
  unfold gapParts ending
  cases high with
  | nil => simp
  | cons text rest => simpa using plain text List.mem_cons_self

theorem gapParts_last (high low : List Text) (plain : ∀ text ∈ low, text ≠ []) :
    (gapParts high low).getLast? = some [] ↔ low = [] := by
  unfold gapParts ending
  cases low using List.reverseRecOn with
  | nil => simp
  | append_singleton texts text =>
      rw [if_neg (show texts ++ [text] ≠ [] by simp), ← List.cons_append, ← List.append_assoc,
        List.getLast?_concat]
      simpa using plain text (by simp)

theorem paired_text {texts : List Text} {groups : List Nat}
    (paired : List.Forall₂ GroupText texts groups) :
    ∀ text ∈ texts, ∃ group, GroupText text group := by
  induction paired with
  | nil => simp
  | cons first _ ih =>
      intro text member
      rcases List.mem_cons.mp member with rfl | later
      · exact ⟨_, first⟩
      · exact ih text later

theorem readV6_gap (text : Text) (high low : List Text) (above below : List Nat)
    (several : 3 ≤ (splitOn ':' text).length)
    (expanded : expandTail (splitOn ':' text) = some (gapParts high low))
    (highPaired : List.Forall₂ GroupText high above)
    (lowPaired : List.Forall₂ GroupText low below) (room : above.length + below.length < 8) :
    readV6 text = some (above ++ List.replicate (8 - (above.length + below.length)) 0 ++ below) := by
  have highPlain : ∀ text ∈ high, text ≠ [] := fun text member =>
    (paired_text highPaired text member).elim fun _ found => found.nonempty
  have lowPlain : ∀ text ∈ low, text ≠ [] := fun text member =>
    (paired_text lowPaired text member).elim fun _ found => found.nonempty
  have places := emptyPlaces_gap high low highPlain lowPlain
  have length : (gapParts high low).length = max 1 high.length + 1 + max 1 low.length := by
    simp [gapParts, ending_length]
    omega
  have highLength := highPaired.length_eq
  have lowLength := lowPaired.length_eq
  have openFront := gapParts_head high low highPlain
  have openBack := gapParts_last high low lowPlain
  have front : (if (gapParts high low).head? = some [] then max 1 high.length - 1
      else max 1 high.length) = high.length := by
    split
    · rename_i opened
      simp [openFront.mp opened]
    · rename_i closed
      have positive := List.length_pos_of_ne_nil (mt openFront.mpr closed)
      omega
  have back : (if (gapParts high low).getLast? = some []
      then (gapParts high low).length - max 1 high.length - 2
      else (gapParts high low).length - max 1 high.length - 1) = low.length := by
    split
    · rename_i opened
      simp only [openBack.mp opened, List.length_nil] at length ⊢
      omega
    · rename_i closed
      have positive := List.length_pos_of_ne_nil (mt openBack.mpr closed)
      omega
  have frontClosed : ¬((gapParts high low).head? = some [] ∧ high.length ≠ 0) := by
    rintro ⟨opened, some_high⟩
    simp [openFront.mp opened] at some_high
  have backClosed : ¬((gapParts high low).getLast? = some [] ∧ low.length ≠ 0) := by
    rintro ⟨opened, some_low⟩
    simp [openBack.mp opened] at some_low
  unfold readV6
  simp only [if_neg (Nat.not_lt.mpr several), expanded, Option.bind_eq_bind, Option.bind_some,
    places, front, back]
  rw [if_neg (by omega), if_neg (by
    rintro (opened | closed | full)
    · exact frontClosed opened
    · exact backClosed closed
    · omega)]
  rw [gapParts_take, gapParts_drop, mapM_readGroup high above highPaired,
    mapM_readGroup low below lowPaired, highLength, lowLength]
  rfl

theorem readV6_full (text : Text) (texts : List Text) (groups : List Nat)
    (split : splitOn ':' text = texts) (expanded : expandTail texts = some texts)
    (paired : List.Forall₂ GroupText texts groups) (eight : groups.length = 8) :
    readV6 text = some groups := by
  have plain : ∀ text ∈ texts, text ≠ [] := fun text member =>
    (paired_text paired text member).elim fun _ found => found.nonempty
  have length : texts.length = 8 := paired.length_eq.trans eight
  have places : emptyPlaces texts = [] := by
    simp only [emptyPlaces, List.filterMap_eq_nil_iff, ite_eq_right_iff, reduceCtorEq, imp_false]
    intro place _ nothing
    exact plain [] (List.mem_of_getElem? nothing) rfl
  have openFront : texts.head? ≠ some [] := fun opened =>
    plain [] (List.mem_of_head? opened) rfl
  have openBack : texts.getLast? ≠ some [] := fun opened =>
    plain [] (List.mem_of_getLast? opened) rfl
  unfold readV6
  simp only [split, expanded, Option.bind_eq_bind, Option.bind_some, places]
  rw [if_neg (by omega), if_neg (by omega), if_pos ⟨length, openFront, openBack⟩]
  exact mapM_readGroup texts groups paired

end Parts

section Canonical

theorem hexadecimals_paired (groups : List Nat) (small : ∀ group ∈ groups, group < 65536) :
    List.Forall₂ GroupText (groups.map hexadecimal) groups := by
  induction groups with
  | nil => exact .nil
  | cons group rest ih =>
      simp only [List.mem_cons, forall_eq_or_imp] at small
      exact .cons (hexadecimal_group group small.1) (ih small.2)

theorem expandTail_plain (parts : List Text) (nonempty : parts ≠ [])
    (plain : ∀ part ∈ parts, '.' ∉ part) : expandTail parts = some parts := by
  unfold expandTail
  rw [List.getLast?_eq_getLast_of_ne_nil nonempty]
  exact if_neg (plain _ (List.getLast_mem nonempty))

theorem gapParts_plain (char : Char) (high low : List Text)
    (highPlain : ∀ text ∈ high, char ∉ text) (lowPlain : ∀ text ∈ low, char ∉ text) :
    ∀ part ∈ gapParts high low, char ∉ part := by
  have ends : ∀ texts : List Text, (∀ text ∈ texts, char ∉ text) →
      ∀ part ∈ ending texts, char ∉ part := by
    intro texts plain part member
    unfold ending at member
    split at member
    · simp_all
    · exact plain part member
  intro part member
  simp only [gapParts, List.mem_append, List.mem_cons] at member
  rcases member with front | rfl | back
  · exact ends high highPlain part front
  · simp
  · exact ends low lowPlain part back

theorem compressed_parts (texts : List Text) (place run : Nat) (eight : texts.length = 8)
    (within : place + run ≤ 8) :
    (if place = 0 then [[]] else []) ++ texts.take place ++ [[]] ++ texts.drop (place + run) ++
        (if place + run = texts.length then [[]] else []) =
      gapParts (texts.take place) (texts.drop (place + run)) := by
  have front : texts.take place = [] ↔ place = 0 := by
    rw [List.take_eq_nil_iff]
    refine or_iff_left fun empty => ?_
    simp [empty] at eight
  have back : texts.drop (place + run) = [] ↔ place + run = texts.length := by
    rw [List.drop_eq_nil_iff]
    omega
  unfold gapParts ending
  rw [if_congr front rfl rfl, if_congr back rfl rfl]
  split <;> split <;> simp_all

theorem run_restored (groups : List Nat) (place run : Nat)
    (zeros : ∀ index, place ≤ index → index < place + run → groups[index]? = some 0) :
    groups.take place ++ List.replicate run 0 ++ groups.drop (place + run) = groups := by
  have gap : List.replicate run 0 = (groups.drop place).take run := by
    apply List.ext_getElem?
    intro index
    -- Within the run the groups were zero, which is what the reader puts in their place.
    rcases Nat.lt_or_ge index run with inside | outside
    · rw [List.getElem?_replicate_of_lt inside, List.getElem?_take_of_lt inside,
        List.getElem?_drop, zeros (place + index) (by omega) (by omega)]
    · rw [List.getElem?_eq_none (by simpa using outside),
        List.getElem?_eq_none (by simp [outside])]
  rw [gap, List.append_assoc, ← List.drop_drop, List.take_append_drop, List.take_append_drop]

theorem readV6_run (groups : List Nat) (eight : groups.length = 8)
    (small : ∀ group ∈ groups, group < 65536) (place run : Nat) (within : place + run ≤ 8)
    (long : 1 < run)
    (zeros : ∀ index, place ≤ index → index < place + run → groups[index]? = some 0) :
    readV6 (joined ':' (gapParts ((groups.take place).map hexadecimal)
      ((groups.drop (place + run)).map hexadecimal))) = some groups := by
  have highPaired := hexadecimals_paired (groups.take place) fun group member =>
    small group (List.mem_of_mem_take member)
  have lowPaired := hexadecimals_paired (groups.drop (place + run)) fun group member =>
    small group (List.mem_of_mem_drop member)
  have above : (groups.take place).length = place := by
    rw [List.length_take]
    omega
  have below : (groups.drop (place + run)).length = 8 - (place + run) := by
    rw [List.length_drop, eight]
  generalize (groups.take place).map hexadecimal = high at highPaired
  generalize (groups.drop (place + run)).map hexadecimal = low at lowPaired
  have nonempty : gapParts high low ≠ [] := by simp [gapParts]
  have colons : ∀ part ∈ gapParts high low, ':' ∉ part := gapParts_plain ':' high low
    (fun text member => (paired_text highPaired text member).elim fun _ found => found.colon)
    fun text member => (paired_text lowPaired text member).elim fun _ found => found.colon
  have dots : ∀ part ∈ gapParts high low, '.' ∉ part := gapParts_plain '.' high low
    (fun text member => (paired_text highPaired text member).elim fun _ found => found.dot)
    fun text member => (paired_text lowPaired text member).elim fun _ found => found.dot
  have split := splitOn_joined ':' _ nonempty colons
  have several : 3 ≤ (splitOn ':' (joined ':' (gapParts high low))).length := by
    rw [split]
    simp only [gapParts, List.length_append, List.length_cons, ending_length]
    omega
  have expanded : expandTail (splitOn ':' (joined ':' (gapParts high low))) =
      some (gapParts high low) := by
    rw [split, expandTail_plain _ nonempty dots]
  rw [readV6_gap _ high low _ _ several expanded highPaired lowPaired (by omega), above, below,
    show 8 - (place + (8 - (place + run))) = run by omega, run_restored groups place run zeros]

theorem readV6_compressed (groups : List Nat) (eight : groups.length = 8)
    (small : ∀ group ∈ groups, group < 65536) : readV6 (compressed groups) = some groups := by
  obtain ⟨within, zeros⟩ := longestZeros_run groups
  rw [eight] at within
  have length : (groups.map hexadecimal).length = 8 := by simpa using eight
  unfold compressed
  generalize longestZeros 0 (0, 0) (0, 0) groups = found at within zeros
  obtain ⟨place, run⟩ := found
  dsimp only at within zeros ⊢
  split
  · rename_i long
    rw [compressed_parts _ place run length within, ← List.map_take, ← List.map_drop]
    exact readV6_run groups eight small place run within long zeros
  · have paired := hexadecimals_paired groups small
    have nonempty : groups.map hexadecimal ≠ [] := List.ne_nil_of_length_eq_add_one length
    have colons : ∀ text ∈ groups.map hexadecimal, ':' ∉ text := fun text member =>
      (paired_text paired text member).elim fun _ found => found.colon
    have dots : ∀ text ∈ groups.map hexadecimal, '.' ∉ text := fun text member =>
      (paired_text paired text member).elim fun _ found => found.dot
    exact readV6_full _ _ groups (splitOn_joined ':' _ nonempty colons)
      (expandTail_plain _ nonempty dots) paired eight

theorem dotted_colon (octets : List Nat) (four : octets.length = 4)
    (small : ∀ octet ∈ octets, octet ≤ 255) : ':' ∉ dotted octets := by
  intro colon
  have read := readV4_dotted octets four small
  rw [readV4_colon _ colon] at read
  cases read

theorem readV6_mapped (high low : Nat) (highSmall : high < 65536) (lowSmall : low < 65536) :
    readV6 ([':', ':', 'f', 'f', 'f', 'f', ':'] ++
      dotted [high / 256, high % 256, low / 256, low % 256]) =
        some [0, 0, 0, 0, 0, 65535, high, low] := by
  have octets : ∀ octet ∈ [high / 256, high % 256, low / 256, low % 256], octet ≤ 255 := by
    simp only [List.mem_cons, List.not_mem_nil, or_false]
    omega
  have ffff : hexadecimal 65535 = ['f', 'f', 'f', 'f'] := by decide +kernel
  have ffffGroup := hexadecimal_group 65535 (by omega)
  rw [ffff] at ffffGroup
  have colon := dotted_colon _ rfl octets
  have dot : '.' ∈ dotted [high / 256, high % 256, low / 256, low % 256] := by
    simp [dotted, joined]
  have tail := readV4_dotted _ rfl octets
  have split : splitOn ':' ([':', ':', 'f', 'f', 'f', 'f', ':'] ++
      dotted [high / 256, high % 256, low / 256, low % 256]) =
        [[], [], ['f', 'f', 'f', 'f'], dotted [high / 256, high % 256, low / 256, low % 256]] := by
    apply splitOn_joined ':' [[], [], ['f', 'f', 'f', 'f'], _] (by simp)
    simpa using colon
  have expanded : expandTail (splitOn ':' ([':', ':', 'f', 'f', 'f', 'f', ':'] ++
      dotted [high / 256, high % 256, low / 256, low % 256])) =
        some (gapParts [] [['f', 'f', 'f', 'f'], hexadecimal high, hexadecimal low]) := by
    rw [split]
    unfold expandTail
    simp only [List.getLast?_cons_cons, List.getLast?_singleton, if_pos dot, tail]
    simp [gapParts, ending, Nat.div_add_mod']
  have lowPaired : List.Forall₂ GroupText
      [['f', 'f', 'f', 'f'], hexadecimal high, hexadecimal low] [65535, high, low] :=
    .cons ffffGroup (.cons (hexadecimal_group high highSmall)
      (.cons (hexadecimal_group low lowSmall) .nil))
  exact readV6_gap _ [] _ [] _ (by rw [split]; simp) expanded .nil lowPaired (by simp)

theorem readV6_v6Text (groups : List Nat) (eight : groups.length = 8)
    (small : ∀ group ∈ groups, group < 65536) : readV6 (v6Text groups) = some groups := by
  unfold v6Text
  split
  · rename_i mapped
    match groups, eight with
    | [_, _, _, _, _, _, high, low], _ =>
        simp only [List.take_succ_cons, List.take_zero, List.cons.injEq, and_true] at mapped
        obtain ⟨rfl, rfl, rfl, rfl, rfl, rfl⟩ := mapped
        exact readV6_mapped high low (small high (by simp)) (small low (by simp))
  · exact readV6_compressed groups eight small

theorem emptyPlaces_inside (parts : List Text) (place : Nat) (member : place ∈ emptyPlaces parts) :
    1 ≤ place ∧ place + 1 < parts.length := by
  simp only [emptyPlaces, List.mem_filterMap, List.mem_range] at member
  obtain ⟨index, bounded, found⟩ := member
  split at found
  · obtain rfl := Option.some.inj found
    omega
  · cases found

theorem mapM_readGroup_valid (texts : List Text) (groups : List Nat)
    (read : texts.mapM readGroup = some groups) :
    groups.length = texts.length ∧ ∀ group ∈ groups, group < 65536 := by
  obtain ⟨lengths, members⟩ := mapM_some_forall readGroup texts groups read
  refine ⟨lengths, ?_⟩
  intro group member
  obtain ⟨text, -, textRead⟩ := members group member
  exact readGroup_small text group textRead

theorem readV6_valid (text : Text) (groups : List Nat) (read : readV6 text = some groups) :
    groups.length = 8 ∧ ∀ group ∈ groups, group < 65536 := by
  unfold readV6 at read
  simp only [Option.bind_eq_bind, Option.pure_def] at read
  split at read
  · cases read
  · obtain ⟨parts, -, read⟩ := Option.bind_eq_some_iff.mp read
    split at read
    · cases read
    · split at read
      · split at read
        · rename_i full
          obtain ⟨lengths, small⟩ := mapM_readGroup_valid parts groups read
          exact ⟨lengths.trans full.1, small⟩
        · cases read
      · rename_i place places
        obtain ⟨first, last⟩ := emptyPlaces_inside parts place (by simp [places])
        have frontBound : (if parts.head? = some [] then place - 1 else place) ≤ parts.length := by
          split <;> omega
        have backBound : (if parts.getLast? = some [] then parts.length - place - 2
            else parts.length - place - 1) ≤ parts.length := by
          split <;> omega
        generalize (if parts.head? = some [] then place - 1 else place) = front at read frontBound
        generalize (if parts.getLast? = some [] then parts.length - place - 2
          else parts.length - place - 1) = back at read backBound
        split at read
        · cases read
        · rename_i closed
          obtain ⟨high, highRead, read⟩ := Option.bind_eq_some_iff.mp read
          obtain ⟨low, lowRead, read⟩ := Option.bind_eq_some_iff.mp read
          obtain rfl := Option.some.inj read
          obtain ⟨highLength, highSmall⟩ := mapM_readGroup_valid _ high highRead
          obtain ⟨lowLength, lowSmall⟩ := mapM_readGroup_valid _ low lowRead
          rw [List.length_take] at highLength
          rw [List.length_drop] at lowLength
          constructor
          · simp only [List.length_append, List.length_replicate]
            omega
          · intro group member
            simp only [List.mem_append, List.mem_replicate] at member
            rcases member with (inHigh | ⟨-, rfl⟩) | inLow
            · exact highSmall group inHigh
            · omega
            · exact lowSmall group inLow
      · cases read

theorem v6Text_colon (groups : List Nat) (eight : groups.length = 8)
    (small : ∀ group ∈ groups, group < 65536) : ':' ∈ v6Text groups := by
  by_contra plain
  have read := readV6_v6Text groups eight small
  simp [readV6, splitOn_plain ':' _ plain] at read

theorem v6Text_plain (groups : List Nat) (char : Char) (foreign : tokenChar char = false) :
    char ∉ v6Text groups := by
  intro member
  have token := v6Text_token groups char member
  simp [foreign] at token

theorem span_zoneless (text : Text) (plain : '%' ∉ text) : text.span (· ≠ '%') = (text, []) := by
  have all : ∀ char ∈ text, decide (char ≠ '%') = true := by
    intro char member
    exact decide_eq_true fun same => plain (same ▸ member)
  rw [List.span_eq_takeWhile_dropWhile, List.takeWhile_eq_self_iff.mpr all,
    List.dropWhile_eq_nil_iff.mpr all]

theorem span_zone (text zone : Text) (plain : '%' ∉ text) :
    (text ++ '%' :: zone).span (· ≠ '%') = (text, '%' :: zone) := by
  have all : ∀ char ∈ text, decide (char ≠ '%') = true := by
    intro char member
    exact decide_eq_true fun same => plain (same ▸ member)
  rw [List.span_eq_takeWhile_dropWhile, List.takeWhile_append_of_pos all,
    List.dropWhile_append_of_pos all]
  simp

/-- What is read and written back: an IPv4 address, an IPv6 address, or one with a zone. -/
theorem ipAddress_cases (text canonical : Text) (read : ipAddress text = some canonical) :
    (∃ octets, octets.length = 4 ∧ (∀ octet ∈ octets, octet ≤ 255) ∧ canonical = dotted octets) ∨
    (∃ groups, groups.length = 8 ∧ (∀ group ∈ groups, group < 65536) ∧
      canonical = v6Text groups) ∨
    ∃ groups address percent zone, groups.length = 8 ∧ (∀ group ∈ groups, group < 65536) ∧
      zone ≠ [] ∧ '%' ∉ zone ∧ '/' ∉ zone ∧ text = address ++ percent :: zone ∧
      canonical = v6Text groups ++ '%' :: zone := by
  unfold ipAddress at read
  split at read
  · rename_i octets found
    obtain ⟨four, small⟩ := readV4_valid text octets found
    exact .inl ⟨octets, four, small, (Option.some.inj read).symm⟩
  · split at read
    · cases read
    · rename_i plain
      split at read
      · obtain ⟨groups, found, rfl⟩ := Option.map_eq_some_iff.mp read
        obtain ⟨eight, small⟩ := readV6_valid _ groups found
        exact .inr (.inl ⟨groups, eight, small, rfl⟩)
      · rename_i address percent zone parts
        split at read
        · cases read
        · rename_i zoned
          rw [not_or] at zoned
          obtain ⟨groups, found, rfl⟩ := Option.map_eq_some_iff.mp read
          obtain ⟨eight, small⟩ := readV6_valid _ groups found
          have whole : text = address ++ percent :: zone := by
            have joined := List.takeWhile_append_dropWhile (p := (· ≠ '%')) (l := text)
            rw [List.span_eq_takeWhile_dropWhile, Prod.mk.injEq] at parts
            rw [parts.1, parts.2] at joined
            exact joined.symm
          have slash : '/' ∉ zone := fun slash => plain (by simp [whole, slash])
          exact .inr (.inr ⟨groups, address, percent, zone, eight, small, zoned.1, zoned.2, slash,
            whole, rfl⟩)

theorem ipAddress_canonical (text canonical : Text) (read : ipAddress text = some canonical) :
    ipAddress canonical = some canonical := by
  rcases ipAddress_cases text canonical read with ⟨octets, four, small, rfl⟩ |
    ⟨groups, eight, small, rfl⟩ |
    ⟨groups, address, percent, zone, eight, small, zoned, percents, slashes, whole, rfl⟩
  · rw [ipAddress, readV4_dotted octets four small]
  · rw [ipAddress, readV4_colon _ (v6Text_colon groups eight small)]
    simp only [if_neg (v6Text_plain groups '/' (by decide)),
      span_zoneless _ (v6Text_plain groups '%' (by decide)),
      readV6_v6Text groups eight small, Option.map_some]
  · have colon : ':' ∈ v6Text groups ++ '%' :: zone :=
      List.mem_append_left _ (v6Text_colon groups eight small)
    have slash : '/' ∉ v6Text groups ++ '%' :: zone := by
      simp [v6Text_plain groups '/' (by decide), slashes]
    rw [ipAddress, readV4_colon _ colon]
    simp only [if_neg slash, span_zone _ zone (v6Text_plain groups '%' (by decide)),
      if_neg (not_or.mpr ⟨zoned, percents⟩), readV6_v6Text groups eight small, Option.map_some]

theorem ipAddress_stripped (text canonical : Text) (read : ipAddress text = some canonical)
    (stripped : Stripped text) : Stripped canonical := by
  have stripped_token (token : Text) (isToken : IsToken token) : Stripped token := by
    rw [← strip_token token isToken]
    exact strip_stripped token
  rcases ipAddress_cases text canonical read with ⟨octets, -, -, rfl⟩ | ⟨groups, -, -, rfl⟩ |
    ⟨groups, address, percent, zone, eight, small, zoned, -, -, rfl, rfl⟩
  · exact stripped_token _ (dotted_token octets)
  · exact stripped_token _ (v6Text_token groups)
  · have written : v6Text groups ≠ [] :=
      List.ne_nil_of_mem (v6Text_colon groups eight small)
    have front := (stripped_token _ (v6Text_token groups)).1
    have back := stripped.2
    obtain ⟨last, zoneLast⟩ := Option.ne_none_iff_exists'.mp (mt List.getLast?_eq_none_iff.mp zoned)
    rw [List.getLast?_append_cons, List.getLast?_cons, zoneLast] at back
    constructor
    · rw [List.head?_append_of_ne_nil _ written]
      exact front
    · rw [List.getLast?_append_cons, List.getLast?_cons, zoneLast]
      exact back

end Canonical

end CloudGuest.IpAddress
