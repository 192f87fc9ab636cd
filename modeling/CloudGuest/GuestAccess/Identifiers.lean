import CloudGuest.Library.Casing
import CloudGuest.Library.Texts

/-!
Which guests an access rule names (guest_access/validators.py, guest/validators.py,
guest_access/repository.py). Rules written before country codes were required hold bare
national numbers, so a number is looked up under a list of spellings and of patterns.
-/

namespace CloudGuest.GuestAccess
open Texts Casing

/-! ### Canonical identifiers -/

def phoneNoise (char : Char) : Bool :=
  isSpace char || char.toNat ∈ [40, 41, 45, 46, 8208, 8209, 8210, 8211, 8212]

section Canonical

variable (properties : Casing.Properties)

def normalizeIdentifier (identifier : Text) : Text :=
  if '@' ∈ strip identifier then lower properties (strip identifier) else strip identifier

def canonicalizeRuleIdentifier (identifier : Text) : Text :=
  if '@' ∈ normalizeIdentifier properties identifier then normalizeIdentifier properties identifier
  else (normalizeIdentifier properties identifier).filter fun char => !phoneNoise char

end Canonical

/-! ### Spellings -/

def maxCountryCodeDigits : Nat := 3

def minNationalDigits : Nat := 7

structure IdentifierMatchTerms where
  exact : List Text
  prefixPatterns : List Text
  casefold : Bool
  deriving DecidableEq

def addSpelling (exact : List Text) (spelling : Text) : List Text :=
  if spelling ∈ exact then exact else exact ++ [spelling]

/-- The loop of `identifier_match_terms`, from a number of dropped digits on. -/
def addNationals (digits : Text) : List Nat → List Text → List Text
  | [], exact => exact
  | dropped :: rest, exact =>
      let national := digits.drop dropped
      if national.length < minNationalDigits then exact
      else addNationals digits rest (addSpelling (addSpelling exact national) ('+' :: national))

def numberPatterns (digits : Text) : List Text :=
  ((List.range maxCountryCodeDigits).map (· + 1)).flatMap fun length =>
    [['+'], []].map fun sign => sign ++ List.replicate length '_' ++ digits

def unsigned (candidate : Text) : Text := if candidate.head? = some '+' then candidate.tail else candidate

def identifierMatchTerms (properties : Casing.Properties) (identifier : Text) : IdentifierMatchTerms :=
  let candidate := canonicalizeRuleIdentifier properties identifier
  if '@' ∈ candidate then ⟨[candidate], [], true⟩
  else
    let digits := unsigned candidate
    if !digits.all Char.isDigit || digits.length < minNationalDigits then ⟨[candidate], [], false⟩
    else ⟨addNationals digits (List.range (maxCountryCodeDigits + 1)) [candidate], numberPatterns digits, false⟩

def likeMatches (pattern value : Text) : Bool :=
  pattern.length == value.length && (pattern.zip value).all fun pair => pair.1 == '_' || pair.1 == pair.2

def identifiersMatch (properties : Casing.Properties) (stored incoming : Text) : Bool :=
  let terms := identifierMatchTerms properties incoming
  if terms.casefold then decide (lower properties stored ∈ terms.exact)
  else decide (stored ∈ terms.exact) || terms.prefixPatterns.any fun pattern => likeMatches pattern stored

def importMatches (properties : Casing.Properties) (stored identifier : Text) : Bool :=
  let terms := identifierMatchTerms properties identifier
  let bare := terms.exact.filter fun spelling => spelling.head? ≠ some '+'
  let candidates := if identifier ∈ bare then bare else bare ++ [identifier]
  if terms.casefold then decide (lower properties stored ∈ candidates.map (lower properties))
  else decide (stored ∈ candidates)

/-! ### What the terms match -/

theorem mem_addSpelling {exact : List Text} {spelling text : Text} :
    text ∈ addSpelling exact spelling ↔ text ∈ exact ∨ text = spelling := by
  unfold addSpelling
  split
  · next listed =>
      refine ⟨.inl, fun either => either.elim id ?_⟩
      rintro rfl
      exact listed
  · simp

theorem mem_addNationals {digits text : Text} (count start : Nat) {exact : List Text} :
    text ∈ addNationals digits (List.range' start count) exact ↔ text ∈ exact ∨ ∃ dropped, start ≤ dropped ∧
      dropped < start + count ∧ minNationalDigits ≤ (digits.drop dropped).length ∧
      (text = digits.drop dropped ∨ text = '+' :: digits.drop dropped) := by
  -- The loop ends at the first number that is too short, and the later ones are shorter.
  induction count generalizing start exact with
  | zero =>
      refine ⟨.inl, fun either => either.elim id ?_⟩
      rintro ⟨dropped, above, under, -⟩
      omega
  | succ count ih =>
      rw [List.range'_succ, addNationals]
      split
      · next short =>
          refine ⟨.inl, fun either => either.elim id ?_⟩
          rintro ⟨dropped, above, -, long, -⟩
          rw [List.length_drop] at short long
          omega
      · next long =>
          rw [ih, mem_addSpelling, mem_addSpelling]
          constructor
          · rintro (((listed | bare) | signed) | ⟨dropped, above, under, enough, spelled⟩)
            · exact .inl listed
            · exact .inr ⟨start, le_refl _, by omega, not_lt.mp long, .inl bare⟩
            · exact .inr ⟨start, le_refl _, by omega, not_lt.mp long, .inr signed⟩
            · exact .inr ⟨dropped, by omega, by omega, enough, spelled⟩
          · rintro (listed | ⟨dropped, above, under, enough, spelled⟩)
            · exact .inl (.inl (.inl listed))
            · rcases above.eq_or_lt with rfl | after
              · exact spelled.elim (fun bare => .inl (.inl (.inr bare))) fun signed => .inl (.inr signed)
              · exact .inr ⟨dropped, after, by omega, enough, spelled⟩

theorem likeMatches_nil {value : Text} : likeMatches [] value = true ↔ value = [] := by
  cases value <;> simp [likeMatches]

theorem likeMatches_cons {char : Char} {pattern value : Text} : likeMatches (char :: pattern) value = true ↔
    ∃ first rest, value = first :: rest ∧ (char = '_' ∨ char = first) ∧ likeMatches pattern rest = true := by
  cases value with
  | nil => simp [likeMatches]
  | cons first rest =>
      simp only [likeMatches, List.length_cons, List.zip_cons_cons, List.all_cons, Bool.and_eq_true, beq_iff_eq,
        Nat.add_right_cancel_iff, Bool.or_eq_true, List.cons.injEq]
      constructor
      · rintro ⟨length, same, all⟩
        exact ⟨first, rest, ⟨rfl, rfl⟩, same, length, all⟩
      · rintro ⟨first, rest, ⟨rfl, rfl⟩, same, length, all⟩
        exact ⟨length, same, all⟩

theorem likeMatches_plain {pattern value : Text} (plain : '_' ∉ pattern) :
    likeMatches pattern value = true ↔ value = pattern := by
  induction pattern generalizing value with
  | nil => exact likeMatches_nil
  | cons char pattern ih =>
      rw [likeMatches_cons]
      obtain ⟨here, later⟩ := not_or.mp (mt List.mem_cons.mpr plain)
      constructor
      · rintro ⟨first, rest, rfl, wild | rfl, tail⟩
        · exact absurd wild.symm here
        · rw [(ih later).mp tail]
      · rintro rfl
        exact ⟨char, pattern, rfl, .inr rfl, (ih later).mpr rfl⟩

theorem likeMatches_wild {length : Nat} {pattern value : Text} :
    likeMatches (List.replicate length '_' ++ pattern) value = true ↔
      ∃ front rest, value = front ++ rest ∧ front.length = length ∧ likeMatches pattern rest = true := by
  induction length generalizing value with
  | zero =>
      constructor
      · exact fun matched => ⟨[], value, rfl, rfl, matched⟩
      · rintro ⟨front, rest, rfl, none, matched⟩
        rw [List.length_eq_zero_iff.mp none]
        exact matched
  | succ length ih =>
      rw [List.replicate_succ, List.cons_append, likeMatches_cons]
      constructor
      · rintro ⟨first, value, rfl, -, matched⟩
        obtain ⟨front, rest, rfl, many, matched⟩ := ih.mp matched
        exact ⟨first :: front, rest, rfl, congrArg Nat.succ many, matched⟩
      · rintro ⟨front, rest, rfl, many, matched⟩
        obtain ⟨first, front, rfl⟩ := List.exists_cons_of_length_eq_add_one many
        exact ⟨first, front ++ rest, rfl, .inl rfl, ih.mpr ⟨front, rest, rfl, by simpa using many, matched⟩⟩

theorem digits_plain {digits : Text} (all : digits.all Char.isDigit = true) (char : Char)
    (other : char.isDigit = false) : char ∉ digits := by
  intro member
  rw [List.all_eq_true.mp all char member] at other
  cases other

theorem any_numberPatterns {digits stored : Text} (all : digits.all Char.isDigit = true) :
    ((numberPatterns digits).any fun pattern => likeMatches pattern stored) = true ↔ ∃ front,
      1 ≤ front.length ∧ front.length ≤ maxCountryCodeDigits ∧
        (stored = '+' :: (front ++ digits) ∨ stored = front ++ digits) := by
  have plain := digits_plain all '_' (by decide)
  simp only [numberPatterns, List.any_flatMap, List.any_map, List.any_cons, List.any_nil, List.any_eq_true,
    List.mem_range, Function.comp_apply, Bool.or_eq_true, List.cons_append, List.nil_append, Bool.or_false,
    likeMatches_cons, likeMatches_wild, likeMatches_plain plain]
  constructor
  · rintro ⟨length, under, ⟨first, rest, rfl, wild | rfl, front, digits, rfl, many, rfl⟩ |
      ⟨front, digits, rfl, many, rfl⟩⟩
    · cases wild
    · exact ⟨front, by omega, by omega, .inl rfl⟩
    · exact ⟨front, by omega, by omega, .inr rfl⟩
  · rintro ⟨front, some, few, rfl | rfl⟩
    · exact ⟨front.length - 1, by omega, .inl ⟨_, _, rfl, .inr rfl, front, digits, rfl, by omega, rfl⟩⟩
    · exact ⟨front.length - 1, by omega, .inr ⟨front, digits, rfl, by omega, rfl⟩⟩

/-! ### The same number -/

def spelled (plus : Bool) (digits : Text) : Text := if plus then '+' :: digits else digits

/-- One number is the other after up to three leading digits, and neither is short. -/
def SameNumber (left right : Text) : Prop :=
  left <:+ right ∧ right.length ≤ left.length + maxCountryCodeDigits ∧ minNationalDigits ≤ left.length ∨
    right <:+ left ∧ left.length ≤ right.length + maxCountryCodeDigits ∧ minNationalDigits ≤ right.length

section Numbers

variable {digits other : Text} {plus also : Bool}

theorem spelled_inj (left : digits.all Char.isDigit = true) (right : other.all Char.isDigit = true)
    (same : spelled plus digits = spelled also other) : digits = other := by
  have unsigned : ∀ {number rest : Text}, number.all Char.isDigit = true → number ≠ '+' :: rest := by
    rintro number rest all rfl
    exact absurd List.mem_cons_self (digits_plain all '+' (by decide))
  cases plus <;> cases also
  · exact same
  · exact absurd same (unsigned left)
  · exact absurd same.symm (unsigned right)
  · exact List.tail_eq_of_cons_eq same

theorem mem_exact {stored : Text} : stored ∈ addNationals digits (List.range (maxCountryCodeDigits + 1))
    [spelled plus digits] ↔ stored = spelled plus digits ∨ ∃ dropped, dropped ≤ maxCountryCodeDigits ∧
      minNationalDigits ≤ (digits.drop dropped).length ∧ ∃ also, stored = spelled also (digits.drop dropped) := by
  rw [List.range_eq_range', mem_addNationals, List.mem_singleton]
  refine or_congr_right ⟨?_, ?_⟩
  · rintro ⟨dropped, -, under, long, bare | signed⟩
    · exact ⟨dropped, by omega, long, false, bare⟩
    · exact ⟨dropped, by omega, long, true, signed⟩
  · rintro ⟨dropped, few, long, also, rfl⟩
    refine ⟨dropped, Nat.zero_le _, by omega, long, ?_⟩
    cases also
    · exact .inl rfl
    · exact .inr rfl

variable {properties : Casing.Properties} {incoming : Text}

theorem identifierMatchTerms_number (canonical : canonicalizeRuleIdentifier properties incoming = spelled plus digits)
    (all : digits.all Char.isDigit = true) (long : minNationalDigits ≤ digits.length) :
    identifierMatchTerms properties incoming =
      ⟨addNationals digits (List.range (maxCountryCodeDigits + 1)) [spelled plus digits], numberPatterns digits,
        false⟩ := by
  have unmailed : '@' ∉ spelled plus digits := by
    have plain := digits_plain all '@' (by decide)
    cases plus
    · exact plain
    · exact fun member => (List.mem_cons.mp member).elim (by decide) plain
  have stripped : unsigned (spelled plus digits) = digits := by
    cases plus
    · refine if_neg fun first => ?_
      exact digits_plain all '+' (by decide) (List.mem_of_mem_head? first)
    · exact if_pos rfl
  have kept : (!digits.all Char.isDigit || decide (digits.length < minNationalDigits)) = false := by
    simp [all, long]
  unfold identifierMatchTerms
  simp only [canonical, if_neg unmailed, stripped, kept, Bool.false_eq_true, if_false]

theorem suffix_of_front {front : Text} (stored : other.all Char.isDigit = true) (some : 1 ≤ front.length)
    (same : spelled also other = '+' :: (front ++ digits) ∨ spelled also other = front ++ digits) :
    digits <:+ other ∧ other.length ≤ digits.length + front.length := by
  have unsigned : ∀ {rest : Text}, other ≠ '+' :: rest := by
    rintro rest rfl
    exact digits_plain stored '+' (by decide) List.mem_cons_self
  cases also with
  | false =>
      rcases same with signed | bare
      · exact absurd signed unsigned
      · obtain rfl : other = front ++ digits := bare
        exact ⟨List.suffix_append _ _, by rw [List.length_append]; omega⟩
  | true =>
      rcases same with signed | bare
      · obtain rfl := List.tail_eq_of_cons_eq signed
        exact ⟨List.suffix_append _ _, by rw [List.length_append]; omega⟩
      · obtain ⟨first, front, rfl⟩ := List.exists_cons_of_ne_nil (List.ne_nil_of_length_pos some)
        have rest : other = front ++ digits := List.tail_eq_of_cons_eq bare
        subst rest
        exact ⟨List.suffix_append _ _, by rw [List.length_append, List.length_cons]; omega⟩

/-- A rule's number is looked up from another spelling of it exactly when they are the same number. -/
theorem identifiersMatch_number (canonical : canonicalizeRuleIdentifier properties incoming = spelled plus digits)
    (all : digits.all Char.isDigit = true) (long : minNationalDigits ≤ digits.length)
    (stored : other.all Char.isDigit = true) :
    identifiersMatch properties (spelled also other) incoming = true ↔ SameNumber other digits := by
  simp only [identifiersMatch, identifierMatchTerms_number canonical all long, Bool.false_eq_true, if_false,
    Bool.or_eq_true, decide_eq_true_eq, mem_exact, any_numberPatterns all]
  constructor
  · rintro ((same | ⟨dropped, few, enough, sign, same⟩) | ⟨front, some, few, same⟩)
    · obtain rfl := spelled_inj stored all same
      exact .inl ⟨List.suffix_rfl, by omega, long⟩
    · have suffix : (digits.drop dropped).all Char.isDigit = true :=
        List.all_eq_true.mpr fun char member => List.all_eq_true.mp all char (List.mem_of_mem_drop member)
      obtain rfl := spelled_inj stored suffix same
      exact .inl ⟨List.drop_suffix _ _, by rw [List.length_drop]; omega, enough⟩
    · obtain ⟨suffix, near⟩ := suffix_of_front stored some same
      exact .inr ⟨suffix, by omega, long⟩
  · rintro (⟨suffix, near, enough⟩ | ⟨⟨front, rfl⟩, near, -⟩)
    · have whole : digits.drop (digits.length - other.length) = other := (List.suffix_iff_eq_drop.mp suffix).symm
      exact .inl (.inr ⟨digits.length - other.length, by omega, whole.symm ▸ enough, also, by rw [whole]⟩)
    · rw [List.length_append] at near
      cases front with
      | nil => exact .inl (.inr ⟨0, Nat.zero_le _, long, also, rfl⟩)
      | cons first front =>
          refine .inr ⟨first :: front, by simp, by omega, ?_⟩
          cases also
          · exact .inr rfl
          · exact .inl rfl

end Numbers

/-! ### Other identifiers -/

section Others

variable {properties : Casing.Properties} {stored incoming identifier : Text}

theorem noise_of_space {char : Char} (space : isSpace char = true) : phoneNoise char = true := by
  rw [phoneNoise, space, Bool.true_or]

theorem lower_normalized (mailed : '@' ∈ normalizeIdentifier properties identifier) :
    lower properties (normalizeIdentifier properties identifier) = normalizeIdentifier properties identifier := by
  by_cases typed : '@' ∈ strip identifier
  · rw [normalizeIdentifier, if_pos typed, lower_lower]
  · have kept : normalizeIdentifier properties identifier = strip identifier := if_neg typed
    exact absurd (kept ▸ mailed) typed

theorem normalized_stripped : Stripped (normalizeIdentifier properties identifier) := by
  unfold normalizeIdentifier
  split
  · exact lower_stripped properties _ (strip_stripped identifier)
  · exact strip_stripped identifier

theorem canonical_mail (mailed : '@' ∈ canonicalizeRuleIdentifier properties identifier) :
    '@' ∈ normalizeIdentifier properties identifier ∧
      canonicalizeRuleIdentifier properties identifier = normalizeIdentifier properties identifier := by
  by_cases typed : '@' ∈ normalizeIdentifier properties identifier
  · exact ⟨typed, if_pos typed⟩
  · rw [canonicalizeRuleIdentifier, if_neg typed] at mailed
    exact absurd (List.mem_filter.mp mailed).1 typed

theorem canonicalize_canonical (identifier : Text) :
    canonicalizeRuleIdentifier properties (canonicalizeRuleIdentifier properties identifier) =
      canonicalizeRuleIdentifier properties identifier := by
  by_cases mailed : '@' ∈ normalizeIdentifier properties identifier
  · have settled : normalizeIdentifier properties (normalizeIdentifier properties identifier) =
        normalizeIdentifier properties identifier := by
      rw [normalizeIdentifier, strip_of_stripped _ normalized_stripped, if_pos mailed, lower_normalized mailed]
    have canonical : canonicalizeRuleIdentifier properties identifier = normalizeIdentifier properties identifier :=
      if_pos mailed
    rw [canonical, canonicalizeRuleIdentifier, settled, if_pos mailed]
  · have canonical : canonicalizeRuleIdentifier properties identifier =
        (normalizeIdentifier properties identifier).filter fun char => !phoneNoise char := if_neg mailed
    rw [canonical]
    set clean := (normalizeIdentifier properties identifier).filter fun char => !phoneNoise char with cleaned
    have quiet : ∀ char ∈ clean, phoneNoise char = false := fun char member =>
      (Bool.not_eq_true' _).mp (List.mem_filter.mp member).2
    have unmailed : '@' ∉ clean := fun member => mailed (List.mem_filter.mp member).1
    have spaceless : ∀ char ∈ clean, isSpace char = false := fun char member =>
      Bool.eq_false_iff.mpr fun space => Bool.eq_false_iff.mp (quiet char member) (noise_of_space space)
    have stripped : strip clean = clean := strip_of_stripped clean
      ⟨fun char first => spaceless char (List.mem_of_mem_head? first),
        fun char last => spaceless char (List.mem_of_getLast? last)⟩
    have settled : normalizeIdentifier properties clean = clean := by
      rw [normalizeIdentifier, stripped, if_neg unmailed]
    rw [canonicalizeRuleIdentifier, settled, if_neg unmailed, List.filter_eq_self]
    exact fun char member => (Bool.not_eq_true' _).mpr (quiet char member)

theorem identifiersMatch_canonical : identifiersMatch properties stored (canonicalizeRuleIdentifier properties incoming) =
    identifiersMatch properties stored incoming := by
  simp only [identifiersMatch, identifierMatchTerms, canonicalize_canonical]

theorem identifierMatchTerms_mail (mailed : '@' ∈ canonicalizeRuleIdentifier properties incoming) :
    identifierMatchTerms properties incoming = ⟨[canonicalizeRuleIdentifier properties incoming], [], true⟩ := by
  simp only [identifierMatchTerms, if_pos mailed]

theorem identifiersMatch_mail (mailed : '@' ∈ canonicalizeRuleIdentifier properties incoming) :
    identifiersMatch properties stored incoming = true ↔
      lower properties stored = canonicalizeRuleIdentifier properties incoming := by
  simp only [identifiersMatch, identifierMatchTerms_mail mailed, if_true, List.mem_singleton, decide_eq_true_eq]

theorem canonical_lower (mailed : '@' ∈ canonicalizeRuleIdentifier properties incoming) :
    lower properties (canonicalizeRuleIdentifier properties incoming) =
      canonicalizeRuleIdentifier properties incoming := by
  obtain ⟨typed, same⟩ := canonical_mail mailed
  rw [same, lower_normalized typed]

theorem candidate_exact (incoming : Text) : canonicalizeRuleIdentifier properties incoming ∈
    (identifierMatchTerms properties incoming).exact := by
  unfold identifierMatchTerms
  dsimp only
  split
  · exact List.mem_singleton_self _
  · split
    · exact List.mem_singleton_self _
    · rw [List.range_eq_range', mem_addNationals]
      exact .inl (List.mem_singleton_self _)

theorem identifiersMatch_other (unmailed : '@' ∉ canonicalizeRuleIdentifier properties incoming)
    (unnumbered : ∀ plus digits, canonicalizeRuleIdentifier properties incoming = spelled plus digits →
      digits.all Char.isDigit = true → digits.length < minNationalDigits) :
    identifiersMatch properties stored incoming = true ↔ stored = canonicalizeRuleIdentifier properties incoming := by
  have terms : identifierMatchTerms properties incoming =
      ⟨[canonicalizeRuleIdentifier properties incoming], [], false⟩ := by
    have short : (!(unsigned (canonicalizeRuleIdentifier properties incoming)).all Char.isDigit ||
        decide ((unsigned (canonicalizeRuleIdentifier properties incoming)).length < minNationalDigits)) = true := by
      rw [Bool.or_eq_true, Bool.not_eq_true', decide_eq_true_eq, or_iff_not_imp_left, Bool.not_eq_false]
      unfold unsigned
      split
      · next signed =>
          obtain ⟨rest, whole⟩ := List.head?_eq_some_iff.mp signed
          exact unnumbered true _ (by rw [whole]; rfl)
      · exact unnumbered false _ rfl
    simp only [identifierMatchTerms, if_neg unmailed, short, if_true]
  simp [identifiersMatch, terms]

theorem casefold_unmailed (unmailed : '@' ∉ canonicalizeRuleIdentifier properties incoming) :
    (identifierMatchTerms properties incoming).casefold = false := by
  unfold identifierMatchTerms
  dsimp only
  rw [if_neg unmailed]
  split <;> rfl

theorem importMatches_match (canonical : canonicalizeRuleIdentifier properties identifier = identifier)
    (taken : importMatches properties stored identifier = true) :
    identifiersMatch properties stored identifier = true ∧
      ('@' ∈ identifier ∨ stored = identifier ∨ stored.head? ≠ some '+') := by
  by_cases mailed : '@' ∈ identifier
  · rw [← canonical] at mailed
    have terms := identifierMatchTerms_mail mailed
    have settled := canonical_lower mailed
    rw [canonical] at mailed terms settled
    refine ⟨?_, .inl mailed⟩
    rw [identifiersMatch_mail (canonical.symm ▸ mailed), canonical]
    simp only [importMatches, terms, if_true, decide_eq_true_eq, List.mem_map] at taken
    obtain ⟨candidate, listed, same⟩ := taken
    have only : candidate = identifier := by
      split at listed
      · exact List.mem_singleton.mp (List.mem_filter.mp listed).1
      · rcases List.mem_append.mp listed with bare | last
        · exact List.mem_singleton.mp (List.mem_filter.mp bare).1
        · exact List.mem_singleton.mp last
    rw [← same, only, settled]
  · have plain : (identifierMatchTerms properties identifier).casefold = false :=
      casefold_unmailed (canonical.symm ▸ mailed)
    simp only [importMatches, plain, Bool.false_eq_true, if_false, decide_eq_true_eq] at taken
    have exact : stored ∈ (identifierMatchTerms properties identifier).exact ∧
        (stored = identifier ∨ stored.head? ≠ some '+') := by
      have bare : ∀ text, text ∈ (identifierMatchTerms properties identifier).exact.filter
          (fun spelling => spelling.head? ≠ some '+') →
          text ∈ (identifierMatchTerms properties identifier).exact ∧ (text = identifier ∨ text.head? ≠ some '+') :=
        fun text member => ⟨(List.mem_filter.mp member).1, .inr (of_decide_eq_true (List.mem_filter.mp member).2)⟩
      split at taken
      · exact bare stored taken
      · rcases List.mem_append.mp taken with listed | last
        · exact bare stored listed
        · have candidate := @candidate_exact properties identifier
          rw [canonical] at candidate
          rw [List.mem_singleton.mp last]
          exact ⟨candidate, .inl rfl⟩
    refine ⟨?_, .inr exact.2⟩
    simp only [identifiersMatch, plain, Bool.false_eq_true, if_false, exact.1, decide_true, Bool.true_or]

theorem identifiersMatch_self (same : canonicalizeRuleIdentifier properties identifier =
    canonicalizeRuleIdentifier properties incoming) :
    identifiersMatch properties (canonicalizeRuleIdentifier properties identifier) incoming = true := by
  rw [same]
  by_cases mailed : '@' ∈ canonicalizeRuleIdentifier properties incoming
  · exact (identifiersMatch_mail mailed).mpr (canonical_lower mailed)
  · simp only [identifiersMatch, casefold_unmailed mailed, Bool.false_eq_true, if_false, candidate_exact incoming,
      decide_true, Bool.true_or]

end Others

/-- The canonical form is settled, a rule is found from every spelling that has its canonical form, and a spelling
makes no difference to what is found. Numbers name each other exactly when they are the same number, addresses when
they are equal in lower case, and anything else when they are equal. An import takes over only a rule that the
sign-in finds, and no other number that has its plus sign. -/
theorem rules_name_same_number (properties : Casing.Properties) :
    (∀ identifier, canonicalizeRuleIdentifier properties (canonicalizeRuleIdentifier properties identifier) =
      canonicalizeRuleIdentifier properties identifier) ∧
    (∀ identifier incoming, canonicalizeRuleIdentifier properties identifier =
        canonicalizeRuleIdentifier properties incoming →
      identifiersMatch properties (canonicalizeRuleIdentifier properties identifier) incoming = true ∧
      ∀ stored, identifiersMatch properties stored identifier = identifiersMatch properties stored incoming) ∧
    (∀ incoming plus digits, canonicalizeRuleIdentifier properties incoming = spelled plus digits →
      digits.all Char.isDigit = true → minNationalDigits ≤ digits.length →
      ∀ also other, other.all Char.isDigit = true →
        (identifiersMatch properties (spelled also other) incoming = true ↔ SameNumber other digits)) ∧
    (∀ stored incoming, '@' ∈ canonicalizeRuleIdentifier properties incoming →
      (identifiersMatch properties stored incoming = true ↔
        lower properties stored = canonicalizeRuleIdentifier properties incoming)) ∧
    (∀ stored incoming, '@' ∉ canonicalizeRuleIdentifier properties incoming →
      (∀ plus digits, canonicalizeRuleIdentifier properties incoming = spelled plus digits →
        digits.all Char.isDigit = true → digits.length < minNationalDigits) →
      (identifiersMatch properties stored incoming = true ↔
        stored = canonicalizeRuleIdentifier properties incoming)) ∧
    ∀ stored identifier, canonicalizeRuleIdentifier properties identifier = identifier →
      importMatches properties stored identifier = true → identifiersMatch properties stored identifier = true ∧
        ('@' ∈ identifier ∨ stored = identifier ∨ stored.head? ≠ some '+') := by
  refine ⟨canonicalize_canonical, fun identifier incoming same => ⟨identifiersMatch_self same, fun stored => ?_⟩,
    fun incoming plus digits canonical all long also other stored => identifiersMatch_number canonical all long stored,
    fun stored incoming => identifiersMatch_mail, fun stored incoming => identifiersMatch_other,
    fun stored identifier => importMatches_match⟩
  rw [← @identifiersMatch_canonical properties stored identifier, same, identifiersMatch_canonical]

/-- A rule of before country codes were required, and a guest who types the whole number. -/
theorem rules_name_same_number_bare :
    identifiersMatch ⟨fun _ => false, fun _ => false⟩ "9876543210".toList "+91 98765-43210".toList = true ∧
      SameNumber "9876543210".toList "919876543210".toList := by
  have typed : canonicalizeRuleIdentifier ⟨fun _ => false, fun _ => false⟩ "+91 98765-43210".toList =
      spelled true "919876543210".toList := by decide +kernel
  have named := (rules_name_same_number ⟨fun _ => false, fun _ => false⟩).2.2.1 _ true _ typed (by decide)
    (by decide) false "9876543210".toList (by decide)
  have same : SameNumber "9876543210".toList "919876543210".toList :=
    .inl ⟨⟨"91".toList, rfl⟩, by decide, by decide⟩
  exact ⟨named.mpr same, same⟩

end CloudGuest.GuestAccess
