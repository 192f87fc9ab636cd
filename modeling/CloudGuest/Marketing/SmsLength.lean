import CloudGuest.Library.Templates

/-!
SMS bodies: rendering, segments and the worst case that a campaign reserves for
(marketing/validators.py, marketing/credits.py). The worst case fills every variable with
GSM-7 letters; a value outside GSM-7 turns the whole message to UCS-2, an extension
character takes two places, and neither is in the budget.

Texts are free of lone surrogates, as what UTF-16 encodes, and far shorter than where
dividing in doubles would round. HTML escaping is for email bodies and left out.
-/

namespace CloudGuest.Marketing
open Texts Templates RunningTotals

abbrev Values := Text → Option Text

def variableChar (char : Char) : Bool := char == '_' || ('a' ≤ char && char ≤ 'z')

def valueOf (values : Values) (name : Text) : Text := (values name).getD []

def render (text : Text) (values : Values) : Text :=
  fill (valueOf values) (pieces variableChar text)

/-! ### Length, encoding, segments -/

def gsm7Basic : List Char :=
  ['@', '£', '$', '¥', 'è', 'é', 'ù', 'ì', 'ò', 'Ç', '\n', 'Ø', 'ø', '\r', 'Å', 'å', 'Δ', '_',
    'Φ', 'Γ', 'Λ', 'Ω', 'Π', 'Ψ', 'Σ', 'Θ', 'Ξ', 'Æ', 'æ', 'ß', 'É', ' ', '!', '"', '#', '¤', '%',
    '&', '\'', '(', ')', '*', '+', ',', '-', '.', '/', '0', '1', '2', '3', '4', '5', '6', '7',
    '8', '9', ':', ';', '<', '=', '>', '?', '¡', 'A', 'B', 'C', 'D', 'E', 'F', 'G', 'H', 'I', 'J',
    'K', 'L', 'M', 'N', 'O', 'P', 'Q', 'R', 'S', 'T', 'U', 'V', 'W', 'X', 'Y', 'Z', 'Ä', 'Ö', 'Ñ',
    'Ü', '§', '¿', 'a', 'b', 'c', 'd', 'e', 'f', 'g', 'h', 'i', 'j', 'k', 'l', 'm', 'n', 'o', 'p',
    'q', 'r', 's', 't', 'u', 'v', 'w', 'x', 'y', 'z', 'ä', 'ö', 'ñ', 'ü', 'à']

def gsm7Extension : List Char := ['^', '\x7b', '\x7d', '\\', '[', '~', ']', '|', '€', '\x0c']

def isGsm7 (char : Char) : Bool := char ∈ gsm7Basic || char ∈ gsm7Extension

def septets (char : Char) : Nat := if char ∈ gsm7Extension then 2 else 1

def codeUnits (char : Char) : Nat := if char.toNat < 65536 then 1 else 2

inductive Encoding where
  | gsm7 | ucs2
  deriving DecidableEq

structure SmsStats where
  length : Nat
  encoding : Encoding
  segments : Nat
  deriving DecidableEq

def smsStats (text : Text) : SmsStats :=
  if text.all isGsm7 then
    let units := total septets text
    let segments := if units ≤ 160 then 1 else units ⌈/⌉ 153
    { length := units, encoding := .gsm7, segments := max segments 1 }
  else
    let units := total codeUnits text
    let segments := if units ≤ 70 then 1 else units ⌈/⌉ 67
    { length := units, encoding := .ucs2, segments := max segments 1 }

/-! ### The rendering bound and the worst case -/

def guestName : Text := "guest_name".toList
def venueName : Text := "venue_name".toList
def locationName : Text := "location_name".toList
def unsubscribeLink : Text := "unsubscribe_link".toList
def reviewLink : Text := "review_link".toList

def renderTruncation : List (Text × Nat) := [(guestName, 20), (venueName, 30), (locationName, 30)]

def campaignVariableMaxLengths : List (Text × Nat) :=
  [("offer_code".toList, 30), ("offer_expiry".toList, 30), ("event_name".toList, 30),
    ("event_date".toList, 30), ("booking_link".toList, 200)]

def worstCaseVariableLengths : List (Text × Nat) :=
  [(guestName, 20), (venueName, 30), (locationName, 30), (unsubscribeLink, 30),
    (reviewLink, 30)] ++ campaignVariableMaxLengths

def rstrip (text : Text) : Text := text.rdropWhile isSpace

def boundValue (values : Values) (limit : Text × Nat) : Values :=
  match values limit.1 with
  | none => values
  | some value =>
      if value ≠ [] ∧ limit.2 < value.length then
        Function.update values limit.1 (some (rstrip (value.take limit.2)))
      else values

def boundValues (values : Values) : Values :=
  (renderTruncation ++ campaignVariableMaxLengths).foldl boundValue values

def worstCaseLength (unsubscribeLinkLength reviewLinkLength : Nat) (name : Text) : Option Nat :=
  (worstCaseVariableLengths.lookup name).map fun length =>
    if name = unsubscribeLink then max length unsubscribeLinkLength
    else if name = reviewLink then max length reviewLinkLength
    else length

def worstCaseValues (unsubscribeLinkLength reviewLinkLength : Nat) : Values := fun name =>
  (worstCaseLength unsubscribeLinkLength reviewLinkLength name).map fun length =>
    List.replicate length 'x'

def smsWorstCaseSegments (body : Text) (unsubscribeLinkLength reviewLinkLength : Nat) : Nat :=
  (smsStats (render body (worstCaseValues unsubscribeLinkLength reviewLinkLength))).segments

/-! ### credits.py -/

inductive Channel where
  | sms | whatsapp | email
  deriving DecidableEq

structure ContentSnapshot where
  smsBody : Option Text
  reviewLink : Option Text
  deriving DecidableEq

def unitsPerRecipientMax (channel : Channel) (snapshot : ContentSnapshot)
    (unsubscribeLinkBudget : Nat) : Nat :=
  if channel ≠ .sms then 1
  else smsWorstCaseSegments (snapshot.smsBody.getD []) unsubscribeLinkBudget
    (snapshot.reviewLink.getD []).length

def actualUnits (channel : Channel) (snapshot : ContentSnapshot) (values : Values) (test : Bool) :
    Nat :=
  if channel ≠ .sms then 1
  else
    let body := render (snapshot.smsBody.getD []) values
    (smsStats (if test then "[TEST] ".toList ++ body else body)).segments

/-! ### What a message takes -/

def Encoding.weight : Encoding → Char → Nat
  | .gsm7 => septets
  | .ucs2 => codeUnits

def Encoding.single : Encoding → Nat
  | .gsm7 => 160
  | .ucs2 => 70

def Encoding.part : Encoding → Nat
  | .gsm7 => 153
  | .ucs2 => 67

def encodingOf (text : Text) : Encoding := if text.all isGsm7 then .gsm7 else .ucs2

def segmentsFor (encoding : Encoding) (units : Nat) : Nat :=
  if units ≤ encoding.single then 1 else units ⌈/⌉ encoding.part

def capacity (encoding : Encoding) (segments : Nat) : Nat :=
  if segments ≤ 1 then encoding.single else segments * encoding.part

theorem ceilDiv_pos {units part : Nat} (positive : 0 < part) (some : 0 < units) :
    1 ≤ units ⌈/⌉ part := by
  by_contra none
  have empty : units ≤ part * 0 := (ceilDiv_le_iff_le_mul positive).mp (by omega)
  omega

theorem smsStats_segments (text : Text) : (smsStats text).segments =
    segmentsFor (encodingOf text) (total (encodingOf text).weight text) := by
  have several : ∀ units single part, 0 < part →
      max (if units ≤ single then 1 else units ⌈/⌉ part) 1 =
        if units ≤ single then 1 else units ⌈/⌉ part := by
    intro units single part positive
    split
    · rfl
    · exact max_eq_left (ceilDiv_pos positive (by omega))
  unfold smsStats encodingOf
  split
  · exact several _ 160 153 (by decide)
  · exact several _ 70 67 (by decide)

theorem segmentsFor_pos (encoding : Encoding) (units : Nat) : 1 ≤ segmentsFor encoding units := by
  unfold segmentsFor
  split
  · exact le_rfl
  · exact ceilDiv_pos (by cases encoding <;> decide) (by omega)

theorem segmentsFor_le_iff (encoding : Encoding) (units : Nat) {segments : Nat}
    (some : 1 ≤ segments) :
    segmentsFor encoding units ≤ segments ↔ units ≤ capacity encoding segments := by
  have positive : 0 < encoding.part := by cases encoding <;> decide
  have twice : encoding.single < 2 * encoding.part := by cases encoding <;> decide
  have fits : encoding.part ≤ encoding.single := by cases encoding <;> decide
  have cut : units ⌈/⌉ encoding.part ≤ segments ↔ units ≤ encoding.part * segments :=
    ceilDiv_le_iff_le_mul positive
  unfold segmentsFor capacity
  split
  · rename_i small
    refine ⟨fun _ => ?_, fun _ => some⟩
    split
    · exact small
    · have more : 2 * encoding.part ≤ segments * encoding.part :=
        Nat.mul_le_mul_right _ (by omega)
      omega
  · rename_i large
    rw [cut, Nat.mul_comm]
    split
    · obtain rfl : segments = 1 := by omega
      constructor
      · intro held
        omega
      · intro held
        exact absurd held large
    · rfl

/-! ### The bound -/

def cutTo (limit : Nat) (value : Text) : Text :=
  if limit < value.length then rstrip (value.take limit) else value

def shownPart (name value : Text) : Text :=
  ((renderTruncation ++ campaignVariableMaxLengths).lookup name).elim value (cutTo · value)

theorem boundValue_own (values : Values) (name : Text) (limit : Nat) :
    valueOf (boundValue values (name, limit)) name = cutTo limit (valueOf values name) := by
  unfold boundValue cutTo
  cases stored : values name with
  | none => simp [valueOf, stored]
  | some value =>
      by_cases long : limit < value.length
      · have some : value ≠ [] := by
          rintro rfl
          simp at long
        simp [valueOf, stored, long, some]
      · simp [valueOf, stored, long]

theorem boundValue_other (values : Values) {name : Text} {limit : Text × Nat}
    (other : name ≠ limit.1) : valueOf (boundValue values limit) name = valueOf values name := by
  unfold boundValue
  split
  · rfl
  · split
    · rw [valueOf, Function.update_of_ne other, valueOf]
    · rfl

theorem boundValues_unlisted (values : Values) (limits : List (Text × Nat)) {name : Text}
    (unlisted : name ∉ limits.map Prod.fst) :
    valueOf (limits.foldl boundValue values) name = valueOf values name := by
  -- No turn of the loop touches the value of a variable that is not its own.
  induction limits generalizing values with
  | nil => rfl
  | cons limit rest ih =>
      simp only [List.map_cons, List.mem_cons, not_or] at unlisted
      rw [List.foldl_cons, ih (boundValue values limit) unlisted.2,
        boundValue_other values unlisted.1]

theorem boundValues_listed (values : Values) (limits : List (Text × Nat)) (name : Text)
    (once : (limits.map Prod.fst).Nodup) :
    valueOf (limits.foldl boundValue values) name =
      (limits.lookup name).elim (valueOf values name) (cutTo · (valueOf values name)) := by
  induction limits generalizing values with
  | nil => rfl
  | cons limit rest ih =>
      obtain ⟨listed, size⟩ := limit
      obtain ⟨fresh, later⟩ := List.nodup_cons.mp once
      rw [List.foldl_cons, List.lookup_cons]
      by_cases own : name = listed
      · subst own
        rw [boundValues_unlisted _ rest fresh, boundValue_own, beq_self_eq_true]
        rfl
      · rw [ih (boundValue values (listed, size)) later, boundValue_other values own,
          beq_false_of_ne own]

theorem boundValues_value (values : Values) (name : Text) :
    valueOf (boundValues values) name = shownPart name (valueOf values name) :=
  boundValues_listed values _ name (by decide +kernel)

variable (body : Text) (values : Values) (unsubscribeLinkLength reviewLinkLength : Nat)

def literalText : Text := literals (pieces variableChar body)

def usedNames : List Text := slots (pieces variableChar body)

/-- The encoding that the literal characters and the values shown need together. -/
def messageEncoding : Encoding :=
  if (literalText body).all isGsm7 &&
      (usedNames body).all fun name => (shownPart name (valueOf values name)).all isGsm7 then .gsm7
  else .ucs2

def budgetOf (name : Text) : Nat :=
  (worstCaseLength unsubscribeLinkLength reviewLinkLength name).getD 0

/-- The literal characters, and for every variable used the length budgeted for it. -/
def budgetedUnits : Nat :=
  total (encodingOf (literalText body)).weight (literalText body) +
    ((usedNames body).map (budgetOf unsubscribeLinkLength reviewLinkLength)).sum

/-- How many units the body leaves free in the last segment of its budget. -/
def room : Int :=
  let budget := budgetedUnits body unsubscribeLinkLength reviewLinkLength
  match encodingOf (literalText body) with
  | .gsm7 => if budget ≤ 160 then 160 - budget else -budget % 153
  | .ucs2 => if budget ≤ 70 then 70 - budget else -budget % 67

/-- What the segments of the budget hold less where a value takes the body out of GSM-7: 90 of the
160 units of a single segment, and 86 of the 153 of each part. -/
def roomLost : Int :=
  let budget := budgetedUnits body unsubscribeLinkLength reviewLinkLength
  if encodingOf (literalText body) = messageEncoding body values then 0
  else if budget ≤ 160 then 90 else 86 * ((budget + 152) / 153 : Nat)

/-- What the values shown take beyond the lengths budgeted for them, and the literal characters
beyond what they take by themselves. -/
def overrun : Int :=
  ((usedNames body).map fun name =>
    ((total (messageEncoding body values).weight (shownPart name (valueOf values name)) : Nat) : Int) -
      budgetOf unsubscribeLinkLength reviewLinkLength name).sum +
    ((total (messageEncoding body values).weight (literalText body) : Nat) -
      (total (encodingOf (literalText body)).weight (literalText body) : Nat) : Int)

/-- The overrun of the values fits in the room that the body leaves. -/
def FitsRoom : Prop :=
  overrun body values unsubscribeLinkLength reviewLinkLength +
      roomLost body values unsubscribeLinkLength reviewLinkLength ≤
    room body unsubscribeLinkLength reviewLinkLength

instance : Decidable (FitsRoom body values unsubscribeLinkLength reviewLinkLength) := by
  unfold FitsRoom
  infer_instance

theorem encodingOf_render :
    encodingOf (render body (boundValues values)) = messageEncoding body values := by
  unfold encodingOf render messageEncoding literalText usedNames
  rw [all_fill]
  simp only [boundValues_value]

theorem worstCase_value (name : Text) :
    valueOf (worstCaseValues unsubscribeLinkLength reviewLinkLength) name =
      List.replicate (budgetOf unsubscribeLinkLength reviewLinkLength name) 'x' := by
  unfold valueOf worstCaseValues budgetOf
  cases worstCaseLength unsubscribeLinkLength reviewLinkLength name <;> rfl

theorem encodingOf_worstCase :
    encodingOf (render body (worstCaseValues unsubscribeLinkLength reviewLinkLength)) =
      encodingOf (literalText body) := by
  unfold encodingOf render literalText
  rw [all_fill]
  have letters : (slots (pieces variableChar body)).all (fun name =>
      (valueOf (worstCaseValues unsubscribeLinkLength reviewLinkLength) name).all isGsm7) = true := by
    refine List.all_eq_true.mpr fun name _ => ?_
    rw [worstCase_value]
    refine List.all_eq_true.mpr fun char member => ?_
    obtain rfl := List.eq_of_mem_replicate member
    decide +kernel
  rw [letters, Bool.and_true]

theorem total_worstCase :
    total (encodingOf (literalText body)).weight
        (render body (worstCaseValues unsubscribeLinkLength reviewLinkLength)) =
      budgetedUnits body unsubscribeLinkLength reviewLinkLength := by
  unfold render budgetedUnits usedNames
  rw [total_fill]
  congr 3
  funext name
  rw [worstCase_value, total, List.map_replicate]
  have one : (encodingOf (literalText body)).weight 'x' = 1 := by
    cases encodingOf (literalText body) <;> decide
  simp [one]

theorem sum_differences (names : List Text) (shown budget : Text → Nat) :
    (names.map fun name => (shown name : Int) - budget name).sum =
      ((names.map shown).sum : Nat) - ((names.map budget).sum : Nat) := by
  induction names with
  | nil => rfl
  | cons name rest ih =>
      simp only [List.map_cons, List.sum_cons, ih, Nat.cast_add]
      omega

theorem total_render :
    ((total (messageEncoding body values).weight (render body (boundValues values)) : Nat) : Int) =
      budgetedUnits body unsubscribeLinkLength reviewLinkLength +
        overrun body values unsubscribeLinkLength reviewLinkLength := by
  unfold render overrun budgetedUnits
  rw [total_fill, sum_differences]
  simp only [boundValues_value, literalText, usedNames]
  omega

theorem capacity_segmentsFor (encoding taken : Encoding) (units : Nat) :
    capacity encoding (segmentsFor taken units) =
      if units ≤ taken.single then encoding.single
      else (units + taken.part - 1) / taken.part * encoding.part := by
  unfold segmentsFor
  split
  · rfl
  · rename_i large
    have several : ¬ (units + taken.part - 1) / taken.part ≤ 1 := by
      cases taken <;> simp only [Encoding.single, Encoding.part] at large ⊢ <;> omega
    exact if_neg several

theorem capacity_budget :
    (capacity (messageEncoding body values) (segmentsFor (encodingOf (literalText body))
        (budgetedUnits body unsubscribeLinkLength reviewLinkLength)) : Int) =
      budgetedUnits body unsubscribeLinkLength reviewLinkLength +
        room body unsubscribeLinkLength reviewLinkLength -
          roomLost body values unsubscribeLinkLength reviewLinkLength := by
  have kept : encodingOf (literalText body) = .ucs2 → messageEncoding body values = .ucs2 := by
    unfold encodingOf messageEncoding
    intro wide
    split at wide
    · cases wide
    · rename_i other
      rw [Bool.eq_false_of_not_eq_true other, Bool.false_and]
      rfl
  rw [capacity_segmentsFor]
  unfold room roomLost
  generalize budgetedUnits body unsubscribeLinkLength reviewLinkLength = budget
  cases own : encodingOf (literalText body) with
  | gsm7 =>
      by_cases small : budget ≤ 160
      · cases messageEncoding body values <;> simp [Encoding.single, small]
      · cases messageEncoding body values <;> simp [Encoding.single, Encoding.part, small] <;> omega
  | ucs2 =>
      rw [kept own]
      by_cases small : budget ≤ 70
      · simp [Encoding.single, small]
      · simp [Encoding.single, Encoding.part, small]
        omega

/-- The worst case bounds the segments of a rendered body just when the overrun of the values fits
in the room that the body leaves. -/
theorem worst_case_bounds_iff :
    (smsStats (render body (boundValues values))).segments ≤
        smsWorstCaseSegments body unsubscribeLinkLength reviewLinkLength ↔
      FitsRoom body values unsubscribeLinkLength reviewLinkLength := by
  have needed := total_render body values unsubscribeLinkLength reviewLinkLength
  have held := capacity_budget body values unsubscribeLinkLength reviewLinkLength
  unfold smsWorstCaseSegments FitsRoom
  rw [smsStats_segments, smsStats_segments, encodingOf_render, encodingOf_worstCase,
    total_worstCase, segmentsFor_le_iff _ _ (segmentsFor_pos _ _)]
  omega

/-! ### Plain values -/

theorem cutTo_isPrefix (limit : Nat) (value : Text) : cutTo limit value <+: value := by
  unfold cutTo
  split
  · exact (List.rdropWhile_prefix _ _).trans (List.take_prefix _ _)
  · exact List.prefix_rfl

theorem cutTo_length (limit : Nat) (value : Text) : (cutTo limit value).length ≤ limit := by
  unfold cutTo
  split
  · exact (List.rdropWhile_prefix _ _).length_le.trans (List.length_take_le _ _)
  · omega

theorem shownPart_isPrefix (name value : Text) : shownPart name value <+: value := by
  unfold shownPart
  cases (renderTruncation ++ campaignVariableMaxLengths).lookup name with
  | none => exact List.prefix_rfl
  | some limit => exact cutTo_isPrefix limit value

/-- The links of the values are no longer than the lengths the worst case is given. -/
structure LinksFit : Prop where
  unsubscribe : (valueOf values unsubscribeLink).length ≤ unsubscribeLinkLength
  review : (valueOf values reviewLink).length ≤ reviewLinkLength

/-- A character of one unit in either encoding. -/
def isPlain (char : Char) : Bool := char ∈ gsm7Basic && char ∉ gsm7Extension

variable {body values unsubscribeLinkLength reviewLinkLength}

theorem shownPart_length (links : LinksFit values unsubscribeLinkLength reviewLinkLength)
    {name : Text} (known : name ∈ worstCaseVariableLengths.map Prod.fst) :
    (shownPart name (valueOf values name)).length ≤
      budgetOf unsubscribeLinkLength reviewLinkLength name := by
  have unsubscribe := (shownPart_isPrefix unsubscribeLink (valueOf values unsubscribeLink)).length_le
  have review := (shownPart_isPrefix reviewLink (valueOf values reviewLink)).length_le
  simp only [worstCaseVariableLengths, campaignVariableMaxLengths, List.cons_append, List.nil_append,
    List.map_cons, List.map_nil, List.mem_cons, List.not_mem_nil, or_false] at known
  rcases known with rfl | rfl | rfl | rfl | rfl | rfl | rfl | rfl | rfl | rfl
  -- The two links are never cut, and budgeted with their own length; all others are cut.
  case inr.inr.inr.inl => exact unsubscribe.trans (links.unsubscribe.trans (le_max_right _ _))
  case inr.inr.inr.inr.inl => exact review.trans (links.review.trans (le_max_right _ _))
  all_goals exact cutTo_length _ _

theorem plain_total {text : Text} (plain : text.all isPlain = true) (encoding : Encoding) :
    total encoding.weight text = text.length := by
  have basic : gsm7Basic.all (fun char => codeUnits char == 1) = true := by decide +kernel
  have each : ∀ char ∈ text, encoding.weight char = 1 := by
    intro char member
    have here := List.all_eq_true.mp plain char member
    simp only [isPlain, Bool.and_eq_true, decide_eq_true_eq] at here
    cases encoding with
    | gsm7 => simp [Encoding.weight, septets, here.2]
    | ucs2 => exact of_decide_eq_true (List.all_eq_true.mp basic char here.1)
  rw [total, List.map_congr_left each]
  simp

/-- Variables of the closed set with values in the basic alphabet fit the room of any body. -/
theorem plain_values_fit (links : LinksFit values unsubscribeLinkLength reviewLinkLength)
    (known : ∀ name ∈ usedNames body, name ∈ worstCaseVariableLengths.map Prod.fst)
    (plain : ∀ name ∈ usedNames body, (valueOf values name).all isPlain = true) :
    FitsRoom body values unsubscribeLinkLength reviewLinkLength := by
  have shown : ∀ name ∈ usedNames body,
      (shownPart name (valueOf values name)).all isPlain = true := fun name used =>
    List.all_eq_true.mpr fun char member => List.all_eq_true.mp (plain name used) char
      ((shownPart_isPrefix name (valueOf values name)).mem member)
  have same : encodingOf (literalText body) = messageEncoding body values := by
    have letters : ((usedNames body).all fun name =>
        (shownPart name (valueOf values name)).all isGsm7) = true := by
      refine List.all_eq_true.mpr fun name used => List.all_eq_true.mpr fun char member => ?_
      have here := List.all_eq_true.mp (shown name used) char member
      simp only [isPlain, Bool.and_eq_true] at here
      simp [isGsm7, here.1]
    rw [messageEncoding, letters, Bool.and_true]
    rfl
  have within : overrun body values unsubscribeLinkLength reviewLinkLength ≤ 0 := by
    unfold overrun
    rw [same, sub_self, add_zero, sum_differences]
    have each := List.sum_le_sum (fun name used =>
      (plain_total (shown name used) (messageEncoding body values)).le.trans
        (shownPart_length links (known name used)))
    omega
  have some : 0 ≤ room body unsubscribeLinkLength reviewLinkLength := by
    unfold room
    cases encodingOf (literalText body) <;> dsimp only <;> split_ifs <;> omega
  have lost : roomLost body values unsubscribeLinkLength reviewLinkLength = 0 := if_pos same
  unfold FitsRoom
  omega

theorem actualUnits_le_iff (snapshot : ContentSnapshot) (values : Values)
    (unsubscribeLinkBudget : Nat) :
    actualUnits .sms snapshot (boundValues values) false ≤
        unitsPerRecipientMax .sms snapshot unsubscribeLinkBudget ↔
      FitsRoom (snapshot.smsBody.getD []) values unsubscribeLinkBudget
        (snapshot.reviewLink.getD []).length :=
  worst_case_bounds_iff _ _ _ _

section Executed

def greeting (letters : Nat) : Text :=
  List.replicate letters 'a' ++ "\x7b\x7bguest_name\x7d\x7d".toList

def named (name value : String) : Values := fun other =>
  if other = name.toList then some value.toList else none

/-- One letter outside GSM-7, extension characters, or a variable outside the closed set: two
segments where the worst case is one. -/
theorem worst_case_exceeded :
    (smsStats (render (greeting 80) (boundValues (named "guest_name" "Zoë")))).segments = 2 ∧
    smsWorstCaseSegments (greeting 80) 0 0 = 1 ∧
    (smsStats (render (greeting 135)
      (boundValues (named "guest_name" "€€€€€€€€€€€€€€€€€€€€")))).segments = 2 ∧
    smsWorstCaseSegments (greeting 135) 0 0 = 1 ∧
    (smsStats (render (List.replicate 160 'a' ++ "\x7b\x7bx\x7d\x7d".toList)
      (boundValues (named "x" "y")))).segments = 2 ∧
    smsWorstCaseSegments (List.replicate 160 'a' ++ "\x7b\x7bx\x7d\x7d".toList) 0 0 = 1 := by
  decide +kernel

end Executed

end CloudGuest.Marketing
