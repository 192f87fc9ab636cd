import CloudGuest.Ipdr.Formatting
import CloudGuest.Library.Faults
import CloudGuest.Library.Latest
import CloudGuest.Library.Uppercase

/-!
What a router's table of hotspot hosts says (guest/validators.py,
`parse_routeros_duration_seconds`, `present_macs_from_hotspot_hosts`,
`last_heard_from_hotspot_hosts`). Instants are microseconds on one clock, and a
`datetime` is one of the years 1 to 9999.

Fractions of a second are added up as floats, whose sum depends on the interpreter's
build; that arithmetic is an argument.
-/

namespace CloudGuest.Guest.HostTable

open Texts Calendar Faults Latest
open Ipdr (isDecimal decimalZeros)

inductive Value where
  | text (word : Text)
  | number (count : Int)
  | flag (isSet : Bool)
  deriving DecidableEq

/-- `ValueError` or `OverflowError`; which of them is not told apart. -/
inductive Fault where
  | raised
  deriving DecidableEq, Inhabited

/-- More digits than this are neither printed nor read. -/
def maxStrDigits : Nat := 4300

def Value.truthy : Value → Bool
  | .text word => word ≠ []
  | .number count => count ≠ 0
  | .flag isSet => isSet

def Value.str : Value → Except Fault Text
  | .text word => .ok word
  | .number count =>
      if 10 ^ maxStrDigits ≤ count.natAbs then .error .raised
      else .ok (if count < 0 then '-' :: decimal count.natAbs else decimal count.natAbs)
  | .flag isSet => .ok (if isSet then "True".toList else "False".toList)

/-! ### Durations -/

def decimalValue (char : Char) : Nat :=
  match decimalZeros.find? fun first => first ≤ char.toNat && char.toNat < first + 10 with
  | some first => char.toNat - first
  | none => 0

def intOf (digits : Text) : Except Fault Nat :=
  if maxStrDigits < digits.length then .error .raised
  else .ok (digits.foldl (fun value char => value * 10 + decimalValue char) 0)

structure Clock where
  days : Option Text
  hours : Text
  minutes : Text
  seconds : Text
  deriving DecidableEq

def matchTime (days : Option Text) (text : Text) : Option Clock :=
  -- `(\d+):(\d{2}):(\d{2})$`; a stripped text does not end in a line feed.
  match text.takeWhile isDecimal, text.dropWhile isDecimal with
  | [], _ => none
  | hours, [':', tenMinutes, minute, ':', tenSeconds, second] =>
      if [tenMinutes, minute, tenSeconds, second].all isDecimal then
        some ⟨days, hours, [tenMinutes, minute], [tenSeconds, second]⟩
      else none
  | _, _ => none

def matchClock (text : Text) : Option Clock :=
  match text.takeWhile isDecimal, text.dropWhile isDecimal with
  | first :: days, 'd' :: rest => matchTime (some (first :: days)) rest
  | _, _ => matchTime none text

def Clock.total (clock : Clock) : Except Fault Nat := do
  let days ← intOf (clock.days.getD ['0'])
  let hours ← intOf clock.hours
  let minutes ← intOf clock.minutes
  let seconds ← intOf clock.seconds
  return days * 86400 + hours * 3600 + minutes * 60 + seconds

inductive DurationUnit where
  | w | d | h | ms | us | s | m
  deriving DecidableEq

def DurationUnit.text : DurationUnit → Text
  | .w => ['w']
  | .d => ['d']
  | .h => ['h']
  | .ms => ['m', 's']
  | .us => ['u', 's']
  | .s => ['s']
  | .m => ['m']

def DurationUnit.seconds : DurationUnit → Option Nat
  | .w => some (7 * 86400)
  | .d => some 86400
  | .h => some 3600
  | .m => some 60
  | .s => some 1
  | .ms | .us => none

structure Token where
  amount : Text
  unit : DurationUnit
  deriving DecidableEq

def Token.text (token : Token) : Text := token.amount ++ token.unit.text

def matchUnit : Text → Option (DurationUnit × Text)
  | 'w' :: rest => some (.w, rest)
  | 'd' :: rest => some (.d, rest)
  | 'h' :: rest => some (.h, rest)
  | 'm' :: 's' :: rest => some (.ms, rest)
  | 'u' :: 's' :: rest => some (.us, rest)
  | 's' :: rest => some (.s, rest)
  | 'm' :: rest => some (.m, rest)
  | _ => none

def matchToken (text : Text) : Option (Token × Text) :=
  -- `_ROUTEROS_DURATION_TOKEN` where a text starts: no unit starts with a digit, so all digits
  -- there are the amount.
  match text.takeWhile isDecimal with
  | [] => none
  | amount => (matchUnit (text.dropWhile isDecimal)).map fun found => (⟨amount, found.1⟩, found.2)

def findall : Nat → Text → List Token
  | 0, _ => []
  | _ + 1, [] => []
  | fuel + 1, char :: rest =>
      match matchToken (char :: rest) with
      | some (token, after) => token :: findall fuel after
      | none => findall fuel rest

/-- Seconds as `float`s do them: the sum of amounts where milliseconds or microseconds are among
them, `>=` and `<` with a whole number, and `timedelta(seconds=…)`. -/
structure Floats (Fraction : Type) where
  total : List (Nat × DurationUnit) → Except Fault Fraction
  atLeast : Fraction → Nat → Bool
  isNegative : Fraction → Bool
  micros : Fraction → Except Fault Int

inductive Seconds (Fraction : Type) where
  | whole (seconds : Nat)
  | float (seconds : Fraction)

variable {Fraction : Type} (floats : Floats Fraction)

def Seconds.atLeast (bound : Nat) : Seconds Fraction → Bool
  | .whole seconds => bound ≤ seconds
  | .float seconds => floats.atLeast seconds bound

def Seconds.isNegative : Seconds Fraction → Bool
  | .whole _ => false
  | .float seconds => floats.isNegative seconds

def Seconds.micros : Seconds Fraction → Except Fault Int
  | .whole seconds => .ok (seconds * 1000000)
  | .float seconds => floats.micros seconds

def Token.read (token : Token) : Except Fault (Nat × DurationUnit) := do
  let amount ← intOf token.amount
  return (amount, token.unit)

def totalSeconds (amounts : List (Nat × DurationUnit)) : Except Fault (Seconds Fraction) :=
  match amounts.mapM fun part => part.2.seconds.map (part.1 * ·) with
  | some parts => .ok (.whole parts.sum)
  | none => (floats.total amounts).map .float

def parseText (text : Text) : Except Fault (Option (Seconds Fraction)) :=
  if text = [] then .ok none
  else
    match matchClock text with
    | some clock => clock.total.map fun seconds => some (.whole seconds)
    | none =>
        let tokens := findall text.length text
        if tokens = [] ∨ tokens.flatMap Token.text ≠ text then .ok none
        else do
          let amounts ← tokens.mapM Token.read
          let seconds ← totalSeconds floats amounts
          return some seconds

def parseRouterosDurationSeconds : Option Value → Except Fault (Option (Seconds Fraction))
  | none => .ok none
  | some value => do
      let text ← value.str
      parseText floats (strip text)

/-! ### A duration as a router writes it -/

def spell (amounts : List (Nat × DurationUnit)) : Text :=
  amounts.flatMap fun part => decimal part.1 ++ part.2.text

def tokenOf (part : Nat × DurationUnit) : Token := ⟨decimal part.1, part.2⟩

theorem digit_isDecimal (char : Char) (digit : char.isDigit = true) :
    isDecimal char = true ∧ decimalValue char = char.toNat - '0'.toNat := by
  have codes : 48 ≤ char.toNat ∧ char.toNat < 58 := by
    simp only [Char.isDigit, Bool.and_eq_true, decide_eq_true_eq, ge_iff_le,
      UInt32.le_iff_toNat_le] at digit
    change 48 ≤ char.toNat ∧ char.toNat ≤ 57 at digit
    omega
  have first : (48 ≤ char.toNat && char.toNat < 48 + 10) = true := by
    simp only [Bool.and_eq_true, decide_eq_true_eq]
    omega
  constructor
  · rw [isDecimal, decimalZeros, List.any_cons, first, Bool.true_or]
  · have found : (decimalZeros.find? fun first =>
        first ≤ char.toNat && char.toNat < first + 10) = some 48 := List.find?_cons_of_pos first
    rw [decimalValue, found]
    rfl

theorem intOf_decimal (number : Nat) (short : (decimal number).length ≤ maxStrDigits) :
    intOf (decimal number) = .ok number := by
  have read : ∀ (digits : Text) (value : Nat), (∀ char ∈ digits, char.isDigit = true) →
      digits.foldl (fun value char => value * 10 + decimalValue char) value =
        Nat.ofDigitChars 10 digits value := by
    intro digits
    induction digits with
    | nil => simp
    | cons first rest ih =>
        intro value digit
        rw [List.foldl_cons, Nat.ofDigitChars_cons,
          (digit_isDecimal first (digit first List.mem_cons_self)).2, Nat.mul_comm value]
        exact ih _ fun char member => digit char (List.mem_cons_of_mem _ member)
  rw [intOf, if_neg (Nat.not_lt.mpr short), read _ _ (decimal_digits number), decimal,
    Nat.ofDigitChars_ten_toDigits]

theorem matchUnit_append (unit : DurationUnit) (rest : Text)
    (apart : ∀ char ∈ rest.head?, isDecimal char = true) :
    matchUnit (unit.text ++ rest) = some (unit, rest) := by
  cases unit with
  -- Minutes are the start of milliseconds, but what follows them is a digit.
  | m =>
      cases rest with
      | nil => rfl
      | cons char rest =>
          have digit := apart char rfl
          have notUnit : char ≠ 's' := by
            rintro rfl
            revert digit
            decide
          simp [DurationUnit.text, matchUnit, notUnit]
  | w | d | h | ms | us | s => rfl

theorem unit_head (unit : DurationUnit) (rest : Text) :
    ∃ char tail, unit.text ++ rest = char :: tail ∧ isDecimal char = false := by
  cases unit with
  | w => exact ⟨'w', rest, rfl, by decide⟩
  | d => exact ⟨'d', rest, rfl, by decide⟩
  | h => exact ⟨'h', rest, rfl, by decide⟩
  | ms => exact ⟨'m', 's' :: rest, rfl, by decide⟩
  | us => exact ⟨'u', 's' :: rest, rfl, by decide⟩
  | s => exact ⟨'s', rest, rfl, by decide⟩
  | m => exact ⟨'m', rest, rfl, by decide⟩

theorem matchToken_append (part : Nat × DurationUnit) (rest : Text)
    (apart : ∀ char ∈ rest.head?, isDecimal char = true) :
    matchToken ((tokenOf part).text ++ rest) = some (tokenOf part, rest) := by
  have digits : ∀ char ∈ decimal part.1, isDecimal char = true :=
    fun char member => (digit_isDecimal char (decimal_digits part.1 char member)).1
  obtain ⟨first, tail, head, plain⟩ := unit_head part.2 rest
  have front : ((tokenOf part).text ++ rest).takeWhile isDecimal = decimal part.1 := by
    rw [Token.text, tokenOf, List.append_assoc, List.takeWhile_append_of_pos digits, head,
      List.takeWhile_cons_of_neg (by simp [plain]), List.append_nil]
  have back : ((tokenOf part).text ++ rest).dropWhile isDecimal = part.2.text ++ rest := by
    rw [Token.text, tokenOf, List.append_assoc, List.dropWhile_append_of_pos digits, head,
      List.dropWhile_cons_of_neg (by simp [plain])]
  obtain ⟨digit, more, nonempty⟩ := List.exists_cons_of_ne_nil
    (show decimal part.1 ≠ [] from Nat.toDigits_ne_nil)
  rw [matchToken, front, back, matchUnit_append part.2 rest apart, nonempty]
  simp [tokenOf, nonempty]

theorem spell_cons (part : Nat × DurationUnit) (rest : List (Nat × DurationUnit)) :
    spell (part :: rest) = (tokenOf part).text ++ spell rest := by
  rw [spell, List.flatMap_cons]
  rfl

theorem spell_head (amounts : List (Nat × DurationUnit)) :
    ∀ char ∈ (spell amounts).head?, isDecimal char = true := by
  intro char first
  cases amounts with
  | nil => cases first
  | cons part rest =>
      obtain ⟨digit, more, nonempty⟩ := List.exists_cons_of_ne_nil
        (show decimal part.1 ≠ [] from Nat.toDigits_ne_nil)
      have same : digit = char := by
        rw [spell_cons, Token.text, tokenOf, nonempty] at first
        exact Option.some.inj first
      have member : char ∈ decimal part.1 := by
        rw [nonempty, same]
        exact List.mem_cons_self
      exact (digit_isDecimal char (decimal_digits part.1 char member)).1

theorem findall_spell (amounts : List (Nat × DurationUnit)) (fuel : Nat)
    (enough : (spell amounts).length ≤ fuel) :
    findall fuel (spell amounts) = amounts.map tokenOf := by
  -- Each token takes its own text off, and at least one step of the fuel.
  induction amounts generalizing fuel with
  | nil => cases fuel <;> rfl
  | cons part rest ih =>
      have found := matchToken_append part (spell rest) (spell_head rest)
      rw [spell_cons] at enough ⊢
      obtain ⟨digit, more, nonempty⟩ := List.exists_cons_of_ne_nil
        (show decimal part.1 ≠ [] from Nat.toDigits_ne_nil)
      have front : (tokenOf part).text = digit :: (more ++ part.2.text) := by
        rw [Token.text, tokenOf, nonempty, List.cons_append]
      rw [front, List.cons_append] at found enough ⊢
      cases fuel with
      | zero => simp at enough
      | succ fuel =>
          have shorter : (spell rest).length ≤ fuel := by
            simp only [List.length_cons, List.length_append] at enough
            omega
          rw [findall, found]
          dsimp only
          rw [ih fuel shorter, List.map_cons]

theorem matchTime_colon {days : Option Text} {text : Text} {clock : Clock}
    (matched : matchTime days text = some clock) : ':' ∈ text := by
  unfold matchTime at matched
  split at matched
  · cases matched
  · rename_i rest _
    apply (List.dropWhile_suffix isDecimal).subset
    rw [rest]
    exact List.mem_cons_self
  · cases matched

theorem matchClock_colon {text : Text} {clock : Clock} (matched : matchClock text = some clock) :
    ':' ∈ text := by
  unfold matchClock at matched
  split at matched
  · rename_i rest
    apply (List.dropWhile_suffix isDecimal).subset
    rw [rest]
    exact List.mem_cons_of_mem _ (matchTime_colon matched)
  · exact matchTime_colon matched

theorem spell_plain (amounts : List (Nat × DurationUnit)) :
    ∀ char ∈ spell amounts, char.isAlphanum = true := by
  intro char member
  obtain ⟨part, -, written⟩ := List.mem_flatMap.mp member
  rcases List.mem_append.mp written with digit | letter
  · simp [Char.isAlphanum, decimal_digits part.1 char digit]
  · have letters : part.2.text.all Char.isAlphanum = true := by
      cases part.2 <;> decide
    exact List.all_eq_true.mp letters char letter

theorem spell_read (amounts : List (Nat × DurationUnit))
    (short : ∀ part ∈ amounts, (decimal part.1).length ≤ maxStrDigits) :
    (amounts.map tokenOf).mapM Token.read = .ok amounts := by
  induction amounts with
  | nil => rfl
  | cons part rest ih =>
      have first : Token.read (tokenOf part) = .ok part := by
        rw [Token.read, tokenOf, intOf_decimal part.1 (short part List.mem_cons_self)]
        rfl
      have later := ih fun other member => short other (List.mem_cons_of_mem _ member)
      rw [List.map_cons, List.mapM_cons, first, later]
      rfl

/-- A duration is read as the sum of the amounts it was written as. -/
theorem parse_spelled (amounts : List (Nat × DurationUnit)) (nonempty : amounts ≠ [])
    (short : ∀ part ∈ amounts, (decimal part.1).length ≤ maxStrDigits) :
    parseRouterosDurationSeconds floats (some (.text (spell amounts))) =
      (totalSeconds floats amounts).map some := by
  have token : IsToken (spell amounts) := by
    intro char member
    simp [tokenChar, spell_plain amounts char member]
  have whole : (amounts.map tokenOf).flatMap Token.text = spell amounts := by
    rw [List.flatMap_map]
    rfl
  -- The clock form has a colon, which is in no amount and no unit.
  have clockless : matchClock (spell amounts) = none := by
    cases matched : matchClock (spell amounts) with
    | none => rfl
    | some clock =>
        have letter := spell_plain amounts ':' (matchClock_colon matched)
        exact absurd letter (by decide)
  have written : spell amounts ≠ [] := by
    obtain ⟨part, rest, rfl⟩ := List.exists_cons_of_ne_nil nonempty
    rw [spell_cons, Token.text, tokenOf]
    simp [decimal, Nat.toDigits_ne_nil]
  have parsed : parseRouterosDurationSeconds floats (some (.text (spell amounts))) =
      parseText floats (strip (spell amounts)) := rfl
  rw [parsed, strip_token _ token, parseText, if_neg written, clockless]
  dsimp only
  rw [findall_spell amounts _ le_rfl, whole, if_neg (by simp [nonempty]), spell_read amounts short]
  cases total : totalSeconds floats amounts with
  | error fault => simp [total, bind, Except.bind, Except.map]
  | ok seconds => simp [total, bind, Except.bind, Except.map, pure, Except.pure]

def floatless : Floats Empty where
  total _ := .error .raised
  atLeast fraction _ := fraction.elim
  isNegative fraction := fraction.elim
  micros fraction := fraction.elim

theorem parse_spelled_dayAndHours :
    parseRouterosDurationSeconds floatless (some (.text "1d2h".toList)) = .ok (some (.whole 93600)) :=
  parse_spelled floatless [(1, .d), (2, .h)] (by decide) (by decide +kernel)

/-! ### Rows -/

structure HostRow where
  macAddress : Option Value
  hostDeadTime : Option Value
  idleTime : Option Value
  deriving DecidableEq

def normalizeMacAddress (macAddress : Text) : Text := Uppercase.upper (strip macAddress)

def HostRow.mac (row : HostRow) : Option Value := row.macAddress.filter Value.truthy

variable (deadAfterSeconds : Nat)

def isDead (row : HostRow) : Except Fault Bool := do
  let deadFor ← parseRouterosDurationSeconds floats row.hostDeadTime
  return deadFor.any (Seconds.atLeast floats deadAfterSeconds)

def presentMac (row : HostRow) : Except Fault (Option Text) :=
  match row.mac with
  | none => .ok none
  | some mac => do
      if ← isDead floats deadAfterSeconds row then return none
      let text ← mac.str
      return some (normalizeMacAddress text)

def presentMacsFromHotspotHosts (rows : List HostRow) : Except Fault (Finset Text) :=
  gather (presentMac floats deadAfterSeconds) (fun present mac => insert mac present) ∅ rows

def heardAt (readAt : Int) (idleFor : Seconds Fraction) : Except Fault Int := do
  let micros ← idleFor.micros floats
  match momentAt (readAt - micros) with
  | none => .error .raised
  | some moment => .ok moment.val

def saidHeard (readAt : Int) (row : HostRow) : Except Fault (Option Int) := do
  let idleFor ← parseRouterosDurationSeconds floats row.idleTime
  match idleFor with
  | none => return none
  | some idleFor =>
      if idleFor.isNegative floats then return none
      let instant ← heardAt floats readAt idleFor
      return some instant

def heardFrom (readAt : Int) (row : HostRow) : Except Fault (Option (Text × Int)) :=
  match row.mac with
  | none => .ok none
  | some mac => do
      if ← isDead floats deadAfterSeconds row then return none
      match ← saidHeard floats readAt row with
      | none => return none
      | some instant =>
          let text ← mac.str
          return some (normalizeMacAddress text, instant)

def lastHeardFromHotspotHosts (readAt : Int) (rows : List HostRow) :
    Except Fault (List (Text × Int)) :=
  gather (heardFrom floats deadAfterSeconds readAt) keepLatest [] rows

/-! ### What a row says -/

def HostRow.Spells (row : HostRow) (text : Text) : Prop :=
  ∃ mac, row.mac = some mac ∧ mac.str = .ok text

def Live (row : HostRow) : Prop := isDead floats deadAfterSeconds row ≠ .ok true

/-- Reading the row raises: one of its durations has too many digits or its address does, or it
was heard in no year of the calendar. -/
def Breaks (readAt : Int) (row : HostRow) : Prop :=
  ∃ mac, row.mac = some mac ∧
    ((∃ fault, isDead floats deadAfterSeconds row = .error fault) ∨
      (isDead floats deadAfterSeconds row = .ok false ∧
        ((∃ fault, mac.str = .error fault) ∨ ∃ fault, saidHeard floats readAt row = .error fault)))

variable {floats deadAfterSeconds}

theorem live_of_alive {row : HostRow} (alive : isDead floats deadAfterSeconds row = .ok false) :
    Live floats deadAfterSeconds row := by
  intro dead
  rw [alive] at dead
  cases dead

theorem alive_of_live {readAt : Int} {row : HostRow} {text : Text}
    (whole : ¬Breaks floats deadAfterSeconds readAt row) (live : Live floats deadAfterSeconds row)
    (spells : row.Spells text) : isDead floats deadAfterSeconds row = .ok false := by
  obtain ⟨mac, named, -⟩ := spells
  cases judged : isDead floats deadAfterSeconds row with
  | error fault => exact absurd ⟨mac, named, Or.inl ⟨fault, judged⟩⟩ whole
  | ok dead =>
      cases dead with
      | false => rfl
      | true => exact absurd judged live

theorem presentMac_some {row : HostRow} {mac : Text} :
    presentMac floats deadAfterSeconds row = .ok (some mac) ↔
      isDead floats deadAfterSeconds row = .ok false ∧
        ∃ text, row.Spells text ∧ normalizeMacAddress text = mac := by
  unfold presentMac HostRow.Spells
  cases row.mac with
  | none => simp
  | some address =>
      cases isDead floats deadAfterSeconds row with
      | error fault => simp [bind, Except.bind]
      | ok dead =>
          cases dead with
          | true => simp [bind, Except.bind, pure, Except.pure]
          | false =>
              cases spelled : address.str with
              | error fault => simp [spelled, bind, Except.bind]
              | ok text => simp [spelled, bind, Except.bind, pure, Except.pure]

theorem heardFrom_some {readAt : Int} {row : HostRow} {mac : Text} {instant : Int} :
    heardFrom floats deadAfterSeconds readAt row = .ok (some (mac, instant)) ↔
      presentMac floats deadAfterSeconds row = .ok (some mac) ∧
        saidHeard floats readAt row = .ok (some instant) := by
  unfold presentMac heardFrom
  cases row.mac with
  | none => simp
  | some address =>
      cases isDead floats deadAfterSeconds row with
      | error fault => simp [bind, Except.bind]
      | ok dead =>
          cases dead with
          | true => simp [bind, Except.bind, pure, Except.pure]
          | false =>
              cases saidHeard floats readAt row with
              | error fault => simp [bind, Except.bind]
              | ok said =>
                  cases said with
                  | none => simp [bind, Except.bind, pure, Except.pure]
                  | some heard =>
                      cases spelled : address.str with
                      | error fault => simp [spelled, bind, Except.bind]
                      | ok text => simp [spelled, bind, Except.bind, pure, Except.pure]

theorem reads_iff {readAt : Int} {row : HostRow} :
    ((∃ answer, presentMac floats deadAfterSeconds row = .ok answer) ∧
        ∃ answer, heardFrom floats deadAfterSeconds readAt row = .ok answer) ↔
      ¬Breaks floats deadAfterSeconds readAt row := by
  unfold presentMac heardFrom Breaks
  cases row.mac with
  | none => simp
  | some address =>
      cases isDead floats deadAfterSeconds row with
      | error fault => simp [bind, Except.bind]
      | ok dead =>
          cases dead with
          | true => simp [bind, Except.bind, pure, Except.pure]
          | false =>
              cases saidHeard floats readAt row with
              | error fault => simp [bind, Except.bind]
              | ok said =>
                  cases spelled : address.str with
                  | error fault => simp [spelled, bind, Except.bind]
                  | ok text => cases said <;> simp [spelled, bind, Except.bind, pure, Except.pure]

theorem mem_collected (macs : List Text) (start : Finset Text) (mac : Text) :
    mac ∈ macs.foldl (fun present mac => insert mac present) start ↔ mac ∈ start ∨ mac ∈ macs := by
  induction macs generalizing start with
  | nil => simp
  | cons first rest ih =>
      rw [List.foldl_cons, ih, Finset.mem_insert, List.mem_cons]
      tauto

theorem present_iff {rows : List HostRow} {presentMacs : Finset Text}
    (collected : presentMacsFromHotspotHosts floats deadAfterSeconds rows = .ok presentMacs)
    (mac : Text) :
    mac ∈ presentMacs ↔ ∃ row ∈ rows, presentMac floats deadAfterSeconds row = .ok (some mac) := by
  obtain ⟨-, rfl⟩ := gather_ok_iff.mp collected
  rw [mem_collected, mem_taken]
  simp

theorem heard_latest {readAt : Int} {rows : List HostRow} {heard : List (Text × Int)}
    (collected : lastHeardFromHotspotHosts floats deadAfterSeconds readAt rows = .ok heard)
    (mac : Text) :
    IsLatest {instant | ∃ row ∈ rows,
        heardFrom floats deadAfterSeconds readAt row = .ok (some (mac, instant))}
      (Tallies.valueAt heard mac) := by
  obtain ⟨-, rfl⟩ := gather_ok_iff.mp collected
  have latest := valueAt_latest (taken (heardFrom floats deadAfterSeconds readAt) rows) mac
  simp only [mem_taken] at latest
  exact latest

theorem collects_iff {readAt : Int} {rows : List HostRow} :
    ((∃ presentMacs, presentMacsFromHotspotHosts floats deadAfterSeconds rows = .ok presentMacs) ∧
        ∃ heard, lastHeardFromHotspotHosts floats deadAfterSeconds readAt rows = .ok heard) ↔
      ∀ row ∈ rows, ¬Breaks floats deadAfterSeconds readAt row := by
  simp only [presentMacsFromHotspotHosts, lastHeardFromHotspotHosts, gather_ok_iff, ← reads_iff]
  constructor
  · rintro ⟨⟨_, present, -⟩, _, heard, -⟩ row member
    exact ⟨present row member, heard row member⟩
  · intro readable
    exact ⟨⟨_, fun row member => (readable row member).1, rfl⟩,
      _, fun row member => (readable row member).2, rfl⟩

end CloudGuest.Guest.HostTable
