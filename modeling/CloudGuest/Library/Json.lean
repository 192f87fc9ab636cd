import CloudGuest.Library.Texts

/-!
JSON as Python's `json` module reads and writes it. `dumpsObject` is the compact
form of an object of texts and nulls with every character outside printable ASCII
escaped; `loads` reads any document. An object of plain texts is read back.
-/

namespace CloudGuest.Json

open Texts

inductive Value where
  | null
  | bool (value : Bool)
  /-- A number by its literal. -/
  | number (literal : Text)
  | text (value : Text)
  | array (items : List Value)
  | object (fields : List (Text × Value))

section Writing

def hexDigit (value : Nat) : Char := Nat.digitChar (value % 16)

def unicodeEscape (unit : Nat) : Text :=
  ['\\', 'u', hexDigit (unit / 4096), hexDigit (unit / 256), hexDigit (unit / 16), hexDigit unit]

def escapeChar (char : Char) : Text :=
  if char = '"' then ['\\', '"']
  else if char = '\\' then ['\\', '\\']
  else if char = '\n' then ['\\', 'n']
  else if char = '\r' then ['\\', 'r']
  else if char = '\t' then ['\\', 't']
  else if char.toNat = 12 then ['\\', 'f']
  else if char.toNat = 8 then ['\\', 'b']
  else if ' ' ≤ char ∧ char ≤ '~' then [char]
  else if char.toNat < 65536 then unicodeEscape char.toNat
  else
    let above := char.toNat - 65536
    unicodeEscape (55296 + above / 1024) ++ unicodeEscape (56320 + above % 1024)

def dumpsText (text : Text) : Text := '"' :: (text.flatMap escapeChar ++ ['"'])

def dumpsField (field : Text × Option Text) : Text :=
  dumpsText field.1 ++ ':' :: (field.2.elim ['n', 'u', 'l', 'l'] dumpsText)

def dumpsFields : List (Text × Option Text) → Text
  | [] => ['}']
  | [field] => dumpsField field ++ ['}']
  | field :: next :: rest => dumpsField field ++ ',' :: dumpsFields (next :: rest)

def dumpsObject (fields : List (Text × Option Text)) : Text := '{' :: dumpsFields fields

end Writing

section Reading

def skipSpace : Text → Text := List.dropWhile fun char => char ∈ [' ', '\t', '\n', '\r']

def hexValue (char : Char) : Option Nat :=
  if char.isDigit then some (char.toNat - '0'.toNat)
  else if 'a' ≤ char ∧ char ≤ 'f' then some (char.toNat - 'a'.toNat + 10)
  else if 'A' ≤ char ∧ char ≤ 'F' then some (char.toNat - 'A'.toNat + 10)
  else none

def readUnit (first second third fourth : Char) : Option Nat := do
  let first ← hexValue first
  let second ← hexValue second
  let third ← hexValue third
  let fourth ← hexValue fourth
  return ((first * 16 + second) * 16 + third) * 16 + fourth

def scalar (value : Nat) : Option Char :=
  if value < 55296 ∨ 57343 < value then some (Char.ofNat value) else none

def pairScalar (high low : Nat) : Option Char :=
  if 55296 ≤ high ∧ high ≤ 56319 ∧ 56320 ≤ low ∧ low ≤ 57343 then
    some (Char.ofNat (65536 + (high - 55296) * 1024 + (low - 56320)))
  else none

def simpleEscape : Char → Option Char
  | '"' => some '"'
  | '\\' => some '\\'
  | '/' => some '/'
  | 'b' => some (Char.ofNat 8)
  | 'f' => some (Char.ofNat 12)
  | 'n' => some '\n'
  | 'r' => some '\r'
  | 't' => some '\t'
  | _ => none

def readText : Text → Option (Text × Text)
  -- The text up to its closing quote, and what follows. A lone surrogate, which is no character,
  -- is refused here.
  | [] => none
  | '"' :: rest => some ([], rest)
  | '\\' :: 'u' :: a :: b :: c :: d :: '\\' :: 'u' :: e :: f :: g :: h :: rest =>
      match (readUnit a b c d).bind fun high => (readUnit e f g h).bind (pairScalar high) with
      | some char => (readText rest).map fun read => (char :: read.1, read.2)
      | none =>
          ((readUnit a b c d).bind scalar).bind fun char =>
            (readText ('\\' :: 'u' :: e :: f :: g :: h :: rest)).map fun read =>
              (char :: read.1, read.2)
  | '\\' :: 'u' :: a :: b :: c :: d :: rest =>
      ((readUnit a b c d).bind scalar).bind fun char =>
        (readText rest).map fun read => (char :: read.1, read.2)
  | '\\' :: char :: rest =>
      (simpleEscape char).bind fun char =>
        (readText rest).map fun read => (char :: read.1, read.2)
  | char :: rest =>
      if char.toNat < 32 then none
      else (readText rest).map fun read => (char :: read.1, read.2)

def readDigitsOf (text : Text) : Text × Text := text.span Char.isDigit

def readFraction : Text → Text × Text
  | '.' :: rest =>
      let (digits, after) := readDigitsOf rest
      if digits = [] then ([], '.' :: rest) else ('.' :: digits, after)
  | text => ([], text)

def readExponent : Text → Text × Text
  | mark :: rest =>
      if mark = 'e' ∨ mark = 'E' then
        let (sign, unsigned) := match rest with
          | '+' :: after => (['+'], after)
          | '-' :: after => (['-'], after)
          | after => ([], after)
        let (digits, after) := readDigitsOf unsigned
        if digits = [] then ([], mark :: rest) else (mark :: sign ++ digits, after)
      else ([], mark :: rest)
  | [] => ([], [])

def readNumber (text : Text) : Option (Value × Text) :=
  let (sign, unsigned) := match text with
    | '-' :: after => (['-'], after)
    | after => ([], after)
  let (whole, after) := match unsigned with
    | '0' :: after => (['0'], after)
    | after => readDigitsOf after
  if whole = [] then none
  else
    let (fraction, after) := readFraction after
    let (exponent, after) := readExponent after
    some (.number (sign ++ whole ++ fraction ++ exponent), after)

mutual

def readValue : Nat → Text → Option (Value × Text)
  | 0, _ => none
  | _ + 1, 'n' :: 'u' :: 'l' :: 'l' :: rest => some (.null, rest)
  | _ + 1, 't' :: 'r' :: 'u' :: 'e' :: rest => some (.bool true, rest)
  | _ + 1, 'f' :: 'a' :: 'l' :: 's' :: 'e' :: rest => some (.bool false, rest)
  | _ + 1, '"' :: rest => (readText rest).map fun read => (.text read.1, read.2)
  | fuel + 1, '[' :: rest =>
      match skipSpace rest with
      | ']' :: after => some (.array [], after)
      | rest => (readItems fuel rest).map fun read => (.array read.1, read.2)
  | fuel + 1, '{' :: rest =>
      match skipSpace rest with
      | '}' :: after => some (.object [], after)
      | rest => (readFields fuel rest).map fun read => (.object read.1, read.2)
  | _ + 1, 'N' :: 'a' :: 'N' :: rest => some (.number ['N', 'a', 'N'], rest)
  | _ + 1, 'I' :: 'n' :: 'f' :: 'i' :: 'n' :: 'i' :: 't' :: 'y' :: rest =>
      some (.number ['I', 'n', 'f'], rest)
  | _ + 1, '-' :: 'I' :: 'n' :: 'f' :: 'i' :: 'n' :: 'i' :: 't' :: 'y' :: rest =>
      some (.number ['-', 'I', 'n', 'f'], rest)
  | _ + 1, text => readNumber text

def readItems : Nat → Text → Option (List Value × Text)
  | 0, _ => none
  | fuel + 1, text =>
      (readValue fuel text).bind fun item =>
        match skipSpace item.2 with
        | ']' :: after => some ([item.1], after)
        | ',' :: after =>
            (readItems fuel (skipSpace after)).map fun read => (item.1 :: read.1, read.2)
        | _ => none

def readFields : Nat → Text → Option (List (Text × Value) × Text)
  | fuel + 1, '"' :: text =>
      (readText text).bind fun key =>
        match skipSpace key.2 with
        | ':' :: after =>
            (readValue fuel (skipSpace after)).bind fun value =>
              match skipSpace value.2 with
              | '}' :: after => some ([(key.1, value.1)], after)
              | ',' :: after =>
                  (readFields fuel (skipSpace after)).map fun read =>
                    ((key.1, value.1) :: read.1, read.2)
              | _ => none
        | _ => none
  | _, _ => none

end

def loads (text : Text) : Option Value :=
  (readValue (text.length + 1) (skipSpace text)).bind fun read =>
    if skipSpace read.2 = [] then some read.1 else none

def get (fields : List (Text × Value)) (key : Text) : Option Value :=
  -- `data.get(key)`: of two equal keys the later one counts.
  (fields.reverse.find? fun field => field.1 = key).map Prod.snd

end Reading

def Plain (text : Text) : Prop :=
  ∀ char ∈ text, (' ' ≤ char ∧ char ≤ '~') ∧ char ≠ '"' ∧ char ≠ '\\'

theorem plain_char (char : Char) (printable : ' ' ≤ char ∧ char ≤ '~') :
    32 ≤ char.toNat ∧ char.toNat ≤ 126 :=
  ⟨printable.1, printable.2⟩

theorem escape_plain (text : Text) (plain : Plain text) : text.flatMap escapeChar = text := by
  induction text with
  | nil => rfl
  | cons char rest ih =>
      obtain ⟨printable, quote, slash⟩ := plain char List.mem_cons_self
      obtain ⟨low, high⟩ := plain_char char printable
      have controls : char ≠ '\n' ∧ char ≠ '\r' ∧ char ≠ '\t' ∧ char.toNat ≠ 12 ∧
          char.toNat ≠ 8 := by
        refine ⟨?_, ?_, ?_, by omega, by omega⟩ <;>
          (rintro rfl; revert low; decide)
      have kept : escapeChar char = [char] := by
        simp [escapeChar, quote, slash, controls, printable]
      rw [List.flatMap_cons, kept, ih fun other member => plain other (List.mem_cons_of_mem _ member)]
      rfl

theorem readText_plain_char (char : Char) (rest : Text) (printable : ' ' ≤ char ∧ char ≤ '~')
    (quote : char ≠ '"') (slash : char ≠ '\\') :
    readText (char :: rest) = (readText rest).map fun read => (char :: read.1, read.2) := by
  have low := (plain_char char printable).1
  rw [readText.eq_def]
  split
  · rename_i absurd; cases absurd
  · rename_i same; simp_all
  · rename_i same; simp_all
  · rename_i same; simp_all
  · rename_i same; simp_all
  · rename_i same
    obtain ⟨rfl, rfl⟩ := List.cons.inj same
    rw [if_neg (by omega)]

theorem readText_plain (text rest : Text) (plain : Plain text) :
    readText (text ++ '"' :: rest) = some (text, rest) := by
  induction text with
  | nil => simp [readText]
  | cons char text ih =>
      obtain ⟨printable, quote, slash⟩ := plain char List.mem_cons_self
      rw [List.cons_append, readText_plain_char char _ printable quote slash,
        ih fun other member => plain other (List.mem_cons_of_mem _ member)]
      rfl

def fieldValue (field : Text × Option Text) : Text × Value :=
  (field.1, field.2.elim .null .text)

def PlainField (field : Text × Option Text) : Prop := Plain field.1 ∧ ∀ text ∈ field.2, Plain text

theorem readValue_field (fuel : Nat) (value : Option Text) (rest : Text)
    (plain : ∀ text ∈ value, Plain text) :
    readValue (fuel + 1) (value.elim ['n', 'u', 'l', 'l'] dumpsText ++ rest) =
      some (value.elim .null .text, rest) := by
  cases value with
  | none => simp [readValue]
  | some text =>
      have isPlain := plain text rfl
      simp [dumpsText, readValue, escape_plain text isPlain, readText_plain text rest isPlain]

theorem readFields_one (fuel : Nat) (field : Text × Option Text) (rest : Text)
    (plain : PlainField field) :
    readFields (fuel + 2) (dumpsField field ++ rest) =
      match skipSpace rest with
      | '}' :: after => some ([fieldValue field], after)
      | ',' :: after => (readFields (fuel + 1) (skipSpace after)).map fun read =>
          (fieldValue field :: read.1, read.2)
      | _ => none := by
  obtain ⟨keyPlain, valuePlain⟩ := plain
  have value : skipSpace (field.2.elim ['n', 'u', 'l', 'l'] dumpsText ++ rest) =
      field.2.elim ['n', 'u', 'l', 'l'] dumpsText ++ rest := by
    cases field.2 <;> simp [skipSpace, dumpsText]
  have colon : ∀ after, skipSpace (':' :: after) = ':' :: after := by simp [skipSpace]
  simp only [dumpsField, dumpsText, escape_plain _ keyPlain, List.cons_append, List.append_assoc,
    List.nil_append, readFields, readText_plain _ _ keyPlain, Option.bind_some, colon, value,
    readValue_field fuel field.2 rest valuePlain]
  rfl

theorem readFields_dumps (fuel : Nat) (fields : List (Text × Option Text)) (rest : Text)
    (nonempty : fields ≠ []) (plain : ∀ field ∈ fields, PlainField field)
    (enough : fields.length + 1 ≤ fuel) :
    readFields fuel (dumpsFields fields ++ rest) = some (fields.map fieldValue, rest) := by
  induction fields generalizing fuel with
  | nil => exact absurd rfl nonempty
  | cons field others ih =>
      obtain ⟨fuel, rfl⟩ : ∃ less, fuel = less + 2 :=
        ⟨fuel - 2, by simp only [List.length_cons] at enough; omega⟩
      have first := plain field List.mem_cons_self
      cases others with
      | nil =>
          rw [dumpsFields, List.append_assoc, readFields_one fuel field _ first]
          simp [skipSpace]
      | cons next others =>
          have later := ih (fuel + 1) (by simp)
            (fun other member => plain other (List.mem_cons_of_mem _ member))
            (by simp only [List.length_cons] at enough ⊢; omega)
          have quote : ∀ after, skipSpace (dumpsFields (next :: others) ++ after) =
              dumpsFields (next :: others) ++ after := by
            intro after
            cases others <;> simp [dumpsFields, dumpsField, dumpsText, skipSpace]
          have comma : ∀ after, skipSpace (',' :: after) = ',' :: after := by
            intro after
            simp [skipSpace]
          rw [dumpsFields, List.append_assoc, readFields_one fuel field _ first,
            List.cons_append, comma]
          simp only [quote, later, Option.map_some, List.map_cons]

theorem length_dumpsFields (fields : List (Text × Option Text)) :
    fields.length + 1 ≤ (dumpsFields fields).length := by
  induction fields with
  | nil => simp [dumpsFields]
  | cons field others ih =>
      cases others with
      | nil =>
          simp only [dumpsFields, dumpsField, dumpsText, List.length_append, List.length_cons,
            List.length_nil]
          omega
      | cons next others =>
          simp only [dumpsFields, dumpsField, dumpsText, List.length_append, List.length_cons]
            at ih ⊢
          omega

theorem readValue_object (fuel : Nat) (rest : Text) : readValue (fuel + 1) ('{' :: '"' :: rest) =
    (readFields fuel ('"' :: rest)).map fun read => (.object read.1, read.2) := by
  have quote : skipSpace ('"' :: rest) = '"' :: rest := rfl
  rw [readValue, quote]
  rfl

/-- An object of plain texts and nulls is read back. -/
theorem loads_dumpsObject (fields : List (Text × Option Text)) (nonempty : fields ≠ [])
    (plain : ∀ field ∈ fields, PlainField field) :
    loads (dumpsObject fields) = some (.object (fields.map fieldValue)) := by
  have read := readFields_dumps ((dumpsFields fields).length + 1) fields [] nonempty plain
    (by have := length_dumpsFields fields; omega)
  rw [List.append_nil] at read
  obtain ⟨field, others, rfl⟩ := List.exists_cons_of_ne_nil nonempty
  obtain ⟨rest, quoted⟩ : ∃ rest, dumpsFields (field :: others) = '"' :: rest := by
    cases others <;> exact ⟨_, rfl⟩
  have brace : skipSpace ('{' :: '"' :: rest) = '{' :: '"' :: rest := rfl
  rw [quoted] at read
  simp only [loads, dumpsObject, quoted]
  rw [brace, List.length_cons, readValue_object, read]
  rfl

end CloudGuest.Json
