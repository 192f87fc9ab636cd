import CloudGuest.Library.Utf8
import CloudGuest.Traffic.MmdbTree

/-!
The data section of a MaxMind DB file as the format writes it, and the decoder as its
inverse. An encoding is a relation between a place of a file and a value: a control
byte with the type and the size or their extensions, then the payload, the entries, or
a pointer to where the value is. The format stores a signed integer of less than four
bytes without its leading zeros, so its first bit is no sign; the decoder takes it for
one, and is the inverse exactly where no such integer has its first bit set.
-/

namespace CloudGuest.Traffic.Mmdb

open Texts Faults

section Format

def At (file : Bytes) (offset : Nat) (bytes : Bytes) : Prop := bytes <+: file.drop offset

/-- A pointer in its four widths; the widest leaves three bits of its control byte unused. -/
inductive PointerBytes : Nat → Bytes → Prop where
  | one (pointer : Nat) (fits : pointer < 2 ^ 11) :
      PointerBytes pointer
        (UInt8.ofNat (32 + pointer / 2 ^ 8) :: BigEndian.write 1 (pointer % 2 ^ 8))
  | two (past : Nat) (fits : past < 2 ^ 19) :
      PointerBytes (2048 + past)
        (UInt8.ofNat (40 + past / 2 ^ 16) :: BigEndian.write 2 (past % 2 ^ 16))
  | three (past : Nat) (fits : past < 2 ^ 27) :
      PointerBytes (526336 + past)
        (UInt8.ofNat (48 + past / 2 ^ 24) :: BigEndian.write 3 (past % 2 ^ 24))
  | four (pointer unused : Nat) (fits : pointer < 2 ^ 32) (small : unused < 8) :
      PointerBytes pointer (UInt8.ofNat (56 + unused) :: BigEndian.write 4 pointer)

inductive SizeBytes : Nat → Nat → Bytes → Prop where
  | low (size : Nat) (fits : size < 29) : SizeBytes size size []
  | one (past : Nat) (fits : past < 256) : SizeBytes (29 + past) 29 (BigEndian.write 1 past)
  | two (past : Nat) (fits : past < 256 ^ 2) : SizeBytes (285 + past) 30 (BigEndian.write 2 past)
  | three (past : Nat) (fits : past < 256 ^ 3) :
      SizeBytes (65821 + past) 31 (BigEndian.write 3 past)

inductive HeadBytes (kind size : Nat) : Bytes → Prop where
  | plain (low : Nat) (more : Bytes) (first : 2 ≤ kind) (last : kind ≤ 7)
      (sized : SizeBytes size low more) : HeadBytes kind size (UInt8.ofNat (kind * 32 + low) :: more)
  | extended (low : Nat) (more : Bytes) (first : 8 ≤ kind) (last : kind ≤ 15)
      (sized : SizeBytes size low more) :
      HeadBytes kind size (UInt8.ofNat low :: UInt8.ofNat (kind - 7) :: more)

def unsignedWidth : Nat → Option Nat
  | 5 => some 2
  | 6 => some 4
  | 9 => some 8
  | 10 => some 16
  | _ => none

/-- A payload and its value, and whether it is no short signed integer with its first bit set. -/
inductive Payload : Nat → Bytes → Bool → Value → Prop where
  | text (text : Text) : Payload 2 (text.flatMap String.utf8EncodeChar) true (.text text)
  | bytes (raw : Bytes) : Payload 4 raw true (.bytes raw)
  | unsigned (kind width size number : Nat) (typed : unsignedWidth kind = some width)
      (short : size ≤ width) (fits : number < 256 ^ size) :
      Payload kind (BigEndian.write size number) true (.int number)
  /-- Four bytes hold the two's complement. -/
  | signed (number : Int) (low : -2 ^ 31 ≤ number) (high : number < 2 ^ 31) :
      Payload 8 (BigEndian.write 4 (number % 2 ^ 32).toNat) true (.int number)
  /-- Fewer bytes hold a number that is not negative. -/
  | signedShort (size number : Nat) (short : size < 4) (fits : number < 256 ^ size) :
      Payload 8 (BigEndian.write size number) (2 * number < 256 ^ size) (.int number)

abbrev Placed (Item : Type) := Nat → Bool → Item → Nat → Prop

inductive Items (one : Placed Value) : Placed (List Value) where
  | nil (offset : Nat) : Items one offset true [] offset
  | cons {offset middle next : Nat} {plain rest : Bool} {item : Value} {items : List Value}
      (first : one offset plain item middle) (later : Items one middle rest items next) :
      Items one offset (plain && rest) (item :: items) next

inductive Fields (one : Placed Value) : Placed (List (Text × Value)) where
  | nil (offset : Nat) : Fields one offset true [] offset
  | cons {offset inside middle next : Nat} {keyPlain plain rest : Bool} {key : Text} {value : Value}
      {fields : List (Text × Value)} (name : one offset keyPlain (.text key) inside)
      (first : one inside plain value middle) (later : Fields one middle rest fields next) :
      Fields one offset (plain && rest) ((key, value) :: fields) next

variable (file : Bytes) (base : Nat)

inductive Leaf : Placed Value where
  | flag {offset : Nat} {head : Bytes} (flag : Bool) (here : At file offset head)
      (headed : HeadBytes 14 flag.toNat head) :
      Leaf offset true (.bool flag) (offset + head.length)
  | payload {offset kind : Nat} {head raw : Bytes} {plain : Bool} {value : Value}
      (here : At file offset (head ++ raw)) (headed : HeadBytes kind raw.length head)
      (read : Payload kind raw plain value) :
      Leaf offset plain value (offset + head.length + raw.length)

inductive Nested (one : Placed Value) : Placed Value where
  | pointer {offset pointer after : Nat} {bytes : Bytes} {plain : Bool} {value : Value}
      (here : At file offset bytes) (points : PointerBytes pointer bytes)
      (target : one (base + pointer) plain value after) :
      Nested one offset plain value (offset + bytes.length)
  | array {offset next : Nat} {head : Bytes} {plain : Bool} {items : List Value}
      (here : At file offset head) (headed : HeadBytes 11 items.length head)
      (all : Items one (offset + head.length) plain items next) :
      Nested one offset plain (.array items) next
  | map {offset next : Nat} {head : Bytes} {plain : Bool} {fields : List (Text × Value)}
      (here : At file offset head) (headed : HeadBytes 7 fields.length head)
      (distinct : (fields.map Prod.fst).Nodup)
      (all : Fields one (offset + head.length) plain fields next) :
      Nested one offset plain (.map fields) next

/-- An encoding with at most so many containers and pointer hops inside each other. -/
def Encoded : Nat → Placed Value
  | 0 => Leaf file
  | nesting + 1 => fun offset plain value next =>
      Leaf file offset plain value next ∨
        Nested file base (Encoded nesting) offset plain value next

end Format

section Reading

variable {file : Bytes} {offset : Nat}

theorem At.front {front back : Bytes} (here : At file offset (front ++ back)) :
    At file offset front := (List.prefix_append front back).trans here

theorem At.back {front back : Bytes} (here : At file offset (front ++ back)) :
    At file (offset + front.length) back := by
  obtain ⟨rest, whole⟩ := here
  refine ⟨rest, ?_⟩
  rw [← List.drop_drop, ← whole, List.append_assoc, List.drop_left]

theorem At.tail {byte : UInt8} {rest : Bytes} (here : At file offset (byte :: rest)) :
    At file (offset + 1) rest :=
  At.back (show At file offset ([byte] ++ rest) from here)

theorem take_at {bytes : Bytes} (here : At file offset bytes) :
    take file offset bytes.length = .ok bytes := by
  obtain ⟨rest, whole⟩ := here
  have chunk : (file.drop offset).take bytes.length = bytes := by
    rw [← whole, List.take_left]
  have inside : ¬((offset : Int) < 0 ∨ bytes.length ≠ bytes.length) := by omega
  unfold take
  rw [Int.toNat_natCast]
  simp only [chunk]
  rw [if_neg inside]

theorem takeByte_at {byte : UInt8} {rest : Bytes} (here : At file offset (byte :: rest)) :
    takeByte file offset = .ok byte.toNat := by
  have single : At file offset [byte] := At.front here
  have taken : take file offset 1 = .ok [byte] := take_at single
  unfold takeByte
  rw [taken]
  rfl

theorem controlByte (number : Nat) (small : number < 256) :
    (UInt8.ofNat number).toNat = number := UInt8.toNat_ofNat_of_lt' small

theorem take_write {width number : Nat} (here : At file offset (BigEndian.write width number)) :
    take file offset width = .ok (BigEndian.write width number) := by
  have taken := take_at here
  rwa [BigEndian.write_length] at taken

theorem SizeBytes.low_lt {size low : Nat} {more : Bytes} (sized : SizeBytes size low more) :
    low < 32 := by
  cases sized with
  | low size fits => omega
  | one past fits => decide
  | two past fits => decide
  | three past fits => decide

theorem decodeSize_sized {size low : Nat} {more : Bytes} (sized : SizeBytes size low more)
    (here : At file offset more) (control : Nat) (lowBits : control % 32 = low) :
    decodeSize file control offset = .ok (size, (offset : Int) + more.length) := by
  unfold decodeSize
  rw [lowBits]
  cases sized with
  | low size fits =>
      split
      · omega
      · omega
      · omega
      · simp
  | one past fits =>
      have single : BigEndian.write 1 past = [UInt8.ofNat past] := by simp [BigEndian.write]
      rw [single] at here
      simp only [takeByte_at here, controlByte past fits, bind, Except.bind]
      simp [single, pure, Except.pure]
  | two past fits =>
      simp only [take_write here, fromBytes_write 2 past fits, bind, Except.bind]
      rfl
  | three past fits =>
      simp only [take_write here, fromBytes_write 3 past fits, bind, Except.bind]
      rfl

theorem decodeHead {kind size : Nat} {head : Bytes} (headed : HeadBytes kind size head)
    (here : At file offset head) :
    ∃ control middle, takeByte file offset = .ok control ∧ control / 32 ≠ 1 ∧
      decodeKind file control offset = .ok (kind, middle) ∧
      decodeSize file control middle = .ok (size, (offset : Int) + head.length) := by
  -- A type below 8 is in the control byte itself, and a higher one in the byte after it.
  cases headed with
  | plain low more first last sized =>
      have small := sized.low_lt
      have control := controlByte (kind * 32 + low) (by omega)
      refine ⟨kind * 32 + low, offset + 1, ?_, by omega, ?_, ?_⟩
      · rw [takeByte_at here, control]
      · rw [decodeKind, if_neg (by omega)]
        congr 2
        omega
      · have later : At file (offset + 1) more := here.tail
        have read := decodeSize_sized sized later (kind * 32 + low) (by omega)
        rw [Nat.cast_add, Nat.cast_one] at read
        rw [read, List.length_cons, Nat.cast_add, Nat.cast_one]
        congr 2
        omega
  | extended low more first last sized =>
      have small := sized.low_lt
      have control := controlByte low (by omega)
      have second : At file (offset + 1) (UInt8.ofNat (kind - 7) :: more) := here.tail
      refine ⟨low, offset + 2, ?_, by omega, ?_, ?_⟩
      · rw [takeByte_at here, control]
      · have byte := takeByte_at second
        rw [Nat.cast_add, Nat.cast_one, controlByte (kind - 7) (by omega)] at byte
        rw [decodeKind, if_pos (by omega), byte]
        simp only [bind, Except.bind, pure, Except.pure]
        congr 2
        omega
      · have later : At file (offset + 1 + 1) more := second.tail
        have read := decodeSize_sized sized later low (by omega)
        simp only [Nat.cast_add, Nat.cast_one] at read
        simp only [List.length_cons, Nat.cast_add, Nat.cast_one]
        rw [show (offset : Int) + 2 = offset + 1 + 1 by omega, read]
        congr 2
        omega

theorem fromBytesSigned_full (number : Int) (low : -2 ^ 31 ≤ number) (high : number < 2 ^ 31) :
    fromBytesSigned (BigEndian.write 4 (number % 2 ^ 32).toNat) = number := by
  have fits : (number % 2 ^ 32).toNat < 256 ^ 4 := by omega
  unfold fromBytesSigned
  rw [fromBytes_write 4 _ fits, BigEndian.write_length]
  split <;> omega

theorem fromBytesSigned_short (size number : Nat) (fits : number < 256 ^ size) :
    fromBytesSigned (BigEndian.write size number) = number ↔ 2 * number < 256 ^ size := by
  have positive : 0 < 256 ^ size := Nat.pow_pos (by omega)
  unfold fromBytesSigned
  rw [fromBytes_write size number fits, BigEndian.write_length]
  split
  · rw [← Nat.cast_ofNat, ← Nat.cast_pow]
    omega
  · omega

theorem scalarOf_payload {kind : Nat} {raw : Bytes} {plain : Bool} {value : Value}
    (read : Payload kind raw plain value) :
    kind ≠ 7 ∧ kind ≠ 11 ∧ kind ≠ 14 ∧
      ∃ found, scalarOf kind raw.length raw = .ok found ∧ (found = value ↔ plain = true) := by
  -- Only the short signed integers may be read as something else than was written.
  cases read with
  | text text =>
      refine ⟨by decide, by decide, by decide, .text text, ?_, by simp⟩
      rw [scalarOf, if_pos rfl]
      have same : fromUtf8Replacing ((text.flatMap String.utf8EncodeChar).map UInt8.toNat) =
          text := fromUtf8Replacing_utf8 text
      rw [same]
  | bytes raw =>
      refine ⟨by decide, by decide, by decide, .bytes raw, ?_, by simp⟩
      simp [scalarOf]
  | unsigned kind width size number typed short fits =>
      have kinds : kind = 5 ∨ kind = 6 ∨ kind = 9 ∨ kind = 10 := by
        unfold unsignedWidth at typed
        split at typed <;> simp_all
      have listed : kind ∈ [5, 6, 9, 10] := by simpa using kinds
      refine ⟨by omega, by omega, by omega, .int number, ?_, by simp⟩
      rw [scalarOf, if_neg (by omega), if_pos listed, fromBytes_write size number fits]
  | signed number low high =>
      refine ⟨by decide, by decide, by decide, .int number, ?_, by simp⟩
      rw [scalarOf, if_neg (by decide), if_neg (by decide), if_pos rfl,
        fromBytesSigned_full number low high]
  | signedShort size number short fits =>
      refine ⟨by decide, by decide, by decide,
        .int (fromBytesSigned (BigEndian.write size number)), ?_, ?_⟩
      · rw [scalarOf, if_neg (by decide), if_neg (by decide), if_pos rfl]
      · rw [Value.int.injEq, fromBytesSigned_short size number fits, decide_eq_true_iff]

end Reading

theorem pointer_parts {pointer : Nat} {bytes : Bytes} (points : PointerBytes pointer bytes) :
    ∃ control raw, bytes = UInt8.ofNat control :: raw ∧ control < 256 ∧ control / 32 = 1 ∧
      raw.length = control / 8 % 4 + 1 ∧
      pointerOf (control / 8 % 4) (control % 8) raw = pointer := by
  cases points with
  | one pointer fits =>
      refine ⟨32 + pointer / 2 ^ 8, _, rfl, by omega, by omega, ?_, ?_⟩
      · rw [BigEndian.write_length]
        omega
      · have width : (32 + pointer / 2 ^ 8) / 8 % 4 = 0 := by omega
        simp only [width, pointerOf, fromBytes_write 1 (pointer % 2 ^ 8) (by omega)]
        omega
  | two past fits =>
      refine ⟨40 + past / 2 ^ 16, _, rfl, by omega, by omega, ?_, ?_⟩
      · rw [BigEndian.write_length]
        omega
      · have width : (40 + past / 2 ^ 16) / 8 % 4 = 1 := by omega
        simp only [width, pointerOf, fromBytes_write 2 (past % 2 ^ 16) (by omega)]
        omega
  | three past fits =>
      refine ⟨48 + past / 2 ^ 24, _, rfl, by omega, by omega, ?_, ?_⟩
      · rw [BigEndian.write_length]
        omega
      · have width : (48 + past / 2 ^ 24) / 8 % 4 = 2 := by omega
        simp only [width, pointerOf, fromBytes_write 3 (past % 2 ^ 24) (by omega)]
        omega
  | four pointer unused fits small =>
      refine ⟨56 + unused, _, rfl, by omega, by omega, ?_, ?_⟩
      · rw [BigEndian.write_length]
        omega
      · have width : (56 + unused) / 8 % 4 = 3 := by omega
        simp only [width, pointerOf, fromBytes_write 4 pointer (by omega)]

section Decoding

variable (python : Python) {file : Bytes}

theorem decode_head (base : Int) (left offset : Nat) {kind size : Nat} {head : Bytes}
    (headed : HeadBytes kind size head) (here : At file offset head) :
    decode python file base (left + 1) offset =
      if kind = 7 then do
        let (fields, after) ← decodeFields python (decode python file base left) size
          ((offset + head.length : Nat) : Int) []
        return (.map fields, after)
      else if kind = 11 then do
        let (items, after) ← decodeItems (decode python file base left) size
          ((offset + head.length : Nat) : Int)
        return (.array items, after)
      else if kind = 14 then return (.bool (size ≠ 0), ((offset + head.length : Nat) : Int))
      else do
        let raw ← take file ((offset + head.length : Nat) : Int) size
        let value ← scalarOf kind size raw
        return (value, ((offset + head.length : Nat) : Int) + size) := by
  obtain ⟨control, middle, byte, notPointer, kindRead, sizeRead⟩ := decodeHead headed here
  rw [decode, byte]
  simp only [bind, Except.bind, if_neg notPointer, kindRead, sizeRead, Nat.cast_add]

theorem decode_pointer (base left offset : Nat) {pointer : Nat} {bytes : Bytes}
    (points : PointerBytes pointer bytes) (here : At file offset bytes) :
    decode python file base (left + 1) offset =
      (decode python file base left ((base + pointer : Nat) : Int)).map fun found =>
        (found.1, ((offset + bytes.length : Nat) : Int)) := by
  obtain ⟨control, raw, rfl, small, isPointer, wide, value⟩ := pointer_parts points
  have rest := take_at here.tail
  rw [wide, Nat.cast_add, Nat.cast_one] at rest
  rw [decode, takeByte_at here, controlByte control small]
  simp only [bind, Except.bind, if_pos isPointer, rest, value]
  rw [Nat.cast_add base pointer]
  cases decode python file base left (base + pointer) with
  | error fault => rfl
  | ok found =>
      obtain ⟨found, after⟩ := found
      simp only [Except.map, pure, Except.pure, List.length_cons, wide]
      congr 2
      push_cast
      omega

/-- The run ends right after the encoding, with its value exactly when it is plain. -/
def Reads {Item : Type} (run : Except Fault (Item × Int)) (plain : Bool) (value : Item)
    (next : Nat) : Prop :=
  ∃ found, run = .ok (found, (next : Int)) ∧ (found = value ↔ plain = true)

variable {one : Placed Value} {read : Int → Except Fault (Value × Int)}

theorem items_read
    (reads : ∀ {offset plain value next}, one offset plain value next →
      Reads (read (offset : Nat)) plain value next)
    {offset next : Nat} {plain : Bool} {items : List Value}
    (all : Items one offset plain items next) :
    Reads (decodeItems read items.length offset) plain items next := by
  induction all with
  | nil offset => exact ⟨[], rfl, by simp⟩
  | cons first later ih =>
      obtain ⟨item, itemRead, itemSame⟩ := reads first
      obtain ⟨items, itemsRead, itemsSame⟩ := ih
      refine ⟨item :: items, ?_, ?_⟩
      · simp only [List.length_cons, decodeItems, itemRead, itemsRead, bind, Except.bind]
        rfl
      · rw [List.cons.injEq, itemSame, itemsSame, Bool.and_eq_true]

theorem setItem_new (key : Text) (value : Value) (fields : List (Text × Value))
    (new : key ∉ fields.map Prod.fst) : setItem key value fields = fields ++ [(key, value)] := by
  induction fields with
  | nil => rfl
  | cons field rest ih =>
      simp only [List.map_cons, List.mem_cons, not_or] at new
      rw [setItem, if_neg (Ne.symm new.1), ih new.2, List.cons_append]

theorem fields_read
    (reads : ∀ {offset plain value next}, one offset plain value next →
      Reads (read (offset : Nat)) plain value next)
    (texts : ∀ {offset plain key next}, one offset plain (.text key) next → plain = true)
    {offset next : Nat} {plain : Bool} {fields : List (Text × Value)}
    (all : Fields one offset plain fields next) (earlier : List (Text × Value))
    (distinct : ((earlier ++ fields).map Prod.fst).Nodup) :
    ∃ found, decodeFields python read fields.length offset earlier =
        .ok (earlier ++ found, (next : Int)) ∧ (found = fields ↔ plain = true) := by
  induction all generalizing earlier with
  | nil offset => exact ⟨[], by simp [decodeFields], by simp⟩
  | cons name first later ih =>
      rename_i key value fields
      obtain ⟨keyFound, keyRead, keySame⟩ := reads name
      obtain rfl := keySame.mpr (texts name)
      obtain ⟨found, valueRead, valueSame⟩ := reads first
      -- A key seen before would replace its value instead of adding one.
      have new : key ∉ earlier.map Prod.fst := by
        rw [List.map_append, List.nodup_append] at distinct
        intro member
        exact distinct.2.2 key member key (by simp) rfl
      have apart : (((earlier ++ [(key, found)]) ++ fields).map Prod.fst).Nodup := by
        simpa using distinct
      obtain ⟨more, moreRead, moreSame⟩ := ih (earlier ++ [(key, found)]) apart
      refine ⟨(key, found) :: more, ?_, ?_⟩
      · simp only [List.length_cons, decodeFields, keyRead, valueRead, strOf, bind, Except.bind,
          setItem_new key found earlier new, moreRead]
        simp
      · rw [List.cons.injEq, Prod.mk.injEq, moreSame, Bool.and_eq_true, ← valueSame]
        simp

theorem encoded_text (base nesting : Nat) {offset next : Nat} {plain : Bool} {text : Text}
    (encoded : Encoded file base nesting offset plain (.text text) next) : plain = true := by
  have leaf : ∀ {offset plain next}, Leaf file offset plain (.text text) next → plain = true := by
    intro offset plain next leaf
    cases leaf with
    | payload here headed read =>
        cases read
        rfl
  -- A text may be behind pointers, however many; there is a leaf at the end.
  induction nesting generalizing offset plain next with
  | zero => exact leaf encoded
  | succ nesting ih =>
      rcases encoded with flat | nested
      · exact leaf flat
      · cases nested with
        | pointer here points target => exact ih target

theorem leaf_read (base left : Nat) {offset next : Nat} {plain : Bool} {value : Value}
    (leaf : Leaf file offset plain value next) :
    Reads (decode python file base (left + 1) offset) plain value next := by
  cases leaf with
  | flag flag here headed =>
      refine ⟨.bool flag, ?_, by simp⟩
      rw [decode_head python base left offset headed here, if_neg (by decide),
        if_neg (by decide), if_pos rfl]
      cases flag <;> rfl
  | payload here headed read =>
      obtain ⟨notMap, notArray, notFlag, found, scalar, same⟩ := scalarOf_payload read
      refine ⟨found, ?_, same⟩
      rw [decode_head python base left offset headed here.front, if_neg notMap, if_neg notArray,
        if_neg notFlag, take_at here.back]
      simp only [bind, Except.bind, scalar, pure, Except.pure, Nat.cast_add]

theorem encoded_read (base nesting left : Nat) {offset next : Nat} {plain : Bool} {value : Value}
    (deep : nesting < left) (encoded : Encoded file base nesting offset plain value next) :
    Reads (decode python file base left offset) plain value next := by
  -- An encoding needs a level more than it has containers and pointer hops inside each other.
  -- Each container and each pointer takes one level of both the encoding and the decoder.
  induction nesting generalizing left offset plain value next with
  | zero =>
      cases left with
      | zero => omega
      | succ left => exact leaf_read python base left encoded
  | succ nesting ih =>
      cases left with
      | zero => omega
      | succ left =>
          have inner : nesting < left := by omega
          rcases encoded with flat | nested
          · exact leaf_read python base left flat
          · cases nested with
            | pointer here points target =>
                obtain ⟨found, read, same⟩ := ih left inner target
                refine ⟨found, ?_, same⟩
                rw [decode_pointer python base left offset points here, read]
                rfl
            | array here headed all =>
                obtain ⟨found, read, same⟩ := items_read (fun one => ih left inner one) all
                refine ⟨.array found, ?_, by rw [Value.array.injEq, same]⟩
                rw [decode_head python base left offset headed here, if_neg (by decide),
                  if_pos rfl, read]
                rfl
            | map here headed distinct all =>
                obtain ⟨found, read, same⟩ := fields_read python (fun one => ih left inner one)
                  (fun text => encoded_text base nesting text) all [] distinct
                refine ⟨.map found, ?_, by rw [Value.map.injEq, same]⟩
                rw [decode_head python base left offset headed here, if_pos rfl, read]
                rfl

/-- The decoder gives the encoded value and the place after it exactly when no signed integer of
less than four bytes in the encoding has its first bit set. -/
theorem decode_inverts_iff (base offset next : Nat) (plain : Bool) (value : Value)
    (encoded : Encoded file base maxDepth offset plain value next) :
    decode python file base (maxDepth + 1) offset = .ok (value, (next : Int)) ↔ plain = true := by
  obtain ⟨found, read, same⟩ :=
    encoded_read python base maxDepth (maxDepth + 1) (Nat.lt_succ_self _) encoded
  rw [read, Except.ok.injEq, Prod.mk.injEq, ← same]
  exact and_iff_left rfl

end Decoding

section Samples

def entryFile : Bytes := [0x41, 0x61, 0xe1, 0x20, 0x00, 0xa1, 0x07]

theorem decode_inverts_iff_entry :
    decode plainPython entryFile 0 (maxDepth + 1) 2 = .ok (.map [(['a'], .int 7)], 7) := by
  have key (nesting : Nat) : Encoded entryFile 0 nesting 0 true (.text ['a']) 2 := by
    have leaf : Leaf entryFile 0 true (.text ['a']) 2 :=
      .payload (show At entryFile 0 ([0x41] ++ [0x61]) from ⟨_, rfl⟩)
        (.plain 1 [] (by decide) (by decide) (.low 1 (by decide))) (.text ['a'])
    cases nesting with
    | zero => exact leaf
    | succ nesting => exact .inl leaf
  have pointer (nesting : Nat) : Encoded entryFile 0 (nesting + 1) 3 true (.text ['a']) 5 :=
    .inr (.pointer (show At entryFile 3 [0x20, 0x00] from ⟨_, rfl⟩) (.one 0 (by decide))
      (key nesting))
  have number (nesting : Nat) : Encoded entryFile 0 (nesting + 1) 5 true (.int 7) 7 :=
    .inl (.payload (show At entryFile 5 ([0xa1] ++ [0x07]) from ⟨_, rfl⟩)
      (.plain 1 [] (by decide) (by decide) (.low 1 (by decide)))
      (.unsigned 5 2 1 7 rfl (by decide) (by decide)))
  have whole : Encoded entryFile 0 maxDepth 2 true (.map [(['a'], .int 7)]) 7 :=
    .inr (.map (show At entryFile 2 [0xe1] from ⟨_, rfl⟩)
      (.plain 1 [] (by decide) (by decide) (.low 1 (by decide))) (by decide)
      (.cons (pointer 30) (number 30) (.nil 7)))
  exact (decode_inverts_iff plainPython 0 2 7 true _ whole).mpr rfl

def shortFile : Bytes := [0x01, 0x01, 0xc8]

/-- It is read as a negative number. -/
theorem short_integer_misread :
    Encoded shortFile 0 maxDepth 0 false (.int 200) 3 ∧
      decode plainPython shortFile 0 (maxDepth + 1) 0 ≠ .ok (.int 200, 3) := by
  refine ⟨.inl (.payload (show At shortFile 0 ([0x01, 0x01] ++ [0xc8]) from ⟨_, rfl⟩)
    (.extended 1 [] (by decide) (by decide) (.low 1 (by decide)))
    (.signedShort 1 200 (by decide) (by decide))), ?_⟩
  have read : decode plainPython shortFile 0 (maxDepth + 1) 0 = .ok (.int (-56), 3) := rfl
  rw [read]
  simp

end Samples

end CloudGuest.Traffic.Mmdb
