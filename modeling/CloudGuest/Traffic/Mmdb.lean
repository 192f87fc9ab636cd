import CloudGuest.Library.Faults
import CloudGuest.Library.Texts

/-!
The reader of MaxMind DB files (`traffic_flow/mmdb.py`). A file is its bytes; the
data section is decoded with the levels of nesting still allowed, and every
exception a step can raise is a value, so that what leaves the constructor and a
lookup can be told. What the interpreter prints of a value used as a map key, and
which texts it reads as an integer, are parameters.
-/

namespace CloudGuest.Traffic.Mmdb

open Texts

abbrev Bytes := List UInt8

/-- A floating-point number by its parts: mantissa times a power of two. -/
inductive Ieee where
  | finite (negative : Bool) (mantissa : Nat) (exponent : Int)
  | infinite (negative : Bool)
  | nan
  deriving DecidableEq

def Ieee.read (exponentBits fractionBits bits : Nat) : Ieee :=
  let fraction := bits % 2 ^ fractionBits
  let exponent := bits / 2 ^ fractionBits % 2 ^ exponentBits
  let negative := bits / 2 ^ (fractionBits + exponentBits) % 2 = 1
  let bias : Int := 2 ^ (exponentBits - 1) - 1
  if exponent = 2 ^ exponentBits - 1 then if fraction = 0 then .infinite negative else .nan
  else if exponent = 0 then .finite negative fraction (1 - bias - fractionBits)
  else .finite negative (2 ^ fractionBits + fraction) (exponent - bias - fractionBits)

inductive Value where
  | text (value : Text)
  | float (value : Ieee)
  | bytes (value : Bytes)
  | int (value : Int)
  | map (fields : List (Text × Value))
  | array (items : List Value)
  | bool (value : Bool)

inductive Raised where
  | keyError (key : Text)
  | typeError
  | valueError
  | indexError
  | structError
  | overflowError
  | recursionError
  deriving DecidableEq

inductive Message where
  | emptyFile
  | noMarker
  | notAMap
  | unsupportedLayout
  | treeTooLarge
  | unreadable (cause : Raised)
  | outsideTree
  | pastEnd
  | tooDeep
  | unsupportedType (kind : Nat)
  deriving DecidableEq

inductive Fault where
  | mmdbError (message : Message)
  | raised (exception : Raised)
  deriving DecidableEq

structure Python where
  reprText : Text → Text
  reprBytes : Bytes → Text
  reprFloat : Ieee → Text
  /-- `int` of a text or of bytes; `none` for its `ValueError`. -/
  intOfText : Text → Option Int
  intOfBytes : Bytes → Option Int

section Conversions

variable (python : Python)

/-- More digits than this are not printed (`sys.int_info.default_max_str_digits`). -/
def maxStrDigits : Nat := 4300

def strInt (value : Int) : Except Fault Text :=
  if 10 ^ maxStrDigits ≤ value.natAbs then .error (.raised .valueError)
  else .ok (if value < 0 then '-' :: decimal value.natAbs else decimal value.natAbs)

def commas (parts : List Text) : Text := (parts.intersperse [',', ' ']).flatten

mutual

def reprOf : Value → Except Fault Text
  | .text value => .ok (python.reprText value)
  | .float value => .ok (python.reprFloat value)
  | .bytes value => .ok (python.reprBytes value)
  | .int value => strInt value
  | .bool value => .ok (if value then ['T', 'r', 'u', 'e'] else ['F', 'a', 'l', 's', 'e'])
  | .map fields => do
      let parts ← reprFields fields
      return '{' :: (commas parts ++ ['}'])
  | .array items => do
      let parts ← reprItems items
      return '[' :: (commas parts ++ [']'])

def reprItems : List Value → Except Fault (List Text)
  | [] => .ok []
  | item :: rest => do
      let part ← reprOf item
      let parts ← reprItems rest
      return part :: parts

def reprFields : List (Text × Value) → Except Fault (List Text)
  | [] => .ok []
  | (key, value) :: rest => do
      let part ← reprOf value
      let parts ← reprFields rest
      return (python.reprText key ++ ':' :: ' ' :: part) :: parts

end

def strOf : Value → Except Fault Text
  | .text value => .ok value
  | value => reprOf python value

def truncated (negative : Bool) (mantissa : Nat) (exponent : Int) : Int :=
  let magnitude := if 0 ≤ exponent then mantissa * 2 ^ exponent.toNat
    else mantissa / 2 ^ (-exponent).toNat
  if negative then -(magnitude : Int) else magnitude

def intOf : Value → Except Fault Int
  | .int value => .ok value
  | .bool value => .ok (if value then 1 else 0)
  | .float (.finite negative mantissa exponent) => .ok (truncated negative mantissa exponent)
  | .float (.infinite _) => .error (.raised .overflowError)
  | .float .nan => .error (.raised .valueError)
  | .text value => (python.intOfText value).elim (.error (.raised .valueError)) .ok
  | .bytes value => (python.intOfBytes value).elim (.error (.raised .valueError)) .ok
  | .map _ | .array _ => .error (.raised .typeError)

end Conversions

section Decoding

variable (python : Python) (file : Bytes)

def maxDepth : Nat := 32

def fromBytes (raw : Bytes) : Nat := raw.foldl (fun value byte => value * 256 + byte.toNat) 0

def fromBytesSigned (raw : Bytes) : Int :=
  if 256 ^ raw.length ≤ 2 * fromBytes raw then fromBytes raw - 256 ^ raw.length
  else fromBytes raw

def take (offset : Int) (size : Nat) : Except Fault Bytes :=
  let chunk := (file.drop offset.toNat).take size
  if offset < 0 ∨ chunk.length ≠ size then .error (.mmdbError .pastEnd) else .ok chunk

def takeByte (offset : Int) : Except Fault Nat := do
  match ← take file offset 1 with
  | byte :: _ => return byte.toNat
  | [] => .error (.raised .indexError)

def pointerOf (width low : Nat) (raw : Bytes) : Nat :=
  -- What a pointer of this width says, from the low bits of the control byte and what follows.
  match width with
  | 0 => low * 2 ^ 8 + fromBytes raw
  | 1 => 2048 + (low * 2 ^ 16 + fromBytes raw)
  | 2 => 526336 + (low * 2 ^ 24 + fromBytes raw)
  | _ => fromBytes raw

def decodeKind (control : Nat) (offset : Int) : Except Fault (Nat × Int) :=
  -- The type of a value, extended by the next byte when the control byte has none.
  if control / 32 = 0 then do return (7 + (← takeByte file (offset + 1)), offset + 2)
  else .ok (control / 32, offset + 1)

def decodeSize (control : Nat) (offset : Int) : Except Fault (Nat × Int) :=
  match control % 32 with
  | 29 => do return (29 + (← takeByte file offset), offset + 1)
  | 30 => do return (285 + fromBytes (← take file offset 2), offset + 2)
  | 31 => do return (65821 + fromBytes (← take file offset 3), offset + 3)
  | size => .ok (size, offset)

def setItem (key : Text) (value : Value) : List (Text × Value) → List (Text × Value)
  | [] => [(key, value)]
  | field :: rest => if field.1 = key then (key, value) :: rest else field :: setItem key value rest

def decodeItems (read : Int → Except Fault (Value × Int)) :
    Nat → Int → Except Fault (List Value × Int)
  | 0, offset => .ok ([], offset)
  | count + 1, offset => do
      let (item, next) ← read offset
      let (items, after) ← decodeItems read count next
      return (item :: items, after)

def decodeFields (read : Int → Except Fault (Value × Int)) :
    Nat → Int → List (Text × Value) → Except Fault (List (Text × Value) × Int)
  | 0, offset, fields => .ok (fields, offset)
  | count + 1, offset, fields => do
      let (key, next) ← read offset
      let (value, after) ← read next
      let name ← strOf python key
      decodeFields read count after (setItem name value fields)

/-- A value of a type that is neither a pointer, a container nor a flag. -/
def scalarOf (kind size : Nat) (raw : Bytes) : Except Fault Value :=
  if kind = 2 then .ok (.text (fromUtf8Replacing (raw.map UInt8.toNat)))
  else if kind ∈ [5, 6, 9, 10] then .ok (.int (fromBytes raw))
  else if kind = 8 then .ok (.int (fromBytesSigned raw))
  else if kind = 3 ∧ size = 8 then .ok (.float (Ieee.read 11 52 (fromBytes raw)))
  else if kind = 15 ∧ size = 4 then .ok (.float (Ieee.read 8 23 (fromBytes raw)))
  else if kind = 4 then .ok (.bytes raw)
  else .error (.mmdbError (.unsupportedType kind))

/-- `_decode` with the levels left: `_MAX_DEPTH - depth + 1`. -/
def decode (base : Int) : Nat → Int → Except Fault (Value × Int)
  | 0, _ => .error (.mmdbError .tooDeep)
  | left + 1, offset => do
      let control ← takeByte file offset
      if control / 32 = 1 then
        let width := control / 8 % 4
        let raw ← take file (offset + 1) (width + 1)
        let (value, _) ← decode base left (base + pointerOf width (control % 8) raw)
        return (value, offset + 1 + (width + 1))
      else
        let (kind, offset) ← decodeKind file control offset
        let (size, offset) ← decodeSize file control offset
        if kind = 7 then do
          let (fields, after) ← decodeFields python (decode base left) size offset []
          return (.map fields, after)
        else if kind = 11 then do
          let (items, after) ← decodeItems (decode base left) size offset
          return (.array items, after)
        else if kind = 14 then return (.bool (size ≠ 0), offset)
        else do
          let raw ← take file offset size
          let value ← scalarOf kind size raw
          return (value, offset + size)

end Decoding

section Tree

structure Tree where
  file : Bytes
  nodeCount : Int
  recordSize : Nat

def Tree.nodeBytes (tree : Tree) : Nat := tree.recordSize / 4

def Tree.size (tree : Tree) : Int := tree.nodeCount * tree.nodeBytes

def dataSeparator : Int := 16

def Tree.dataStart (tree : Tree) : Int := tree.size + dataSeparator

def Tree.readNode (tree : Tree) (node : Nat) (right : Bool) : Except Fault Nat :=
  let chunk := (tree.file.drop (node * tree.nodeBytes)).take tree.nodeBytes
  if chunk.length ≠ tree.nodeBytes then .error (.mmdbError .outsideTree)
  else if tree.recordSize = 24 then
    .ok (fromBytes (if right then chunk.drop 3 else chunk.take 3))
  else if tree.recordSize = 28 then
    let shared := (chunk.getD 3 0).toNat
    .ok (if right then shared % 16 * 2 ^ 24 + fromBytes (chunk.drop 4)
      else shared / 16 * 2 ^ 24 + fromBytes (chunk.take 3))
  else .ok (fromBytes (if right then chunk.drop 4 else chunk.take 4))

def Tree.walk (tree : Tree) : List Bool → Nat → Except Fault Nat
  | [], node => .ok node
  | bit :: rest, node =>
      if tree.nodeCount ≤ node then .ok node
      else do tree.walk rest (← tree.readNode node bit)

def Tree.findIpv4Start (tree : Tree) (ipVersion : Int) : Except Fault Nat :=
  if ipVersion = 4 then .ok 0 else tree.walk (List.replicate 96 false) 0

end Tree

section Reader

variable (python : Python)

structure Reader where
  tree : Tree
  metadata : List (Text × Value)
  ipVersion : Int
  ipv4Start : Nat

def metadataMarker : Bytes :=
  [0xab, 0xcd, 0xef, 0x4d, 0x61, 0x78, 0x4d, 0x69, 0x6e, 0x64, 0x2e, 0x63, 0x6f, 0x6d]

def rfindMarker (file : Bytes) : Option Nat :=
  (List.range (file.length + 1)).reverse.find? fun start =>
    (file.drop start).take metadataMarker.length = metadataMarker

def nodeCountName : Text := ['n', 'o', 'd', 'e', '_', 'c', 'o', 'u', 'n', 't']

def recordSizeName : Text := ['r', 'e', 'c', 'o', 'r', 'd', '_', 's', 'i', 'z', 'e']

def ipVersionName : Text := ['i', 'p', '_', 'v', 'e', 'r', 's', 'i', 'o', 'n']

def lookup (fields : List (Text × Value)) (key : Text) : Option Value :=
  (fields.find? fun field => field.1 = key).map Prod.snd

def intField (fields : List (Text × Value)) (key : Text) : Except Fault Int :=
  match lookup fields key with
  | none => .error (.raised (.keyError key))
  | some value => intOf python value

def readMetadata (file : Bytes) (marker : Nat) : Except Fault (Value × Int) :=
  let start : Int := (marker + metadataMarker.length : Nat)
  decode python file start (maxDepth + 1) start

def openFile (file : Bytes) : Except Fault Reader :=
  match rfindMarker file with
  | none => .error (.mmdbError .noMarker)
  | some marker => do
      match ← readMetadata python file marker with
      | (.map fields, _) =>
          let nodeCount ← intField python fields nodeCountName
          let recordSize ← intField python fields recordSizeName
          let ipVersion ← intField python fields ipVersionName
          if recordSize ∉ [24, 28, 32] ∨ ipVersion ∉ [4, 6] then
            .error (.mmdbError .unsupportedLayout)
          else
            let tree : Tree := ⟨file, nodeCount, recordSize.toNat⟩
            if (marker : Int) < tree.dataStart then .error (.mmdbError .treeTooLarge)
            else do
              let ipv4Start ← tree.findIpv4Start ipVersion
              return ⟨tree, fields, ipVersion, ipv4Start⟩
      | _ => .error (.mmdbError .notAMap)

def Raised.caughtAtOpen : Raised → Bool
  | .keyError _ | .typeError | .valueError | .indexError | .structError => true
  | .overflowError | .recursionError => false

def construct (file : Bytes) : Except Fault Reader :=
  if file = [] then .error (.mmdbError .emptyFile)
  else match openFile python file with
    | .error (.raised exception) =>
        if exception.caughtAtOpen then .error (.mmdbError (.unreadable exception))
        else .error (.raised exception)
    | other => other

abbrev Address := {packed : Bytes // packed.length = 4 ∨ packed.length = 16}

def bitsOf (byte : UInt8) : List Bool :=
  [7, 6, 5, 4, 3, 2, 1, 0].map fun shift => byte.toNat / 2 ^ shift % 2 = 1

def lookUp (reader : Reader) (address : Address) : Except Fault (Option Value) :=
  if address.val.length ≠ 4 ∧ reader.ipVersion = 4 then .ok none
  else do
    let first := if address.val.length = 4 then reader.ipv4Start else 0
    let node ← reader.tree.walk (address.val.flatMap bitsOf) first
    if node ≤ reader.tree.nodeCount then return none
    else do
      let offset := node - reader.tree.nodeCount + reader.tree.size
      let (value, _) ← decode python reader.tree.file reader.tree.dataStart (maxDepth + 1) offset
      return some value

def Fault.caughtAtGet : Fault → Bool
  | .mmdbError _ => true
  | .raised .indexError | .raised .valueError | .raised .structError
  | .raised .recursionError => true
  | .raised _ => false

def get (reader : Reader) (address : Address) : Except Fault (Option Value) :=
  match lookUp python reader address with
  | .error fault => if fault.caughtAtGet then .ok none else .error fault
  | answer => answer

end Reader

end CloudGuest.Traffic.Mmdb
