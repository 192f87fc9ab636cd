import CloudGuest.Library.Json
import CloudGuest.Traffic.ThreatRanges

/-!
Loading the threat list (`ThreatList.__init__`, `_load`, `match`). The two files are
read line by line into the ranges of both families; an `OSError` or a `ValueError` on
the way leaves a list without entries and without a date. What else a record can
raise is not caught: those are the lines that break the loading.
-/

namespace CloudGuest.ThreatList
open Texts

inductive Raised where
  /-- An `OSError` or a `ValueError`, with its type and text. -/
  | caught (reason : Text)
  | keyError (key : Text)
  | typeError
  | overflowError
  | recursionError
  deriving DecidableEq

def Raised.reason : Raised → Option Text
  -- What `except (OSError, ValueError)` keeps of an exception; nothing for what it lets through.
  | .caught reason => some reason
  | _ => none

inductive Reading (Value : Type) where
  | answer (value : Value)
  | refused (reason : Text)
  | beyond

def Reading.orRaise {Value : Type} (beyond : Raised) : Reading Value → Except Raised Value
  | .answer value => .ok value
  | .refused reason => .error (.caught reason)
  | .beyond => .error beyond

inductive IpNetwork where
  | v4 (text : Text) (network : Network 32)
  | v6 (text : Text) (network : Network 128)

def IpNetwork.text : IpNetwork → Text
  | .v4 text _ => text
  | .v6 text _ => text

inductive IpAddress where
  | v4 (value : Nat)
  | v6 (value : Nat)

abbrev Bytes := List Nat

abbrev File := Except Text Bytes

structure Python where
  /-- Iterating over a UTF-8 file: its lines, and the reason where decoding stops it early. -/
  lines : Bytes → List Text × Option Text
  strip : Text → Text
  /-- `json.loads`, beyond the nesting it can follow. -/
  loads : Text → Reading Json.Value
  /-- `str`, beyond the nesting it can follow. -/
  str : Json.Value → Option Text
  truthy : Json.Value → Bool
  /-- `int` of a number by its literal, beyond where it is infinite. -/
  intOfNumber : Text → Reading Int
  intOfText : Text → Except Text Int
  /-- `datetime.fromtimestamp` in UTC, beyond the platform's `time_t`. -/
  fromTimestamp : Int → Reading Int
  ipNetwork : Text → Except Text IpNetwork
  ipAddress : Text → Option IpAddress
  /-- `read_text` of the manifest. -/
  readText : Bytes → Except Text Text
  fromIsoformat : Text → Except Text Int

section Lines

variable (python : Python)

def item (fields : List (Text × Json.Value)) (key : Text) : Except Raised Json.Value :=
  match Json.get fields key with
  | some value => .ok value
  | none => .error (.keyError key)

def strOf (value : Json.Value) : Except Raised Text :=
  match python.str value with
  | some text => .ok text
  | none => .error .recursionError

def intOf : Json.Value → Except Raised Int
  | .null | .array _ | .object _ => .error .typeError
  | .bool value => .ok (if value then 1 else 0)
  | .number literal => (python.intOfNumber literal).orRaise .overflowError
  | .text text => (python.intOfText text).mapError .caught

def isMetadata (fields : List (Text × Json.Value)) : Bool :=
  match Json.get fields "type".toList with
  | some (.text kind) => kind = "metadata".toList
  | _ => false

def textOf (fields : List (Text × Json.Value)) (key : Text) : Except Raised (Option Text) :=
  match Json.get fields key with
  | some value => if python.truthy value then (strOf python value).map some else .ok none
  | none => .ok none

inductive Line where
  | blank
  | metadata (published : Int) (copyright : Option Text)
  | entry (network : IpNetwork) (entry : ThreatEntry)

def readMetadata (fields : List (Text × Json.Value)) : Except Raised Line := do
  let stamp ← item fields "timestamp".toList
  let seconds ← intOf python stamp
  let published ← (python.fromTimestamp seconds).orRaise .overflowError
  let copyright ← textOf python fields "copyright".toList
  return .metadata published (copyright.filter (· ≠ []))

def readEntry (fields : List (Text × Json.Value)) : Except Raised Line := do
  let cidr ← item fields "cidr".toList
  let text ← strOf python cidr
  let network ← (python.ipNetwork text).mapError .caught
  let reference ← textOf python fields "sblid".toList
  return .entry network ⟨network.text, reference⟩

def readRecord (name : Text) : Json.Value → Except Raised Line
  | .object fields =>
      if isMetadata fields then readMetadata python fields else readEntry python fields
  | _ => .error (.caught ("ValueError: ".toList ++ name ++ ": a line is not an object".toList))

def readLine (name : Text) (line : Text) : Except Raised Line :=
  let line := python.strip line
  if line = [] then .ok .blank
  else do
    let record ← (python.loads line).orRaise .recursionError
    readRecord python name record

end Lines

/-! ### Files -/

def maxEntries : Nat := 200000

structure Loaded where
  v4 : Ranges
  v6 : Ranges
  copyright : Option Text

def Loaded.start : Loaded := ⟨.start, .start, none⟩

def Loaded.add (loaded : Loaded) (network : IpNetwork) (entry : ThreatEntry) : Loaded :=
  match network with
  | .v4 _ network => { loaded with v4 := loaded.v4.add network entry }
  | .v6 _ network => { loaded with v6 := loaded.v6.add network entry }

structure Progress where
  published : Option Int
  count : Nat
  loaded : Loaded

section Files

variable (python : Python)

def addLine (name : Text) (progress : Progress) : Line → Except Raised Progress
  | .blank => .ok progress
  | .metadata published copyright =>
      .ok { progress with
            published := some published
            loaded := { progress.loaded with copyright } }
  | .entry network entry =>
      if maxEntries < progress.count + 1 then
        .error (.caught ("ValueError: ".toList ++ name ++ ": more than 200000 entries".toList))
      else
        .ok { progress with
              count := progress.count + 1
              loaded := progress.loaded.add network entry }

def takeLine (name : Text) (progress : Progress) (line : Text) : Except Raised Progress := do
  let read ← readLine python name line
  addLine name progress read

def finish (name : Text) (stopped : Option Text) (progress : Progress) :
    Except Raised (Int × Loaded) :=
  -- What `_load` asks after its loop; `stopped` is what ended the reading early.
  match stopped with
  | some reason => .error (.caught reason)
  | none =>
      match progress.published with
      | none =>
          .error (.caught ("ValueError: ".toList ++ name ++ ": no dated metadata line".toList))
      | some published =>
          if progress.count = 0 then
            .error (.caught ("ValueError: ".toList ++ name ++ ": no entries".toList))
          else .ok (published, progress.loaded)

def load (name : Text) (file : File) (loaded : Loaded) : Except Raised (Int × Loaded) := do
  let bytes ← file.mapError .caught
  let progress ← (python.lines bytes).1.foldlM (takeLine python name) ⟨none, 0, loaded⟩
  finish name (python.lines bytes).2 progress

def subscript (key : Text) : Json.Value → Except Raised Json.Value
  | .object fields => item fields key
  | _ => .error .typeError

def readManifest (manifest : File) : Except Raised Int := do
  let bytes ← manifest.mapError .caught
  let text ← (python.readText bytes).mapError .caught
  let value ← (python.loads text).orRaise .recursionError
  let fetched ← subscript "fetched_at".toList value
  let moment ← strOf python fetched
  (python.fromIsoformat moment).mapError .caught

def readFetchedAt (manifest : File) : Except Raised (Option Int) :=
  -- `_read_fetched_at`; here `KeyError` and `TypeError` are caught too.
  match readManifest python manifest with
  | .ok moment => .ok (some moment)
  | .error (.caught _) | .error (.keyError _) | .error .typeError => .ok none
  | .error raised => .error raised

structure DataDir where
  dropV4 : File
  dropV6 : File
  manifest : File

def dropV4Name : Text := "drop_v4.json".toList
def dropV6Name : Text := "drop_v6.json".toList

end Files

end CloudGuest.ThreatList

namespace CloudGuest
open ThreatList Texts

structure ThreatList where
  v4 : Ranges
  v6 : Ranges
  listDate : Option Int
  fetchedAt : Option Int
  copyright : Option Text
  unavailableReason : Option Text

end CloudGuest

namespace CloudGuest.ThreatList
open Texts

def available (list : ThreatList) : Prop := list.listDate ≠ none

section Construction

variable (python : Python)

def loadFiles (dir : DataDir) : Except Raised ThreatList := do
  let (firstDate, loaded) ← load python dropV4Name dir.dropV4 .start
  let (secondDate, loaded) ← load python dropV6Name dir.dropV6 loaded
  let fetchedAt ← readFetchedAt python dir.manifest
  return { v4 := loaded.v4.freeze, v6 := loaded.v6.freeze
           listDate := some (max firstDate secondDate), fetchedAt
           copyright := loaded.copyright, unavailableReason := none }

def unavailable (reason : Text) : ThreatList :=
  { v4 := .start, v6 := .start, listDate := none, fetchedAt := none, copyright := none
    unavailableReason := some reason }

def construct (dir : DataDir) : Except Raised ThreatList :=
  match loadFiles python dir with
  | .ok list => .ok list
  | .error raised =>
      match raised.reason with
      | some reason => .ok (unavailable reason)
      | none => .error raised

def ipv4Mapped (value : Nat) : Option Nat :=
  if value / 2 ^ 32 = 65535 then some (value % 2 ^ 32) else none

def matchAddress (list : ThreatList) (address : Text) : Option ThreatEntry :=
  if list.listDate = none then none
  else
    match python.ipAddress (python.strip address) with
    | none => none
    | some (.v4 value) => list.v4.find value
    | some (.v6 value) =>
        match ipv4Mapped value with
        | some mapped => list.v4.find mapped
        | none => list.v6.find value

end Construction

end CloudGuest.ThreatList
