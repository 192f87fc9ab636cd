import CloudGuest.Library.Texts
import CloudGuest.Library.Grouping
import CloudGuest.Library.Sorting

/-!
Flow records of the traffic domain (`flow_records.py`): the reduction of the
collector's rows to records, the two merge rules and the order in which one
window's rows are kept. Instants are microseconds since the epoch.

The conversions of the interpreter (`int`, `str`, `ipaddress`, timestamps) are a
parameter, so that every result holds whatever they answer; `none` is an
exception the source lets through, which leaves the window unwritten.
-/

namespace CloudGuest.Traffic

open Texts Sorting

/-- A value of a collector row. A number with a fraction or an exponent stays a literal. -/
inductive Cell where
  | null
  | bool (value : Bool)
  | int (value : Int)
  | real (literal : Text)
  | text (value : Text)
  | compound
  deriving DecidableEq

inductive Field where
  | peerIpSrc | ipSrc | ipDst | portSrc | portDst | ipProto
  | bytes | packets | flows
  | postNatIpSrc | postNatSrcIp | postNatIpDst | postNatDstIp
  | postNatPortSrc | postNatSrcPort | postNatPortDst | postNatDstPort
  | timestampStart | timestampEnd | timestampArrival
  | peerPortSrc | peerSrcPort | natEvent
  deriving DecidableEq

/-- An absent key reads as `null`; the source never tells the two apart. -/
abbrev CollectorRow := Field → Cell

inductive Conversion where
  | number (value : Int)
  | refused
  | raised
  deriving DecidableEq

structure Python where
  str : Cell → Text
  truthy : Cell → Bool
  strip : Text → Text
  lower : Text → Text
  isDigit : Text → Bool
  int : Cell → Conversion
  /-- Whether `float` accepts the text. -/
  isFloat : Text → Bool
  /-- The instant of a numeric text, `some none` when it is not positive. -/
  fromTimestamp : Text → Option (Option Int)
  /-- The instant of an ISO text read as UTC, if it parses and is after the epoch. -/
  fromIso : Text → Option Int
  /-- The canonical text of an address. -/
  ipAddress : Text → Option Text
  isLocalAddress : Text → Bool

inductive Direction where
  | upload | download | internal | unclassified | platform
  deriving DecidableEq

inductive Side where
  | src | dst
  deriving DecidableEq

structure FlowRecord where
  flowStart : Option Int
  flowEnd : Option Int
  arrivedAt : Option Int
  srcAddress : Text
  srcPort : Option Nat
  dstAddress : Text
  dstPort : Option Nat
  protocol : Option Nat
  natSrcAddress : Option Text
  natSrcPort : Option Nat
  natDstAddress : Option Text
  natDstPort : Option Nat
  bytes : Nat
  packets : Option Nat
  flows : Option Nat
  direction : Direction
  exporterAddress : Text
  exporterPort : Option Nat
  recordsMerged : Nat
  portsMerged : Bool
  natEvent : Option Nat
  deriving DecidableEq

section Reduction

variable (python : Python)

def first (row : CollectorRow) : List Field → Cell
  | [] => .null
  | key :: rest => if row key ≠ .null then row key else first row rest

def emptyAddresses : List Text :=
  ["".toList, "0.0.0.0".toList, "::".toList, "0".toList, "none".toList, "null".toList]

def address (value : Cell) : Option Text :=
  match value with
  | .null => none
  | value =>
      let text := python.strip (python.str value)
      if python.lower text ∈ emptyAddresses then none else python.ipAddress text

def whole (accepted : Int → Bool) (value : Cell) : Option (Option Nat) :=
  -- `int(value)` inside a `try` that catches what Python refuses, kept when `accepted`.
  match value with
  | .null | .bool _ => some none
  | value =>
      match python.int value with
      | .number number => some (if accepted number then some number.toNat else none)
      | .refused => some none
      | .raised => none

def port (value : Cell) : Option (Option Nat) :=
  whole python (fun number => 0 ≤ number ∧ number ≤ 65535) value

def countOf (value : Cell) : Option (Option Nat) := whole python (fun number => 0 ≤ number) value

def replaceFirst (old new : Char) : Text → Text
  | [] => []
  | char :: rest => if char = old then new :: rest else char :: replaceFirst old new rest

def instant (value : Cell) : Option (Option Int) :=
  match value with
  | .null | .bool _ => some none
  | .int number => python.fromTimestamp (python.str (.int number))
  | .real literal => python.fromTimestamp literal
  | value =>
      let text := python.strip (python.str value)
      if text = [] then some none
      else if python.isFloat text then python.fromTimestamp text
      else some (python.fromIso (replaceFirst ' ' 'T' text))

def natEventUntyped : Nat := 0

def natEventOf (row : CollectorRow) : Option (Option Nat) := do
  let typed ← countOf python (first row [.natEvent])
  match typed with
  | some (kind + 1) => return some (kind + 1)
  | _ =>
      if (← countOf python (row .packets)) = some 0 ∧ (← countOf python (row .bytes)) = some 0 then
        return some natEventUntyped
      else return none

def protocolNumbersByName : List (Text × Nat) :=
  [("tcp".toList, 6), ("udp".toList, 17), ("icmp".toList, 1), ("ipv6-icmp".toList, 58),
    ("icmpv6".toList, 58), ("gre".toList, 47), ("esp".toList, 50), ("ah".toList, 51),
    ("sctp".toList, 132), ("igmp".toList, 2), ("ipip".toList, 4), ("ipv6".toList, 41)]

def parseProtocol (value : Cell) : Option (Option Nat) :=
  match value with
  | .null | .bool _ => some none
  | .int number => some (if 0 ≤ number ∧ number ≤ 255 then some number.toNat else none)
  | value =>
      let text := python.lower (python.strip (python.str value))
      if text = [] then some none
      else if python.isDigit text then
        -- A digit `int` refuses (a superscript) is not caught here.
        match python.int (.text text) with
        | .number number => some (if number ≤ 255 then some number.toNat else none)
        | .refused | .raised => none
      else some ((protocolNumbersByName.find? fun entry => entry.1 = text).map Prod.snd)

def directionOf (src dst : Text) : Direction :=
  if python.isLocalAddress src && python.isLocalAddress dst then .internal
  else if python.isLocalAddress src then .upload
  else if python.isLocalAddress dst then .download
  else .unclassified

def canonical (value : Cell) : Option Text :=
  match value with
  | .null => none
  | value => python.ipAddress (python.strip (python.str value))

def isUdp (value : Cell) : Bool :=
  match value with
  | .null | .bool _ => false
  | .int number => number = 17
  | value =>
      let text := python.lower (python.strip (python.str value))
      text = "udp".toList || text = "17".toList

/-- The hub's tunnel endpoints as (canonical address, UDP port). -/
abbrev PlatformEndpoints := List (Text × Int)

def endpointPort (value : Cell) : Option (Option Int) :=
  match value with
  | .null | .bool _ => some none
  | value =>
      match python.int value with
      | .number number => some (some number)
      | .refused => some none
      | .raised => none

def isEndpoint (endpoints : PlatformEndpoints) (known : Option Text) (protocol number : Cell) :
    Option Bool :=
  if endpoints = [] ∨ isUdp python protocol = false then some false
  else do
    match known, ← endpointPort python number with
    | some known, some number => return (known, number) ∈ endpoints
    | _, _ => return false

/-- Whether the row is the router's own traffic to the platform, in either direction. -/
def platformRow (endpoints : PlatformEndpoints) (row : CollectorRow) : Option Bool :=
  let exporter := canonical python (row .peerIpSrc)
  let src := canonical python (row .ipSrc)
  let dst := canonical python (row .ipDst)
  if exporter ≠ none ∧ (src = exporter ∨ dst = exporter) then some true
  else do
    if ← isEndpoint python endpoints dst (row .ipProto) (row .portDst) then return true
    isEndpoint python endpoints src (row .ipProto) (row .portSrc)

def flowRecordRow (exporter : Text) (endpoints : PlatformEndpoints) (row : CollectorRow) :
    Option (Option FlowRecord) :=
  -- The record of one collector row; inside, `none` for a row of another exporter or without two
  -- addresses.
  let peer := if python.truthy (row .peerIpSrc) then python.str (row .peerIpSrc) else []
  if python.strip peer ≠ exporter then some none
  else
    match address python (row .ipSrc), address python (row .ipDst) with
    | some src, some dst => do
        let natSrc := address python (first row [.postNatIpSrc, .postNatSrcIp])
        let natDst := address python (first row [.postNatIpDst, .postNatDstIp])
        let plain := directionOf python src dst
        let overhead ← if plain ≠ .internal then platformRow python endpoints row else some false
        let flowStart ← instant python (first row [.timestampStart])
        let flowEnd ← instant python (first row [.timestampEnd])
        let arrivedAt ← instant python (first row [.timestampArrival])
        let srcPort ← port python (row .portSrc)
        let dstPort ← port python (row .portDst)
        let protocol ← parseProtocol python (row .ipProto)
        -- A translated port without a translated address is noise.
        let natSrcPort ← if natSrc.isSome
          then port python (first row [.postNatPortSrc, .postNatSrcPort]) else some none
        let natDstPort ← if natDst.isSome
          then port python (first row [.postNatPortDst, .postNatDstPort]) else some none
        let bytes ← countOf python (row .bytes)
        let packets ← countOf python (row .packets)
        let flows ← countOf python (row .flows)
        let exporterPort ← port python (first row [.peerPortSrc, .peerSrcPort])
        let natEvent ← natEventOf python row
        return some
          { flowStart, flowEnd, arrivedAt, srcAddress := src, srcPort, dstAddress := dst, dstPort
            protocol, natSrcAddress := natSrc, natSrcPort, natDstAddress := natDst, natDstPort
            bytes := bytes.getD 0, packets, flows
            direction := if overhead then .platform else plain
            exporterAddress := exporter, exporterPort
            recordsMerged := 1, portsMerged := false, natEvent }
    | _, _ => some none

end Reduction

/-- The key `(-bytes, src_address, dst_address)` of both sorts. -/
def largestFirst (record : FlowRecord) : ℕᵒᵈ ×ₗ Text ×ₗ Text :=
  toLex (OrderDual.toDual record.bytes, toLex (record.srcAddress, record.dstAddress))

def flowRecordRows (python : Python) (rows : List CollectorRow) (exporter : Text)
    (endpoints : PlatformEndpoints) : Option (List FlowRecord) := do
  let records ← rows.mapM (flowRecordRow python exporter endpoints)
  return sortOn largestFirst (records.filterMap id)

structure WindowCounts where
  received : Nat
  internal : Nat
  merged : Nat
  deriving DecidableEq

def venueSide : Direction → Option Side
  | .upload => some .src
  | .download => some .dst
  | _ => none

def total (values : List (Option Nat)) : Option Nat :=
  let present := values.filterMap id
  if present = [] then none else some present.sum

def common {Value : Type} [DecidableEq Value] : List (Option Value) → Option Value
  | [] => none
  | value :: rest => if ∀ other ∈ rest, other = value then value else none

def mergedFields (leading : FlowRecord) (rest : List FlowRecord) : FlowRecord :=
  let group := leading :: rest
  let natSrcAddress := common (group.map (·.natSrcAddress))
  let natDstAddress := common (group.map (·.natDstAddress))
  { leading with
    flowStart := (group.filterMap (·.flowStart)).min?
    flowEnd := (group.filterMap (·.flowEnd)).max?
    arrivedAt := (group.filterMap (·.arrivedAt)).max?
    bytes := (group.map (·.bytes)).sum
    packets := total (group.map (·.packets))
    flows := total (group.map (·.flows))
    recordsMerged := group.length
    -- A translation is kept only when every merged record agrees on it.
    natSrcAddress
    natDstAddress
    exporterPort := common (group.map (·.exporterPort))
    natSrcPort := if natSrcAddress.isSome then common (group.map (·.natSrcPort)) else none
    natDstPort := if natDstAddress.isSome then common (group.map (·.natDstPort)) else none
    natEvent := leading.natEvent.map fun _ =>
      (common (group.map (·.natEvent))).getD natEventUntyped }

def mergedRecord (side : Option Side) (leading : FlowRecord) (rest : List FlowRecord) :
    FlowRecord :=
  -- `_merge` of two or more records: a venue-side port they do not share is dropped.
  let merged := mergedFields leading rest
  match side with
  | none => merged
  | some .src =>
      if ∀ record ∈ rest, record.srcPort = leading.srcPort then merged
      else { merged with srcPort := none, natSrcPort := none, portsMerged := true }
  | some .dst =>
      if ∀ record ∈ rest, record.dstPort = leading.dstPort then merged
      else { merged with dstPort := none, natDstPort := none, portsMerged := true }

def merge (side : Option Side) : List FlowRecord → Option FlowRecord
  | [] => none
  | [record] => some record
  | leading :: second :: rest => some (mergedRecord side leading (second :: rest))

def remotePort (record : FlowRecord) : Option Side → Option Nat
  | some .src => record.dstPort
  | some .dst => record.srcPort
  | none => none

def udp : Nat := 17

def mergesPorts (record : FlowRecord) (mergePorts : Bool) (summarised : List Nat) : Option Side :=
  let side := venueSide record.direction
  if side = none ∨ mergePorts then side
  else if record.protocol = some udp ∧ (remotePort record side).any (· ∈ summarised) then side
  else none

structure GroupKey where
  direction : Direction
  srcAddress : Text
  srcPort : Option Nat
  dstAddress : Text
  dstPort : Option Nat
  protocol : Option Nat
  isEvent : Bool
  side : Option Side
  deriving DecidableEq

def groupKey (mergePorts : Bool) (summarised : List Nat) (record : FlowRecord) : GroupKey :=
  let side := mergesPorts record mergePorts summarised
  { direction := record.direction
    srcAddress := record.srcAddress
    srcPort := if side = some .src then none else record.srcPort
    dstAddress := record.dstAddress
    dstPort := if side = some .dst then none else record.dstPort
    protocol := record.protocol
    isEvent := record.natEvent.isSome
    side }

def leftOut (storeInternal : Bool) (record : FlowRecord) : Bool :=
  -- Both ends inside the venue, and the settings do not store such records.
  record.direction = .internal && !storeInternal

def prepareRecords (records : List FlowRecord) (storeInternal mergePorts : Bool)
    (summarisedPorts : List Nat) : List FlowRecord × WindowCounts :=
  let internal := records.countP (leftOut storeInternal)
  let groups := Grouping.groups (groupKey mergePorts summarisedPorts)
    (records.filter fun record => !leftOut storeInternal record)
  let rows := sortOn largestFirst (groups.filterMap fun group => merge group.1.side group.2)
  (rows, { received := records.length, internal, merged := records.length - internal - rows.length })

end CloudGuest.Traffic
