import CloudGuest.Library.Calendar
import CloudGuest.Library.IpAddress

/-!
Pure rendering of one IPDR record (`ipdr/formatting.py`): the comparable forms of
phones, MAC and IP addresses, the masks, and the on-screen row. `Asia/Kolkata` is
five and a half hours ahead of UTC at every instant since 1945, and so at every
instant a flow record can carry.
-/

namespace CloudGuest.Ipdr

open Texts Calendar IpAddress

abbrev Uuid := {text : Text // IsToken text}

instance : LawfulBEq Uuid := Subtype.instLawfulBEq

instance : LawfulBEq (Uuid × Nat) := inferInstance

abbrev Inet := {text : Text // ipAddress text = some text ∧ '%' ∉ text}

theorem inet_token (address : Inet) : IsToken address.val :=
  ipAddress_token _ _ address.property.1 address.property.2

def normalizeIp : Option Text → Option Text
  | none | some [] => none
  | some value => ipAddress (strip value)

def decimalZeros : List Nat :=
  [48, 1632, 1776, 1984, 2406, 2534, 2662, 2790, 2918, 3046, 3174, 3302, 3430, 3558, 3664, 3792,
    3872, 4160, 4240, 6112, 6160, 6470, 6608, 6784, 6800, 6992, 7088, 7232, 7248, 42528, 43216,
    43264, 43472, 43504, 43600, 44016, 65296, 66720, 68912, 69734, 69872, 69942, 70096, 70384,
    70736, 70864, 71248, 71360, 71472, 71904, 72016, 72784, 73040, 73120, 73552, 92768, 92864,
    93008, 120782, 120792, 120802, 120812, 120822, 123200, 123632, 124144, 125264, 130032]

def isDecimal (char : Char) : Bool :=
  decimalZeros.any fun first => first ≤ char.toNat && char.toNat < first + 10

def phoneDigits (value : Option Text) : Text := (value.getD []).filter isDecimal

def phoneKey (value : Option Text) : Option Text :=
  let digits := phoneDigits value
  if 10 ≤ digits.length then some (digits.drop (digits.length - 10)) else none

def isPhone : Option Text → Bool
  | none | some [] => false
  | some value =>
      let text := strip value
      let body := if text.head? = some '+' then text.tail else text
      10 ≤ body.length && body.length ≤ 16 &&
        body.all fun char => isDecimal char || isSpace char || char = '-'

def isEmail (value : Option Text) : Bool := value.any fun text => '@' ∈ text

def isHex (char : Char) : Bool :=
  char.isDigit || ('a' ≤ char && char ≤ 'f') || ('A' ≤ char && char ≤ 'F')

def pairs : Text → List Text
  | first :: second :: rest => [first, second] :: pairs rest
  | rest => if rest = [] then [] else [rest]

def normalizeMac : Option Text → Option Text
  | none | some [] => none
  | some value =>
      let hexes := (value.filter isHex).map Char.toUpper
      if hexes.length = 12 then some (joined ':' (pairs hexes)) else none

inductive UserClass where
  | guest | device | unknown
  deriving DecidableEq

inductive DeviceKind where
  | router | monitoredHardware | authorizedMac
  deriving DecidableEq

inductive Source where
  | session | dhcp | inventory
  deriving DecidableEq

inductive NatSource where
  | natEvent | derived | ambiguous | none
  deriving DecidableEq

inductive TsSource where
  | flow | window
  deriving DecidableEq

structure Record where
  ts : Text
  tsEnd : Text
  tsSource : TsSource
  windowStart : Text
  organizationId : Text
  locationId : Text
  routerId : Text
  userKnown : Bool
  userId : Text
  userClass : UserClass
  deviceKind : Option DeviceKind
  name : Option Text
  phone : Option Text
  altPhone : Option Text
  email : Option Text
  mac : Option Text
  macSource : Option Source
  guestId : Option Text
  sessionId : Option Text
  allocStart : Option Text
  allocEnd : Option Text
  allocSource : Option Source
  onlineSeconds : Option Nat
  srcIp : Text
  srcPort : Option Nat
  natIp : Option Text
  natPort : Option Nat
  natSource : NatSource
  dstIp : Text
  dstPort : Option Nat
  protocol : Option Nat
  bytes : Nat
  packets : Option Nat
  portsMerged : Bool
  natEventOnly : Bool
  rk : Text
  deriving DecidableEq

def unknownUser : Text := "unknown".toList

def deviceUser : Text := "device".toList

def allocationDynamic : Text := "Dynamic".toList

def istOffset : Int := 19800000000

def istDay (micros : Int) : Int :=
  (micros + istOffset - firstMicros) / dayLength + 1

def istDayBounds (day : Int) : Int × Int :=
  (firstMicros + (day - 1) * dayLength - istOffset, firstMicros + day * dayLength - istOffset)

def istMinute (value : Option Text) : Text :=
  -- `DD-MM-YYYY HH:MM` in Asia/Kolkata; blank for nothing.
  match value.bind fromIso with
  | none => []
  | some moment =>
      let past := (moment.val + istOffset - firstMicros).toNat
      let date := civil (past / dayLength + 1)
      let clock := past % dayLength
      padded 2 date.day ++ '-' :: (padded 2 date.month ++ '-' :: (padded 4 date.year ++
        ' ' :: (padded 2 (clock / 3600000000) ++ ':' :: padded 2 (clock / 60000000 % 60))))

def dropLeadingZeros : List (Nat × Char) → List (Nat × Char)
  | (0, _) :: next :: rest => dropLeadingZeros (next :: rest)
  | parts => parts

def onlineTime : Option Nat → Text
  | none => []
  | some total =>
      let parts := [(total / 86400, 'd'), (total % 86400 / 3600, 'h'), (total % 3600 / 60, 'm'),
        (total % 60, 's')]
      joined ' ' ((dropLeadingZeros parts).map fun part => decimal part.1 ++ [part.2])

def protocolLabel : Option Nat → Text
  | none => []
  | some 1 => "ICMP".toList
  | some 6 => "TCP".toList
  | some 17 => "UDP".toList
  | some 58 => "ICMPv6".toList
  | some protocol => decimal protocol

def maskPhone (value : Option Text) : Text :=
  let digits := phoneDigits value
  if digits.length ≤ 4 then List.replicate digits.length 'x'
  else digits.take 2 ++ List.replicate (digits.length - 4) 'x' ++ digits.drop (digits.length - 2)

def maskEmail : Option Text → Text
  | none => []
  | some value =>
      match value.span (· ≠ '@') with
      | (_, []) => []
      | (name, _ :: domain) => name.take 1 ++ "***@".toList ++ domain

def maskIdentifier : Option Text → Text
  | none => []
  | some value =>
      if isEmail (some value) then maskEmail (some value)
      else if isPhone (some value) then maskPhone (some value)
      else value

def csvSafe (text : Text) : Text :=
  match text.head? with
  | some char =>
      -- The text is quoted with an apostrophe.
      if char ∈ ['=', '+', '-', '@', '\t', '\r'] then Char.ofNat 39 :: text else text
  | none => text

def userIdCell (record : Record) : Text :=
  if record.userKnown then if record.userId = [] then unknownUser else record.userId
  else if record.userClass = .device then deviceUser else unknownUser

/-- The on-screen row: the columns of the export with phone and email masked. -/
structure ListItem where
  timeStampIst : Text
  name : Text
  contactNo : Text
  alternateContactNo : Text
  email : Text
  userId : Text
  sourceIp : Text
  sourcePort : Text
  translatedIp : Text
  translatedPort : Text
  allocation : Text
  destinationIp : Text
  destinationPort : Text
  protocol : Text
  allocationStartIst : Text
  allocationEndIst : Text
  totalOnlineTime : Text
  mac : Text
  ts : Text
  locationId : Text
  routerId : Text
  translatedSource : NatSource
  tsSource : TsSource
  userKnown : Bool
  userClass : UserClass
  deviceKind : Option DeviceKind
  macSource : Option Source
  allocationSource : Option Source
  portsMerged : Bool
  natEventOnly : Bool
  deriving DecidableEq

def portCell (value : Option Nat) : Text := value.elim [] decimal

def allocSourceOf (record : Record) : Option Source :=
  -- `_alloc_source`; a record of before the field existed has the session's.
  record.allocSource.or
    (if record.userKnown ∧ record.allocStart.isSome then some .session else none)

def macSourceOf (record : Record) : Option Source :=
  record.macSource.or (if record.mac.isSome ∧ record.userKnown then some .session else none)

def listItem (record : Record) : ListItem :=
  let allocated := (allocSourceOf record).isSome
  { timeStampIst := csvSafe (istMinute (some record.ts))
    name := record.name.getD []
    contactNo := maskPhone record.phone
    alternateContactNo := maskPhone record.altPhone
    email := maskEmail record.email
    userId := if record.userKnown then maskIdentifier (some record.userId)
      else csvSafe (userIdCell record)
    sourceIp := csvSafe record.srcIp
    sourcePort := csvSafe (portCell record.srcPort)
    translatedIp := csvSafe (record.natIp.getD [])
    translatedPort := csvSafe (portCell record.natPort)
    allocation := csvSafe allocationDynamic
    destinationIp := csvSafe record.dstIp
    destinationPort := csvSafe (portCell record.dstPort)
    protocol := csvSafe (protocolLabel record.protocol)
    allocationStartIst := csvSafe (if allocated then istMinute record.allocStart else [])
    allocationEndIst := csvSafe (if allocated then istMinute record.allocEnd else [])
    totalOnlineTime := csvSafe (if allocated then onlineTime record.onlineSeconds else [])
    mac := csvSafe (record.mac.getD [])
    ts := record.ts
    locationId := record.locationId
    routerId := record.routerId
    translatedSource := record.natSource
    tsSource := record.tsSource
    userKnown := record.userKnown
    userClass := record.userClass
    deviceKind := record.deviceKind
    macSource := macSourceOf record
    allocationSource := allocSourceOf record
    portsMerged := record.portsMerged
    natEventOnly := record.natEventOnly }

end CloudGuest.Ipdr
