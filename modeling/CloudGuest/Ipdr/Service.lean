import CloudGuest.Ipdr.Records
import CloudGuest.Library.Base64
import CloudGuest.Library.Json

/-!
The IPDR service (`ipdr/service.py`): one day's matching records of a scope, the
on-screen pages with their cursor, and the export. The tables, the settings and
the clock are fixed here, so the short live cache only repeats what a build would
return and is left out.
-/

namespace CloudGuest.Ipdr

open Texts Calendar Sorting

section Cursors

/-- Where a page resumes: at a day, below one of its records when it was cut there. -/
structure IpdrCursor where
  day : Nat
  ts : Option Text
  key : Option Text
  deriving DecidableEq

def encodeCursor (cursor : IpdrCursor) : Text :=
  Base64.encodeBare (utf8 (Json.dumpsObject
    [(['d'], some (isoDate cursor.day)), (['t'], cursor.ts), (['k'], cursor.key)]))

def optionalText : Option Json.Value → Option (Option Text)
  -- A field that is a text, `null` or absent; any other value cannot be compared later.
  | none | some .null => some none
  | some (.text value) => some (some value)
  | some _ => none

def decodeCursor (text : Text) : Option IpdrCursor :=
  (Base64.decode (Base64.pad text)).bind fun bytes =>
    (fromUtf8 bytes).bind fun read =>
      match Json.loads read with
      | some (.object fields) =>
          match Json.get fields ['d'] with
          | some (.text date) => do
              let day ← fromIsoDate date
              let ts ← optionalText (Json.get fields ['t'])
              let key ← optionalText (Json.get fields ['k'])
              return ⟨day, ts, key⟩
          | _ => none
      | _ => none

end Cursors

/-- The filters of one request. Its days have bounds, or every read of it fails. -/
structure IpdrFilters where
  organizationId : Uuid
  since : Moment
  untilMoment : Moment
  locationId : Option Uuid
  routerId : Option Uuid
  phone : Option Text
  userId : Option Text
  mac : Option Text
  ip : Option Text
  dstIp : Option Text
  guestsOnly : Bool
  /-- The days of each location whose file has every subject asked for. -/
  subjectDays : Option (List (Uuid × Nat))
  nonempty : since.val < untilMoment.val
  onCalendar : 1 < istDay since.val ∧ istDay (untilMoment.val - 1) < maxOrdinal

/-- An archived day of one location: what was built for it, unless it cannot be read now. -/
structure DayFile where
  organizationId : Uuid
  locationId : Uuid
  day : Nat
  recordsIncomplete : Bool
  read : Option (List Record)
  built : ∀ rows ∈ read, ∃ flows input, rows = buildRecords flows input organizationId locationId
    (istDayBounds day).1 (istDayBounds day).2

structure Store where
  sources : Sources
  /-- The locations with their organization. -/
  locations : List (Uuid × Uuid)
  files : List DayFile
  retentionDays : Nat
  now : Int
  /-- `str.lower`. -/
  lower : Text → Text
  locationIds : (locations.map Prod.fst).Nodup
  fileDays : files.Pairwise fun left right =>
    left.locationId ≠ right.locationId ∨ left.day ≠ right.day

inductive CoverageStatus where
  | archived | live | missing
  deriving DecidableEq

structure Coverage where
  day : Nat
  archived : Nat
  live : Nat
  recordsIncomplete : Bool
  unreadable : Nat
  status : CoverageStatus
  deriving DecidableEq

section Days

variable (store : Store) (filters : IpdrFilters)

def recordMatches (record : Record) : Bool :=
  !(filters.guestsOnly && !record.userKnown) &&
    filters.routerId.all (record.routerId = ·.val) &&
    filters.phone.all (phoneKey record.phone = some ·) &&
    filters.userId.all (fun wanted =>
      record.userKnown && store.lower (strip record.userId) = wanted) &&
    filters.mac.all (record.mac = some ·) &&
    filters.ip.all (fun wanted => record.srcIp = wanted || record.natIp = some wanted) &&
    filters.dstIp.all (record.dstIp = ·) &&
    iso filters.since ≤ record.ts && record.ts < iso filters.untilMoment

def daysOf : List Nat :=
  let last := istDay (filters.untilMoment.val - 1)
  let first := istDay filters.since.val
  (List.range (last - first + 1).toNat).map fun back : Nat => (last - back).toNat

def liveOk (day : Nat) : Bool :=
  store.now - store.retentionDays * dayLength ≤ (istDayBounds day).1

def scopeLocations : List Uuid :=
  match filters.locationId with
  | some location => [location]
  | none =>
      sortOn Subtype.val
        ((store.locations.filter fun row => row.2 = filters.organizationId).map Prod.fst)

def dayFiles (day : Nat) (locations : List Uuid) : List DayFile :=
  sortOn (fun file => file.locationId.val) (store.files.filter fun file =>
    file.organizationId = filters.organizationId && file.day = day && file.locationId ∈ locations)

def flowing (start finish : Int) (locationId : Uuid) : Bool :=
  (locationId, filters.organizationId) ∈ store.locations &&
    store.sources.flows.any fun row =>
      row.locationId = some locationId && inWindow start finish row.flow

def liveLocations (day : Nat) (locations : List Uuid) : List Uuid :=
  let start := (istDayBounds day).1
  let finish := min (istDayBounds day).2 store.now
  if liveOk store day && start < finish then
    locations.filter fun location =>
      !(dayFiles store filters day locations).any (·.locationId = location) &&
        flowing store filters start finish location
  else []

def wantedFile (day : Nat) (file : DayFile) : Bool :=
  filters.subjectDays.all fun days => (file.locationId, day) ∈ days

def dayCoverage (day : Nat) (locations : List Uuid) : Coverage :=
  let files := dayFiles store filters day locations
  let live := (liveLocations store filters day locations).length
  { day
    archived := files.length
    live
    recordsIncomplete := files.any (·.recordsIncomplete)
    unreadable := (files.filter fun file => wantedFile filters day file && file.read.isNone).length
    status :=
      if live ≠ 0 then .live
      else if files ≠ [] then .archived
      else if liveOk store day then .live else .missing }

def dayRows (day : Nat) (locations : List Uuid) : List Record :=
  ((dayFiles store filters day locations).filter (wantedFile filters day)).flatMap
      (fun file => file.read.getD []) ++
    (liveLocations store filters day locations).flatMap fun location =>
      build store.sources location filters.organizationId (istDayBounds day).1
        (min (istDayBounds day).2 store.now)

def dayRecords (day : Nat) (locations : List Uuid) : List Record :=
  newestFirst ((dayRows store filters day locations).filter (recordMatches store filters))

end Days

section Paging

def defaultPageSize : Int := 50

def maxPageSize : Int := 200

def maxDaysPerPage : Nat := 31

def pageSize (limit : Option Int) : Nat :=
  let asked := match limit with
    | none => defaultPageSize
    | some value => if value = 0 then defaultPageSize else value
  (max 1 (min asked maxPageSize)).toNat

def belowCursor (cursor : Option IpdrCursor) (day : Nat) (records : List Record) : List Record :=
  match cursor with
  | some ⟨cursorDay, some (char :: rest), key⟩ =>
      if cursorDay = day then
        records.filter fun record => sortKey record < toLex (char :: rest, key.getD [])
      else records
  | _ => records

structure PageState where
  items : List Record
  coverage : List Coverage
  next : Option IpdrCursor

def pageLoop (read : Nat → List Record) (cover : Nat → Coverage) (cursor : Option IpdrCursor)
    (size : Nat) : Nat → List Nat → List Record → List Coverage → PageState
  -- The loop over the days of a page, which each of its four exits leaves another cursor.
  | _, [], items, coverage => ⟨items, coverage, none⟩
  | index, day :: following, items, coverage =>
      if maxDaysPerPage ≤ index then ⟨items, coverage, some ⟨day, none, none⟩⟩
      else
        let records := belowCursor cursor day (read day)
        let room := size - items.length
        let taken := items ++ records.take room
        let covered := coverage ++ [cover day]
        if room < records.length then
          ⟨taken, covered, taken.getLast?.map fun last => ⟨day, some last.ts, some last.rk⟩⟩
        else if size ≤ taken.length then
          ⟨taken, covered, following.head?.map fun next => ⟨next, none, none⟩⟩
        else pageLoop read cover cursor size (index + 1) following taken covered

structure Page where
  since : Moment
  untilMoment : Moment
  items : List ListItem
  nextCursor : Option Text
  coverage : List Coverage

variable (store : Store) (filters : IpdrFilters)

def daysFrom (cursor : Option IpdrCursor) : List Nat :=
  (daysOf filters).filter fun day => cursor.all (day ≤ ·.day)

def listPage (cursor : Option IpdrCursor) (limit : Option Int) : Page :=
  let locations := scopeLocations store filters
  let state := pageLoop (fun day => dayRecords store filters day locations)
    (fun day => dayCoverage store filters day locations) cursor (pageSize limit) 0
    (daysFrom filters cursor) [] []
  { since := filters.since
    untilMoment := filters.untilMoment
    items := state.items.map listItem
    nextCursor := state.next.map encodeCursor
    coverage := state.coverage }

def iterRecords : List Record :=
  (daysOf filters).flatMap fun day =>
    dayRecords store filters day (scopeLocations store filters)

end Paging

end CloudGuest.Ipdr
