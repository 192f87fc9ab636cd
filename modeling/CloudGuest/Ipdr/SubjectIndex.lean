import CloudGuest.Ipdr.Components
import CloudGuest.Ipdr.Service
import CloudGuest.Library.AddressForms
import CloudGuest.Library.Casing
import CloudGuest.Library.Faults

/-!
The subjects indexed with each archived day (`subject_value`, `subject_digest`,
`subjects_of`) and the filters that look a day up by them
(`build_filters`, `_with_subject_days`). A subject is normalised three times, by the
filter, by the index and by the match; normal forms are settled, so the three agree
and a day the index skips holds no match.
-/

namespace CloudGuest.Ipdr

open Texts Calendar Sorting Casing IpAddress
open Faults (bind_ok)

inductive SubjectKind where
  | phone | user | mac | ip
  deriving DecidableEq

def SubjectKind.name : SubjectKind → Text
  | .phone => "phone".toList
  | .user => "user".toList
  | .mac => "mac".toList
  | .ip => "ip".toList

structure Hashing where
  properties : Casing.Properties
  sha256 : List Nat → Text

structure SubjectRow where
  locationId : Uuid
  day : Nat
  kind : SubjectKind
  digest : Text
  deriving DecidableEq

section Index

variable (hashing : Hashing)

def userValue (value : Text) : Option Text :=
  let text := lower hashing.properties (strip value)
  if text = [] then none else some text

def subjectValue (kind : SubjectKind) : Option Text → Option Text
  | none | some [] => none
  | some value =>
      match kind with
      | .phone => phoneKey (some value)
      | .mac => normalizeMac (some value)
      | .ip => normalizeIp (some value)
      | .user => userValue hashing value

def subjectDigest (kind : SubjectKind) (value : Option Text) : Option Text :=
  (subjectValue hashing kind value).map fun normal =>
    hashing.sha256 (utf8 ("ipdr:".toList ++ kind.name ++ ':' :: normal))

def recordSubjects (record : Record) : List (SubjectKind × Option Text) :=
  [(.phone, record.phone),
    (.user, if record.userKnown then some record.userId else none),
    (.mac, record.mac),
    (.ip, some record.srcIp),
    (.ip, record.natIp)]

def subjectsOf (records : List Record) : List (SubjectKind × Text) :=
  records.flatMap fun record => (recordSubjects record).filterMap fun subject =>
    (subjectDigest hashing subject.1 subject.2).map fun digest => (subject.1, digest)

def Indexed (files : List DayFile) (subjects : List SubjectRow) : Prop :=
  ∀ file ∈ files, ∀ rows ∈ file.read, ∀ subject ∈ subjectsOf hashing rows,
    ⟨file.locationId, file.day, subject.1, subject.2⟩ ∈ subjects

end Index

structure IndexedStore extends Store where
  hashing : Hashing
  lowers : lower = Casing.lower hashing.properties
  /-- Each router with its organization and location, when it exists. -/
  routers : Uuid → Option (Option Uuid × Option Uuid)
  subjects : List SubjectRow
  indexed : Indexed hashing files subjects

section Filters

inductive FilterError where
  /-- `since must be before until`. -/
  | since
  | rangeTooLong (maxDays : Nat)
  | locationNotFound (locationId : Uuid)
  | routerNotFound (routerId : Uuid)
  /-- `Not a valid {field}: {value!r}`. -/
  | notValid (field value : Text)
  | badCursor
  /-- The range reaches a day whose bounds are outside the calendar. -/
  | offCalendar
  deriving DecidableEq

structure FilterRequest where
  organizationId : Uuid
  since : Option Moment
  untilMoment : Option Moment
  locationId : Option Uuid
  routerId : Option Uuid
  phone : Option Text
  userId : Option Text
  mac : Option Text
  ip : Option Text
  dstIp : Option Text
  guestsOnly : Bool
  cursor : Option Text

def maxRangeDays : Nat := 730

def defaultListWindow : Int := dayLength

def parsed (value : Option Text) (normalize : Text → Option Text) (field : Text) :
    Except FilterError (Option Text) :=
  match value with
  | none => .ok none
  | some text =>
      if strip text = [] then .ok none
      else
        match normalize text with
        | none => .error (.notValid field text)
        | some normal => .ok (some normal)

def parsedCursor : Option Text → Except FilterError (Option IpdrCursor)
  | none | some [] => .ok none
  | some text =>
      match decodeCursor text with
      | none => .error .badCursor
      | some cursor => .ok (some cursor)

variable (store : IndexedStore)

def locationOrganization (locationId : Uuid) : Option Uuid :=
  (store.locations.find? (·.1 = locationId)).map Prod.snd

def checkScope (request : FilterRequest) : Except FilterError Unit := do
  if let some locationId := request.locationId then
    if locationOrganization store locationId ≠ some request.organizationId then
      throw (.locationNotFound locationId)
  if let some routerId := request.routerId then
    match store.routers routerId with
    | none => throw (.routerNotFound routerId)
    | some (owner, location) =>
        if owner ≠ some request.organizationId then throw (.routerNotFound routerId)
        else if request.locationId.isSome ∧ location ≠ request.locationId then
          throw (.routerNotFound routerId)

def daysWithSubject (organizationId : Uuid) (first last : Nat) (kind : SubjectKind)
    (digest : Text) : List (Uuid × Nat) :=
  (store.files.filter fun file =>
    file.organizationId = organizationId && first ≤ file.day && file.day ≤ last &&
      (⟨file.locationId, file.day, kind, digest⟩ : SubjectRow) ∈ store.subjects).map
    fun file => (file.locationId, file.day)

def wantedSubjects (filters : IpdrFilters) : List (SubjectKind × Option Text) :=
  [(.phone, filters.phone), (.user, filters.userId), (.mac, filters.mac), (.ip, filters.ip)]

def narrow (filters : IpdrFilters) (allowed : Option (List (Uuid × Nat)))
    (wanted : SubjectKind × Option Text) : Option (List (Uuid × Nat)) :=
  match wanted.2 with
  | none => allowed
  | some value =>
      match subjectDigest store.hashing wanted.1 (some value) with
      | none => allowed
      | some digest =>
          let days := daysWithSubject store filters.organizationId
            ((daysOf filters).getLast?.getD 0) ((daysOf filters).head?.getD 0) wanted.1 digest
          some (match allowed with
            | none => days
            | some allowed => allowed.filter (· ∈ days))

def withSubjectDays (filters : IpdrFilters) : IpdrFilters :=
  { filters with
    subjectDays := (wantedSubjects filters).foldl (narrow store filters) none }

def buildFilters (request : FilterRequest) :
    Except FilterError (IpdrFilters × Option IpdrCursor) := do
  let some now := momentAt store.now | throw .offCalendar
  let untilMoment := request.untilMoment.getD now
  let some since := request.since.or (momentAt (untilMoment.val - defaultListWindow))
    | throw .offCalendar
  if nonempty : since.val < untilMoment.val then
    if (maxRangeDays * dayLength : Nat) < untilMoment.val - since.val then
      throw (.rangeTooLong maxRangeDays)
    else
      checkScope store request
      let phone ← parsed request.phone (fun value => phoneKey (some value)) "phone".toList
      let userId ← parsed request.userId (userValue store.hashing) "user_id".toList
      let mac ← parsed request.mac (fun value => normalizeMac (some value)) "mac".toList
      let ip ← parsed request.ip (fun value => normalizeIp (some value)) "ip".toList
      let dstIp ← parsed request.dstIp (fun value => normalizeIp (some value)) "dst_ip".toList
      let cursor ← parsedCursor request.cursor
      if onCalendar : 1 < istDay since.val ∧ istDay (untilMoment.val - 1) < maxOrdinal then
        return (withSubjectDays store
          { organizationId := request.organizationId
            since
            untilMoment
            locationId := request.locationId
            routerId := request.routerId
            phone
            userId
            mac
            ip
            dstIp
            guestsOnly := request.guestsOnly
            subjectDays := none
            nonempty
            onCalendar }, cursor)
      else throw .offCalendar
  else throw .since

end Filters

section NormalForms

theorem phoneDigits_idempotent (digits : Text) (all : ∀ char ∈ digits, isDecimal char = true) :
    phoneDigits (some digits) = digits := List.filter_eq_self.mpr all

theorem phoneKey_normal (value : Option Text) (normal : Text) (read : phoneKey value = some normal) :
    phoneKey (some normal) = some normal := by
  unfold phoneKey at read
  dsimp only at read
  split at read
  · rename_i long
    obtain rfl := Option.some.inj read
    have digits : ∀ char ∈ (phoneDigits value).drop ((phoneDigits value).length - 10),
        isDecimal char = true := fun char member =>
      (List.mem_filter.mp (List.mem_of_mem_drop member)).2
    have ten : ((phoneDigits value).drop ((phoneDigits value).length - 10)).length = 10 := by
      rw [List.length_drop]
      omega
    unfold phoneKey
    rw [phoneDigits_idempotent _ digits]
    simp [ten]
  · cases read

theorem pairs_flatten (text : Text) : (pairs text).flatten = text := by
  induction text using pairs.induct with
  | case1 first second rest ih => simp [pairs, ih]
  | case2 => rfl
  | case3 rest single nonempty =>
      rw [pairs, if_neg nonempty]
      · simp
      · exact single

theorem joined_filter (kept : Char → Bool) (separator : Char) (dropped : kept separator = false)
    (parts : List Text) : (joined separator parts).filter kept = parts.flatten.filter kept := by
  induction parts with
  | nil => rfl
  | cons part rest ih =>
      cases rest with
      | nil => simp [joined]
      | cons next rest => simp [joined, dropped, ih]

theorem hex_upper (char : Char) (hex : isHex char = true) :
    isHex char.toUpper = true ∧ char.toUpper.toUpper = char.toUpper := by
  have ascii : ∀ code : Fin 128, isHex (Char.ofNat code) = true →
      isHex (Char.ofNat code).toUpper = true ∧
        (Char.ofNat code).toUpper.toUpper = (Char.ofNat code).toUpper := by decide +kernel
  have small : char.toNat < 128 := by
    simp only [isHex, Char.isDigit, Bool.or_eq_true, Bool.and_eq_true, decide_eq_true_eq] at hex
    change ((48 ≤ char.toNat ∧ char.toNat ≤ 57) ∨ (97 ≤ char.toNat ∧ char.toNat ≤ 102)) ∨
      65 ≤ char.toNat ∧ char.toNat ≤ 70 at hex
    omega
  simpa using ascii ⟨char.toNat, small⟩ (by simpa using hex)

theorem normalizeMac_some (text : Text) (nonempty : text ≠ []) :
    normalizeMac (some text) =
      if ((text.filter isHex).map Char.toUpper).length = 12
      then some (joined ':' (pairs ((text.filter isHex).map Char.toUpper))) else none := by
  cases text with
  | nil => exact absurd rfl nonempty
  | cons first rest => rfl

theorem normalizeMac_normal (value : Option Text) (normal : Text)
    (read : normalizeMac value = some normal) : normalizeMac (some normal) = some normal := by
  match value with
  | none | some [] => cases read
  | some (char :: rest) =>
      simp only [normalizeMac] at read
      split at read
      · rename_i twelve
        obtain rfl := Option.some.inj read
        have hexes : ∀ hex ∈ ((char :: rest).filter isHex).map Char.toUpper,
            isHex hex = true ∧ hex.toUpper = hex := by
          intro hex member
          obtain ⟨source, sourceMember, rfl⟩ := List.mem_map.mp member
          exact hex_upper source (List.mem_filter.mp sourceMember).2
        generalize ((char :: rest).filter isHex).map Char.toUpper = upper at twelve hexes
        -- Joining with colons adds nothing the second reading would keep.
        have again : (joined ':' (pairs upper)).filter isHex = upper := by
          rw [joined_filter isHex ':' (by decide), pairs_flatten]
          exact List.filter_eq_self.mpr fun hex member => (hexes hex member).1
        have fixed : upper.map Char.toUpper = upper := by
          rw [List.map_congr_left fun hex member => (hexes hex member).2, List.map_id']
        have nonempty : joined ':' (pairs upper) ≠ [] := by
          intro empty
          rw [empty] at again
          simp [← again] at twelve
        rw [normalizeMac_some _ nonempty, again, fixed, if_pos twelve]
      · cases read

theorem normalizeIp_normal (value : Option Text) (normal : Text)
    (read : normalizeIp value = some normal) : normalizeIp (some normal) = some normal := by
  match value with
  | none | some [] => cases read
  | some (char :: rest) =>
      have canonical := ipAddress_canonical _ _ read
      have stripped := ipAddress_stripped _ _ read (strip_stripped _)
      cases normal with
      | nil => exact absurd canonical (by decide)
      | cons first more =>
          change ipAddress (strip (first :: more)) = _
          rw [strip_of_stripped _ stripped, canonical]

theorem userValue_normal (hashing : Hashing) (value normal : Text)
    (read : userValue hashing value = some normal) : userValue hashing normal = some normal := by
  unfold userValue at read
  dsimp only at read
  split at read
  · cases read
  · rename_i written
    obtain rfl := Option.some.inj read
    -- Lowering brings no white space to the ends, so nothing is stripped again.
    have stripped := lower_stripped hashing.properties _ (strip_stripped value)
    unfold userValue
    rw [strip_of_stripped _ stripped, lower_lower]
    exact if_neg written

def normalizer (hashing : Hashing) : SubjectKind → Text → Option Text
  | .phone, value => phoneKey (some value)
  | .user, value => userValue hashing value
  | .mac, value => normalizeMac (some value)
  | .ip, value => normalizeIp (some value)

theorem subjectValue_some (hashing : Hashing) (kind : SubjectKind) (value : Text) :
    subjectValue hashing kind (some value) = normalizer hashing kind value := by
  cases value with
  | nil => cases kind <;> rfl
  | cons char rest => cases kind <;> rfl

theorem normalizer_normal (hashing : Hashing) (kind : SubjectKind) (value normal : Text)
    (read : normalizer hashing kind value = some normal) :
    normalizer hashing kind normal = some normal := by
  cases kind with
  | phone => exact phoneKey_normal _ _ read
  | user => exact userValue_normal hashing _ _ read
  | mac => exact normalizeMac_normal _ _ read
  | ip => exact normalizeIp_normal _ _ read

end NormalForms

section Completeness

variable (hashing : Hashing)

def Normal (subject : SubjectKind × Option Text) : Prop :=
  ∀ value ∈ subject.2, normalizer hashing subject.1 value = some value

theorem parsed_normal (kind : SubjectKind) (value : Option Text) (field : Text)
    (normal : Option Text) (read : parsed value (normalizer hashing kind) field = .ok normal) :
    Normal hashing (kind, normal) := by
  intro subject member
  unfold parsed at read
  split at read
  · cases read
    cases member
  · split at read
    · cases read
      cases member
    · split at read
      · cases read
      · rename_i found
        cases read
        cases member
        exact normalizer_normal hashing kind _ _ found

theorem recordMatches_subject (store : IndexedStore) (filters : IpdrFilters) (record : Record)
    (found : recordMatches store.toStore filters record = true) (kind : SubjectKind) (value : Text)
    (wanted : (kind, some value) ∈ wantedSubjects filters)
    (normal : Normal store.hashing (kind, some value)) :
    ∃ held, (kind, held) ∈ recordSubjects record ∧
      subjectValue store.hashing kind held = some value := by
  have settled := normal value rfl
  simp only [recordMatches, Bool.and_eq_true] at found
  obtain ⟨⟨⟨⟨⟨⟨⟨⟨-, -⟩, phone⟩, user⟩, mac⟩, ip⟩, -⟩, -⟩, -⟩ := found
  simp only [wantedSubjects, List.mem_cons, Prod.mk.injEq, List.not_mem_nil, or_false] at wanted
  -- The match and the index name the four kinds by hand, so each is compared on its own.
  rcases wanted with ⟨rfl, given⟩ | ⟨rfl, given⟩ | ⟨rfl, given⟩ | ⟨rfl, given⟩
  · rw [← given] at phone
    have same : phoneKey record.phone = some value := by simpa using phone
    refine ⟨record.phone, by simp [recordSubjects], ?_⟩
    cases held : record.phone with
    | none =>
        rw [held] at same
        cases same
    | some text => rwa [subjectValue_some, normalizer, ← held]
  · rw [← given] at user
    have known : record.userKnown = true ∧ store.lower (strip record.userId) = value := by
      simpa using user
    have written : value ≠ [] := by
      rintro rfl
      cases settled
    refine ⟨some record.userId, by simp [recordSubjects, known.1], ?_⟩
    rw [subjectValue_some, normalizer, userValue, ← store.lowers, known.2]
    exact if_neg written
  · rw [← given] at mac
    have same : record.mac = some value := by simpa using mac
    refine ⟨record.mac, by simp [recordSubjects], ?_⟩
    rw [same, subjectValue_some, settled]
  · rw [← given] at ip
    have same : record.srcIp = value ∨ record.natIp = some value := by simpa using ip
    -- A record matches by either address, and the index has both under the one kind.
    rcases same with source | translated
    · refine ⟨some record.srcIp, by simp [recordSubjects], ?_⟩
      rw [source, subjectValue_some, settled]
    · refine ⟨record.natIp, by simp [recordSubjects], ?_⟩
      rw [translated, subjectValue_some, settled]

theorem matching_indexed (store : IndexedStore) (filters : IpdrFilters) (records : List Record)
    (record : Record) (member : record ∈ records)
    (found : recordMatches store.toStore filters record = true) (kind : SubjectKind) (value : Text)
    (wanted : (kind, some value) ∈ wantedSubjects filters)
    (normal : Normal store.hashing (kind, some value)) :
    ∃ digest, subjectDigest store.hashing kind (some value) = some digest ∧
      (kind, digest) ∈ subjectsOf store.hashing records := by
  obtain ⟨held, inRecord, same⟩ :=
    recordMatches_subject store filters record found kind value wanted normal
  have asked : subjectValue store.hashing kind (some value) = some value := by
    rw [subjectValue_some, normal value rfl]
  refine ⟨_, by rw [subjectDigest, asked, Option.map_some], ?_⟩
  refine List.mem_flatMap.mpr ⟨record, member, List.mem_filterMap.mpr ⟨_, inRecord, ?_⟩⟩
  simp only [subjectDigest, same, Option.map_some]

theorem narrow_keeps (store : IndexedStore) (filters : IpdrFilters)
    (wanted : List (SubjectKind × Option Text)) (place : Uuid × Nat)
    (led : ∀ kind value, (kind, some value) ∈ wanted → ∀ digest,
      subjectDigest store.hashing kind (some value) = some digest →
        place ∈ daysWithSubject store filters.organizationId
          ((daysOf filters).getLast?.getD 0) ((daysOf filters).head?.getD 0) kind digest)
    (allowed : Option (List (Uuid × Nat))) (before : ∀ days ∈ allowed, place ∈ days) :
    ∀ days ∈ wanted.foldl (narrow store filters) allowed, place ∈ days := by
  induction wanted generalizing allowed with
  | nil => exact before
  | cons subject rest ih =>
      apply ih
      · intro kind value member
        exact led kind value (List.mem_cons_of_mem _ member)
      · obtain ⟨kind, value⟩ := subject
        unfold narrow
        cases value with
        | none => exact before
        | some value =>
            dsimp only
            -- A subject without a digest narrows nothing.
            cases found : subjectDigest store.hashing kind (some value) with
            | none => exact before
            | some digest =>
                have here := led kind value List.mem_cons_self digest found
                intro days member
                cases allowed with
                | none =>
                    obtain rfl := Option.some.inj member
                    exact here
                | some earlier =>
                    obtain rfl := Option.some.inj member
                    exact List.mem_filter.mpr ⟨before earlier rfl, decide_eq_true here⟩

theorem daysOf_between (filters : IpdrFilters) (day : Nat) (member : day ∈ daysOf filters) :
    (daysOf filters).getLast?.getD 0 ≤ day ∧ day ≤ (daysOf filters).head?.getD 0 := by
  unfold daysOf at member ⊢
  dsimp only at member ⊢
  obtain ⟨back, inRange, rfl⟩ := List.mem_map.mp member
  rw [List.mem_range] at inRange
  rw [List.getLast?_map, List.head?_map, List.getLast?_range, List.head?_range,
    if_neg (by omega), if_neg (by omega)]
  simp only [Option.map_some, Option.getD_some]
  omega

theorem filter_flatMap_skipped {Block Item : Type} (blocks : List Block) (items : Block → List Item)
    (kept : Block → Bool) (wanted : Item → Bool)
    (none_skipped : ∀ block ∈ blocks, ∀ item ∈ items block, wanted item = true →
      kept block = true) :
    ((blocks.filter kept).flatMap items).filter wanted = (blocks.flatMap items).filter wanted := by
  induction blocks with
  | nil => rfl
  | cons block rest ih =>
      have later := ih fun other member => none_skipped other (List.mem_cons_of_mem _ member)
      cases keep : kept block with
      | true => simp [keep, later]
      | false =>
          have nothing : (items block).filter wanted = [] := by
            rw [List.filter_eq_nil_iff]
            intro item member found
            rw [none_skipped block List.mem_cons_self item member found] at keep
            cases keep
          simp [keep, later, nothing]

theorem wantedFile_of_match (store : IndexedStore) (base : IpdrFilters)
    (normal : ∀ subject ∈ wantedSubjects base, Normal store.hashing subject) (day : Nat)
    (inRange : day ∈ daysOf base) (locations : List Uuid) (file : DayFile)
    (member : file ∈ dayFiles store.toStore base day locations) (record : Record)
    (inFile : record ∈ file.read.getD [])
    (found : recordMatches store.toStore base record = true) :
    wantedFile (withSubjectDays store base) day file = true := by
  simp only [dayFiles, mem_sortOn, List.mem_filter, Bool.and_eq_true, decide_eq_true_eq] at member
  obtain ⟨stored, ⟨owner, sameDay⟩, -⟩ := member
  obtain ⟨first, last⟩ := daysOf_between base day inRange
  unfold wantedFile
  rw [Option.all_eq_true]
  intro days allowed
  apply decide_eq_true
  refine narrow_keeps store base (wantedSubjects base) (file.locationId, day) ?_ none (by simp)
    days allowed
  intro kind value wanted digest asked
  -- A file that cannot be read holds no record at all.
  cases readable : file.read with
  | none => simp [readable] at inFile
  | some rows =>
      rw [readable] at inFile
      obtain ⟨same, sameDigest, indexed⟩ := matching_indexed store base rows record inFile found
        kind value wanted (normal _ wanted)
      obtain rfl := Option.some.inj (asked.symm.trans sameDigest)
      have inTable := store.indexed file stored rows readable _ indexed
      rw [sameDay] at inTable
      refine List.mem_map.mpr ⟨file, List.mem_filter.mpr ⟨stored, ?_⟩, by rw [sameDay]⟩
      simp [owner, sameDay, first, last, inTable]

theorem dayRecords_withSubjectDays (store : IndexedStore) (base : IpdrFilters)
    (normal : ∀ subject ∈ wantedSubjects base, Normal store.hashing subject) (day : Nat)
    (inRange : day ∈ daysOf base) (locations : List Uuid) :
    dayRecords store.toStore (withSubjectDays store base) day locations =
      dayRecords store.toStore { base with subjectDays := none } day locations := by
  have files := filter_flatMap_skipped (dayFiles store.toStore base day locations)
    (fun file => file.read.getD []) (wantedFile (withSubjectDays store base) day)
    (recordMatches store.toStore base) fun file member record inFile found =>
      wantedFile_of_match store base normal day inRange locations file member record inFile found
  have every : (dayFiles store.toStore base day locations).filter
      (wantedFile { base with subjectDays := none } day) =
        dayFiles store.toStore base day locations := List.filter_eq_self.mpr fun _ _ => rfl
  -- The records not yet in a day file are taken in both cases.
  unfold dayRecords dayRows
  rw [List.filter_append, List.filter_append]
  change newestFirst ((((dayFiles store.toStore base day locations).filter
    (wantedFile (withSubjectDays store base) day)).flatMap fun file => file.read.getD []).filter
      (recordMatches store.toStore base) ++ _) = newestFirst ((((dayFiles store.toStore base day
        locations).filter (wantedFile { base with subjectDays := none } day)).flatMap
          fun file => file.read.getD []).filter (recordMatches store.toStore base) ++ _)
  rw [files, every]
  rfl

/-- Filters `build_filters` accepts hold normal forms, and the days their digests lead to. -/
theorem buildFilters_normal (store : IndexedStore) (request : FilterRequest)
    (filters : IpdrFilters) (cursor : Option IpdrCursor)
    (accepted : buildFilters store request = .ok (filters, cursor)) :
    ∃ base, filters = withSubjectDays store base ∧
      ∀ subject ∈ wantedSubjects base, Normal store.hashing subject := by
  unfold buildFilters at accepted
  split at accepted
  · rename_i now _
    dsimp only at accepted
    split at accepted
    · rename_i since _
      split at accepted
      · rename_i nonempty
        split at accepted
        · cases accepted
        · obtain ⟨_, -, accepted⟩ := bind_ok.mp accepted
          obtain ⟨phone, phoneRead, accepted⟩ := bind_ok.mp accepted
          obtain ⟨userId, userRead, accepted⟩ := bind_ok.mp accepted
          obtain ⟨mac, macRead, accepted⟩ := bind_ok.mp accepted
          obtain ⟨ip, ipRead, accepted⟩ := bind_ok.mp accepted
          obtain ⟨dstIp, -, accepted⟩ := bind_ok.mp accepted
          obtain ⟨_, -, accepted⟩ := bind_ok.mp accepted
          split at accepted
          · cases accepted
            refine ⟨_, rfl, ?_⟩
            simp only [wantedSubjects, List.mem_cons, List.not_mem_nil, or_false,
              forall_eq_or_imp, forall_eq]
            exact ⟨parsed_normal store.hashing .phone _ _ _ phoneRead,
              parsed_normal store.hashing .user _ _ _ userRead,
              parsed_normal store.hashing .mac _ _ _ macRead,
              parsed_normal store.hashing .ip _ _ _ ipRead⟩
          · cases accepted
      · cases accepted
    · cases accepted
  · cases accepted

/-- No subject a search gives hides a match: every one is indexed with the day of a matching
record, and the days the index leaves out have none. -/
theorem search_complete (store : IndexedStore) (request : FilterRequest) (filters : IpdrFilters)
    (cursor : Option IpdrCursor)
    (accepted : buildFilters store request = .ok (filters, cursor)) :
    (∀ records : List Record, ∀ record ∈ records,
      recordMatches store.toStore filters record = true →
      ∀ kind value, (kind, some value) ∈ wantedSubjects filters →
        ∃ digest, subjectDigest store.hashing kind (some value) = some digest ∧
          (kind, digest) ∈ subjectsOf store.hashing records) ∧
    ∀ day ∈ daysOf filters, ∀ locations,
      dayRecords store.toStore filters day locations =
        dayRecords store.toStore { filters with subjectDays := none } day locations := by
  obtain ⟨base, rfl, normal⟩ := buildFilters_normal store request filters cursor accepted
  constructor
  · intro records record member found kind value wanted
    exact matching_indexed store base records record member found kind value wanted
      (normal _ wanted)
  · intro day inRange locations
    exact dayRecords_withSubjectDays store base normal day inRange locations

def digests : List (Text × Text) :=
  [("ipdr:phone:9876543210".toList,
      "d9a221ae63775ee805b558a645cf5887eedfbc8f672adf65de847ea3bcc729a2".toList),
    ("ipdr:user:+919876543210".toList,
      "ce6af24785293901538c6c3a7d456bd38d1b28703128095fbb32f47c0c26084d".toList),
    ("ipdr:ip:10.0.0.2".toList,
      "2c1951155f7e318429d921bdead8cf4721d4c322e1afde1c70833a2add6e9d6d".toList)]

def emptyArchive : IndexedStore where
  sources := ⟨[], [], [], [], [], fun _ _ => ⟨[], [], []⟩, 0⟩
  locations := []
  files := []
  retentionDays := 7
  now := 0
  lower := Casing.lower ⟨Char.isAlpha, fun char => char = '.'⟩
  locationIds := List.nodup_nil
  fileDays := .nil
  hashing := {
    properties := ⟨Char.isAlpha, fun char => char = '.'⟩
    sha256 := fun bytes =>
      ((digests.find? fun entry => utf8 entry.1 = bytes).map Prod.snd).getD [] }
  lowers := rfl
  routers := fun _ => none
  subjects := []
  indexed := fun _ member => absurd member List.not_mem_nil

def phoneRequest : FilterRequest where
  organizationId := ⟨['o'], isToken_of_all _ rfl⟩
  since := none
  untilMoment := none
  locationId := none
  routerId := none
  phone := some "+91 98765-43210".toList
  userId := none
  mac := none
  ip := none
  dstIp := none
  guestsOnly := false
  cursor := none

theorem epoch_inRange : 0 < 1000000 := by decide

def phoneSession : SessionInput where
  id := someUuid
  guestId := someUuid
  routerId := (exchanged .upload midnight midnight).routerId
  ipAddress := some "10.0.0.2".toList
  startedAt := secondsAfter 0 epoch_inRange
  endedAt := none
  lastActivityAt := none
  identifier := some "+919876543210".toList
  displayName := none
  email := none
  macAddress := none

def phoneDay : DayFile where
  organizationId := phoneRequest.organizationId
  locationId := someUuid
  day := 719163
  recordsIncomplete := false
  read := some (buildRecords mirrored ⟨[phoneSession], [], 0, ⟨[], []⟩, ⟨[], [], []⟩⟩
    phoneRequest.organizationId someUuid (istDayBounds 719163).1 (istDayBounds 719163).2)
  built := fun _ readable => ⟨_, _, (Option.some.inj readable).symm⟩

def phoneArchive : IndexedStore :=
  { emptyArchive with
    locations := [(someUuid, phoneRequest.organizationId)]
    files := [phoneDay]
    now := 66600000000
    locationIds := List.nodup_singleton _
    fileDays := List.pairwise_singleton _ _
    subjects := (subjectsOf emptyArchive.hashing (phoneDay.read.getD [])).map fun subject =>
      ⟨someUuid, 719163, subject.1, subject.2⟩
    indexed := by
      intro file member rows readable subject indexed
      obtain rfl := List.mem_singleton.mp member
      obtain rfl := Option.some.inj readable
      exact List.mem_map.mpr ⟨subject, indexed, rfl⟩ }

/-- The session is found by its guest's number: its day is among those the index names. -/
theorem search_complete_phone :
    ∃ filters cursor, buildFilters phoneArchive phoneRequest = .ok (filters, cursor) ∧
      (∃ record ∈ phoneDay.read.getD [], recordMatches phoneArchive.toStore filters record = true) ∧
      (∃ digest,
        subjectDigest emptyArchive.hashing .phone (some "9876543210".toList) = some digest ∧
        (.phone, digest) ∈ subjectsOf emptyArchive.hashing (phoneDay.read.getD [])) ∧
      ∀ day ∈ daysOf filters, ∀ locations,
        dayRecords phoneArchive.toStore filters day locations =
          dayRecords phoneArchive.toStore { filters with subjectDays := none } day locations := by
  have checked : (buildFilters phoneArchive phoneRequest).toOption.any (fun answer =>
      (phoneDay.read.getD []).any (recordMatches phoneArchive.toStore answer.1) &&
        decide ((.phone, some "9876543210".toList) ∈ wantedSubjects answer.1)) = true := by
    decide +kernel
  cases accepted : buildFilters phoneArchive phoneRequest with
  | error refusal =>
      rw [accepted] at checked
      cases checked
  | ok answer =>
      rw [accepted] at checked
      obtain ⟨matching, wanted⟩ := Bool.and_eq_true_iff.mp checked
      obtain ⟨record, member, found⟩ := List.any_eq_true.mp matching
      obtain ⟨indexed, skipping⟩ := search_complete phoneArchive phoneRequest answer.1 answer.2 accepted
      exact ⟨answer.1, answer.2, rfl, ⟨record, member, found⟩,
        indexed _ record member found .phone _ (of_decide_eq_true wanted), skipping⟩

end Completeness

end CloudGuest.Ipdr
