import CloudGuest.Ipdr.Connections
import CloudGuest.Ipdr.Service
import CloudGuest.Library.Pages

/-!
The pages of a range are its export. The instant and the tie-break of a record
name it among all records of a day, so a cursor that keeps what is strictly below
a record resumes exactly after it; each page then yields the front of what its
cursor leaves.
-/

namespace CloudGuest.Ipdr

open Texts Calendar Sorting

section Keys

theorem numberText_token (value : Option Nat) : IsToken (numberText value) := by
  cases value with
  | none => simp [numberText, IsToken]
  | some number => exact decimal_token number

theorem decimal_ne_nil (number : Nat) : decimal number ≠ [] := by
  intro empty
  have length := congrArg List.length empty
  have positive := Nat.length_toDigits_pos (b := 10) (n := number)
  simp only [decimal] at length
  simp [length] at positive

theorem numberText_injective : Function.Injective numberText := by
  intro left right equal
  cases left with
  | none =>
      cases right with
      | none => rfl
      | some number => exact absurd equal.symm (decimal_ne_nil number)
  | some number =>
      cases right with
      | none => exact absurd equal (decimal_ne_nil number)
      | some other => exact congrArg some (decimal_injective equal)

theorem bar_not_in_token {text : Text} (token : IsToken text) : '|' ∉ text := by
  intro member
  exact absurd (token '|' member) (by decide)

/-- The texts a record is told by besides its location. -/
structure TokenKey (key : ConnectionKey) : Prop where
  guestIp : IsToken key.guestIp
  remoteIp : IsToken key.remoteIp

theorem oriented_tokens (flow : FlowInput) (ends : Oriented) (made : oriented flow = some ends) :
    TokenKey (pieceOf flow ends).key := by
  have sides : ∀ (guest remote : Inet) (guestPort remotePort natPort : Option Nat)
      (natIp : Option Text),
      orientedEnds guest.val guestPort remote.val remotePort natIp natPort = some ends →
      TokenKey (pieceOf flow ends).key := by
    intro guest remote guestPort remotePort natPort natIp given
    obtain ⟨other, other_eq, guestIp, -, remoteIp, -⟩ :=
      orientedEnds_inet guest remote guestPort remotePort natIp natPort
    obtain rfl : other = ends := Option.some.inj (other_eq.symm.trans given)
    refine ⟨?_, ?_⟩
    · change IsToken other.guestIp
      rw [guestIp]
      exact inet_token guest
    · change IsToken other.remoteIp
      rw [remoteIp]
      exact inet_token remote
  unfold oriented at made
  split at made
  · exact sides _ _ _ _ _ _ made
  · split at made
    · cases made
    · exact sides _ _ _ _ _ _ made
  · cases made

theorem folded_tokens (flows : List FlowInput) (gap : Int) :
    ∀ connection ∈ foldConnections flows gap, TokenKey connection.key :=
  foldConnections_key TokenKey flows gap fun flow _ ends made => oriented_tokens flow ends made

def keyParts (location : Uuid) (connection : Connection) : List Text :=
  [location.val, connection.routerId.val, iso connection.windowStart, connection.guestIp,
    numberText connection.guestPort, connection.remoteIp, numberText connection.remotePort,
    numberText connection.protocol]

theorem keyParts_token (location : Uuid) (connection : Connection)
    (tokens : TokenKey connection.key) : ∀ part ∈ keyParts location connection, IsToken part := by
  simp only [keyParts, List.mem_cons, List.not_mem_nil, or_false, forall_eq_or_imp, forall_eq]
  exact ⟨location.property, connection.routerId.property, iso_token _, tokens.guestIp,
    numberText_token _, tokens.remoteIp, numberText_token _, numberText_token _⟩

theorem keyParts_plain (location : Uuid) (connection : Connection)
    (tokens : TokenKey connection.key) : ∀ part ∈ keyParts location connection, '|' ∉ part :=
  fun part member => bar_not_in_token (keyParts_token location connection tokens part member)

theorem recordKey_tells (leftLocation rightLocation : Uuid) (left right : Connection)
    (leftTokens : TokenKey left.key) (rightTokens : TokenKey right.key)
    (equal : recordKey leftLocation.val left.routerId.val (iso left.windowStart) left.guestIp
        left.guestPort left.remoteIp left.remotePort left.protocol =
      recordKey rightLocation.val right.routerId.val (iso right.windowStart) right.guestIp
        right.guestPort right.remoteIp right.remotePort right.protocol) :
    leftLocation = rightLocation ∧ left.key = right.key := by
  have parts := joined_injective '|' (keyParts leftLocation left) (keyParts rightLocation right) rfl
    (keyParts_plain leftLocation left leftTokens) (keyParts_plain rightLocation right rightTokens)
    equal
  simp only [keyParts, List.cons.injEq, and_true] at parts
  obtain ⟨location, router, -, guestIp, guestPort, remoteIp, remotePort, protocol⟩ := parts
  refine ⟨Subtype.ext location, ?_⟩
  simp only [Connection.key, ConnectionKey.mk.injEq]
  exact ⟨Subtype.ext router, guestIp, numberText_injective guestPort, remoteIp,
    numberText_injective remotePort, numberText_injective protocol⟩

end Keys

section Uniqueness

/-- Rows of one location, told apart by instant and tie-break. -/
structure RowsOf (location : Uuid) (rows : List Record) : Prop where
  keyed : ∀ record ∈ rows, ∃ connection : Connection, TokenKey connection.key ∧
    record.ts = iso connection.ts ∧ record.rk = joined '|' (keyParts location connection)
  distinct : (rows.map sortKey).Nodup

theorem markAmbiguous_keys (records : List Record) :
    (markAmbiguous records).map sortKey = records.map sortKey := by
  rw [markAmbiguous, List.map_map]
  refine List.map_congr_left ?_
  intro record _
  simp only [Function.comp]
  split
  · rfl
  · rfl

theorem newestFirst_perm (records : List Record) : (newestFirst records).Perm records :=
  sortOn_perm _ records

theorem buildRecords_rows (flows : List FlowInput) (input : JoinInput)
    (organizationId locationId : Uuid) (start finish : Int) :
    RowsOf locationId (buildRecords flows input organizationId locationId start finish) := by
  constructor
  · intro record member
    obtain ⟨connection, inFolded, -, -, source, rfl⟩ :=
      buildRecords_of flows input organizationId locationId start finish record member
    exact ⟨connection, folded_tokens flows stitchGap connection inFolded, rfl, rfl⟩
  · rw [buildRecords, ((newestFirst_perm _).map sortKey).nodup_iff, markAmbiguous_keys,
      List.map_map, List.Nodup, List.pairwise_map]
    refine List.Pairwise.imp_of_mem ?_
      ((foldConnections_distinct flows stitchGap (by decide)).filter _)
    intro left right inLeft inRight different same
    obtain ⟨instant, tie⟩ := Prod.ext_iff.mp (toLex.injective same)
    have leftTokens := folded_tokens flows stitchGap left (List.mem_filter.mp inLeft).1
    have rightTokens := folded_tokens flows stitchGap right (List.mem_filter.mp inRight).1
    have keys := (recordKey_tells locationId locationId left right leftTokens rightTokens tie).2
    rcases different with otherKey | otherStart
    · exact otherKey keys
    · exact otherStart (iso_injective instant)

theorem build_rows (sources : Sources) (locationId organizationId : Uuid) (start finish : Int) :
    RowsOf locationId (build sources locationId organizationId start finish) := by
  simp only [build]
  split
  · exact ⟨by simp, by simp⟩
  · exact buildRecords_rows _ _ _ _ _ _

theorem rows_apart {left right : Uuid} {leftRows rightRows : List Record}
    (leftOf : RowsOf left leftRows) (rightOf : RowsOf right rightRows) (different : left ≠ right) :
    ∀ record ∈ leftRows, ∀ other ∈ rightRows, sortKey record ≠ sortKey other := by
  intro record member other inOthers same
  obtain ⟨connection, tokens, -, keyed⟩ := leftOf.keyed record member
  obtain ⟨otherConnection, otherTokens, -, otherKeyed⟩ := rightOf.keyed other inOthers
  have tie : record.rk = other.rk := (Prod.ext_iff.mp (toLex.injective same)).2
  rw [keyed, otherKeyed] at tie
  exact different (recordKey_tells left right connection otherConnection tokens otherTokens tie).1

theorem parts_distinct (parts : List (Uuid × List Record))
    (rows : ∀ part ∈ parts, RowsOf part.1 part.2)
    (locations : parts.Pairwise fun left right => left.1 ≠ right.1) :
    ((parts.flatMap Prod.snd).map sortKey).Nodup := by
  rw [List.Nodup, List.pairwise_map, List.pairwise_flatMap]
  constructor
  · intro part member
    exact List.pairwise_map.mp (rows part member).distinct
  · refine locations.imp_of_mem ?_
    intro left right inLeft inRight different
    exact rows_apart (rows left inLeft) (rows right inRight) different

variable (store : Store) (filters : IpdrFilters)

def dayParts (day : Nat) (locations : List Uuid) : List (Uuid × List Record) :=
  ((dayFiles store filters day locations).filter (wantedFile filters day)).map
      (fun file => (file.locationId, file.read.getD [])) ++
    (liveLocations store filters day locations).map fun location =>
      (location, build store.sources location filters.organizationId (istDayBounds day).1
        (min (istDayBounds day).2 store.now))

theorem dayParts_rows (day : Nat) (locations : List Uuid) :
    (dayParts store filters day locations).flatMap Prod.snd =
      dayRows store filters day locations := by
  simp only [dayParts, dayRows, List.flatMap_append, List.flatMap_map]

theorem mem_liveLocations (day : Nat) (locations : List Uuid) (location : Uuid)
    (member : location ∈ liveLocations store filters day locations) :
    ∀ file ∈ dayFiles store filters day locations, file.locationId ≠ location := by
  simp only [liveLocations] at member
  split at member
  · have kept := (List.mem_filter.mp member).2
    simp only [Bool.and_eq_true, Bool.not_eq_true', List.any_eq_false, decide_eq_true_eq] at kept
    exact kept.1
  · cases member

theorem dayFiles_distinct (day : Nat) (locations : List Uuid) :
    (dayFiles store filters day locations).Pairwise fun left right =>
      left.locationId ≠ right.locationId := by
  rw [dayFiles, (sortOn_perm _ _).pairwise_iff (fun different => Ne.symm different)]
  refine (store.fileDays.filter _).imp_of_mem ?_
  intro left right inLeft inRight different
  have leftKept := (List.mem_filter.mp inLeft).2
  have rightKept := (List.mem_filter.mp inRight).2
  simp only [Bool.and_eq_true, decide_eq_true_eq] at leftKept rightKept
  rcases different with location | otherDay
  · exact location
  · exact absurd (leftKept.1.2.trans rightKept.1.2.symm) otherDay

theorem scopeLocations_nodup : (scopeLocations store filters).Nodup := by
  unfold scopeLocations
  split
  · simp
  · refine (sortOn_perm _ _).nodup_iff.mpr ?_
    exact store.locationIds.sublist (List.filter_sublist.map _)

theorem dayParts_of (day : Nat) (locations : List Uuid) (part : Uuid × List Record)
    (member : part ∈ dayParts store filters day locations) : RowsOf part.1 part.2 := by
  rcases List.mem_append.mp member with archived | live
  · obtain ⟨file, -, rfl⟩ := List.mem_map.mp archived
    cases readable : file.read with
    | none => exact ⟨by simp, by simp⟩
    | some rows =>
        obtain ⟨flows, input, rfl⟩ := file.built rows readable
        exact buildRecords_rows _ _ _ _ _ _
  · obtain ⟨location, -, rfl⟩ := List.mem_map.mp live
    exact build_rows _ _ _ _ _

theorem dayRows_distinct (day : Nat) (locations : List Uuid) (nodup : locations.Nodup) :
    ((dayRows store filters day locations).map sortKey).Nodup := by
  rw [← dayParts_rows]
  refine parts_distinct _ (dayParts_of store filters day locations) ?_
  refine List.pairwise_append.mpr ⟨?_, ?_, ?_⟩
  · rw [List.pairwise_map]
    exact (dayFiles_distinct store filters day locations).filter _
  · rw [List.pairwise_map]
    simp only [liveLocations]
    split
    · exact nodup.filter _
    · exact List.Pairwise.nil
  · intro part archived other live
    obtain ⟨file, inFiles, rfl⟩ := List.mem_map.mp archived
    obtain ⟨location, inLive, rfl⟩ := List.mem_map.mp live
    exact mem_liveLocations store filters day locations location inLive file
      (List.mem_filter.mp inFiles).1

theorem dayRecords_descending (day : Nat) (locations : List Uuid) (nodup : locations.Nodup) :
    (dayRecords store filters day locations).Pairwise fun left right =>
      sortKey right < sortKey left := by
  have ascending := sortOn_ascending (fun record => OrderDual.toDual (sortKey record))
    ((dayRows store filters day locations).filter (recordMatches store filters))
  have distinct : ((dayRecords store filters day locations).map sortKey).Nodup := by
    rw [dayRecords, ((newestFirst_perm _).map sortKey).nodup_iff]
    exact (dayRows_distinct store filters day locations nodup).sublist (List.filter_sublist.map _)
  rw [List.Nodup, List.pairwise_map] at distinct
  refine (ascending.and distinct).imp ?_
  rintro left right ⟨ordered, different⟩
  exact lt_of_le_of_ne (OrderDual.toDual_le_toDual.mp ordered) (Ne.symm different)

end Uniqueness

section Cursors

theorem token_plain {text : Text} (token : IsToken text) : Json.Plain text := by
  intro char member
  have codes := tokenChar_codes char (token char member)
  have number : ∀ other : Char, other.toNat < 43 ∨ other.toNat = 92 → char ≠ other := by
    rintro other outside rfl
    omega
  refine ⟨⟨?_, ?_⟩, number '"' (by decide), number '\\' (by decide)⟩
  · change 32 ≤ char.toNat
    omega
  · change char.toNat ≤ 126
    omega

theorem joined_plain (parts : List Text) (tokens : ∀ part ∈ parts, IsToken part) :
    Json.Plain (joined '|' parts) := by
  induction parts with
  | nil => simp [joined, Json.Plain]
  | cons part rest ih =>
      have first := token_plain (tokens part List.mem_cons_self)
      have later := ih fun other member => tokens other (List.mem_cons_of_mem _ member)
      cases rest with
      | nil => exact first
      | cons next rest =>
          intro char member
          rcases List.mem_append.mp member with inPart | inRest
          · exact first char inPart
          · rcases List.mem_cons.mp inRest with rfl | inLater
            · decide
            · exact later char inLater

/-- A cursor whose texts need no escape, on a day of the calendar. -/
structure PlainCursor (cursor : IpdrCursor) : Prop where
  positive : 1 ≤ cursor.day
  onCalendar : cursor.day ≤ maxOrdinal
  ts : ∀ text ∈ cursor.ts, Json.Plain text
  key : ∀ text ∈ cursor.key, Json.Plain text

theorem optionalText_value (value : Option Text) :
    optionalText (some (value.elim .null .text)) = some value := by
  cases value with
  | none => rfl
  | some text => rfl

theorem decodeCursor_encodeCursor (cursor : IpdrCursor) (plain : PlainCursor cursor) :
    decodeCursor (encodeCursor cursor) = some cursor := by
  have fields : ∀ field ∈ [(['d'], some (isoDate cursor.day)), (['t'], cursor.ts),
      (['k'], cursor.key)], Json.PlainField field := by
    simp only [List.mem_cons, List.not_mem_nil, or_false, forall_eq_or_imp, forall_eq]
    refine ⟨⟨token_plain ?_, ?_⟩, ⟨token_plain ?_, plain.ts⟩, ⟨token_plain ?_, plain.key⟩⟩
    · simp [IsToken, tokenChar]
    · rintro text ⟨⟩
      exact token_plain (isoDate_token _)
    · simp [IsToken, tokenChar]
    · simp [IsToken, tokenChar]
  have read := Json.loads_dumpsObject _ (by simp) fields
  have date := fromIsoDate_isoDate cursor.day plain.positive plain.onCalendar
  rw [decodeCursor, encodeCursor, Base64.decode_encodeBare _ (utf8_bytes _), Option.bind_some,
    fromUtf8_utf8, Option.bind_some, read]
  simp [Json.fieldValue, Json.get, date, optionalText_value]

end Cursors

section Loop

def upTo (cursor : IpdrCursor) (days : List Nat) : List Nat :=
  days.filter fun day => day ≤ cursor.day

def leftOf (read : Nat → List Record) (cursor : Option IpdrCursor) (days : List Nat) :
    List Record :=
  days.flatMap fun day => belowCursor cursor day (read day)

theorem belowCursor_later (cursor : Option IpdrCursor) (day : Nat) (records : List Record)
    (later : cursor.all (day < ·.day) = true) : belowCursor cursor day records = records := by
  unfold belowCursor
  split
  · rename_i cursorDay char rest key
    simp only [Option.all_some, decide_eq_true_eq] at later
    rw [if_neg (by omega)]
  · rfl

theorem leftOf_later (read : Nat → List Record) (cursor other : Option IpdrCursor)
    (days : List Nat) (later : ∀ day ∈ days, cursor.all (day < ·.day) = true)
    (same : ∀ day ∈ days, belowCursor other day (read day) = read day) :
    leftOf read cursor days = leftOf read other days := by
  refine List.flatMap_congr ?_
  intro day member
  rw [belowCursor_later cursor day _ (later day member), same day member]

theorem upTo_following (cursor : IpdrCursor) (day : Nat) (following : List Nat)
    (past : cursor.day < day) : upTo cursor (day :: following) = upTo cursor following :=
  List.filter_cons_of_neg (by simpa using past)

theorem upTo_head (cursor : IpdrCursor) (following : List Nat)
    (below : ∀ other ∈ following, other < cursor.day) :
    upTo cursor (cursor.day :: following) = cursor.day :: following := by
  refine List.filter_eq_self.mpr ?_
  intro other member
  rcases List.mem_cons.mp member with rfl | later
  · simp
  · simpa using le_of_lt (below other later)

structure Resumes (read : Nat → List Record) (before : Option IpdrCursor) (days : List Nat)
    (taken : List Record) (next : IpdrCursor) : Prop where
  inDays : next.day ∈ days
  split : leftOf read before days = taken ++ leftOf read (some next) (upTo next days)
  record : (next.ts = none ∧ next.key = none) ∨
    ∃ last ∈ read next.day, next.ts = some last.ts ∧ next.key = some last.rk

def weightOf (read : Nat → List Record) (cursor : Option IpdrCursor) (days : List Nat) : Nat :=
  days.length + (leftOf read cursor days).length

variable {read : Nat → List Record} {cursor : Option IpdrCursor}

theorem resumes_before (day : Nat) (following : List Nat)
    (below : ∀ other ∈ following, other < day)
    (early : ∀ other ∈ day :: following, cursor.all (other < ·.day) = true) :
    Resumes read cursor (day :: following) [] ⟨day, none, none⟩ := by
  refine ⟨List.mem_cons_self, ?_, .inl ⟨rfl, rfl⟩⟩
  rw [upTo_head ⟨day, none, none⟩ following below, List.nil_append]
  exact leftOf_later read cursor _ _ early fun _ _ => rfl

theorem split_at_last (records : List Record) (room : Nat) (some_room : 0 < room)
    (finished : room < records.length) :
    ∃ front last, records.take room = front ++ [last] ∧
      records = front ++ last :: records.drop room := by
  have nonempty : records.take room ≠ [] := by
    intro empty
    have length := congrArg List.length empty
    simp only [List.length_take, List.length_nil] at length
    omega
  have shape := List.dropLast_append_getLast nonempty
  refine ⟨(records.take room).dropLast, (records.take room).getLast nonempty, shape.symm, ?_⟩
  calc records = records.take room ++ records.drop room := (List.take_append_drop _ _).symm
    _ = ((records.take room).dropLast ++ [(records.take room).getLast nonempty]) ++
        records.drop room := by rw [shape]
    _ = _ := by simp

theorem belowCursor_suffix (day : Nat) (records : List Record)
    (descending : records.Pairwise fun left right => sortKey right < sortKey left) :
    ∃ front, records = front ++ belowCursor cursor day records := by
  unfold belowCursor
  split
  · split
    · exact Pages.filter_suffix sortKey records _ descending
    · exact ⟨[], rfl⟩
  · exact ⟨[], rfl⟩

theorem resumes_inside (day : Nat) (following : List Nat) (front : List Record) (last : Record)
    (back : List Record)
    (descending : (read day).Pairwise fun left right => sortKey right < sortKey left)
    (stamped : last.ts ≠ []) (below : ∀ other ∈ following, other < day)
    (within : cursor.all (day ≤ ·.day) = true)
    (cut : belowCursor cursor day (read day) = front ++ last :: back) :
    Resumes read cursor (day :: following) (front ++ [last]) ⟨day, some last.ts, some last.rk⟩ := by
  obtain ⟨passed, whole⟩ := @belowCursor_suffix cursor day (read day) descending
  rw [cut, ← List.append_assoc] at whole
  have resumed : belowCursor (some ⟨day, some last.ts, some last.rk⟩) day (read day) = back := by
    obtain ⟨char, rest, stamp⟩ := List.exists_cons_of_ne_nil stamped
    have mark : sortKey last = toLex (char :: rest, last.rk) := by rw [sortKey, stamp]
    rw [stamp]
    simp only [belowCursor, if_pos, Option.getD_some, ← mark]
    rw [whole] at descending ⊢
    exact Pages.filter_below sortKey _ last back descending
  refine ⟨List.mem_cons_self, ?_, .inr ⟨last, ?_, rfl, rfl⟩⟩
  · rw [upTo_head ⟨day, some last.ts, some last.rk⟩ following below]
    have later : leftOf read cursor following =
        leftOf read (some ⟨day, some last.ts, some last.rk⟩) following := by
      refine leftOf_later read cursor _ following ?_ ?_
      · intro other member
        cases cursor with
        | none => rfl
        | some held =>
            have past := below other member
            simp only [Option.all_some, decide_eq_true_eq] at within ⊢
            omega
      · intro other member
        refine belowCursor_later _ _ _ ?_
        simpa using below other member
    simp only [leftOf, List.flatMap_cons] at later ⊢
    rw [cut, resumed, later]
    simp
  · rw [whole]
    simp

theorem Resumes.after_day {day : Nat} {following : List Nat} {taken : List Record}
    {next : IpdrCursor} (resumes : Resumes read cursor following taken next)
    (below : ∀ other ∈ following, other < day) :
    Resumes read cursor (day :: following) (belowCursor cursor day (read day) ++ taken) next := by
  refine ⟨List.mem_cons_of_mem _ resumes.inDays, ?_, resumes.record⟩
  rw [upTo_following next day following (below _ resumes.inDays), List.append_assoc,
    ← resumes.split]
  rfl

variable (read cursor) in
/-- What a page holds: the front of what was left, and the cursor for the rest. -/
structure PageOf (days : List Nat) (items : List Record) (strict : Prop) (state : PageState) :
    Prop where
  page : ∃ taken, state.items = items ++ taken ∧
    (state.next = none → leftOf read cursor days = taken) ∧
    ∀ next ∈ state.next, Resumes read cursor days taken next ∧
      weightOf read (some next) (upTo next days) ≤ weightOf read cursor days ∧
      (strict → weightOf read (some next) (upTo next days) < weightOf read cursor days)

theorem Resumes.weight_le {days : List Nat} {taken : List Record} {next : IpdrCursor}
    (resumes : Resumes read cursor days taken next) :
    weightOf read (some next) (upTo next days) + taken.length ≤ weightOf read cursor days := by
  have fewer : (upTo next days).length ≤ days.length := List.length_filter_le _ _
  simp only [weightOf, resumes.split, List.length_append]
  omega

theorem Resumes.weight_after_day {day : Nat} {following : List Nat} {taken : List Record}
    {next : IpdrCursor} (resumes : Resumes read cursor following taken next)
    (below : ∀ other ∈ following, other < day) :
    weightOf read (some next) (upTo next (day :: following)) <
      weightOf read cursor (day :: following) := by
  have less := resumes.weight_le
  rw [upTo_following next day following (below _ resumes.inDays)]
  simp only [weightOf, leftOf, List.flatMap_cons, List.length_append, List.length_cons] at less ⊢
  omega

theorem pageLoop_page (cover : Nat → Coverage) (size index : Nat) (days : List Nat)
    (items : List Record) (coverage : List Coverage)
    (descending : ∀ day, (read day).Pairwise fun left right => sortKey right < sortKey left)
    (stamped : ∀ day, ∀ record ∈ read day, record.ts ≠ [])
    (newest : days.Pairwise fun left right => right < left)
    (within : ∀ day ∈ days, cursor.all (day ≤ ·.day) = true)
    (early : 0 < index → ∀ day ∈ days, cursor.all (day < ·.day) = true)
    (room : items.length < size) :
    PageOf read cursor days items (index < maxDaysPerPage)
      (pageLoop read cover cursor size index days items coverage) := by
  -- The induction is on the days left; the page grows by what a whole day holds.
  induction days generalizing index items coverage with
  | nil => exact ⟨[], by simp [pageLoop], by simp [leftOf], by simp [pageLoop]⟩
  | cons day following ih =>
      obtain ⟨below, newestFollowing⟩ := List.pairwise_cons.mp newest
      have passed : ∀ other ∈ following, cursor.all (other < ·.day) = true := by
        intro other member
        have earlier := below other member
        have first := within day List.mem_cons_self
        cases cursor with
        | none => rfl
        | some held =>
            simp only [Option.all_some, decide_eq_true_eq] at first ⊢
            omega
      unfold pageLoop
      split
      -- As many days as a page may read: the cursor names the day, and no record of it.
      · rename_i full
        refine ⟨[], by simp, by simp, ?_⟩
        rintro next ⟨⟩
        have resumes := @resumes_before read cursor day following below
          (early (by simp only [maxDaysPerPage] at full; omega))
        have less := resumes.weight_le
        exact ⟨resumes, by simpa using less, fun notFull => absurd full (by omega)⟩
      · dsimp only
        split
        -- The page fills up inside the day: the cursor names its last record.
        · rename_i finished
          obtain ⟨front, last, front_eq, whole⟩ := split_at_last _ _ (by omega) finished
          have inRead : last ∈ read day := by
            obtain ⟨passedRecords, read_eq⟩ := @belowCursor_suffix cursor day (read day)
              (descending day)
            rw [read_eq, whole]
            simp
          have resumes := resumes_inside day following front last _ (descending day)
            (stamped day last inRead) below (within day List.mem_cons_self) whole
          have less := resumes.weight_le
          rw [front_eq]
          refine ⟨front ++ [last], rfl, by simp, ?_⟩
          intro next isNext
          obtain rfl : ⟨day, some last.ts, some last.rk⟩ = next := by
            simpa [← List.append_assoc] using isNext
          simp only [List.length_append, List.length_singleton] at less
          exact ⟨resumes, by omega, fun _ => by omega⟩
        · rename_i fits
          have all : (belowCursor cursor day (read day)).take (size - items.length) =
              belowCursor cursor day (read day) := List.take_of_length_le (by omega)
          rw [all]
          split
          -- The day fits and fills the page: the next day begins the next page, if there is one.
          · cases following with
            | nil => exact ⟨_, rfl, by simp [leftOf], by simp⟩
            | cons next rest =>
                have resumes := @resumes_before read cursor next rest
                  (List.pairwise_cons.mp newestFollowing).1 passed
                refine ⟨_, rfl, by simp, ?_⟩
                rintro cursorNext ⟨⟩
                have whole := resumes.after_day below
                rw [List.append_nil] at whole
                have less := resumes.weight_after_day below
                exact ⟨whole, le_of_lt less, fun _ => less⟩
          -- Room is left: the page goes on with the days after this one.
          · rename_i notFull
            obtain ⟨taken, items_eq, ends, resumed⟩ := (ih (index + 1)
              (items ++ belowCursor cursor day (read day)) (coverage ++ [cover day]) newestFollowing
              (fun other member => within other (List.mem_cons_of_mem day member)) (fun _ => passed)
              (by omega)).page
            refine ⟨belowCursor cursor day (read day) ++ taken, ?_, ?_, ?_⟩
            · rw [items_eq, List.append_assoc]
            · intro last
              rw [← ends last]
              rfl
            · intro next isNext
              obtain ⟨resumes, -⟩ := resumed next isNext
              have less := resumes.weight_after_day below
              exact ⟨resumes.after_day below, le_of_lt less, fun _ => less⟩

end Loop

section Export

variable (store : Store) (filters : IpdrFilters)

def followPage (limits : Nat → Option Int) (turn : Nat) (cursor : Option IpdrCursor) :
    Option (List ListItem × Option (Option IpdrCursor)) :=
  let page := listPage store filters cursor (limits turn)
  match page.nextCursor with
  | none => some (page.items, none)
  | some text => (decodeCursor text).map fun next => (page.items, some (some next))

def readDay (day : Nat) : List Record :=
  dayRecords store filters day (scopeLocations store filters)

theorem pageSize_pos (limit : Option Int) : 0 < pageSize limit := by
  simp only [pageSize]
  omega

theorem readDay_descending (day : Nat) :
    (readDay store filters day).Pairwise fun left right => sortKey right < sortKey left :=
  dayRecords_descending store filters day _ (scopeLocations_nodup store filters)

theorem iso_ne_nil (moment : Moment) : iso moment ≠ [] := by
  intro empty
  have read := fromIso_iso moment
  rw [empty] at read
  exact absurd read (by simp [fromIso, readDate, readDigits])

theorem readDay_record (day : Nat) (record : Record) (member : record ∈ readDay store filters day) :
    record.ts ≠ [] ∧ Json.Plain record.ts ∧ Json.Plain record.rk := by
  have inRows : record ∈ dayRows store filters day (scopeLocations store filters) :=
    (List.mem_filter.mp ((mem_newestFirst _ _).mp member)).1
  rw [← dayParts_rows] at inRows
  obtain ⟨part, inParts, inPart⟩ := List.mem_flatMap.mp inRows
  obtain ⟨connection, tokens, stamp, tie⟩ :=
    (dayParts_of store filters day _ part inParts).keyed record inPart
  rw [stamp, tie]
  exact ⟨iso_ne_nil _, token_plain (iso_token _),
    joined_plain _ (keyParts_token part.1 connection tokens)⟩

theorem daysOf_newest : (daysOf filters).Pairwise fun left right => right < left := by
  simp only [daysOf, List.pairwise_map]
  refine List.pairwise_lt_range.imp_of_mem ?_
  intro left right _ inRight less
  have bound := List.mem_range.mp inRight
  have early := filters.onCalendar.1
  omega

theorem daysOf_calendar (day : Nat) (member : day ∈ daysOf filters) :
    1 ≤ day ∧ day ≤ maxOrdinal := by
  simp only [daysOf] at member
  obtain ⟨back, inRange, rfl⟩ := List.mem_map.mp member
  have bound := List.mem_range.mp inRange
  obtain ⟨early, late⟩ := filters.onCalendar
  omega

theorem daysFrom_next (cursor : Option IpdrCursor) (next : IpdrCursor)
    (inDays : next.day ∈ daysFrom filters cursor) :
    daysFrom filters (some next) = upTo next (daysFrom filters cursor) := by
  have passed := (List.mem_filter.mp inDays).2
  simp only [daysFrom, upTo, List.filter_filter, Option.all_some]
  refine List.filter_congr ?_
  intro day _
  cases cursor with
  | none => simp
  | some held =>
      simp only [Option.all_some, decide_eq_true_eq] at passed ⊢
      rw [← Bool.decide_and, decide_eq_decide]
      omega

def pageState (cursor : Option IpdrCursor) (limit : Option Int) : PageState :=
  pageLoop (readDay store filters)
    (fun day => dayCoverage store filters day (scopeLocations store filters)) cursor
    (pageSize limit) 0 (daysFrom filters cursor) [] []

theorem followPage_none (limits : Nat → Option Int) (turn : Nat) (cursor : Option IpdrCursor)
    (last : (pageState store filters cursor (limits turn)).next = none) :
    followPage store filters limits turn cursor =
      some ((pageState store filters cursor (limits turn)).items.map listItem, none) := by
  have noCursor : (listPage store filters cursor (limits turn)).nextCursor = none :=
    congrArg (Option.map encodeCursor) last
  simp only [followPage, noCursor]
  rfl

theorem followPage_some (limits : Nat → Option Int) (turn : Nat) (cursor : Option IpdrCursor)
    (next : IpdrCursor) (plain : PlainCursor next)
    (more : (pageState store filters cursor (limits turn)).next = some next) :
    followPage store filters limits turn cursor =
      some ((pageState store filters cursor (limits turn)).items.map listItem,
        some (some next)) := by
  have text : (listPage store filters cursor (limits turn)).nextCursor =
      some (encodeCursor next) :=
    congrArg (Option.map encodeCursor) more
  simp only [followPage, text, decodeCursor_encodeCursor next plain]
  rfl

theorem pageState_page (cursor : Option IpdrCursor) (limit : Option Int) :
    PageOf (readDay store filters) cursor (daysFrom filters cursor) [] (0 < maxDaysPerPage)
      (pageState store filters cursor limit) :=
  pageLoop_page _ _ _ _ _ _ (readDay_descending store filters)
    (fun day record member => (readDay_record store filters day record member).1)
    ((daysOf_newest filters).filter _) (fun _ member => (List.mem_filter.mp member).2)
    (by simp) (pageSize_pos _)

theorem next_plain (cursor : Option IpdrCursor) (taken : List Record) (next : IpdrCursor)
    (resumes : Resumes (readDay store filters) cursor (daysFrom filters cursor) taken next) :
    PlainCursor next := by
  have calendar := daysOf_calendar filters next.day (List.mem_filter.mp resumes.inDays).1
  refine ⟨calendar.1, calendar.2, ?_, ?_⟩
  · rcases resumes.record with ⟨noTs, -⟩ | ⟨last, inDay, ts, -⟩
    · simp [noTs]
    · simpa [ts] using (readDay_record store filters _ last inDay).2.1
  · rcases resumes.record with ⟨-, noKey⟩ | ⟨last, inDay, -, key⟩
    · simp [noKey]
    · simpa [key] using (readDay_record store filters _ last inDay).2.2

theorem followPage_laws (limits : Nat → Option Int) :
    Pages.Laws (followPage store filters limits)
      (fun cursor => (leftOf (readDay store filters) cursor (daysFrom filters cursor)).map listItem)
      (fun cursor => weightOf (readDay store filters) cursor (daysFrom filters cursor)) where
  pages := by
    intro turn cursor
    obtain ⟨taken, items_eq, ends, resumed⟩ :=
      (pageState_page store filters cursor (limits turn)).page
    rw [List.nil_append] at items_eq
    cases following : (pageState store filters cursor (limits turn)).next with
    | none =>
        refine ⟨_, none, followPage_none store filters limits turn cursor following, ?_, by simp⟩
        rw [items_eq, ends following]
        simp
    | some next =>
        obtain ⟨resumes, -, less⟩ := resumed next following
        have plain := next_plain store filters cursor taken next resumes
        refine ⟨_, some (some next),
          followPage_some store filters limits turn cursor next plain following, ?_, ?_⟩
        · rw [items_eq, resumes.split, ← daysFrom_next filters cursor next resumes.inDays]
          simp
        · rintro later ⟨⟩
          rw [daysFrom_next filters cursor next resumes.inDays]
          exact less (by decide)

/-- Whatever the page sizes, following the cursors from none ends with the export, item by item. -/
theorem pages_equal_export (limits : Nat → Option Int) :
    ∃ enough, ∀ fuel, enough ≤ fuel →
      Pages.collect (followPage store filters limits) fuel 0 none =
        some ((iterRecords store filters).map listItem) := by
  have all : daysFrom filters none = daysOf filters := by
    simp [daysFrom]
  have whole : leftOf (readDay store filters) none (daysFrom filters none) =
      iterRecords store filters := by
    rw [all]
    rfl
  -- Every page takes something off the weight, so as many turns as it has are enough.
  refine ⟨weightOf (readDay store filters) none (daysFrom filters none) + 1, ?_⟩
  intro fuel enough
  have collected := (followPage_laws store filters limits).collects fuel 0 none (by omega)
  rw [collected, whole]

end Export

end CloudGuest.Ipdr
