import CloudGuest.Library.Faults
import CloudGuest.Traffic.ThreatListLoading

/-!
What breaks the loading of the threat list. The lines that raise an exception the
constructor does not catch are listed first; a file breaks it when such a line comes
after lines that can be read, and the constructor answers exactly for the directories
in which none is reached. When it answers, a list is available only after both files
were read to their ends.
-/

namespace CloudGuest.ThreatList
open Faults Texts

/-- The exceptions that `except (OSError, ValueError)` lets through. -/
def Uncaught (raised : Raised) : Prop := raised.reason = none

section Readings

variable {Value : Type} {Kind : Raised → Prop} (never : ∀ reason, ¬ Kind (.caught reason))

include never

theorem fails_mapError (run : Except Text Value) : ¬ Fails Kind (run.mapError Raised.caught) := by
  cases run with
  | error reason => exact fun failed => never reason (fails_error.mp failed)
  | ok value => exact fails_ok value

theorem fails_orRaise (read : Reading Value) {beyond : Raised} (lets : Kind beyond) :
    Fails Kind (read.orRaise beyond) ↔ read = .beyond := by
  cases read with
  | answer value => simp [Reading.orRaise]
  | refused reason => simp [Reading.orRaise, never]
  | beyond => simp [Reading.orRaise, lets]

end Readings

theorem caught_not_uncaught (reason : Text) : ¬ Uncaught (.caught reason) := by
  simp [Uncaught, Raised.reason]

theorem uncaught_mapError {Value : Type} (run : Except Text Value) :
    ¬ Fails Uncaught (run.mapError Raised.caught) :=
  fails_mapError caught_not_uncaught run

theorem uncaught_orRaise {Value : Type} (read : Reading Value) {beyond : Raised}
    (lets : Uncaught beyond) : Fails Uncaught (read.orRaise beyond) ↔ read = .beyond :=
  fails_orRaise caught_not_uncaught read lets

theorem overflow_uncaught : Uncaught .overflowError := rfl
theorem recursion_uncaught : Uncaught .recursionError := rfl

section Lines

variable (python : Python)

/-- A value under a key that `str` cannot follow to its end. -/
def Nested (fields : List (Text × Json.Value)) (key : Text) : Prop :=
  ∃ value, Json.get fields key = some value ∧ python.truthy value = true ∧ python.str value = none

inductive Unbounded (stamp : Json.Value) : Prop where
  | infinite (literal : Text) : stamp = .number literal → python.intOfNumber literal = .beyond →
      Unbounded stamp
  | outside (seconds : Int) : intOf python stamp = .ok seconds →
      python.fromTimestamp seconds = .beyond → Unbounded stamp

def NoNumber (stamp : Json.Value) : Prop :=
  stamp = .null ∨ (∃ items, stamp = .array items) ∨ ∃ fields, stamp = .object fields

inductive BreaksMetadata (fields : List (Text × Json.Value)) : Prop where
  | missing : Json.get fields "timestamp".toList = none → BreaksMetadata fields
  | noNumber (stamp : Json.Value) : Json.get fields "timestamp".toList = some stamp →
      NoNumber stamp → BreaksMetadata fields
  | unbounded (stamp : Json.Value) : Json.get fields "timestamp".toList = some stamp →
      Unbounded python stamp → BreaksMetadata fields
  | nested (stamp : Json.Value) (seconds published : Int) :
      Json.get fields "timestamp".toList = some stamp → intOf python stamp = .ok seconds →
      python.fromTimestamp seconds = .answer published →
      Nested python fields "copyright".toList → BreaksMetadata fields

inductive BreaksEntry (fields : List (Text × Json.Value)) : Prop where
  | missing : Json.get fields "cidr".toList = none → BreaksEntry fields
  | nested (cidr : Json.Value) : Json.get fields "cidr".toList = some cidr →
      python.str cidr = none → BreaksEntry fields
  | reference (cidr : Json.Value) (text : Text) (network : IpNetwork) :
      Json.get fields "cidr".toList = some cidr → python.str cidr = some text →
      python.ipNetwork text = .ok network → Nested python fields "sblid".toList →
      BreaksEntry fields

/-- The lines that raise what is not caught: nested too deep, or such a record. -/
inductive Breaks (line : Text) : Prop where
  | nested : python.strip line ≠ [] → python.loads (python.strip line) = .beyond → Breaks line
  | metadata (fields : List (Text × Json.Value)) : python.strip line ≠ [] →
      python.loads (python.strip line) = .answer (.object fields) → isMetadata fields = true →
      BreaksMetadata python fields → Breaks line
  | entry (fields : List (Text × Json.Value)) : python.strip line ≠ [] →
      python.loads (python.strip line) = .answer (.object fields) → isMetadata fields = false →
      BreaksEntry python fields → Breaks line

theorem uncaught_textOf (fields : List (Text × Json.Value)) (key : Text) :
    Fails Uncaught (textOf python fields key) ↔ Nested python fields key := by
  unfold textOf Nested
  cases Json.get fields key with
  | none => simp [fails_ok]
  | some value =>
      cases truthy : python.truthy value with
      | false => simp [fails_ok, truthy]
      | true =>
          cases rendered : python.str value with
          | none => simp [strOf, rendered, truthy, Except.map, fails_error, Uncaught, Raised.reason]
          | some text => simp [strOf, rendered, truthy, Except.map, fails_ok]

theorem uncaught_intOf (stamp : Json.Value) :
    Fails Uncaught (intOf python stamp) ↔ NoNumber stamp ∨
      ∃ literal, stamp = .number literal ∧ python.intOfNumber literal = .beyond := by
  cases stamp with
  | null => simp [intOf, fails_error, Uncaught, Raised.reason, NoNumber]
  | bool value => simp [intOf, fails_ok, NoNumber]
  | number literal =>
      have read := uncaught_orRaise (python.intOfNumber literal) overflow_uncaught
      simp [intOf, read, NoNumber]
  | text text => simp [intOf, uncaught_mapError, NoNumber]
  | array items => simp [intOf, fails_error, Uncaught, Raised.reason, NoNumber]
  | object fields => simp [intOf, fails_error, Uncaught, Raised.reason, NoNumber]

theorem uncaught_item (fields : List (Text × Json.Value)) (key : Text) :
    Fails Uncaught (item fields key) ↔ Json.get fields key = none := by
  unfold item
  cases Json.get fields key with
  | none => simp [fails_error, Uncaught, Raised.reason]
  | some value => simp [fails_ok]

theorem item_ok {fields : List (Text × Json.Value)} {key : Text} {value : Json.Value} :
    item fields key = .ok value ↔ Json.get fields key = some value := by
  unfold item
  cases Json.get fields key with
  | none => simp
  | some held => simp

theorem uncaught_strOf (value : Json.Value) :
    Fails Uncaught (strOf python value) ↔ python.str value = none := by
  unfold strOf
  cases python.str value with
  | none => simp [fails_error, Uncaught, Raised.reason]
  | some text => simp [fails_ok]

theorem strOf_ok {value : Json.Value} {text : Text} :
    strOf python value = .ok text ↔ python.str value = some text := by
  unfold strOf
  cases python.str value with
  | none => simp
  | some rendered => simp

theorem orRaise_ok {Value : Type} {read : Reading Value} {beyond : Raised} {value : Value} :
    read.orRaise beyond = .ok value ↔ read = .answer value := by
  cases read with
  | answer held => simp [Reading.orRaise]
  | refused reason => simp [Reading.orRaise]
  | beyond => simp [Reading.orRaise]

theorem mapError_ok {Value : Type} {run : Except Text Value} {value : Value} :
    run.mapError Raised.caught = .ok value ↔ run = .ok value := by
  cases run with
  | error reason => simp [Except.mapError]
  | ok held => simp [Except.mapError]

theorem readMetadata_breaks (fields : List (Text × Json.Value)) :
    Fails Uncaught (readMetadata python fields) ↔ BreaksMetadata python fields := by
  unfold readMetadata
  simp only [fails_bind, uncaught_item, item_ok, uncaught_intOf,
    uncaught_orRaise _ overflow_uncaught, orRaise_ok, uncaught_textOf]
  constructor
  · rintro (missing | ⟨stamp, held, (noNumber | ⟨literal, same, infinite⟩) |
      ⟨seconds, whole, outside | ⟨published, dated, nested | ⟨copyright, -, never⟩⟩⟩⟩)
    · exact .missing missing
    · exact .noNumber stamp held noNumber
    · exact .unbounded stamp held (.infinite literal same infinite)
    · exact .unbounded stamp held (.outside seconds whole outside)
    · exact .nested stamp seconds published held whole dated nested
    · exact absurd never (fails_ok _)
  · intro breaks
    cases breaks with
    | missing missing => exact .inl missing
    | noNumber stamp held noNumber => exact .inr ⟨stamp, held, .inl (.inl noNumber)⟩
    | unbounded stamp held unbounded =>
        cases unbounded with
        | infinite literal same infinite =>
            exact .inr ⟨stamp, held, .inl (.inr ⟨literal, same, infinite⟩)⟩
        | outside seconds whole outside =>
            exact .inr ⟨stamp, held, .inr ⟨seconds, whole, .inl outside⟩⟩
    | nested stamp seconds published held whole dated nested =>
        exact .inr ⟨stamp, held, .inr ⟨seconds, whole, .inr ⟨published, dated, .inl nested⟩⟩⟩

theorem readEntry_breaks (fields : List (Text × Json.Value)) :
    Fails Uncaught (readEntry python fields) ↔ BreaksEntry python fields := by
  unfold readEntry
  simp only [fails_bind, uncaught_item, item_ok, uncaught_strOf, strOf_ok, mapError_ok,
    uncaught_textOf]
  constructor
  · rintro (missing | ⟨cidr, held, nested | ⟨text, rendered, never |
      ⟨network, read, nested | ⟨reference, -, never⟩⟩⟩⟩)
    · exact .missing missing
    · exact .nested cidr held nested
    · exact absurd never (uncaught_mapError _)
    · exact .reference cidr text network held rendered read nested
    · exact absurd never (fails_ok _)
  · intro breaks
    cases breaks with
    | missing missing => exact .inl missing
    | nested cidr held nested => exact .inr ⟨cidr, held, .inl nested⟩
    | reference cidr text network held rendered read nested =>
        exact .inr ⟨cidr, held, .inr ⟨text, rendered, .inr ⟨network, read, .inl nested⟩⟩⟩

theorem readLine_breaks (name line : Text) :
    Fails Uncaught (readLine python name line) ↔ Breaks python line := by
  unfold readLine
  dsimp only
  split
  -- A blank line is skipped before anything of it is loaded.
  · rename_i blank
    constructor
    · exact fun never => absurd never (fails_ok _)
    · intro breaks
      cases breaks with
      | nested content => exact absurd blank content
      | metadata fields content => exact absurd blank content
      | entry fields content => exact absurd blank content
  · rename_i content
    rw [fails_bind, uncaught_orRaise _ recursion_uncaught]
    simp only [orRaise_ok]
    constructor
    · rintro (deep | ⟨record, loaded, raised⟩)
      · exact .nested content deep
      · cases record with
        | object fields =>
            cases kind : isMetadata fields with
            | true =>
                rw [readRecord, if_pos kind, readMetadata_breaks] at raised
                exact .metadata fields content loaded kind raised
            | false =>
                rw [readRecord, if_neg (by simp [kind]), readEntry_breaks] at raised
                exact .entry fields content loaded kind raised
        | _ => cases fails_error.mp raised
    · intro breaks
      cases breaks with
      | nested _ deep => exact .inl deep
      | metadata fields _ loaded kind broken =>
          refine .inr ⟨.object fields, loaded, ?_⟩
          rw [readRecord, if_pos kind, readMetadata_breaks]
          exact broken
      | entry fields _ loaded kind broken =>
          refine .inr ⟨.object fields, loaded, ?_⟩
          rw [readRecord, if_neg (by simp [kind]), readEntry_breaks]
          exact broken

end Lines

/-! ### Files -/

def Line.entries : Line → Nat
  | .entry _ _ => 1
  | _ => 0

def Line.dated : Line → Bool
  | .metadata _ _ => true
  | _ => false

theorem addLine_bounded (name : Text) (progress : Progress) (read : Line)
    (bounded : progress.count ≤ maxEntries) :
    (∃ after, addLine name progress read = .ok after) ↔
      progress.count + read.entries ≤ maxEntries := by
  cases read with
  | blank => simpa [addLine, Line.entries] using bounded
  | metadata published copyright => simpa [addLine, Line.entries] using bounded
  | entry network entry =>
      by_cases full : maxEntries < progress.count + 1
      · simp [addLine, Line.entries, full]
        omega
      · simp [addLine, Line.entries, full]
        omega

theorem addLine_ok {name : Text} {progress after : Progress} {read : Line}
    (added : addLine name progress read = .ok after) :
    after.count = progress.count + read.entries ∧
      after.published.isSome = (progress.published.isSome || read.dated) := by
  cases read with
  | blank =>
      cases added
      simp [Line.entries, Line.dated]
  | metadata published copyright =>
      cases added
      simp [Line.entries, Line.dated]
  | entry network entry =>
      rw [addLine] at added
      split at added
      · cases added
      · cases added
        simp [Line.entries, Line.dated]

section Files

variable (python : Python) (name : Text)

def Readable (line : Text) : Prop := ∃ read, readLine python name line = .ok read

def entriesOf (line : Text) : Nat :=
  match readLine python name line with
  | .ok read => read.entries
  | .error _ => 0

def isDated (line : Text) : Bool :=
  match readLine python name line with
  | .ok read => read.dated
  | .error _ => false

def entryCount (lines : List Text) : Nat := (lines.map (entriesOf python name)).sum

theorem takeLine_bounded (progress : Progress) (line : Text)
    (bounded : progress.count ≤ maxEntries) :
    (∃ after, takeLine python name progress line = .ok after) ↔
      Readable python name line ∧ progress.count + entriesOf python name line ≤ maxEntries := by
  unfold takeLine Readable entriesOf
  cases readLine python name line with
  | error raised => simp [bind_ok]
  | ok read => simpa [bind_ok] using addLine_bounded name progress read bounded

theorem takeLine_ok {progress after : Progress} {line : Text}
    (taken : takeLine python name progress line = .ok after) :
    after.count = progress.count + entriesOf python name line ∧
      after.published.isSome = (progress.published.isSome || isDated python name line) := by
  obtain ⟨read, known, added⟩ := bind_ok.mp taken
  have effect := addLine_ok added
  simpa [entriesOf, isDated, known] using effect

theorem takeLines_ok {lines : List Text} {progress after : Progress}
    (taken : lines.foldlM (takeLine python name) progress = .ok after) :
    after.count = progress.count + entryCount python name lines ∧
      after.published.isSome =
        (progress.published.isSome || lines.any (isDated python name)) := by
  induction lines generalizing progress with
  | nil =>
      cases taken
      simp [entryCount]
  | cons line rest ih =>
      rw [List.foldlM_cons] at taken
      obtain ⟨next, first, later⟩ := bind_ok.mp taken
      obtain ⟨counted, dated⟩ := takeLine_ok python name first
      obtain ⟨total, known⟩ := ih later
      rw [total, known, counted, dated]
      simp [entryCount, Nat.add_assoc, Bool.or_assoc]

theorem takeLines_bounded (lines : List Text) (progress : Progress)
    (bounded : progress.count ≤ maxEntries) :
    (∃ after, lines.foldlM (takeLine python name) progress = .ok after) ↔
      (∀ line ∈ lines, Readable python name line) ∧
        progress.count + entryCount python name lines ≤ maxEntries := by
  induction lines generalizing progress with
  | nil => simpa [entryCount, pure, Except.pure] using bounded
  | cons line rest ih =>
      have total : entryCount python name (line :: rest) =
          entriesOf python name line + entryCount python name rest := by
        simp [entryCount]
      rw [List.foldlM_cons, List.forall_mem_cons, total]
      simp only [bind_ok]
      constructor
      · rintro ⟨after, next, first, later⟩
        obtain ⟨readable, room⟩ :=
          (takeLine_bounded python name progress line bounded).mp ⟨next, first⟩
        obtain ⟨counted, -⟩ := takeLine_ok python name first
        obtain ⟨others, enough⟩ := (ih next (by omega)).mp ⟨after, later⟩
        exact ⟨⟨readable, others⟩, by omega⟩
      · rintro ⟨⟨readable, others⟩, enough⟩
        obtain ⟨next, first⟩ :=
          (takeLine_bounded python name progress line bounded).mpr ⟨readable, by omega⟩
        obtain ⟨counted, -⟩ := takeLine_ok python name first
        obtain ⟨after, later⟩ := (ih next (by omega)).mpr ⟨others, by omega⟩
        exact ⟨after, next, first, later⟩

theorem takeLine_breaks (progress : Progress) (line : Text) :
    Fails Uncaught (takeLine python name progress line) ↔ Breaks python line := by
  unfold takeLine
  rw [fails_bind, readLine_breaks]
  -- What adding a line raises is the bound on the entries, a `ValueError`.
  refine or_iff_left ?_
  rintro ⟨read, -, raised⟩
  cases read with
  | blank => exact fails_ok _ raised
  | metadata published copyright => exact fails_ok _ raised
  | entry network entry =>
      rw [addLine] at raised
      split at raised
      · cases fails_error.mp raised
      · exact fails_ok _ raised

/-- A file read to its end, with a dated metadata line and at least one entry. -/
def Complete (file : File) : Prop :=
  ∃ bytes lines, file = .ok bytes ∧ python.lines bytes = (lines, none) ∧
    (∀ line ∈ lines, Readable python name line) ∧
    (∃ line ∈ lines, isDated python name line = true) ∧
    0 < entryCount python name lines ∧ entryCount python name lines ≤ maxEntries

/-- A file in which a line that breaks the loading comes after lines that can be read. -/
def Breaking (file : File) : Prop :=
  ∃ bytes front line back stopped, file = .ok bytes ∧
    python.lines bytes = (front ++ line :: back, stopped) ∧
    (∀ earlier ∈ front, Readable python name earlier) ∧
    entryCount python name front ≤ maxEntries ∧ Breaks python line

theorem finish_ok (stopped : Option Text) (progress : Progress) :
    (∃ result, finish name stopped progress = .ok result) ↔
      stopped = none ∧ progress.published.isSome = true ∧ 0 < progress.count := by
  cases stopped with
  | some reason => simp [finish]
  | none =>
      cases dated : progress.published with
      | none => simp [finish, dated]
      | some published =>
          by_cases empty : progress.count = 0
          · simp [finish, dated, empty]
          · simp [finish, dated, empty, Nat.pos_of_ne_zero]

theorem finish_caught (stopped : Option Text) (progress : Progress) :
    ¬ Fails Uncaught (finish name stopped progress) := by
  intro raised
  unfold finish at raised
  split at raised
  · cases fails_error.mp raised
  · split at raised
    · cases fails_error.mp raised
    · split at raised
      · cases fails_error.mp raised
      · exact fails_ok _ raised

theorem load_ok (file : File) (loaded : Loaded) :
    (∃ result, load python name file loaded = .ok result) ↔ Complete python name file := by
  have start : (⟨none, 0, loaded⟩ : Progress).count ≤ maxEntries := Nat.zero_le _
  unfold load
  simp only [bind_ok, mapError_ok]
  constructor
  · rintro ⟨result, bytes, opened, progress, taken, ended⟩
    obtain ⟨readable, few⟩ := (takeLines_bounded python name _ _ start).mp ⟨progress, taken⟩
    obtain ⟨counted, dated⟩ := takeLines_ok python name taken
    obtain ⟨whole, known, some⟩ := (finish_ok name _ progress).mp ⟨result, ended⟩
    simp only [Nat.zero_add] at few counted
    refine ⟨bytes, (python.lines bytes).1, opened, Prod.ext rfl whole, readable, ?_, ?_, few⟩
    · rw [known] at dated
      simpa using dated.symm
    · rwa [counted] at some
  · rintro ⟨bytes, lines, opened, decoded, readable, dated, some, few⟩
    obtain ⟨progress, taken⟩ := (takeLines_bounded python name lines ⟨none, 0, loaded⟩ start).mpr
      ⟨readable, by simpa using few⟩
    obtain ⟨counted, known⟩ := takeLines_ok python name taken
    simp only [Nat.zero_add] at counted
    have marked : progress.published.isSome = true := by
      rw [known]
      simpa using dated
    obtain ⟨result, ended⟩ := (finish_ok name none progress).mpr ⟨rfl, marked, counted ▸ some⟩
    exact ⟨result, bytes, opened, progress, by rw [decoded]; exact taken,
      by rw [decoded]; exact ended⟩

theorem load_breaks (file : File) (loaded : Loaded) :
    Fails Uncaught (load python name file loaded) ↔ Breaking python name file := by
  have start : (⟨none, 0, loaded⟩ : Progress).count ≤ maxEntries := Nat.zero_le _
  unfold load Breaking
  simp only [fails_bind, uncaught_mapError, mapError_ok, false_or]
  constructor
  · rintro ⟨bytes, opened, ⟨raised, failed, uncaught⟩ | ⟨progress, -, ended⟩⟩
    · obtain ⟨front, line, back, reached, split, before, broke⟩ := foldlM_error.mp failed
      obtain ⟨readable, few⟩ := (takeLines_bounded python name front _ start).mp ⟨reached, before⟩
      exact ⟨bytes, front, line, back, _, opened, Prod.ext split rfl, readable, by simpa using few,
        (takeLine_breaks python name reached line).mp ⟨raised, broke, uncaught⟩⟩
    -- Nothing that is asked after the loop raises what is not caught.
    · exact absurd ended (finish_caught name _ progress)
  · rintro ⟨bytes, front, line, back, stopped, opened, decoded, readable, few, breaks⟩
    obtain ⟨reached, before⟩ := (takeLines_bounded python name front ⟨none, 0, loaded⟩ start).mpr
      ⟨readable, by simpa using few⟩
    obtain ⟨raised, broke, uncaught⟩ := (takeLine_breaks python name reached line).mpr breaks
    refine ⟨bytes, opened, .inl ⟨raised, foldlM_error.mpr ?_, uncaught⟩⟩
    exact ⟨front, line, back, reached, by rw [decoded], before, broke⟩

end Files

/-! ### The list -/

section Construction

variable (python : Python)

def NestedManifest (manifest : File) : Prop :=
  ∃ bytes text, manifest = .ok bytes ∧ python.readText bytes = .ok text ∧
    (python.loads text = .beyond ∨ ∃ fields fetched,
      python.loads text = .answer (.object fields) ∧
        Json.get fields "fetched_at".toList = some fetched ∧ python.str fetched = none)

def Beyond (raised : Raised) : Prop := raised = .overflowError ∨ raised = .recursionError

theorem caught_not_beyond (reason : Text) : ¬ Beyond (.caught reason) := by
  simp [Beyond]

theorem readManifest_breaks (manifest : File) :
    Fails Beyond (readManifest python manifest) ↔ NestedManifest python manifest := by
  have deep : Beyond .recursionError := .inr rfl
  unfold readManifest NestedManifest
  simp only [fails_bind, fails_mapError caught_not_beyond, mapError_ok, false_or, or_false,
    and_false, exists_false, fails_orRaise caught_not_beyond _ deep, orRaise_ok]
  constructor
  · rintro ⟨bytes, opened, text, decoded, nested | ⟨value, loaded, broken⟩⟩
    · exact ⟨bytes, text, opened, decoded, .inl nested⟩
    · refine ⟨bytes, text, opened, decoded, .inr ?_⟩
      cases value with
      | object fields =>
          rcases broken with missing | ⟨fetched, held, unprinted⟩
          · rw [subscript, item] at missing
            split at missing
            · exact absurd missing (fails_ok _)
            · rcases fails_error.mp missing with overflow | recursion
              · cases overflow
              · cases recursion
          · refine ⟨fields, fetched, loaded, item_ok.mp held, ?_⟩
            rw [strOf] at unprinted
            split at unprinted
            · exact absurd unprinted (fails_ok _)
            · assumption
      | _ =>
          -- A manifest that is no object raises a `TypeError`, which is caught here.
          rcases broken with raised | ⟨fetched, held, -⟩
          · rcases fails_error.mp raised with overflow | recursion
            · cases overflow
            · cases recursion
          · cases held
  · rintro ⟨bytes, text, opened, decoded, nested | ⟨fields, fetched, loaded, held, unprinted⟩⟩
    · exact ⟨bytes, opened, text, decoded, .inl nested⟩
    · refine ⟨bytes, opened, text, decoded, .inr ⟨.object fields, loaded, .inr ⟨fetched, ?_, ?_⟩⟩⟩
      · exact item_ok.mpr held
      · rw [strOf, unprinted]
        exact fails_error.mpr deep

theorem readFetchedAt_breaks (manifest : File) :
    Fails Uncaught (readFetchedAt python manifest) ↔ NestedManifest python manifest := by
  rw [← readManifest_breaks]
  unfold readFetchedAt
  cases readManifest python manifest with
  | ok moment => simp
  | error raised =>
      cases raised with
      | caught reason => simp [Beyond]
      | keyError key => simp [Beyond]
      | typeError => simp [Beyond]
      | overflowError => simp [Beyond, overflow_uncaught]
      | recursionError => simp [Beyond, recursion_uncaught]

/-- A data directory in which a line that breaks the loading is reached, or a manifest does. -/
def BreakingDir (dir : DataDir) : Prop :=
  Breaking python dropV4Name dir.dropV4 ∨
    (Complete python dropV4Name dir.dropV4 ∧
      (Breaking python dropV6Name dir.dropV6 ∨
        (Complete python dropV6Name dir.dropV6 ∧ NestedManifest python dir.manifest)))

theorem loadFiles_breaks (dir : DataDir) :
    Fails Uncaught (loadFiles python dir) ↔ BreakingDir python dir := by
  unfold loadFiles BreakingDir
  simp only [fails_bind, load_breaks, readFetchedAt_breaks]
  -- The second file is read only after the first one was loaded.
  refine or_congr_right ?_
  constructor
  · rintro ⟨first, loaded, breaks | ⟨second, both, nested | ⟨fetched, -, never⟩⟩⟩
    · exact ⟨(load_ok python _ _ _).mp ⟨first, loaded⟩, .inl breaks⟩
    · exact ⟨(load_ok python _ _ _).mp ⟨first, loaded⟩,
        .inr ⟨(load_ok python _ _ _).mp ⟨second, both⟩, nested⟩⟩
    · exact absurd never (fails_ok _)
  · rintro ⟨complete, later⟩
    obtain ⟨first, loaded⟩ := (load_ok python _ _ .start).mpr complete
    refine ⟨first, loaded, ?_⟩
    rcases later with breaks | ⟨complete, nested⟩
    · exact .inl breaks
    · obtain ⟨second, both⟩ := (load_ok python _ _ first.2).mpr complete
      exact .inr ⟨second, both, .inl nested⟩

theorem construct_ok (dir : DataDir) :
    (∃ list, construct python dir = .ok list) ↔ ¬ BreakingDir python dir := by
  rw [← loadFiles_breaks]
  unfold construct
  cases loadFiles python dir with
  | ok list => simp
  | error raised =>
      cases shown : raised.reason with
      | some reason => simp [shown, Uncaught]
      | none => simp [shown, Uncaught]

theorem construct_complete (dir : DataDir) (list : ThreatList)
    (made : construct python dir = .ok list) (usable : list.available) :
    Complete python dropV4Name dir.dropV4 ∧ Complete python dropV6Name dir.dropV6 := by
  unfold construct at made
  split at made
  · rename_i loaded files
    unfold loadFiles at files
    simp only [bind_ok] at files
    obtain ⟨first, front, second, back, -⟩ := files
    exact ⟨(load_ok python _ _ _).mp ⟨first, front⟩, (load_ok python _ _ _).mp ⟨second, back⟩⟩
  · split at made
    · cases made
      exact absurd rfl usable
    · cases made

/-- The files leave the application running: there is a list, available only from two complete
files, and without matches where it is not. -/
def Unbroken (dir : DataDir) : Prop :=
  ∃ list, construct python dir = .ok list ∧
    (list.available →
      Complete python dropV4Name dir.dropV4 ∧ Complete python dropV6Name dir.dropV6) ∧
    (¬ list.available → ∀ address, matchAddress python list address = none)

/-- The files leave the application running just where no line of theirs breaks the loading. -/
theorem unbroken_iff (dir : DataDir) : Unbroken python dir ↔ ¬ BreakingDir python dir := by
  rw [← construct_ok]
  constructor
  · rintro ⟨list, made, -⟩
    exact ⟨list, made⟩
  · rintro ⟨list, made⟩
    refine ⟨list, made, construct_complete python dir list made, ?_⟩
    intro unusable address
    have dateless : list.listDate = none := by
      by_contra dated
      exact unusable dated
    rw [matchAddress, if_pos dateless]

end Construction

def asciiPython : Python where
  lines bytes := ([bytes.map Char.ofNat], none)
  strip := strip
  loads text :=
    match Json.loads text with
    | some value => .answer value
    | none => .refused "JSONDecodeError".toList
  str
    | .text text => some text
    | _ => some []
  truthy
    | .text text => text ≠ []
    | _ => false
  intOfNumber literal :=
    if literal.all Char.isDigit then .answer (Nat.ofDigitChars 10 literal 0)
    else .refused "ValueError".toList
  intOfText _ := .error "ValueError".toList
  fromTimestamp seconds := .answer seconds
  ipNetwork _ := .error "ValueError".toList
  ipAddress _ := none
  readText _ := .error "UnicodeDecodeError".toList
  fromIsoformat _ := .error "ValueError".toList

/-- A metadata record without its timestamp, in both files; no manifest. -/
def undatedDir : DataDir where
  dropV4 := .ok ("\x7b\"type\": \"metadata\"\x7d".toList.map Char.toNat)
  dropV6 := .ok ("\x7b\"type\": \"metadata\"\x7d".toList.map Char.toNat)
  manifest := .error "FileNotFoundError".toList

def raisedBy {Value : Type} : Except Raised Value → Option Raised
  | .error raised => some raised
  | .ok _ => none

theorem undated_breaks :
    raisedBy (construct asciiPython undatedDir) = some (.keyError "timestamp".toList) ∧
      ¬ Unbroken asciiPython undatedDir := by
  have raised : raisedBy (construct asciiPython undatedDir) =
      some (.keyError "timestamp".toList) := by decide +kernel
  refine ⟨raised, ?_⟩
  rintro ⟨list, made, -⟩
  rw [made] at raised
  cases raised

end CloudGuest.ThreatList
