import CloudGuest.Traffic.Mmdb

/-!
What can leave the reader on a hostile file. Decoding raises only `MMDBError` and,
for a map key with too many digits, `ValueError`; both are caught wherever it is
called. The one exception that escapes the constructor is the `OverflowError` of an
infinite number where the metadata needs an integer.
-/

namespace CloudGuest.Traffic.Mmdb

open Texts Faults

inductive DecodeFault : Fault → Prop where
  | mmdbError (message : Message) : DecodeFault (.mmdbError message)
  | valueError : DecodeFault (.raised .valueError)

section Decoding

variable (python : Python) (file : Bytes)

theorem strInt_raises (value : Int) : Raises DecodeFault (strInt value) := by
  unfold strInt
  split
  · exact raises_error .valueError
  · exact raises_ok _

mutual

theorem reprOf_raises : ∀ value, Raises DecodeFault (reprOf python value)
  | .text value => raises_ok _
  | .float value => raises_ok _
  | .bytes value => raises_ok _
  | .int value => by
      rw [reprOf]
      exact strInt_raises value
  | .bool value => raises_ok _
  | .map fields => by
      rw [reprOf]
      exact raises_bind (reprFields_raises fields) fun _ _ => raises_pure _
  | .array items => by
      rw [reprOf]
      exact raises_bind (reprItems_raises items) fun _ _ => raises_pure _

theorem reprItems_raises : ∀ items, Raises DecodeFault (reprItems python items)
  | [] => raises_ok _
  | item :: rest => by
      rw [reprItems]
      exact raises_bind (reprOf_raises item) fun _ _ =>
        raises_bind (reprItems_raises rest) fun _ _ => raises_pure _

theorem reprFields_raises : ∀ fields, Raises DecodeFault (reprFields python fields)
  | [] => raises_ok _
  | (key, value) :: rest => by
      rw [reprFields]
      exact raises_bind (reprOf_raises value) fun _ _ =>
        raises_bind (reprFields_raises rest) fun _ _ => raises_pure _

end

theorem strOf_raises (value : Value) : Raises DecodeFault (strOf python value) := by
  unfold strOf
  split
  · exact raises_ok _
  · exact reprOf_raises python _

theorem take_raises (offset : Int) (size : Nat) : Raises DecodeFault (take file offset size) := by
  simp only [take]
  split
  · exact raises_error (.mmdbError _)
  · exact raises_ok _

theorem take_length (offset : Int) (size : Nat) (chunk : Bytes)
    (taken : take file offset size = .ok chunk) : chunk.length = size := by
  simp only [take] at taken
  split at taken
  · cases taken
  · rename_i fits
    cases taken
    exact not_not.mp (not_or.mp fits).2

theorem takeByte_raises (offset : Int) : Raises DecodeFault (takeByte file offset) := by
  refine raises_bind (take_raises file offset 1) ?_
  intro chunk taken
  -- The chunk has the one byte asked for, so the subscript does not raise.
  have single := take_length file offset 1 chunk taken
  cases chunk with
  | nil => simp at single
  | cons byte rest => exact raises_pure _

theorem decodeKind_raises (control : Nat) (offset : Int) :
    Raises DecodeFault (decodeKind file control offset) := by
  unfold decodeKind
  split
  · exact raises_bind (takeByte_raises file _) fun _ _ => raises_pure _
  · exact raises_ok _

theorem decodeSize_raises (control : Nat) (offset : Int) :
    Raises DecodeFault (decodeSize file control offset) := by
  unfold decodeSize
  split
  · exact raises_bind (takeByte_raises file _) fun _ _ => raises_pure _
  · exact raises_bind (take_raises file _ _) fun _ _ => raises_pure _
  · exact raises_bind (take_raises file _ _) fun _ _ => raises_pure _
  · exact raises_ok _

theorem scalarOf_raises (kind size : Nat) (raw : Bytes) :
    Raises DecodeFault (scalarOf kind size raw) := by
  unfold scalarOf
  repeat' split
  all_goals first
    | exact raises_ok _
    | exact raises_error (.mmdbError _)

variable {read : Int → Except Fault (Value × Int)}

theorem decodeItems_raises (reads : ∀ offset, Raises DecodeFault (read offset)) (count : Nat)
    (offset : Int) : Raises DecodeFault (decodeItems read count offset) := by
  induction count generalizing offset with
  | zero => exact raises_ok _
  | succ count ih =>
      refine raises_bind (reads offset) ?_
      rintro ⟨item, next⟩ -
      exact raises_bind (ih next) fun _ _ => raises_pure _

theorem decodeFields_raises (reads : ∀ offset, Raises DecodeFault (read offset)) (count : Nat)
    (offset : Int) (fields : List (Text × Value)) :
    Raises DecodeFault (decodeFields python read count offset fields) := by
  induction count generalizing offset fields with
  | zero => exact raises_ok _
  | succ count ih =>
      refine raises_bind (reads offset) ?_
      rintro ⟨key, next⟩ -
      refine raises_bind (reads next) ?_
      rintro ⟨value, after⟩ -
      exact raises_bind (strOf_raises python key) fun _ _ => ih _ _

theorem decode_raises (base : Int) (left : Nat) (offset : Int) :
    Raises DecodeFault (decode python file base left offset) := by
  -- A pointer and a container read on with one level less, at any offset.
  induction left generalizing offset with
  | zero => exact raises_error (.mmdbError _)
  | succ left ih =>
      refine raises_bind (takeByte_raises file offset) ?_
      intro control _
      split
      · refine raises_bind (take_raises file _ _) ?_
        intro raw _
        exact raises_bind (ih _) fun _ _ => raises_pure _
      · refine raises_bind (decodeKind_raises file control offset) ?_
        rintro ⟨kind, start⟩ -
        refine raises_bind (decodeSize_raises file control start) ?_
        rintro ⟨size, start⟩ -
        dsimp only
        split
        · exact raises_bind (decodeFields_raises python ih size start []) fun _ _ => raises_pure _
        · split
          · exact raises_bind (decodeItems_raises ih size start) fun _ _ => raises_pure _
          · split
            · exact raises_pure _
            · refine raises_bind (take_raises file _ _) ?_
              intro raw _
              exact raises_bind (scalarOf_raises kind size raw) fun _ _ => raises_pure _

end Decoding

section Lookups

variable (python : Python)

theorem readNode_raises (tree : Tree) (node : Nat) (right : Bool) :
    Raises DecodeFault (tree.readNode node right) := by
  simp only [Tree.readNode]
  split
  · exact raises_error (.mmdbError _)
  · split
    · exact raises_ok _
    · split
      · exact raises_ok _
      · exact raises_ok _

theorem walk_raises (tree : Tree) (bits : List Bool) (node : Nat) :
    Raises DecodeFault (tree.walk bits node) := by
  induction bits generalizing node with
  | nil => exact raises_ok _
  | cons bit rest ih =>
      unfold Tree.walk
      split
      · exact raises_ok _
      · exact raises_bind (readNode_raises tree node bit) fun next _ => ih next

theorem findIpv4Start_raises (tree : Tree) (ipVersion : Int) :
    Raises DecodeFault (tree.findIpv4Start ipVersion) := by
  unfold Tree.findIpv4Start
  split
  · exact raises_ok _
  · exact walk_raises tree _ _

theorem lookUp_raises (reader : Reader) (address : Address) :
    Raises DecodeFault (lookUp python reader address) := by
  unfold lookUp
  split
  · exact raises_ok _
  · refine raises_bind (walk_raises _ _ _) ?_
    intro node _
    split
    · exact raises_pure _
    · exact raises_bind (decode_raises python _ _ _ _) fun _ _ => raises_pure _

theorem get_answers (reader : Reader) (address : Address) :
    ∃ answer, get python reader address = .ok answer := by
  unfold get
  cases found : lookUp python reader address with
  | ok answer => exact ⟨answer, rfl⟩
  | error fault =>
      cases lookUp_raises python reader address fault found with
      | mmdbError message => exact ⟨none, rfl⟩
      | valueError => exact ⟨none, rfl⟩

end Lookups

section Construction

variable (python : Python)

def infiniteFirst (fields : List (Text × Value)) : List Text → Bool
  | [] => false
  | name :: rest =>
      match lookup fields name with
      | some (.float (.infinite _)) => true
      | some value =>
          match intOf python value with
          | .ok _ => infiniteFirst fields rest
          | .error _ => false
      | none => false

def infiniteMetadata (file : Bytes) : Bool :=
  match rfindMarker file with
  | none => false
  | some marker =>
      match readMetadata python file marker with
      | .ok (.map fields, _) =>
          infiniteFirst python fields [nodeCountName, recordSizeName, ipVersionName]
      | _ => false

inductive OpenFault : Fault → Prop where
  | mmdbError (message : Message) : OpenFault (.mmdbError message)
  | caught (exception : Raised) (caught : exception.caughtAtOpen = true) :
      OpenFault (.raised exception)

theorem decodeFault_open (fault : Fault) (decoding : DecodeFault fault) : OpenFault fault := by
  cases decoding with
  | mmdbError message => exact .mmdbError message
  | valueError => exact .caught .valueError rfl

theorem intOf_cases (value : Value) :
    (∃ number, intOf python value = .ok number ∧ ∀ negative, value ≠ .float (.infinite negative)) ∨
      (∃ negative, value = .float (.infinite negative)) ∨
      (∃ fault, intOf python value = .error fault ∧ OpenFault fault ∧
        ∀ negative, value ≠ .float (.infinite negative)) := by
  have options : ∀ read : Option Int,
      (∃ number, read.elim (.error (.raised .valueError)) .ok = (.ok number : Except Fault Int)) ∨
        (read.elim (.error (.raised .valueError)) .ok : Except Fault Int) =
          .error (.raised .valueError) := by
    intro read
    cases read with
    | none => exact .inr rfl
    | some number => exact .inl ⟨number, rfl⟩
  cases value with
  | text value =>
      rcases options (python.intOfText value) with ⟨number, isNumber⟩ | raised
      · exact .inl ⟨number, isNumber, by simp⟩
      · exact .inr (.inr ⟨_, raised, .caught _ rfl, by simp⟩)
  | bytes value =>
      rcases options (python.intOfBytes value) with ⟨number, isNumber⟩ | raised
      · exact .inl ⟨number, isNumber, by simp⟩
      · exact .inr (.inr ⟨_, raised, .caught _ rfl, by simp⟩)
  | float value =>
      cases value with
      | finite negative mantissa exponent => exact .inl ⟨_, rfl, by simp⟩
      | infinite negative => exact .inr (.inl ⟨negative, rfl⟩)
      | nan => exact .inr (.inr ⟨_, rfl, .caught _ rfl, by simp⟩)
  | int value => exact .inl ⟨value, rfl, by simp⟩
  | bool value => exact .inl ⟨_, rfl, by simp⟩
  | map fields => exact .inr (.inr ⟨_, rfl, .caught _ rfl, by simp⟩)
  | array items => exact .inr (.inr ⟨_, rfl, .caught _ rfl, by simp⟩)

theorem layout_raises (file : Bytes) (marker : Nat) (fields : List (Text × Value))
    (nodeCount recordSize ipVersion : Int) :
    Raises OpenFault
      (if recordSize ∉ [24, 28, 32] ∨ ipVersion ∉ [4, 6] then
          .error (.mmdbError .unsupportedLayout)
        else
          let tree : Tree := ⟨file, nodeCount, recordSize.toNat⟩
          if (marker : Int) < tree.dataStart then .error (.mmdbError .treeTooLarge)
          else do
            let ipv4Start ← tree.findIpv4Start ipVersion
            return (⟨tree, fields, ipVersion, ipv4Start⟩ : Reader)) := by
  split
  · exact raises_error (.mmdbError _)
  · dsimp only
    split
    · exact raises_error (.mmdbError _)
    · exact raises_bind (raises_mono decodeFault_open (findIpv4Start_raises _ _)) fun _ _ =>
        raises_pure _

/-- What reading one entry does, beside what it says about the entries from it on. -/
inductive FieldOutcome (fields : List (Text × Value)) (name : Text) (rest : List Text) : Prop where
  | number (value : Int) (read : intField python fields name = .ok value)
      (same : infiniteFirst python fields (name :: rest) = infiniteFirst python fields rest)
  | infinite (read : intField python fields name = .error (.raised .overflowError))
      (first : infiniteFirst python fields (name :: rest) = true)
  | fails (fault : Fault) (read : intField python fields name = .error fault)
      (caught : OpenFault fault) (finite : infiniteFirst python fields (name :: rest) = false)

theorem field_outcome (fields : List (Text × Value)) (name : Text) (rest : List Text) :
    FieldOutcome python fields name rest := by
  cases found : lookup fields name with
  | none =>
      refine .fails (.raised (.keyError name)) ?_ (.caught _ rfl) ?_
      · simp [intField, found]
      · simp [infiniteFirst, found]
  | some value =>
      have reads : intField python fields name = intOf python value := by simp [intField, found]
      rcases intOf_cases python value with ⟨number, isNumber, finite⟩ | ⟨negative, rfl⟩ |
        ⟨fault, raised, caught, finite⟩
      · refine .number number (reads.trans isNumber) ?_
        simp only [infiniteFirst, found, isNumber]
      · exact .infinite reads (by simp [infiniteFirst, found])
      · refine .fails fault (reads.trans raised) caught ?_
        simp only [infiniteFirst, found, raised]

theorem field_then {Result : Type} (fields : List (Text × Value)) (name : Text) (rest : List Text)
    (after : Int → Except Fault Result)
    (overflows : ∀ value, infiniteFirst python fields rest = true →
      after value = .error (.raised .overflowError))
    (raises : ∀ value, infiniteFirst python fields rest = false →
      Raises OpenFault (after value)) :
    (infiniteFirst python fields (name :: rest) = true →
        intField python fields name >>= after = .error (.raised .overflowError)) ∧
      (infiniteFirst python fields (name :: rest) = false →
        Raises OpenFault (intField python fields name >>= after)) := by
  -- Only an integer lets the constructor go on to the next entry.
  cases field_outcome python fields name rest with
  | number value read same =>
      rw [read, same]
      exact ⟨overflows value, raises value⟩
  | infinite read first =>
      rw [read, first]
      exact ⟨fun _ => rfl, fun finite => absurd finite (by simp)⟩
  | fails fault read caught finite =>
      rw [read, finite]
      exact ⟨fun infinite => absurd infinite (by simp), fun _ => raises_error caught⟩

theorem openFile_outcome (file : Bytes) :
    (infiniteMetadata python file = true →
        openFile python file = .error (.raised .overflowError)) ∧
      (infiniteMetadata python file = false → Raises OpenFault (openFile python file)) := by
  unfold infiniteMetadata openFile
  cases rfindMarker file with
  | none => exact ⟨fun infinite => absurd infinite (by simp), fun _ => raises_error (.mmdbError _)⟩
  | some marker =>
      dsimp only
      cases metadata : readMetadata python file marker with
      | error fault =>
          refine ⟨fun infinite => absurd infinite (by simp), fun _ => ?_⟩
          exact raises_error (decodeFault_open fault (decode_raises python _ _ _ _ fault metadata))
      | ok decoded =>
          obtain ⟨value, next⟩ := decoded
          cases value with
          | map fields =>
              -- The three entries are read one after the other, each before all that follows it.
              have version := fun nodeCount recordSize =>
                field_then python fields ipVersionName [] _
                  (fun _ infinite => absurd infinite (by simp [infiniteFirst]))
                  fun ipVersion _ => layout_raises file marker fields nodeCount recordSize ipVersion
              have sizes := fun nodeCount =>
                field_then python fields recordSizeName [ipVersionName] _
                  (fun recordSize => (version nodeCount recordSize).1)
                  fun recordSize => (version nodeCount recordSize).2
              exact field_then python fields nodeCountName [recordSizeName, ipVersionName] _
                (fun nodeCount => (sizes nodeCount).1) fun nodeCount => (sizes nodeCount).2
          | _ => exact ⟨fun infinite => absurd infinite (by simp),
              fun _ => raises_error (.mmdbError _)⟩

/-- The file is read or refused with an `MMDBError`, and every lookup in it answers. -/
def Total (file : Bytes) : Prop :=
  match construct python file with
  | .ok reader => ∀ address, ∃ answer, get python reader address = .ok answer
  | .error fault => ∃ message, fault = .mmdbError message

theorem infiniteMetadata_nil : infiniteMetadata python [] = false := rfl

/-- The reader is total on a file exactly when its metadata has no infinite number where an integer
is read. -/
theorem reader_total_iff_finite (file : Bytes) :
    Total python file ↔ infiniteMetadata python file = false := by
  obtain ⟨overflows, raises⟩ := openFile_outcome python file
  unfold Total construct
  by_cases empty : file = []
  · subst empty
    simp [infiniteMetadata_nil]
  · rw [if_neg empty]
    cases finite : infiniteMetadata python file with
    -- An overflow is none of the exceptions the constructor catches.
    | true =>
        rw [overflows finite]
        simp [Raised.caughtAtOpen]
    | false =>
        cases opened : openFile python file with
        | ok reader => simpa using get_answers python reader
        | error fault =>
            cases raises finite fault opened with
            | mmdbError message => simp
            | caught exception caught => simp [caught]

end Construction

section Hostile

def plainPython : Python where
  reprText := id
  reprBytes := fun bytes => bytes.map fun byte => Char.ofNat byte.toNat
  reprFloat := fun _ => []
  intOfText := fun _ => none
  intOfBytes := fun _ => none

/-- A file whose metadata says that the tree has infinitely many nodes. -/
def infiniteFile : Bytes :=
  metadataMarker ++ [0xe1, 0x4a, 0x6e, 0x6f, 0x64, 0x65, 0x5f, 0x63, 0x6f, 0x75, 0x6e, 0x74] ++
    [0x68, 0x7f, 0xf0, 0, 0, 0, 0, 0, 0]

theorem infinite_nodes_overflow :
    construct plainPython infiniteFile = .error (.raised .overflowError) ∧
      ¬ Total plainPython infiniteFile := by
  have infinite : infiniteMetadata plainPython infiniteFile = true := by decide +kernel
  have opened := (openFile_outcome plainPython infiniteFile).1 infinite
  have raised : construct plainPython infiniteFile = .error (.raised .overflowError) := by
    rw [construct, opened]
    rfl
  refine ⟨raised, ?_⟩
  rw [Total, raised]
  simp

end Hostile

end CloudGuest.Traffic.Mmdb
