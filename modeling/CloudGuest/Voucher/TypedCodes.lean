import CloudGuest.Voucher.Codes

/-!
Which stored codes a guest can type in. The lookup compares normalized spellings, so a
code is found as printed exactly when it is stored normalized: imported codes always
are, generated ones where the prefix of their batch is.
-/

namespace CloudGuest.VoucherCodes

open Texts Uppercase Runs

section Spellings

theorem normalize_stripped (code : Text) : Stripped (normalizeVoucherCode code) :=
  upper_stripped _ (strip_stripped code)

@[simp] theorem normalize_normalize (code : Text) :
    normalizeVoucherCode (normalizeVoucherCode code) = normalizeVoucherCode code := by
  rw [normalizeVoucherCode, strip_of_stripped _ (normalize_stripped code)]
  exact upper_upper _

def Normal (code : Text) : Prop := normalizeVoucherCode code = code

theorem normal_surrounded (before code after : Text) (normal : Normal code) (nonempty : code ≠ [])
    (spaces : ∀ char ∈ before ++ after, isSpace char = true) :
    normalizeVoucherCode (before ++ code ++ after) = code := by
  have stripped : Stripped code := by
    rw [← normal]
    exact normalize_stripped code
  rw [normalizeVoucherCode, strip_surrounded before code after nonempty stripped spaces]
  rw [Normal, normalizeVoucherCode, strip_of_stripped code stripped] at normal
  exact normal

theorem separators_plain : (codeSeparators.all isPlain) = true := by decide +kernel

theorem normalize_separators (code : Text) (without : ∀ char ∈ code, char ∉ codeSeparators) :
    ∀ char ∈ normalizeVoucherCode code, char ∉ codeSeparators := by
  intro raised member separator
  obtain ⟨char, stripped, here⟩ := List.mem_flatMap.mp member
  have same := upperChar_plain char raised here
    (List.all_eq_true.mp separators_plain raised separator)
  have kept : char ∈ code := by
    have inner := (List.rdropWhile_prefix isSpace (code.dropWhile isSpace)).subset stripped
    exact (List.dropWhile_suffix isSpace).subset inner
  rw [same] at separator
  exact without char kept separator

theorem mem_candidates (typed candidate : Text) :
    candidate ∈ voucherCodeLookupCandidates typed ↔ candidate = normalizeVoucherCode typed ∨
      candidate = (normalizeVoucherCode typed).filter fun char => char ∉ codeSeparators := by
  simp only [voucherCodeLookupCandidates]
  split
  · rename_i same
    rw [same]
    simp
  · simp

theorem getVoucherByCode_some (store : Store) (code : Text) (voucher : Voucher)
    (found : getVoucherByCode store code = some voucher) :
    voucher ∈ store.vouchers ∧ voucher.code = code := by
  have same := List.find?_some found
  exact ⟨List.mem_of_find?_eq_some found, by simpa using same⟩

theorem getVoucherByCode_stored (store : Store) (unique : store.codes.Nodup) (voucher : Voucher)
    (member : voucher ∈ store.vouchers) : getVoucherByCode store voucher.code = some voucher := by
  cases found : getVoucherByCode store voucher.code with
  | none =>
      have missing := List.find?_eq_none.mp found voucher member
      simp at missing
  | some other =>
      obtain ⟨listed, same⟩ := getVoucherByCode_some store voucher.code other found
      rw [List.inj_on_of_nodup_map unique listed member same]

theorem lookUp_exact (store : Store) (unique : store.codes.Nodup) (voucher : Voucher)
    (member : voucher ∈ store.vouchers) (typed : Text)
    (exact : normalizeVoucherCode typed = voucher.code) : lookUp store typed = some voucher := by
  have first := getVoucherByCode_stored store unique voucher member
  simp only [lookUp, voucherCodeLookupCandidates, exact]
  split <;> simp [first]

theorem normal_of_found (store : Store) (voucher : Voucher)
    (found : lookUp store voucher.code = some voucher) : Normal voucher.code := by
  obtain ⟨candidate, listed, here⟩ := List.exists_of_findSome?_eq_some found
  obtain ⟨_, same⟩ := getVoucherByCode_some store candidate voucher here
  rcases (mem_candidates voucher.code candidate).mp listed with exact | fallback
  · exact exact.symm.trans same.symm
  · -- The fallback has no separators, so the printed code had none for it to leave out.
    have without : ∀ char ∈ voucher.code, char ∉ codeSeparators := by
      intro char member
      rw [same, fallback, List.mem_filter, decide_eq_true_eq] at member
      exact member.2
    have whole : (normalizeVoucherCode voucher.code).filter (fun char => char ∉ codeSeparators) =
        normalizeVoucherCode voucher.code := by
      rw [List.filter_eq_self]
      intro char member
      exact decide_eq_true (normalize_separators voucher.code without char member)
    rw [whole] at fallback
    exact fallback.symm.trans same.symm

end Spellings

section Generation

def alphabetChar (char : Char) : Bool := Upper char && !isSpace char

theorem alphabet_chars : (voucherCodeAlphabet.all alphabetChar) = true := by decide +kernel

theorem body_chars (codeLength : Nat) (choices : Choices) :
    ∀ char ∈ body codeLength choices, alphabetChar char = true := by
  intro char member
  obtain ⟨place, _, rfl⟩ := List.mem_map.mp member
  exact List.all_eq_true.mp alphabet_chars _ (List.getElem_mem _)

/-- What a prefix must be for the codes under it to be found: no letter that the upper case
changes, and no space in front. -/
def TypedPrefix (codePrefix : Option Text) : Prop :=
  upper (prefixText codePrefix) = prefixText codePrefix ∧
    ∀ char ∈ (prefixText codePrefix).head?, isSpace char = false

instance (codePrefix : Option Text) : Decidable (TypedPrefix codePrefix) :=
  decidable_of_iff (upper (prefixText codePrefix) = prefixText codePrefix ∧
    (prefixText codePrefix).head?.all (fun char => !isSpace char) = true)
    (by cases first : (prefixText codePrefix).head? <;> simp [TypedPrefix, first])

theorem body_nonempty (codeLength : Nat) (positive : 0 < codeLength) (choices : Choices) :
    body codeLength choices ≠ [] := by
  intro empty
  have length := congrArg List.length empty
  simp [body] at length
  omega

theorem normal_randomCode (codeLength : Nat) (positive : 0 < codeLength) (codePrefix : Option Text)
    (choices : Choices) :
    Normal (randomCode codeLength codePrefix choices) ↔ TypedPrefix codePrefix := by
  have chars := body_chars codeLength choices
  have nonempty := body_nonempty codeLength positive choices
  have uppers : ∀ char ∈ body codeLength choices, Upper char := by
    intro char member
    have both := chars char member
    simp only [alphabetChar, Bool.and_eq_true, decide_eq_true_eq] at both
    exact both.1
  have notSpaces : ∀ char ∈ body codeLength choices, isSpace char = false := by
    intro char member
    have both := chars char member
    simp only [alphabetChar, Bool.and_eq_true, Bool.not_eq_true'] at both
    exact both.2
  constructor
  -- What normalising leaves alone is stripped and in upper case, and so is its front.
  · intro normal
    have stripped : Stripped (randomCode codeLength codePrefix choices) := by
      rw [← normal]
      exact normalize_stripped _
    have raised : upper (randomCode codeLength codePrefix choices) =
        randomCode codeLength codePrefix choices := by
      rw [Normal, normalizeVoucherCode, strip_of_stripped _ stripped] at normal
      exact normal
    constructor
    · rw [upper_eq_self_iff] at raised ⊢
      intro char member
      exact raised char (List.mem_append_left _ member)
    · intro char first
      apply stripped.1 char
      rw [randomCode, List.head?_append, first]
      rfl
  -- The body is of the alphabet, so only the front could be blank or raised.
  · intro ⟨raised, front⟩
    have stripped : Stripped (randomCode codeLength codePrefix choices) := by
      constructor
      · intro char first
        rw [randomCode, List.head?_append] at first
        cases prefixFirst : (prefixText codePrefix).head? with
        | some other =>
            rw [prefixFirst] at first
            obtain rfl : other = char := by simpa using first
            exact front other prefixFirst
        | none =>
            rw [prefixFirst] at first
            exact notSpaces char (List.mem_of_head? (by simpa using first))
      · intro char last
        rw [randomCode, List.getLast?_append_of_ne_nil _ nonempty] at last
        exact notSpaces char (List.mem_of_getLast? last)
    rw [Normal, normalizeVoucherCode, strip_of_stripped _ stripped, upper_eq_self_iff]
    intro char member
    rcases List.mem_append.mp member with early | late
    · exact (upper_eq_self_iff _).mp raised char early
    · exact uppers char late

structure Drawn (stored : List Text) (request : BatchRequest) (generated : List Text) : Prop where
  unique : generated.Nodup
  fresh : ∀ code ∈ generated, code ∉ stored
  drawn : ∀ code ∈ generated, ∃ choices, code =
    randomCode request.codeLength request.codePrefix choices
  bounded : generated.length ≤ request.quantity

theorem drawn_rounds (stored : List Text) (request : BatchRequest) (draws : Nat → Nat → Choices)
    (rounds : Nat) (generated : List Text) (sofar : Drawn stored request generated) :
    Drawn stored request (drawRounds stored request draws rounds generated) := by
  induction rounds generalizing generated with
  | zero => exact sofar
  | succ rounds ih =>
      simp only [drawRounds]
      split
      · exact sofar
      · apply ih
        constructor
        · rw [List.nodup_append']
          refine ⟨sofar.unique, ((List.nodup_dedup _).filter _).filter _, ?_⟩
          intro code old new
          simp only [List.mem_filter, decide_eq_true_eq] at new
          exact new.1.2 old
        · intro code member
          rcases List.mem_append.mp member with old | new
          · exact sofar.fresh code old
          · simp only [List.mem_filter, decide_eq_true_eq] at new
            exact new.2
        · intro code member
          rcases List.mem_append.mp member with old | new
          · exact sofar.drawn code old
          · simp only [List.mem_filter, List.mem_dedup, List.mem_map] at new
            obtain ⟨⟨⟨candidate, _, rfl⟩, _⟩, _⟩ := new
            exact ⟨draws rounds candidate, rfl⟩
        · -- A round draws no more codes than were wanting, and keeps some of them.
          rename_i wanting
          have kept := (List.filter_sublist (p := fun code => code ∉ stored)).length_le.trans
            ((List.filter_sublist (p := fun code => code ∉ generated)).length_le.trans
              (List.dedup_sublist ((List.range (request.quantity - generated.length)).map
                fun candidate => randomCode request.codeLength request.codePrefix
                  (draws rounds candidate))).length_le)
          rw [List.length_map, List.length_range] at kept
          rw [List.length_append]
          omega

theorem generateCodes_ok (stored : List Text) (request : BatchRequest)
    (draws : Nat → Nat → Choices) (codes : List Text)
    (generated : generateCodes stored request draws = .ok codes) :
    codes.length = request.quantity ∧ Drawn stored request codes := by
  have drawn := drawn_rounds stored request draws codeGenerationMaxRounds []
    ⟨List.nodup_nil, by simp, by simp, Nat.zero_le _⟩
  simp only [generateCodes] at generated
  split at generated
  · cases generated
  · rename_i enough
    have same := le_antisymm drawn.bounded (not_lt.mp enough)
    rw [List.take_of_length_le drawn.bounded] at generated
    cases generated
    exact ⟨same, drawn⟩

end Generation

section Stores

def Generated (batch : Batch) (code : Text) : Prop :=
  0 < batch.quantity ∧ 0 < batch.codeLength ∧
    ∃ choices, code = randomCode batch.codeLength batch.codePrefix choices

structure Sound (store : Store) : Prop where
  unique : store.codes.Nodup
  nonempty : ∀ voucher ∈ store.vouchers, voucher.code ≠ []
  source : ∀ voucher ∈ store.vouchers,
    Normal voucher.code ∨ ∃ batch ∈ store.batches, Generated batch voucher.code
  issued : ∀ batch ∈ store.batches, 0 < batch.quantity →
    ∃ voucher ∈ store.vouchers, Generated batch voucher.code

theorem bulkCreateVouchers_some (store after : Store) (rows : List Voucher)
    (created : bulkCreateVouchers store rows = some after) :
    after = { store with vouchers := store.vouchers ++ rows } ∧
      (store.codes.Nodup → after.codes.Nodup) := by
  unfold bulkCreateVouchers at created
  split at created
  · rename_i accepted
    cases created
    refine ⟨rfl, fun unique => ?_⟩
    rw [Store.codes, List.map_append, List.nodup_append']
    refine ⟨unique, accepted.2, ?_⟩
    intro code old new
    have fresh := List.all_eq_true.mp accepted.1 code new
    simp only [Bool.and_eq_true, decide_eq_true_eq] at fresh
    exact fresh.2 old
  · cases created

theorem randomCode_nonempty (codeLength : Nat) (positive : 0 < codeLength)
    (codePrefix : Option Text) (choices : Choices) :
    randomCode codeLength codePrefix choices ≠ [] :=
  List.append_ne_nil_of_right_ne_nil _ (body_nonempty codeLength positive choices)

theorem Sound.append {store : Store} (sound : Sound store) (batches : List Batch)
    (rows : List Voucher) (unique : ((store.vouchers ++ rows).map Voucher.code).Nodup)
    (each : ∀ voucher ∈ rows, voucher.code ≠ [] ∧
      (Normal voucher.code ∨ ∃ batch ∈ batches, Generated batch voucher.code))
    (issued : ∀ batch ∈ batches, 0 < batch.quantity →
      ∃ voucher ∈ rows, Generated batch voucher.code) :
    Sound ⟨store.batches ++ batches, store.vouchers ++ rows⟩ := by
  constructor
  · exact unique
  · intro voucher member
    rcases List.mem_append.mp member with old | new
    · exact sound.nonempty voucher old
    · exact (each voucher new).1
  · intro voucher member
    rcases List.mem_append.mp member with old | new
    · apply (sound.source voucher old).imp_right
      rintro ⟨batch, listed, generated⟩
      exact ⟨batch, List.mem_append_left _ listed, generated⟩
    · apply (each voucher new).2.imp_right
      rintro ⟨batch, listed, generated⟩
      exact ⟨batch, List.mem_append_right _ listed, generated⟩
  · intro batch member wanted
    rcases List.mem_append.mp member with old | new
    · obtain ⟨voucher, listed, generated⟩ := sound.issued batch old wanted
      exact ⟨voucher, List.mem_append_left _ listed, generated⟩
    · obtain ⟨voucher, listed, generated⟩ := issued batch new wanted
      exact ⟨voucher, List.mem_append_right _ listed, generated⟩

theorem sound_created (store after : Store) (request : BatchRequest) (draws : Nat → Nat → Choices)
    (sound : Sound store) (created : createBatch store request draws = some after) :
    Sound after := by
  simp only [createBatch] at created
  split at created
  · -- An import target: no codes are generated for it.
    rename_i nothing
    cases created
    have added := sound.append [⟨request.quantity, request.codeLength, request.codePrefix⟩] []
    rw [List.append_nil] at added
    apply added sound.unique
    · intro voucher none
      cases none
    · intro batch member wanted
      obtain rfl := List.mem_singleton.mp member
      exact absurd nothing wanted.ne'
  · rename_i some
    have positive : 0 < request.codeLength := by
      have low := request.codeLengthBounds.1
      omega
    split at created
    · cases created
    · rename_i codes generated
      obtain ⟨length, drawn⟩ := generateCodes_ok store.codes request draws codes generated
      obtain ⟨rfl, unique⟩ := bulkCreateVouchers_some _ _ _ created
      have own : ∀ code ∈ codes, Generated
          ⟨request.quantity, request.codeLength, request.codePrefix⟩ code :=
        fun code member => ⟨Nat.pos_of_ne_zero some, positive, drawn.drawn code member⟩
      apply sound.append _ _ (unique sound.unique)
      · intro voucher member
        obtain ⟨code, listed, rfl⟩ := List.mem_map.mp member
        obtain ⟨_, _, choices, same⟩ := own code listed
        refine ⟨?_, .inr ⟨_, List.mem_singleton_self _, own code listed⟩⟩
        dsimp only
        rw [same]
        exact randomCode_nonempty _ positive _ choices
      · intro batch member wanted
        obtain rfl := List.mem_singleton.mp member
        have first : 0 < codes.length := by
          rw [length]
          exact wanted
        obtain ⟨code, listed⟩ := List.exists_mem_of_length_pos first
        exact ⟨_, List.mem_map_of_mem listed, own code listed⟩

theorem importCode_candidates (codes : List Text) (round : ImportRound)
    (sofar : ∀ code ∈ round.candidates, Normal code ∧ code ≠ []) :
    ∀ code ∈ (codes.foldl importCode round).candidates, Normal code ∧ code ≠ [] := by
  induction codes generalizing round with
  | nil => exact sofar
  | cons rawCode rest ih =>
      apply ih
      simp only [importCode]
      split
      · exact sofar
      · rename_i nonempty
        split
        · exact sofar
        · intro code member
          rcases List.mem_append.mp member with old | new
          · exact sofar code old
          · obtain rfl := List.mem_singleton.mp new
            exact ⟨normalize_normalize rawCode, nonempty⟩

theorem sound_imported (store after : Store) (batch : Nat) (codes : List Text) (sound : Sound store)
    (result : ImportResult) (imported : importVouchers store batch codes = some (after, result)) :
    Sound after := by
  simp only [importVouchers] at imported
  split at imported
  · cases imported
  · obtain ⟨stored, created, same⟩ := Option.map_eq_some_iff.mp imported
    obtain ⟨rfl, -⟩ := Prod.mk.injEq .. ▸ same
    obtain ⟨rfl, unique⟩ := bulkCreateVouchers_some _ _ _ created
    have normal : ∀ voucher ∈ ((codes.foldl importCode ⟨[], []⟩).candidates.filter fun code =>
        code ∉ store.codes).map (⟨batch, ·⟩ : Text → Voucher),
        Normal voucher.code ∧ voucher.code ≠ [] := by
      intro voucher member
      obtain ⟨code, listed, rfl⟩ := List.mem_map.mp member
      exact importCode_candidates codes ⟨[], []⟩ (by simp) code (List.mem_of_mem_filter listed)
    have added := sound.append [] _ (unique sound.unique)
      (fun voucher member => ⟨(normal voucher member).2, .inl (normal voucher member).1⟩)
      fun batch none => absurd none List.not_mem_nil
    rw [List.append_nil] at added
    exact added

theorem sound_step (store after : Store) (action : Action) (sound : Sound store)
    (stepped : step store action = some after) : Sound after := by
  cases action with
  | create request draws => exact sound_created store after request draws sound stepped
  | importing batch codes =>
      obtain ⟨⟨stored, result⟩, imported, rfl⟩ := Option.map_eq_some_iff.mp stepped
      exact sound_imported store stored batch codes sound result imported

theorem sound_reached (store : Store)
    (reached : Reached step (fun _ _ => True) Store.empty store) : Sound store := by
  apply reached.invariant Sound
  · exact ⟨List.nodup_nil, by simp [Store.empty], by simp [Store.empty], by simp [Store.empty]⟩
  · intro before action after sound _ stepped
    exact sound_step before after action sound stepped

end Stores

section Claims

/-- Every stored code is found as it is printed, whatever blanks are typed around it. -/
def FoundAsPrinted (store : Store) : Prop :=
  ∀ voucher ∈ store.vouchers, ∀ before after : Text,
    (∀ char ∈ before ++ after, isSpace char = true) →
      lookUp store (before ++ voucher.code ++ after) = some voucher

def ToNoOther (store : Store) : Prop :=
  ∀ voucher ∈ store.vouchers, ∀ other ∈ store.vouchers, voucher.code ≠ other.code →
    ∀ typed, normalizeVoucherCode typed = voucher.code → lookUp store typed ≠ some other

def GeneratesFresh (store : Store) : Prop :=
  ∀ request draws codes, generateCodes store.codes request draws = .ok codes →
    codes.length = request.quantity ∧ codes.Nodup ∧ ∀ code ∈ codes, code ∉ store.codes

theorem foundAsPrinted_iff (store : Store) (sound : Sound store) :
    FoundAsPrinted store ↔
      ∀ batch ∈ store.batches, 0 < batch.quantity → TypedPrefix batch.codePrefix := by
  constructor
  · intro found batch member wanted
    obtain ⟨voucher, listed, _, positive, choices, same⟩ := sound.issued batch member wanted
    have printed := found voucher listed [] [] (by simp)
    rw [List.nil_append, List.append_nil] at printed
    have normal := normal_of_found store voucher printed
    rw [same] at normal
    exact (normal_randomCode _ positive _ choices).mp normal
  · intro typed voucher member before after spaces
    apply lookUp_exact store sound.unique voucher member
    apply normal_surrounded before voucher.code after _ (sound.nonempty voucher member) spaces
    rcases sound.source voucher member with normal | ⟨batch, listed, wanted, positive, choices, same⟩
    · exact normal
    · rw [same]
      exact (normal_randomCode _ positive _ choices).mpr (typed batch listed wanted)

/-- Stored codes can be typed in exactly when every batch that generated some has a prefix
spelled as it is looked up. -/
theorem codes_typed_iff (store : Store)
    (reached : Reached step (fun _ _ => True) Store.empty store) :
    (FoundAsPrinted store ∧ ToNoOther store ∧ GeneratesFresh store) ↔
      ∀ batch ∈ store.batches, 0 < batch.quantity → TypedPrefix batch.codePrefix := by
  have sound := sound_reached store reached
  rw [← foundAsPrinted_iff store sound, and_iff_left_iff_imp]
  intro _
  constructor
  · intro voucher member other _ apart typed exact found
    rw [lookUp_exact store sound.unique voucher member typed exact] at found
    cases found
    exact apart rfl
  · intro request draws codes generated
    obtain ⟨length, drawn⟩ := generateCodes_ok store.codes request draws codes generated
    exact ⟨length, drawn.unique, drawn.fresh⟩

def oneCode (text : Text) (short : text.length ≤ 20) : BatchRequest where
  quantity := 1
  codeLength := 4
  codePrefix := some text
  quantityBound := by decide
  codeLengthBounds := by decide
  prefixBound := by simpa using short

def firstSymbols : Nat → Nat → Choices := fun _ _ _ => ⟨0, by decide⟩

def julyStore (text : Text) (imported : List Voucher) : Store :=
  ⟨[⟨1, 4, some text⟩], ⟨0, text ++ "AAAA".toList⟩ :: imported⟩

theorem july_created : step Store.empty (.create (oneCode "JULY-".toList (by decide)) firstSymbols) =
    some (julyStore "JULY-".toList []) := by decide +kernel

theorem printed_imported :
    step (julyStore "JULY-".toList []) (.importing 0 [" print-001 ".toList]) =
      some (julyStore "JULY-".toList [⟨0, "PRINT-001".toList⟩]) := by decide +kernel

theorem july_reached : Reached step (fun _ _ => True) Store.empty
    (julyStore "JULY-".toList [⟨0, "PRINT-001".toList⟩]) :=
  .next (.next .start trivial july_created) trivial printed_imported

theorem codes_typed_july :
    FoundAsPrinted (julyStore "JULY-".toList [⟨0, "PRINT-001".toList⟩]) ∧
      ToNoOther (julyStore "JULY-".toList [⟨0, "PRINT-001".toList⟩]) ∧
      GeneratesFresh (julyStore "JULY-".toList [⟨0, "PRINT-001".toList⟩]) := by
  have typed : TypedPrefix (some "JULY-".toList) := by decide +kernel
  apply (codes_typed_iff _ july_reached).mpr
  intro batch member _
  obtain rfl := List.mem_singleton.mp member
  exact typed

/-- Under a prefix in the lower case the code is stored as it is drawn, and not found. -/
theorem lower_prefix_lost :
    Reached step (fun _ _ => True) Store.empty (julyStore "july-".toList []) ∧
      lookUp (julyStore "july-".toList []) "july-AAAA".toList = none ∧
      ¬ FoundAsPrinted (julyStore "july-".toList []) := by
  have created : step Store.empty (.create (oneCode "july-".toList (by decide)) firstSymbols) =
      some (julyStore "july-".toList []) := by decide +kernel
  have missing : lookUp (julyStore "july-".toList []) "july-AAAA".toList = none := by decide +kernel
  refine ⟨.next .start trivial created, missing, fun found => ?_⟩
  have printed := found ⟨0, "july-AAAA".toList⟩ (by decide) [] [] (by simp)
  rw [List.nil_append, List.append_nil, missing] at printed
  cases printed

end Claims

end CloudGuest.VoucherCodes
