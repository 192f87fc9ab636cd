import CloudGuest.Library.Runs
import CloudGuest.Library.Uppercase

/-!
The codes of vouchers: how `create_batch` draws them, how `import_vouchers` takes them
over and how a typed code is looked up (voucher/service.py and voucher/validators.py).
Requests that an earlier check refuses store nothing and are left out, and so are the
columns no code depends on. No operation deletes a voucher.
-/

namespace CloudGuest.VoucherCodes

open Texts Uppercase Runs

/-! ### Spellings -/

def codeSeparators : Text := [' ', '\t', '-', '‐', '‑', '‒', '–', '—', '_']

def normalizeVoucherCode (code : Text) : Text := upper (strip code)

def voucherCodeLookupCandidates (code : Text) : List Text :=
  let exact := normalizeVoucherCode code
  let stripped := exact.filter fun char => char ∉ codeSeparators
  if stripped = exact then [exact] else [exact, stripped]

structure Voucher where
  batch : Nat
  code : Text
  deriving DecidableEq

structure Batch where
  quantity : Nat
  codeLength : Nat
  codePrefix : Option Text
  deriving DecidableEq

structure Store where
  batches : List Batch
  vouchers : List Voucher
  deriving DecidableEq

def Store.empty : Store := ⟨[], []⟩

def Store.codes (store : Store) : List Text := store.vouchers.map Voucher.code

def getVoucherByCode (store : Store) (code : Text) : Option Voucher :=
  store.vouchers.find? fun voucher => voucher.code = code

def lookUp (store : Store) (code : Text) : Option Voucher :=
  (voucherCodeLookupCandidates code).findSome? (getVoucherByCode store)

/-! ### Generated codes -/

def voucherCodeAlphabet : Text := "ABCDEFGHJKLMNPQRSTUVWXYZ23456789".toList

structure BatchRequest where
  quantity : Nat
  codeLength : Nat
  codePrefix : Option Text
  quantityBound : quantity ≤ 1000
  codeLengthBounds : 4 ≤ codeLength ∧ codeLength ≤ 20
  prefixBound : ∀ text ∈ codePrefix, text.length ≤ 20

abbrev Choices := Nat → Fin voucherCodeAlphabet.length

def body (codeLength : Nat) (choices : Choices) : Text :=
  (List.range codeLength).map fun place => voucherCodeAlphabet[choices place]

def prefixText (codePrefix : Option Text) : Text := codePrefix.getD []

def randomCode (codeLength : Nat) (codePrefix : Option Text) (choices : Choices) : Text :=
  prefixText codePrefix ++ body codeLength choices

def drawRounds (stored : List Text) (request : BatchRequest) (draws : Nat → Nat → Choices) :
    Nat → List Text → List Text
  | 0, generated => generated
  | rounds + 1, generated =>
      if request.quantity ≤ generated.length then generated
      else
        let drawn := (List.range (request.quantity - generated.length)).map fun candidate =>
          randomCode request.codeLength request.codePrefix (draws rounds candidate)
        let candidates := drawn.dedup.filter fun code => code ∉ generated
        drawRounds stored request draws rounds
          (generated ++ candidates.filter fun code => code ∉ stored)

def codeGenerationMaxRounds : Nat := 10

def generateCodes (stored : List Text) (request : BatchRequest) (draws : Nat → Nat → Choices) :
    Except (Nat × Nat) (List Text) :=
  -- `_generate_codes`: the codes, or how many were wanted and how many there were.
  let generated := drawRounds stored request draws codeGenerationMaxRounds []
  if generated.length < request.quantity then .error (request.quantity, generated.length)
  else .ok (generated.take request.quantity)

/-! ### Storing -/

def codeWidth : Nat := 64

def bulkCreateVouchers (store : Store) (rows : List Voucher) : Option Store :=
  -- `bulk_create_vouchers`: all rows, or none where a code is too long or not unique.
  if (rows.map Voucher.code).all (fun code => code.length ≤ codeWidth && code ∉ store.codes) ∧
      (rows.map Voucher.code).Nodup then
    some { store with vouchers := store.vouchers ++ rows }
  else none

def createBatch (store : Store) (request : BatchRequest) (draws : Nat → Nat → Choices) :
    Option Store :=
  let batch : Batch := ⟨request.quantity, request.codeLength, request.codePrefix⟩
  let created : Store := { store with batches := store.batches ++ [batch] }
  if request.quantity = 0 then some created
  else
    match generateCodes store.codes request draws with
    | .error _ => none
    | .ok codes => bulkCreateVouchers created (codes.map (⟨store.batches.length, ·⟩))

structure ImportRound where
  rejected : List (Text × Text)
  candidates : List Text

def importCode (round : ImportRound) (rawCode : Text) : ImportRound :=
  let code := normalizeVoucherCode rawCode
  if code = [] then
    { round with rejected := round.rejected ++ [(rawCode, "empty code".toList)] }
  else if code ∈ round.candidates then
    { round with rejected := round.rejected ++ [(code, "duplicate within import request".toList)] }
  else { round with candidates := round.candidates ++ [code] }

structure ImportResult where
  imported : List Voucher
  rejected : List (Text × Text)

def importVouchers (store : Store) (batch : Nat) (codes : List Text) :
    Option (Store × ImportResult) :=
  if store.batches.length ≤ batch ∨ 1000 < codes.length then none
  else
    let round := codes.foldl importCode ⟨[], []⟩
    let rows := (round.candidates.filter fun code => code ∉ store.codes).map (⟨batch, ·⟩)
    let existing := round.candidates.filter fun code => code ∈ store.codes
    (bulkCreateVouchers store rows).map fun after =>
      (after, ⟨rows, round.rejected ++ existing.map (·, "code already exists".toList)⟩)

inductive Action where
  | create (request : BatchRequest) (draws : Nat → Nat → Choices)
  | importing (batch : Nat) (codes : List Text)

def step (store : Store) : Action → Option Store
  | .create request draws => createBatch store request draws
  | .importing batch codes => (importVouchers store batch codes).map Prod.fst

end CloudGuest.VoucherCodes
