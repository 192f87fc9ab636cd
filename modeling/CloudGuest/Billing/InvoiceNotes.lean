import CloudGuest.Library.Calls
import CloudGuest.Library.Decimals
import CloudGuest.Library.Texts
import CloudGuest.Library.Runs
import CloudGuest.Billing.Invoices

/-!
One invoice, what changes its status, and its credit and debit notes
(billing/service.py, `InvoiceService`, and billing/number_generator.py). A status
change is checked against `_INVOICE_TRANSITIONS` on a row read earlier and then
written by id, and a credit note is compared with the invoice's total alone, so
of two requests under way each may undo what the other's check rested on. The
document numbers are safe: the counter is incremented by one statement that keeps
its row locked until the transaction ends.

The runs that keep the rest are those whose updates find the row they have read, and
whose credit notes, where there is more than one, are asked for within the total.
-/

namespace CloudGuest.InvoiceNotes
open Calendar Texts Decimals Invoices Runs Calls

inductive DocumentType where
  | invoice | creditNote | debitNote
  deriving DecidableEq

def DocumentType.prefixText : DocumentType → Text
  | .invoice => "INV".toList
  | .creditNote => "CN".toList
  | .debitNote => "DN".toList

def numberSequenceDigits : Nat := 5

def zeroFilled (width number : Nat) : Text :=
  List.replicate (width - (decimal number).length) '0' ++ decimal number

def formatNumber (type : DocumentType) (year sequence : Nat) : Text :=
  type.prefixText ++ '-' :: decimal year ++ '-' :: zeroFilled numberSequenceDigits sequence

structure Document where
  type : DocumentType
  year : Nat
  number : Text
  deriving DecidableEq

/-- An invoice with what these operations read of it. Amounts are in hundredths. -/
structure Billed extends Invoice where
  dueDate : Moment
  totalAmount : Nat
  deriving DecidableEq

structure Update where
  found : InvoiceStatus × Option Nat
  assigned : InvoiceStatus × Option Nat
  deriving DecidableEq

/-- A document being made: a note on this invoice with the amount asked for, or a document of
another invoice; and its number, once the counter has given it. -/
structure Making where
  type : DocumentType
  amount : Option ℚ
  numbered : Option (Nat × Nat)
  deriving DecidableEq

def Making.lock (making : Making) : Option (DocumentType × Nat) :=
  making.numbered.map fun numbered => (making.type, numbered.1)

structure Note where
  type : DocumentType
  amount : Int
  deriving DecidableEq

/-- The tables, the requests under way, and every status change and every write of `payment_id`
so far. `counters` is the `last_value` of each counter, 0 where the row does not exist yet. -/
structure Ledger where
  invoice : Billed
  notes : List Note
  documents : List Document
  counters : DocumentType → Nat → Nat
  updates : List Update
  makings : List Making
  changes : List (InvoiceStatus × InvoiceStatus)
  payments : List Nat

def Ledger.started (invoice : Billed) : Ledger :=
  ⟨{ invoice with payment := none }, [], [], fun _ _ => 0, [], [], [], []⟩

def notable (status : InvoiceStatus) : Bool :=
  status = .issued || status = .overdue || status = .paid

def noteAllowed (invoice : Billed) (type : DocumentType) (amount : ℚ) : Bool :=
  notable invoice.status && 0 < amount &&
    match type with
    | .creditNote => amount ≤ (invoice.totalAmount : ℚ) / 10 ^ 2
    | .debitNote => true
    | .invoice => false

inductive Action where
  /-- `mark_invoice_paid` reads the invoice, by hand or for a payment's webhook. -/
  | readPaid (payment : Nat)
  | readVoid
  /-- The sweep lists the invoice among those past due. -/
  | readOverdue (now : Moment)
  | commitUpdate (update : Nat)
  | abortUpdate (update : Nat)
  | checkNote (type : DocumentType) (amount : ℚ)
  /-- A document of another invoice is being made. -/
  | startOther (type : DocumentType)
  | incrementAndGetNext (making year : Nat)
  | commitDocument (making : Nat)
  | abortDocument (making : Nat)

def Ledger.read (ledger : Ledger) (target : InvoiceStatus) (payment : Option Nat) : Ledger :=
  let found := (ledger.invoice.status, ledger.invoice.payment)
  { ledger with updates := ledger.updates ++ [⟨found, (target, payment)⟩] }

def Ledger.write (ledger : Ledger) (update : Update) : Ledger :=
  let status := flushed update.found.1 update.assigned.1 ledger.invoice.status
  let payment := flushed update.found.2 update.assigned.2 ledger.invoice.payment
  { ledger with
    invoice := { ledger.invoice with status, payment }
    changes := if status = ledger.invoice.status then ledger.changes
      else ledger.changes ++ [(ledger.invoice.status, status)]
    payments := if update.assigned.2 = update.found.2 then ledger.payments
      else ledger.payments ++ update.assigned.2.toList }

def Ledger.enter (ledger : Ledger) (type : DocumentType) (amount : Option ℚ) (year sequence : Nat) :
    Ledger :=
  { ledger with
    notes := ledger.notes ++ (amount.map fun amount => ⟨type, stored 2 amount⟩).toList
    documents := ledger.documents ++ [⟨type, year, formatNumber type year sequence⟩]
    counters := fun otherType otherYear =>
      if otherType = type ∧ otherYear = year then sequence else ledger.counters otherType otherYear }

def step (ledger : Ledger) : Action → Option Ledger
  | .readPaid payment =>
      if .paid ∈ invoiceTransitions ledger.invoice.status then
        some (ledger.read .paid (some payment))
      else none
  | .readVoid =>
      (voidTarget ledger.invoice.status).map fun target => ledger.read target ledger.invoice.payment
  | .readOverdue now =>
      if ledger.invoice.status = .issued ∧ ledger.invoice.dueDate ≤ now then
        some (ledger.read .overdue ledger.invoice.payment)
      else none
  | .commitUpdate place =>
      (ledger.updates[place]?).map fun update =>
        { ledger.write update with updates := ledger.updates.eraseIdx place }
  | .abortUpdate place => some { ledger with updates := ledger.updates.eraseIdx place }
  | .checkNote type amount =>
      if noteAllowed ledger.invoice type amount then
        some { ledger with makings := ledger.makings ++ [⟨type, some amount, none⟩] }
      else none
  | .startOther type => some { ledger with makings := ledger.makings ++ [⟨type, none, none⟩] }
  | .incrementAndGetNext place year =>
      (ledger.makings[place]?).bind fun making =>
        if making.numbered = none ∧ (making.type, year) ∉ locks Making.lock ledger.makings then
          some { ledger with
            makings := ledger.makings.set place
              { making with numbered := some (year, ledger.counters making.type year + 1) } }
        else none
  | .commitDocument place =>
      (ledger.makings[place]?).bind fun making =>
        match making.numbered with
        | some (year, sequence) =>
            -- An amount that NUMERIC(12, 2) cannot hold is an error of the insert.
            if making.amount.all fun amount => stored 2 amount < 10 ^ 12 then
              some { ledger.enter making.type making.amount year sequence with
                makings := ledger.makings.eraseIdx place }
            else none
        | none => none
  | .abortDocument place => some { ledger with makings := ledger.makings.eraseIdx place }

def noted (notes : List Note) (type : DocumentType) : Int :=
  ((notes.filter fun note => note.type = type).map Note.amount).sum

def Making.credit (making : Making) : Int :=
  if making.type = .creditNote then (making.amount.map (stored 2)).getD 0 else 0

/-- What the credit notes take that were asked for so far. -/
def credits (ledger : Ledger) : Int :=
  noted ledger.notes .creditNote + (ledger.makings.map Making.credit).sum

/-- An update finds the row as it was read; a credit note is the first that is asked for, or with it
they stay within the total and the debit notes. -/
def asRead (ledger : Ledger) : Action → Bool
  | .commitUpdate place =>
      (ledger.updates[place]?).all fun update =>
        (ledger.invoice.status, ledger.invoice.payment) = update.found
  | .checkNote type amount =>
      type ≠ .creditNote || credits ledger = 0 ||
        credits ledger + stored 2 amount ≤ ledger.invoice.totalAmount + noted ledger.notes .debitNote
  | _ => true

/-! ### Numbers -/

theorem zeroFilled_injective (width : Nat) : Function.Injective (zeroFilled width) := by
  intro first second same
  have read : ∀ number, Nat.ofDigitChars 10 (zeroFilled width number) 0 = number := by
    intro number
    simp [zeroFilled, decimal, Nat.ofDigitChars_append, Nat.ofDigitChars_replicate_zero,
      Nat.ofDigitChars_ten_toDigits]
  rw [← read first, same, read second]

theorem formatNumber_injective (type : DocumentType) (year : Nat) :
    Function.Injective (formatNumber type year) := by
  intro first second same
  have tails := List.append_cancel_left same
  exact zeroFilled_injective numberSequenceDigits (List.cons.inj tails).2

/-- Where a document's number comes from: a value its counter has passed. -/
def Numbered (counters : DocumentType → Nat → Nat) (document : Document) : Prop :=
  ∃ sequence ≤ counters document.type document.year,
    document.number = formatNumber document.type document.year sequence

/-! ### What every run keeps of the numbers -/

def distinctNumbers (documents : List Document) : Prop :=
  documents.Pairwise fun first second =>
    first.type = second.type → first.year = second.year → first.number ≠ second.number

/-- A numbered document under way holds the next value of its counter, and nobody else does. -/
structure Numbering (ledger : Ledger) : Prop where
  next : ∀ making ∈ ledger.makings, ∀ year sequence, making.numbered = some (year, sequence) →
    sequence = ledger.counters making.type year + 1
  exclusive : (locks Making.lock ledger.makings).Nodup
  numbers : ∀ document ∈ ledger.documents, Numbered ledger.counters document
  distinct : distinctNumbers ledger.documents

theorem numbering_started (invoice : Billed) : Numbering (Ledger.started invoice) := by
  constructor <;> simp [Ledger.started, locks, distinctNumbers]

theorem numbering_aside (before after : Ledger) (numbering : Numbering before)
    (makings : after.makings = before.makings) (counters : after.counters = before.counters)
    (documents : after.documents = before.documents) : Numbering after := by
  constructor
  · rw [makings, counters]
    exact numbering.next
  · rw [makings]
    exact numbering.exclusive
  · rw [counters, documents]
    exact numbering.numbers
  · rw [documents]
    exact numbering.distinct

theorem numbering_making (ledger : Ledger) (numbering : Numbering ledger) (making : Making)
    (fresh : making.numbered = none) :
    Numbering { ledger with makings := ledger.makings ++ [making] } := by
  refine ⟨?_, ?_, numbering.numbers, numbering.distinct⟩
  · exact each_started numbering.next (by simp [fresh])
  · exact exclusive_started numbering.exclusive (by simp [Making.lock, fresh])

theorem numbering_unmade (ledger : Ledger) (numbering : Numbering ledger) (place : Nat) :
    Numbering { ledger with makings := ledger.makings.eraseIdx place } :=
  ⟨each_ended numbering.next place, exclusive_ended numbering.exclusive place, numbering.numbers,
    numbering.distinct⟩

theorem numbering_incremented (ledger : Ledger) (numbering : Numbering ledger) (place year : Nat)
    (making : Making) (found : ledger.makings[place]? = some making)
    (fresh : making.numbered = none)
    (free : (making.type, year) ∉ locks Making.lock ledger.makings) :
    Numbering { ledger with
      makings := ledger.makings.set place
        { making with numbered := some (year, ledger.counters making.type year + 1) } } := by
  refine ⟨?_, ?_, numbering.numbers, numbering.distinct⟩
  · refine each_continued numbering.next place ?_
    intro year sequence numbered
    cases numbered
    rfl
  · exact exclusive_taken numbering.exclusive place found (by simp [Making.lock, fresh]) rfl free

theorem numbering_enter (ledger : Ledger) (numbering : Numbering ledger)
    (place year sequence : Nat) (making : Making) (found : ledger.makings[place]? = some making)
    (numbered : making.numbered = some (year, sequence)) :
    Numbering { ledger.enter making.type making.amount year sequence with
      makings := ledger.makings.eraseIdx place } := by
  have next := found_holds numbering.next found year sequence numbered
  have free : (making.type, year) ∉ locks Making.lock (ledger.makings.eraseIdx place) :=
    locks_ended_free numbering.exclusive found (by simp [Making.lock, numbered])
  have grown : ∀ type other, ledger.counters type other ≤
      (ledger.enter making.type making.amount year sequence).counters type other := by
    intro type other
    simp only [Ledger.enter]
    split
    · rename_i same
      rw [same.1, same.2, next]
      exact Nat.le_succ _
    · exact le_refl _
  refine ⟨?_, exclusive_ended numbering.exclusive place, ?_, ?_⟩
  · intro other member otherYear otherSequence taken
    simp only [Ledger.enter]
    split
    · rename_i same
      -- Two documents under way would hold one counter's row.
      refine absurd (mem_locks.mpr ⟨other, member, ?_⟩) free
      simp [Making.lock, taken, same.1, same.2]
    · exact each_ended numbering.next place other member otherYear otherSequence taken
  · refine each_started (fun document member => ?_) ⟨sequence, ?_, rfl⟩
    · obtain ⟨old, passed, number⟩ := numbering.numbers document member
      exact ⟨old, le_trans passed (grown _ _), number⟩
    · simp [Ledger.enter]
  · simp only [distinctNumbers, Ledger.enter, List.pairwise_append, List.pairwise_singleton,
      List.mem_singleton, true_and]
    refine ⟨numbering.distinct, ?_⟩
    rintro earlier member last rfl sameType sameYear sameNumber
    obtain ⟨old, passed, number⟩ := numbering.numbers earlier member
    dsimp only at sameType sameYear sameNumber
    rw [sameType, sameYear] at passed number
    rw [number] at sameNumber
    have equal := formatNumber_injective _ _ sameNumber
    omega

theorem numbering_step (ledger next : Ledger) (action : Action) (numbering : Numbering ledger)
    (stepped : step ledger action = some next) : Numbering next := by
  cases action with
  | readPaid payment =>
      simp only [step] at stepped
      split at stepped
      · cases stepped
        exact numbering_aside ledger _ numbering rfl rfl rfl
      · cases stepped
  | readVoid =>
      obtain ⟨target, -, rfl⟩ := Option.map_eq_some_iff.mp stepped
      exact numbering_aside ledger _ numbering rfl rfl rfl
  | readOverdue now =>
      simp only [step] at stepped
      split at stepped
      · cases stepped
        exact numbering_aside ledger _ numbering rfl rfl rfl
      · cases stepped
  | commitUpdate place =>
      obtain ⟨update, -, rfl⟩ := Option.map_eq_some_iff.mp stepped
      exact numbering_aside ledger _ numbering rfl rfl rfl
  | abortUpdate place =>
      cases stepped
      exact numbering_aside ledger _ numbering rfl rfl rfl
  | checkNote type amount =>
      simp only [step] at stepped
      split at stepped
      · cases stepped
        exact numbering_making ledger numbering _ rfl
      · cases stepped
  | startOther type =>
      cases stepped
      exact numbering_making ledger numbering _ rfl
  | incrementAndGetNext place year =>
      obtain ⟨making, found, stepped⟩ := Option.bind_eq_some_iff.mp stepped
      split at stepped
      · rename_i free
        cases stepped
        exact numbering_incremented ledger numbering place year making found free.1 free.2
      · cases stepped
  | commitDocument place =>
      obtain ⟨making, found, stepped⟩ := Option.bind_eq_some_iff.mp stepped
      split at stepped
      · rename_i year sequence numbered
        split at stepped
        · cases stepped
          exact numbering_enter ledger numbering place year sequence making found numbered
        · cases stepped
      · cases stepped
  | abortDocument place =>
      cases stepped
      exact numbering_unmade ledger numbering place

theorem numbers_distinct (invoice : Billed) (ledger : Ledger)
    (reached : Reached step (fun _ _ => True) (Ledger.started invoice) ledger) :
    distinctNumbers ledger.documents := by
  -- Whatever its commits overwrite, a run never gives one number twice.
  have numbering : Numbering ledger := by
    refine Reached.invariant Numbering (numbering_started invoice) ?_ reached
    intro state action next held _ stepped
    exact numbering_step state next action held stepped
  exact numbering.distinct

/-! ### What the condition keeps -/

structure Kept (ledger : Ledger) : Prop where
  edges : ∀ change ∈ ledger.changes, change.2 ∈ invoiceTransitions change.1
  paidOnce : ledger.payments.length ≤ 1
  credited : noted ledger.notes .creditNote ≤
    ledger.invoice.totalAmount + noted ledger.notes .debitNote

/-- An update under way found a status from which its own is allowed, and assigns a payment only
where it marks the invoice paid. -/
structure UpdateSound (update : Update) : Prop where
  allowed : update.assigned.1 ∈ invoiceTransitions update.found.1
  payment : update.assigned.2 = update.found.2 ∨ update.assigned.1 = .paid

/-- A note that is being made passed its check, so it takes nothing back. -/
def Positive (making : Making) : Prop := ∀ amount, making.amount = some amount → 0 < amount

structure Sound (ledger : Ledger) : Prop where
  edges : ∀ change ∈ ledger.changes, change.2 ∈ invoiceTransitions change.1
  paidOnce : ledger.payments.length ≤ 1
  paid : ledger.payments ≠ [] → ledger.invoice.status = .paid
  updates : ∀ update ∈ ledger.updates, UpdateSound update
  positive : ∀ making ∈ ledger.makings, Positive making
  debited : 0 ≤ noted ledger.notes .debitNote
  within : credits ledger ≤ ledger.invoice.totalAmount + noted ledger.notes .debitNote

theorem sound_started (invoice : Billed) : Sound (Ledger.started invoice) := by
  constructor <;> simp [Ledger.started, noted, credits]

theorem paid_final (target : InvoiceStatus) : target ∉ invoiceTransitions .paid := by
  simp [invoiceTransitions]

theorem noted_appended (notes : List Note) (note : Note) (type : DocumentType) :
    noted (notes ++ [note]) type = noted notes type + if note.type = type then note.amount else 0 := by
  by_cases same : note.type = type <;> simp [noted, List.filter_append, same]

theorem stored_nonneg (amount : ℚ) (positive : 0 < amount) : 0 ≤ stored 2 amount := by
  have scaled : (0 : ℚ) ≤ amount * 10 ^ 2 := by positivity
  rw [stored, halfUp, if_pos scaled]
  exact Int.floor_nonneg.mpr (by linarith)

theorem stored_le (amount : ℚ) (total : Nat) (positive : 0 < amount) (capped : amount ≤ (total : ℚ) / 10 ^ 2) :
    stored 2 amount ≤ total := by
  have scaled : (0 : ℚ) ≤ amount * 10 ^ 2 := by positivity
  rw [stored, halfUp, if_pos scaled, Int.floor_le_iff]
  push_cast
  linarith

theorem credit_nonneg (making : Making) (positive : Positive making) : 0 ≤ making.credit := by
  unfold Making.credit
  split
  · cases asked : making.amount with
    | none => simp
    | some amount => simpa using stored_nonneg amount (positive amount asked)
  · exact le_rfl

theorem Sound.toKept {ledger : Ledger} (sound : Sound ledger) : Kept ledger := by
  refine ⟨sound.edges, sound.paidOnce, ?_⟩
  have awaited : 0 ≤ (ledger.makings.map Making.credit).sum := by
    refine List.sum_nonneg fun credit member => ?_
    obtain ⟨making, listed, rfl⟩ := List.mem_map.mp member
    exact credit_nonneg making (sound.positive making listed)
  have within := sound.within
  unfold credits at within
  omega

theorem sound_read (ledger : Ledger) (sound : Sound ledger) (target : InvoiceStatus)
    (payment : Option Nat) (allowed : target ∈ invoiceTransitions ledger.invoice.status)
    (paid : payment = ledger.invoice.payment ∨ target = .paid) :
    Sound (ledger.read target payment) :=
  { sound with updates := each_started sound.updates ⟨allowed, paid⟩ }

theorem sound_aside (ledger : Ledger) (sound : Sound ledger) (updates : List Update)
    (makings : List Making) (held : ∀ update ∈ updates, UpdateSound update)
    (positive : ∀ making ∈ makings, Positive making)
    (fewer : (makings.map Making.credit).sum ≤ (ledger.makings.map Making.credit).sum) :
    Sound { ledger with updates, makings } := by
  -- Requests that end, or go on, write nothing; of the notes they make, none asks for more.
  refine { sound with updates := held, positive := positive, within := ?_ }
  have within := sound.within
  unfold credits at within ⊢
  dsimp only
  omega

theorem sound_write (ledger : Ledger) (sound : Sound ledger) (update : Update)
    (held : UpdateSound update)
    (standing : (ledger.invoice.status, ledger.invoice.payment) = update.found) :
    Sound (ledger.write update) := by
  -- A request that finds the row it has read writes an edge of the graph, for its check was made
  -- on that row; and as nothing leaves PAID, no payment was written before.
  have allowed : update.assigned.1 ∈ invoiceTransitions ledger.invoice.status := by
    have checked := held.allowed
    rw [← standing] at checked
    exact checked
  have unpaid : ledger.payments = [] := by
    by_contra written
    rw [sound.paid written] at allowed
    exact paid_final _ allowed
  refine { sound with edges := ?_, paidOnce := ?_, paid := ?_ }
  · simp only [Ledger.write, ← standing, flushed_held]
    split
    · exact sound.edges
    · exact each_started sound.edges allowed
  · simp only [Ledger.write, unpaid]
    split
    · simp
    · cases update.assigned.2 <;> simp
  · intro written
    simp only [Ledger.write, unpaid, ← standing, flushed_held] at written ⊢
    rcases held.payment with same | paid
    · simp [same, ← standing] at written
    · exact paid

theorem sound_checked (ledger : Ledger) (sound : Sound ledger) (type : DocumentType) (amount : ℚ)
    (allowed : noteAllowed ledger.invoice type amount = true)
    (fits : asRead ledger (.checkNote type amount) = true) :
    Sound { ledger with makings := ledger.makings ++ [⟨type, some amount, none⟩] } := by
  -- A note is asked for: the code's own check bounds the first credit note.
  simp only [noteAllowed, Bool.and_eq_true, decide_eq_true_eq] at allowed
  obtain ⟨⟨-, positive⟩, capped⟩ := allowed
  refine { sound with positive := ?_, within := ?_ }
  · refine each_started sound.positive ?_
    intro asked same
    cases same
    exact positive
  · have within := sound.within
    have debited := sound.debited
    simp only [asRead, Bool.or_eq_true, decide_eq_true_eq] at fits
    unfold credits at within fits ⊢
    simp only [List.map_append, List.map_cons, List.map_nil, List.sum_append, List.sum_cons, List.sum_nil,
      Making.credit, Option.map_some, Option.getD_some]
    cases type with
    | invoice => simpa using within
    | debitNote => simpa using within
    | creditNote =>
        have bounded := stored_le amount ledger.invoice.totalAmount positive (of_decide_eq_true capped)
        simp only [ne_eq, not_true, false_or] at fits
        simp only [↓reduceIte]
        omega

theorem sound_enter (ledger : Ledger) (sound : Sound ledger) (place year sequence : Nat) (making : Making)
    (found : ledger.makings[place]? = some making) :
    Sound { ledger.enter making.type making.amount year sequence with
      makings := ledger.makings.eraseIdx place } := by
  have positive := found_holds sound.positive found
  have split := summed_ended Making.credit found
  have within := sound.within
  have debited := sound.debited
  have own : making.credit =
      if making.type = .creditNote then (making.amount.map (stored 2)).getD 0 else 0 := rfl
  have written : ∀ type, noted (ledger.enter making.type making.amount year sequence).notes type =
      noted ledger.notes type + if making.type = type then (making.amount.map (stored 2)).getD 0 else 0 := by
    intro type
    simp only [Ledger.enter]
    cases making.amount with
    | none => simp
    | some amount => simpa using noted_appended _ _ type
  have taken : 0 ≤ (making.amount.map (stored 2)).getD 0 := by
    cases asked : making.amount with
    | none => simp
    | some amount => simpa using stored_nonneg amount (positive amount asked)
  refine { sound with positive := each_ended sound.positive place, debited := ?_, within := ?_ }
  · dsimp only
    rw [written]
    split <;> omega
  · unfold credits at within ⊢
    dsimp only
    rw [written, written]
    rw [own] at split
    simp only [Ledger.enter]
    cases type : making.type <;> simp only [type, reduceCtorEq, ↓reduceIte] at split ⊢ <;> omega

theorem sound_step (ledger next : Ledger) (action : Action) (sound : Sound ledger)
    (standing : asRead ledger action = true) (stepped : step ledger action = some next) :
    Sound next := by
  cases action with
  | readPaid payment =>
      simp only [step] at stepped
      split at stepped
      · rename_i allowed
        cases stepped
        exact sound_read ledger sound .paid (some payment) allowed (.inr rfl)
      · cases stepped
  | readVoid =>
      obtain ⟨target, voided, rfl⟩ := Option.map_eq_some_iff.mp stepped
      exact sound_read ledger sound target _ (voidTarget_allowed _ _ voided) (.inl rfl)
  | readOverdue now =>
      simp only [step] at stepped
      split at stepped
      · rename_i due
        cases stepped
        exact sound_read ledger sound .overdue _ (by rw [due.1]; decide) (.inl rfl)
      · cases stepped
  | commitUpdate place =>
      obtain ⟨update, found, rfl⟩ := Option.map_eq_some_iff.mp stepped
      simp only [asRead, found, Option.all_some, decide_eq_true_eq] at standing
      have written := sound_write ledger sound update (found_holds sound.updates found) standing
      exact sound_aside (ledger.write update) written _ ledger.makings
        (each_ended sound.updates place) sound.positive le_rfl
  | abortUpdate place =>
      cases stepped
      exact sound_aside ledger sound _ ledger.makings (each_ended sound.updates place) sound.positive le_rfl
  | checkNote type amount =>
      simp only [step] at stepped
      split at stepped
      · rename_i allowed
        cases stepped
        exact sound_checked ledger sound type amount allowed standing
      · cases stepped
  | startOther type =>
      cases stepped
      refine sound_aside ledger sound ledger.updates _ sound.updates ?_ ?_
      · exact each_started sound.positive fun amount asked => by cases asked
      · simp [Making.credit]
  | incrementAndGetNext place year =>
      obtain ⟨making, found, stepped⟩ := Option.bind_eq_some_iff.mp stepped
      split at stepped
      · have held := found_holds sound.positive found
        cases stepped
        refine sound_aside ledger sound ledger.updates _ sound.updates (each_continued sound.positive place held) ?_
        refine le_of_eq (congrArg List.sum ?_)
        exact read_continued Making.credit found rfl
      · cases stepped
  | commitDocument place =>
      obtain ⟨making, found, stepped⟩ := Option.bind_eq_some_iff.mp stepped
      split at stepped
      · rename_i year sequence numbered
        split at stepped
        · cases stepped
          exact sound_enter ledger sound place year sequence making found
        · cases stepped
      · cases stepped
  | abortDocument place =>
      cases stepped
      refine sound_aside ledger sound ledger.updates _ sound.updates (each_ended sound.positive place) ?_
      exact summed_erased Making.credit (fun making listed =>
        credit_nonneg making (sound.positive making listed)) place

/-- No run gives one number to two documents of one type and year. In a run whose
updates find what they have read, moreover, and whose credit notes are asked for within the total, every
status change is an edge of the graph, `payment_id` is written once at most, and the credit notes stay
within the total and the debit notes. -/
theorem invoice_kept (invoice : Billed) :
    (∀ ledger, Reached step (fun _ _ => True) (Ledger.started invoice) ledger →
      distinctNumbers ledger.documents) ∧
    ∀ ledger, Reached step (fun ledger action => asRead ledger action = true)
      (Ledger.started invoice) ledger → Kept ledger := by
  refine ⟨numbers_distinct invoice, fun ledger reached => ?_⟩
  have sound : Sound ledger := by
    refine Reached.invariant Sound (sound_started invoice) ?_ reached
    intro state action next held again stepped
    exact sound_step state next action held again stepped
  exact sound.toKept

section Executed

def issuedHundred : Billed :=
  ⟨⟨some 0, .issued, ⟨0, epoch_inRange⟩, 0, none⟩, ⟨0, epoch_inRange⟩, 10000⟩

/-- An invoice goes overdue and is paid; 70.00 and then 40.00 are credited, a debit of 10.00
between them. -/
theorem invoice_kept_settled :
    ∃ ledger, Reached step (fun ledger action => asRead ledger action = true)
        (Ledger.started issuedHundred) ledger ∧
      ledger.changes = [(.issued, .overdue), (.overdue, .paid)] ∧ ledger.payments = [1] ∧
      noted ledger.notes .creditNote = 11000 ∧
      ledger.documents.map Document.number =
        ["CN-2026-00001".toList, "DN-2026-00001".toList, "CN-2026-00002".toList] ∧
      Kept ledger ∧ distinctNumbers ledger.documents := by
  obtain ⟨ledger, reached, seen⟩ := run_observed step (Ledger.started issuedHundred)
    (fun ledger action => asRead ledger action)
    (fun ledger => ledger.changes = [(.issued, .overdue), (.overdue, .paid)] &&
      ledger.payments = [1] && noted ledger.notes .creditNote = 11000 &&
      ledger.documents.map Document.number =
        ["CN-2026-00001".toList, "DN-2026-00001".toList, "CN-2026-00002".toList])
    (fun _ _ checked => checked)
    [.readOverdue ⟨0, by decide⟩, .commitUpdate 0, .readPaid 1, .commitUpdate 0,
      .checkNote .creditNote 70, .checkNote .debitNote 10, .incrementAndGetNext 0 2026,
      .incrementAndGetNext 1 2026, .commitDocument 0, .commitDocument 0,
      .checkNote .creditNote 40, .incrementAndGetNext 0 2026, .commitDocument 0]
    (by decide +kernel)
  simp only [Bool.and_eq_true, decide_eq_true_eq] at seen
  exact ⟨ledger, reached, seen.1.1.1, seen.1.1.2, seen.1.2, seen.2,
    (invoice_kept issuedHundred).2 ledger reached,
    (invoice_kept issuedHundred).1 ledger (reached.weaken fun _ _ _ => trivial)⟩

/-- Two credit notes of 60.00 on an invoice over 100.00; and with two payments and a void all
under way at once, a PAID invoice gets the second payment's id and is then void. -/
theorem paid_invoice_voided :
    ∃ ledger, Reached step (fun _ _ => True) (Ledger.started issuedHundred) ledger ∧
      ¬ Kept ledger ∧ ledger.changes = [(.issued, .paid), (.paid, .void)] ∧
      ledger.payments = [1, 2] ∧ noted ledger.notes .creditNote = 12000 ∧
      ledger.invoice.totalAmount = 10000 ∧ noted ledger.notes .debitNote = 0 := by
  obtain ⟨ledger, reached, seen⟩ := run_observed step (Ledger.started issuedHundred)
    (fun _ _ => true)
    (fun ledger => ledger.changes = [(.issued, .paid), (.paid, .void)] &&
      ledger.payments = [1, 2] && noted ledger.notes .creditNote = 12000 &&
      ledger.invoice.totalAmount = 10000 && noted ledger.notes .debitNote = 0)
    (fun _ _ _ => trivial)
    [.checkNote .creditNote 60, .incrementAndGetNext 0 2026, .commitDocument 0,
      .checkNote .creditNote 60, .incrementAndGetNext 0 2026, .commitDocument 0,
      .readPaid 1, .readPaid 2, .readVoid, .commitUpdate 0, .commitUpdate 0, .commitUpdate 0]
    (by decide +kernel)
  simp only [Bool.and_eq_true, decide_eq_true_eq] at seen
  obtain ⟨⟨⟨⟨changes, payments⟩, credited⟩, total⟩, debited⟩ := seen
  refine ⟨ledger, reached, ?_, changes, payments, credited, total, debited⟩
  intro kept
  have once := kept.paidOnce
  rw [payments] at once
  exact absurd once (by decide)

end Executed

end CloudGuest.InvoiceNotes
