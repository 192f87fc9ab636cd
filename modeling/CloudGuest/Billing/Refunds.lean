import CloudGuest.Library.Decimals
import CloudGuest.Library.Texts
import CloudGuest.Billing.PaymentEvents

/-!
Refunds of one payment (`PaymentService.refund_payment` and the two gateways'
`_refund_impl`) beside its retries and its webhooks. A refund reads the row,
asks the provider, and writes the total it computed from what it had read: the
row is not locked in between, so of two refunds under way the later commit
forgets the earlier one. The amount asked for has any number of decimal places;
the provider is given whole minor units and the column keeps two places.
-/

namespace CloudGuest.Refunds
open Texts Decimals Payments Runs
open Webhooks (net)
open PaymentEvents (wasRefunded)

def zeroDecimalCurrencies : List Text :=
  ["BIF".toList, "CLP".toList, "DJF".toList, "GNF".toList, "JPY".toList, "KMF".toList,
    "KRW".toList, "MGA".toList, "PYG".toList, "RWF".toList, "UGX".toList, "VND".toList,
    "VUV".toList, "XAF".toList, "XOF".toList, "XPF".toList]

def zeroDecimal (currency : Text) : Bool := currency.map Char.toUpper ∈ zeroDecimalCurrencies

/-- Amounts are in hundredths, as the NUMERIC(12, 2) columns hold them. -/
structure Payment where
  amount : Nat
  fits : amount < 10 ^ 12
  currency : Text
  status : PaymentStatus
  refundedAmount : Int
  deriving DecidableEq

def decimalOf (hundredths : Int) : ℚ := hundredths / 10 ^ 2

def contextDigits : Nat := 28

def toMinorUnits (amount : ℚ) (currency : Text) : Int :=
  if zeroDecimal currency then halfUp amount
  else halfUp (significant contextDigits (amount * 100))

def worth (currency : Text) (units : Int) : Int := if zeroDecimal currency then units * 100 else units

def refundAmount (found : Payment) (amount : Option ℚ) : Option ℚ :=
  -- `refund_payment` on the row read, up to the provider: what it asks for, if it does not raise.
  if found.status = .succeeded ∨ found.status = .partiallyRefunded then
    let refundable := decimalOf (found.amount - found.refundedAmount)
    let asked := amount.getD refundable
    if asked ≤ 0 ∨ refundable < asked then none else some asked
  else none

def refundedTotal (found : Payment) (asked : ℚ) : ℚ :=
  significant contextDigits (decimalOf found.refundedAmount + asked)

def refundedStatus (found : Payment) (asked : ℚ) : PaymentStatus :=
  if decimalOf found.amount ≤ refundedTotal found asked then .refunded else .partiallyRefunded

def writeRefund (found : Payment) (asked : ℚ) (held : Payment) : Payment :=
  { held with
    refundedAmount :=
      -- An assignment that does not change what was read is not written.
      if refundedTotal found asked = decimalOf found.refundedAmount then held.refundedAmount
      else stored 2 (refundedTotal found asked)
    status := net found.status (refundedStatus found asked) held.status }

def writeStatus (found assigned : PaymentStatus) (held : Payment) : Payment :=
  { held with status := net found assigned held.status }

/-- A refund under way, with the provider's answer once it has accepted. -/
structure Refund where
  found : Payment
  asked : ℚ
  accepted : Bool
  deriving DecidableEq

def Refund.paid (refund : Refund) : Int :=
  worth refund.found.currency (toMinorUnits refund.asked refund.found.currency)

structure Event where
  found : PaymentStatus
  succeeded : Bool
  deriving DecidableEq

/-- The row, the requests under way, and what the provider has paid back so far. -/
structure System where
  payment : Payment
  refunds : List Refund
  retries : List PaymentStatus
  events : List Event
  accepted : Int
  deriving DecidableEq

def System.started (amount : Nat) (fits : amount < 10 ^ 12) (currency : Text)
    (answer : ProviderAnswer) : System :=
  ⟨⟨amount, fits, currency, (attemptCharge .pending answer).status, 0⟩, [], [], [], 0⟩

inductive Action where
  | startRefund (amount : Option ℚ)
  | providerAccepts (refund : Nat)
  | commitRefund (refund : Nat)
  /-- The provider refuses, or an exception strikes before the commit. -/
  | abortRefund (refund : Nat)
  | startRetry
  | commitRetry (retry : Nat) (answer : ProviderAnswer)
  | abortRetry (retry : Nat)
  | readEvent (succeeded : Bool)
  | commitEvent (event : Nat)
  | abortEvent (event : Nat)

def step (system : System) : Action → Option System
  | .startRefund amount =>
      (refundAmount system.payment amount).map fun asked =>
        { system with refunds := system.refunds ++ [⟨system.payment, asked, false⟩] }
  | .providerAccepts place =>
      (system.refunds[place]?).bind fun refund =>
        if refund.accepted then none
        else
          some { system with
            refunds := system.refunds.set place { refund with accepted := true }
            accepted := system.accepted + refund.paid }
  | .commitRefund place =>
      (system.refunds[place]?).bind fun refund =>
        if refund.accepted then
          some { system with
            payment := writeRefund refund.found refund.asked system.payment
            refunds := system.refunds.eraseIdx place }
        else none
  | .abortRefund place => some { system with refunds := system.refunds.eraseIdx place }
  | .startRetry =>
      if system.payment.status = .failed then
        some { system with retries := system.retries ++ [system.payment.status] }
      else none
  | .commitRetry place answer =>
      (system.retries[place]?).bind fun found =>
        if (attemptCharge found answer).raises then none
        else
          some { system with
            payment := writeStatus found (attemptCharge found answer).status system.payment
            retries := system.retries.eraseIdx place }
  | .abortRetry place => some { system with retries := system.retries.eraseIdx place }
  | .readEvent succeeded =>
      some { system with events := system.events ++ [⟨system.payment.status, succeeded⟩] }
  | .commitEvent place =>
      (system.events[place]?).map fun event =>
        { system with
          payment := writeStatus event.found (resolvedStatus event.found event.succeeded)
            system.payment
          events := system.events.eraseIdx place }
  | .abortEvent place => some { system with events := system.events.eraseIdx place }

def awaiting (refunds : List Refund) : Int :=
  (refunds.map fun refund => if refund.accepted then refund.paid else 0).sum

structure Consistent (payment : Payment) : Prop where
  nonnegative : 0 ≤ payment.refundedAmount
  bounded : payment.refundedAmount ≤ payment.amount
  full : payment.status = .refunded ↔
    payment.refundedAmount = payment.amount ∧ 0 < payment.amount
  part : payment.status = .partiallyRefunded ↔
    0 < payment.refundedAmount ∧ payment.refundedAmount < payment.amount

/-- The row says what the provider has paid back: all that it accepted, but for the refunds that
have yet to commit. -/
structure Exact (system : System) : Prop extends Consistent system.payment where
  total : system.payment.refundedAmount + awaiting system.refunds = system.accepted

def wholeUnits (currency : Text) (amount : ℚ) : Bool :=
  if zeroDecimal currency then amount.den = 1 else (amount * 100).den = 1

/-- The provider is asked for whole minor units; a refund it accepted commits, and finds at its
commit the refunded amount it had read; and what resolves the row does not find it refunded. -/
def orderly (system : System) : Action → Bool
  | .providerAccepts place =>
      (system.refunds[place]?).all fun refund => wholeUnits refund.found.currency refund.asked
  | .commitRefund place =>
      (system.refunds[place]?).all fun refund =>
        system.payment.refundedAmount = refund.found.refundedAmount
  | .abortRefund place => (system.refunds[place]?).all fun refund => !refund.accepted
  | .commitRetry _ answer => answer ≠ .succeeded || !wasRefunded system.payment.status
  | .commitEvent place =>
      (system.events[place]?).all fun event =>
        alreadyResolved event.found || !wasRefunded system.payment.status
  | _ => true

/-! ### Whole minor units -/

theorem decimalOf_le (first second : Int) : decimalOf first ≤ decimalOf second ↔ first ≤ second := by
  unfold decimalOf
  rw [div_le_div_iff_of_pos_right (by norm_num), Int.cast_le]

theorem decimalOf_inj (first second : Int) : decimalOf first = decimalOf second ↔ first = second := by
  simp [le_antisymm_iff, decimalOf_le]

theorem decimalOf_add (first second : Int) :
    decimalOf first + decimalOf second = decimalOf (first + second) := by
  simp [decimalOf, add_div]

theorem whole_paid (currency : Text) (asked : ℚ) (limit : Nat) (fits : limit < 10 ^ 12)
    (whole : wholeUnits currency asked = true) (positive : 0 < asked)
    (bounded : asked ≤ decimalOf limit) :
    ∃ hundredths : Int, asked = decimalOf hundredths ∧
      worth currency (toMinorUnits asked currency) = hundredths := by
  unfold wholeUnits at whole
  by_cases zero : zeroDecimal currency = true
  · simp only [zero, ↓reduceIte, decide_eq_true_eq] at whole
    have integral : ((asked.num : Int) : ℚ) = asked := Rat.den_eq_one_iff asked |>.mp whole
    refine ⟨asked.num * 100, ?_, ?_⟩
    · rw [decimalOf]
      push_cast
      rw [integral]
      ring
    · have units : toMinorUnits asked currency = asked.num := by
        rw [toMinorUnits, if_pos zero, ← integral, halfUp_whole, Rat.num_intCast]
      simp [worth, zero, units]
  · simp only [zero, ↓reduceIte, decide_eq_true_eq, Bool.false_eq_true] at whole
    have integral : (((asked * 100).num : Int) : ℚ) = asked * 100 := Rat.den_eq_one_iff _ |>.mp whole
    refine ⟨(asked * 100).num, ?_, ?_⟩
    · rw [decimalOf, integral]
      ring
    · have small : |asked * 100| < 10 ^ (contextDigits - 0) := by
        have limited : (limit : ℚ) < 10 ^ 12 := by exact_mod_cast fits
        rw [decimalOf] at bounded
        push_cast at bounded
        rw [abs_of_pos (by linarith)]
        unfold contextDigits
        norm_num only at limited bounded ⊢
        linarith
      have exact : asked * 100 = ((asked * 100).num : ℚ) / 10 ^ 0 := by rw [integral]; simp
      have units : toMinorUnits asked currency = (asked * 100).num := by
        rw [toMinorUnits, if_neg zero, significant_exact _ 0 _ _ exact (Nat.zero_le _) small,
          ← integral, halfUp_whole, Rat.num_intCast]
      simp [worth, zero, units]

/-! ### What a commit writes -/

theorem refundedTotal_exact (found : Payment) (hundredths : Int)
    (nonnegative : 0 ≤ found.refundedAmount + hundredths)
    (bounded : found.refundedAmount + hundredths ≤ found.amount) :
    refundedTotal found (decimalOf hundredths) = decimalOf (found.refundedAmount + hundredths) := by
  rw [refundedTotal, decimalOf_add]
  refine significant_exact _ 2 (found.refundedAmount + hundredths) _ rfl (by decide) ?_
  have limited : ((found.refundedAmount + hundredths : Int) : ℚ) < 10 ^ 12 := by
    have fits := found.fits
    exact_mod_cast (by omega : found.refundedAmount + hundredths < 10 ^ 12)
  have positive : (0 : ℚ) ≤ ((found.refundedAmount + hundredths : Int) : ℚ) :=
    Int.cast_nonneg nonnegative
  rw [decimalOf, abs_of_nonneg (by positivity), contextDigits]
  norm_num at limited ⊢
  linarith

theorem writeRefund_exact (found held : Payment) (hundredths : Int) (consistent : Consistent found)
    (heldConsistent : Consistent held) (sameAmount : held.amount = found.amount)
    (unchanged : held.refundedAmount = found.refundedAmount)
    (refundable : found.status = .succeeded ∨ found.status = .partiallyRefunded)
    (positive : 0 < hundredths) (bounded : found.refundedAmount + hundredths ≤ found.amount) :
    (writeRefund found (decimalOf hundredths) held).refundedAmount =
        held.refundedAmount + hundredths ∧
      Consistent (writeRefund found (decimalOf hundredths) held) := by
  have nonnegative := consistent.nonnegative
  have total := refundedTotal_exact found hundredths (by omega) bounded
  have changed : refundedTotal found (decimalOf hundredths) ≠ decimalOf found.refundedAmount := by
    rw [total, Ne, decimalOf_inj]
    omega
  have amount : (writeRefund found (decimalOf hundredths) held).refundedAmount =
      held.refundedAmount + hundredths := by
    simp only [writeRefund, changed, ↓reduceIte]
    rw [total, decimalOf, stored_exact, unchanged]
  have written : refundedStatus found (decimalOf hundredths) =
      if (found.amount : Int) ≤ found.refundedAmount + hundredths then .refunded
      else .partiallyRefunded := by
    simp only [refundedStatus, total, decimalOf_le]
  -- Where the status is not written, row and snapshot are PARTIALLY_REFUNDED alike.
  have status : (writeRefund found (decimalOf hundredths) held).status =
      refundedStatus found (decimalOf hundredths) := by
    simp only [writeRefund, net]
    split
    · rename_i same
      have partly : found.status = .partiallyRefunded := by
        rcases refundable with succeeded | partly
        · rw [written, succeeded] at same
          split at same <;> cases same
        · exact partly
      rw [same, partly]
      refine heldConsistent.part.mpr ?_
      rw [unchanged, sameAmount]
      exact consistent.part.mp partly
    · rfl
  have kept : (writeRefund found (decimalOf hundredths) held).amount = held.amount := rfl
  refine ⟨amount, ?_⟩
  constructor
  · rw [amount]
    omega
  · rw [amount, kept]
    omega
  · rw [status, written, amount, kept]
    split
    · simp only [true_iff]
      omega
    · simp only [reduceCtorEq, false_iff]
      omega
  · rw [status, written, amount, kept]
    split
    · simp only [reduceCtorEq, false_iff]
      omega
    · simp only [true_iff]
      omega

theorem unrefunded_zero (payment : Payment) (consistent : Consistent payment)
    (unrefunded : wasRefunded payment.status = false) : payment.refundedAmount = 0 := by
  have nonnegative := consistent.nonnegative
  have bounded := consistent.bounded
  simp only [wasRefunded, Bool.or_eq_false_iff, decide_eq_false_iff_not] at unrefunded
  have notFull := mt consistent.full.mpr unrefunded.1
  have notPart := mt consistent.part.mpr unrefunded.2
  omega

theorem writeStatus_consistent (found assigned : PaymentStatus) (held : Payment)
    (consistent : Consistent held)
    (plain : assigned ≠ found → wasRefunded assigned = false ∧ wasRefunded held.status = false) :
    Consistent (writeStatus found assigned held) := by
  -- A status written over one that is not a refund's leaves the row consistent unless it is one
  -- itself.
  by_cases same : assigned = found
  · simpa [writeStatus, net, same] using consistent
  · obtain ⟨target, unrefunded⟩ := plain same
    have zero := unrefunded_zero held consistent unrefunded
    simp only [wasRefunded, Bool.or_eq_false_iff, decide_eq_false_iff_not] at target
    constructor
    · exact consistent.nonnegative
    · exact consistent.bounded
    · simp only [writeStatus, net, same, ↓reduceIte, target.1, zero, false_iff]
      omega
    · simp only [writeStatus, net, same, ↓reduceIte, target.2, zero, false_iff]
      omega

/-! ### The invariant -/

/-- A refund under way read a consistent row of this payment, and asks for what that row leaves. -/
structure RefundSound (payment : Payment) (refund : Refund) : Prop where
  amount : refund.found.amount = payment.amount
  consistent : Consistent refund.found
  refundable : refund.found.status = .succeeded ∨ refund.found.status = .partiallyRefunded
  positive : 0 < refund.asked
  bounded : refund.asked ≤ decimalOf (refund.found.amount - refund.found.refundedAmount)
  whole : refund.accepted = true → wholeUnits refund.found.currency refund.asked = true

structure Sound (system : System) : Prop extends Exact system where
  refunds : ∀ refund ∈ system.refunds, RefundSound system.payment refund
  retries : ∀ found ∈ system.retries, found = .failed

theorem refundAmount_some (found : Payment) (amount : Option ℚ) (asked : ℚ)
    (answered : refundAmount found amount = some asked) :
    (found.status = .succeeded ∨ found.status = .partiallyRefunded) ∧ 0 < asked ∧
      asked ≤ decimalOf (found.amount - found.refundedAmount) := by
  simp only [refundAmount] at answered
  split at answered
  · rename_i refundable
    split at answered
    · cases answered
    · rename_i within
      cases answered
      rw [not_or, not_le, not_lt] at within
      exact ⟨refundable, within⟩
  · cases answered

theorem sound_started (amount : Nat) (fits : amount < 10 ^ 12) (currency : Text)
    (answer : ProviderAnswer) : Sound (System.started amount fits currency answer) := by
  constructor
  · constructor
    · constructor
      · exact le_refl _
      · exact Int.natCast_nonneg _
      · cases answer <;> simp [System.started, attemptCharge] <;> omega
      · cases answer <;> simp [System.started, attemptCharge]
    · rfl
  · simp [System.started]
  · simp [System.started]

theorem RefundSound.paid (payment : Payment) (refund : Refund) (sound : RefundSound payment refund)
    (accepted : refund.accepted = true) :
    refund.asked = decimalOf refund.paid ∧ 0 < refund.paid ∧
      refund.found.refundedAmount + refund.paid ≤ refund.found.amount := by
  have nonnegative := sound.consistent.nonnegative
  have within : refund.asked ≤ decimalOf refund.found.amount := by
    refine le_trans sound.bounded ?_
    rw [decimalOf_le]
    omega
  obtain ⟨hundredths, exact, paid⟩ := whole_paid refund.found.currency refund.asked
    refund.found.amount refund.found.fits (sound.whole accepted) sound.positive within
  have same : refund.paid = hundredths := paid
  have positive := sound.positive
  have bounded := sound.bounded
  rw [exact] at positive bounded
  rw [decimalOf_le] at bounded
  have zero : decimalOf 0 < decimalOf hundredths := by simpa [decimalOf] using positive
  rw [lt_iff_le_and_ne, Ne, decimalOf_inj, decimalOf_le] at zero
  rw [same]
  refine ⟨exact, ?_, ?_⟩ <;> omega

theorem awaiting_erased (refunds : List Refund) (place : Nat) (refund : Refund)
    (found : refunds[place]? = some refund) :
    awaiting (refunds.eraseIdx place) + (if refund.accepted then refund.paid else 0) =
      awaiting refunds := by
  induction refunds generalizing place with
  | nil => simp at found
  | cons first rest ih =>
      cases place with
      | zero =>
          obtain rfl : first = refund := by simpa using found
          simp [awaiting, add_comm]
      | succ place =>
          have smaller := ih place (by simpa using found)
          simp only [awaiting, List.eraseIdx_cons_succ, List.map_cons, List.sum_cons] at smaller ⊢
          omega

theorem awaiting_accepted (refunds : List Refund) (place : Nat) (refund : Refund)
    (found : refunds[place]? = some refund) (fresh : refund.accepted = false) :
    awaiting (refunds.set place { refund with accepted := true }) =
      awaiting refunds + refund.paid := by
  induction refunds generalizing place with
  | nil => simp at found
  | cons first rest ih =>
      cases place with
      | zero =>
          obtain rfl : first = refund := by simpa using found
          simp [awaiting, fresh, Refund.paid, add_comm]
      | succ place =>
          have larger := ih place (by simpa using found)
          simp only [awaiting, List.set_cons_succ, List.map_cons, List.sum_cons] at larger ⊢
          omega

/-! ### Steps -/

theorem sound_aside (system : System) (sound : Sound system) (retries : List PaymentStatus)
    (events : List Event) (failed : ∀ found ∈ retries, found = .failed) :
    Sound { system with retries, events } :=
  ⟨⟨sound.toConsistent, sound.total⟩, sound.refunds, failed⟩

theorem sound_resolved (system : System) (sound : Sound system) (assigned : PaymentStatus)
    (found : PaymentStatus) (retries : List PaymentStatus) (events : List Event)
    (failed : ∀ found ∈ retries, found = .failed)
    (plain : assigned ≠ found →
      wasRefunded assigned = false ∧ wasRefunded system.payment.status = false) :
    Sound { system with payment := writeStatus found assigned system.payment, retries, events } := by
  have consistent := writeStatus_consistent found assigned system.payment sound.toConsistent plain
  constructor
  · exact ⟨consistent, sound.total⟩
  · intro refund member
    have held := sound.refunds refund member
    exact ⟨held.amount, held.consistent, held.refundable, held.positive, held.bounded, held.whole⟩
  · exact failed

theorem sound_accepted (system : System) (sound : Sound system) (place : Nat) (refund : Refund)
    (found : system.refunds[place]? = some refund) (fresh : refund.accepted = false)
    (whole : wholeUnits refund.found.currency refund.asked = true) :
    Sound { system with
      refunds := system.refunds.set place { refund with accepted := true }
      accepted := system.accepted + refund.paid } := by
  constructor
  · refine ⟨sound.toConsistent, ?_⟩
    have total := sound.total
    simp only [awaiting_accepted _ _ _ found fresh]
    omega
  · intro other member
    rcases List.mem_or_eq_of_mem_set member with earlier | rfl
    · exact sound.refunds other earlier
    · have held := sound.refunds refund (List.mem_of_getElem? found)
      exact ⟨held.amount, held.consistent, held.refundable, held.positive, held.bounded,
        fun _ => whole⟩
  · exact sound.retries

theorem sound_refunded (system : System) (sound : Sound system) (place : Nat) (refund : Refund)
    (found : system.refunds[place]? = some refund) (accepted : refund.accepted = true)
    (unchanged : system.payment.refundedAmount = refund.found.refundedAmount) :
    Sound { system with
      payment := writeRefund refund.found refund.asked system.payment
      refunds := system.refunds.eraseIdx place } := by
  have held := sound.refunds refund (List.mem_of_getElem? found)
  obtain ⟨exact, positive, bounded⟩ := held.paid _ _ accepted
  obtain ⟨amount, consistent⟩ := writeRefund_exact refund.found system.payment refund.paid
    held.consistent sound.toConsistent held.amount.symm unchanged held.refundable positive bounded
  rw [← exact] at amount consistent
  constructor
  · refine ⟨consistent, ?_⟩
    have total := sound.total
    have erased := awaiting_erased _ _ _ found
    simp only [accepted, ↓reduceIte] at erased
    simp only [amount]
    omega
  · intro other member
    have kept := sound.refunds other (List.mem_of_mem_eraseIdx member)
    exact ⟨kept.amount, kept.consistent, kept.refundable, kept.positive, kept.bounded, kept.whole⟩
  · exact sound.retries

theorem sound_aborted (system : System) (sound : Sound system) (place : Nat)
    (free : (system.refunds[place]?).all (fun refund => !refund.accepted) = true) :
    Sound { system with refunds := system.refunds.eraseIdx place } := by
  constructor
  · refine ⟨sound.toConsistent, ?_⟩
    have total := sound.total
    cases found : system.refunds[place]? with
    | none =>
        have same := List.eraseIdx_of_length_le (List.getElem?_eq_none_iff.mp found)
        simpa only [same] using total
    | some refund =>
        have erased := awaiting_erased _ _ _ found
        simp only [found, Option.all_some, Bool.not_eq_true'] at free
        simp only [free, Bool.false_eq_true, ↓reduceIte, add_zero] at erased
        simpa only [erased] using total
  · intro refund member
    exact sound.refunds refund (List.mem_of_mem_eraseIdx member)
  · exact sound.retries

theorem sound_step (system next : System) (action : Action) (sound : Sound system)
    (ordered : orderly system action = true) (stepped : step system action = some next) :
    Sound next := by
  cases action with
  | startRefund amount =>
      obtain ⟨asked, answered, rfl⟩ := Option.map_eq_some_iff.mp stepped
      obtain ⟨refundable, positive, bounded⟩ := refundAmount_some _ _ _ answered
      constructor
      · refine ⟨sound.toConsistent, ?_⟩
        simpa [awaiting] using sound.total
      · intro refund member
        rcases List.mem_append.mp member with earlier | last
        · exact sound.refunds refund earlier
        · obtain rfl := List.mem_singleton.mp last
          exact ⟨rfl, sound.toConsistent, refundable, positive, bounded, by simp⟩
      · exact sound.retries
  | providerAccepts place =>
      obtain ⟨refund, found, stepped⟩ := Option.bind_eq_some_iff.mp stepped
      simp only [orderly, found, Option.all_some] at ordered
      split at stepped
      · cases stepped
      · rename_i fresh
        cases stepped
        exact sound_accepted system sound place refund found (by simpa using fresh) ordered
  | commitRefund place =>
      obtain ⟨refund, found, stepped⟩ := Option.bind_eq_some_iff.mp stepped
      simp only [orderly, found, Option.all_some, decide_eq_true_eq] at ordered
      split at stepped
      · rename_i accepted
        cases stepped
        exact sound_refunded system sound place refund found accepted ordered
      · cases stepped
  | abortRefund place =>
      cases stepped
      exact sound_aborted system sound place ordered
  | startRetry =>
      simp only [step] at stepped
      split at stepped
      · rename_i failed
        cases stepped
        refine sound_aside system sound _ system.events ?_
        intro found member
        rcases List.mem_append.mp member with earlier | last
        · exact sound.retries found earlier
        · exact (List.mem_singleton.mp last).trans failed
      · cases stepped
  | commitRetry place answer =>
      obtain ⟨found, under, stepped⟩ := Option.bind_eq_some_iff.mp stepped
      obtain rfl := sound.retries found (List.mem_of_getElem? under)
      simp only [orderly, Bool.or_eq_true, decide_eq_true_eq, Bool.not_eq_true'] at ordered
      split at stepped
      · cases stepped
      · cases stepped
        refine sound_resolved system sound _ _ _ system.events
          (fun found member => sound.retries found (List.mem_of_mem_eraseIdx member)) ?_
        intro changed
        -- Only a charge that goes through changes the status of a FAILED row.
        cases answer <;> simp [attemptCharge] at changed
        exact ⟨rfl, ordered.resolve_left fun other => other rfl⟩
  | abortRetry place =>
      cases stepped
      exact sound_aside system sound _ system.events
        fun found member => sound.retries found (List.mem_of_mem_eraseIdx member)
  | readEvent succeeded =>
      cases stepped
      exact sound_aside system sound system.retries _ sound.retries
  | commitEvent place =>
      obtain ⟨event, under, rfl⟩ := Option.map_eq_some_iff.mp stepped
      simp only [orderly, under, Option.all_some, Bool.or_eq_true, Bool.not_eq_true'] at ordered
      refine sound_resolved system sound _ _ system.retries _ sound.retries ?_
      intro changed
      rcases ordered with resolved | unrefunded
      · simp [resolvedStatus, resolved] at changed
      · refine ⟨?_, unrefunded⟩
        simp only [resolvedStatus] at changed ⊢
        split at changed
        · exact absurd rfl changed
        · rename_i unresolved
          cases event.succeeded <;> simp [unresolved, wasRefunded]
  | abortEvent place =>
      cases stepped
      exact sound_aside system sound system.retries _ sound.retries

/-- In a run whose steps all meet the condition, the row's refunded amount is what the provider
has paid back for the refunds that have committed, lies between nothing and the amount, and the
status says which of the three it is. -/
theorem refunds_exact (amount : Nat) (fits : amount < 10 ^ 12) (currency : Text)
    (answer : ProviderAnswer) (system : System)
    (reached : Reached step (fun system action => orderly system action = true)
      (System.started amount fits currency answer) system) : Exact system := by
  have sound : Sound system := by
    refine Reached.invariant Sound (sound_started amount fits currency answer) ?_ reached
    intro state action next held ordered stepped
    exact sound_step state next action held ordered stepped
  exact sound.toExact

section Executed

def hundred (answer : ProviderAnswer) : System :=
  System.started 10000 (by norm_num) "INR".toList answer

/-- A declined payment is retried, refunded in part, and then the rest of it. -/
theorem refunds_exact_twice :
    ∃ system, Reached step (fun system action => orderly system action = true) (hundred .declined)
        system ∧
      system.payment.status = .refunded ∧ system.accepted = 10000 ∧ system.refunds = [] ∧
      Exact system := by
  obtain ⟨system, reached, seen⟩ := run_observed step (hundred .declined)
    (fun system action => orderly system action)
    (fun system => system.payment.status = .refunded && system.accepted = 10000 &&
      system.refunds = [])
    (fun _ _ checked => checked)
    [.startRetry, .commitRetry 0 .succeeded, .startRefund (some 30), .providerAccepts 0,
      .commitRefund 0, .startRefund none, .providerAccepts 0, .commitRefund 0] (by decide +kernel)
  simp only [Bool.and_eq_true, decide_eq_true_eq] at seen
  exact ⟨system, reached, seen.1.1, seen.1.2, seen.2,
    refunds_exact 10000 (by norm_num) "INR".toList .declined system reached⟩

/-- Two refunds of 30 and 40 rupees overlap: the row says 40 where the provider paid 70 back. A
success event then makes the refunded row SUCCEEDED. -/
theorem overlapping_refunds_lost :
    ∃ system later, Reached step (fun _ _ => True) (hundred .succeeded) system ∧
      system.refunds = [] ∧ system.payment.refundedAmount = 4000 ∧ system.accepted = 7000 ∧
      ¬ Exact system ∧ Reached step (fun _ _ => True) system later ∧
      later.payment.refundedAmount = 4000 ∧ later.payment.status = .succeeded ∧
      ¬ Consistent later.payment := by
  obtain ⟨system, reached, seen⟩ := run_observed step (hundred .succeeded) (fun _ _ => true)
    (fun system => system.refunds = [] && system.payment.refundedAmount = 4000 &&
      system.accepted = 7000 && system.payment.amount = 10000 &&
      (run step (fun _ _ => true) system [.readEvent true, .commitEvent 0]).any fun later =>
        later.payment.refundedAmount = 4000 && later.payment.status = .succeeded &&
          later.payment.amount = 10000)
    (fun _ _ _ => trivial)
    [.startRefund (some 30), .startRefund (some 40), .providerAccepts 0, .providerAccepts 1,
      .commitRefund 0, .commitRefund 0] (by decide +kernel)
  simp only [Bool.and_eq_true, decide_eq_true_eq] at seen
  obtain ⟨⟨⟨⟨idle, refunded⟩, accepted⟩, -⟩, onward⟩ := seen
  obtain ⟨later, (reachedLater : Reached step (fun _ _ => True) system later), observed⟩ :=
    run_observed step system (fun _ _ => true) _ (fun _ _ _ => trivial) _ onward
  simp only [Bool.and_eq_true, decide_eq_true_eq] at observed
  obtain ⟨⟨refundedLater, succeeded⟩, amount⟩ := observed
  refine ⟨system, later, reached, idle, refunded, accepted, ?_, reachedLater, refundedLater,
    succeeded, ?_⟩
  · intro exact
    have total := exact.total
    rw [idle, refunded, accepted] at total
    exact absurd total (by decide)
  · intro consistent
    have partly := consistent.part.mpr (by rw [refundedLater, amount]; decide)
    rw [succeeded] at partly
    cases partly

end Executed

end CloudGuest.Refunds
