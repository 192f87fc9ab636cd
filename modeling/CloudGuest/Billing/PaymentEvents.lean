import CloudGuest.Billing.Webhooks
import CloudGuest.Library.Rows
import CloudGuest.Library.Runs

/-!
One payment, one effect. The handlers act on the row that the lookup returns
even where it was resolved before: a second success event renews the period and
settles an invoice again, a failure event moves a paid subscription to PAST_DUE,
and a refunded row, which counts as unresolved, is resolved anew.

The runs below are those whose events find their row unresolved when they read it
and as they read it when they commit. What a row causes then leaves it paid, a paid
row stays paid, and so it causes nothing a second time.
-/

namespace CloudGuest.PaymentEvents
open Calendar Payments Webhooks Runs
open Subscriptions (Account Plan)

variable {Id : Type}

def wasRefunded (status : PaymentStatus) : Bool :=
  status = .refunded || status = .partiallyRefunded

def wasPaid (status : PaymentStatus) : Bool := status = .succeeded || wasRefunded status

/-- The handler does no more than the resolver's no-op: the row was read as resolved, and has no
subscription. -/
def isSettledAlready (target : Target Id) : Bool :=
  target.found.subscription.isNone && alreadyResolved target.found.status

/-- The row was read as PENDING, by a failure event as PENDING or FAILED, and is as it was read. -/
def findsUnresolved (books : Books Id) (event : Event Id) (target : Target Id) : Bool :=
  isSettledAlready target ||
    (target.found.status = .pending || event.type = .failed && target.found.status = .failed) &&
      (books.payments[target.row]?).all fun held => held.status = target.found.status

/-- A retry that goes through finds its row FAILED as it was read, or SUCCEEDED already. -/
def findsFailed (books : Books Id) (snapshot : Snapshot Id) (answer : ProviderAnswer) : Bool :=
  answer ≠ .succeeded ||
    (books.payments[snapshot.row]?).all fun held =>
      held.status = snapshot.found.status || held.status = .succeeded

def orderly (system : System Id) : Action Id → Bool
  | .finish delivery _ _ =>
      (system.deliveries[delivery]?).all fun handling =>
        handling.target.all fun target => findsUnresolved system.books handling.event target
  | .commitRetry retry answer _ =>
      (system.retries[retry]?).all fun snapshot => findsFailed system.books snapshot answer
  | _ => true

structure OneEffect (books : Books Id) : Prop where
  renewedOnce : (books.renewals.map Renewed.row).Nodup
  settledOnce : (books.settlements.map Settlement.row).Nodup
  neverPaid : ∀ moved ∈ books.pastDues, wasPaid moved.found = false ∧ wasPaid moved.held = false
  neverFailed : ∀ renewed ∈ books.renewals, ∀ found held, renewed.event = some (found, held) →
    found ≠ .failed ∧ held ≠ .failed

/-- The rows stay, and those of the kind stay of the kind. -/
def Keeps (kind : PaymentStatus → Bool) : List (Payment Id) → List (Payment Id) → Prop :=
  Rows.Evolves fun before after => kind before.status = true → kind after.status = true

def StaysRefunded : List (Payment Id) → List (Payment Id) → Prop := Keeps wasRefunded

/-! ### Payment rows -/

section Rows

variable {kind : PaymentStatus → Bool}

theorem keeps_refl (payments : List (Payment Id)) : Keeps kind payments payments :=
  Rows.Evolves.refl fun _ => id

theorem keeps_appended (payments added : List (Payment Id)) :
    Keeps kind payments (payments ++ added) :=
  Rows.Evolves.appended (fun _ => id) added

theorem keeps_modified {payments : List (Payment Id)} {row : Nat} {change : Payment Id → Payment Id}
    (kept : ∀ held, payments[row]? = some held → kind held.status = true →
      kind (change held).status = true) :
    Keeps kind payments (payments.modify row change) :=
  Rows.Evolves.modified (fun _ => id) kept

end Rows

def IsPaid (payments : List (Payment Id)) (row : Nat) : Prop :=
  ∃ held : Payment Id, payments[row]? = some held ∧ wasPaid held.status = true

theorem IsPaid.later {before after : List (Payment Id)} {row : Nat} (paid : IsPaid before row)
    (keeps : Keeps wasPaid before after) : IsPaid after row := by
  obtain ⟨held, stored, was⟩ := paid
  obtain ⟨kept, storedLater, still⟩ := keeps row held stored
  exact ⟨kept, storedLater, still was⟩

/-! ### The invariant -/

/-- What the rows caused, and that a row that caused something is paid. -/
structure Sound (books : Books Id) : Prop extends OneEffect books where
  renewed : ∀ renewed ∈ books.renewals, IsPaid books.payments renewed.row
  settled : ∀ settlement ∈ books.settlements, IsPaid books.payments settlement.row

theorem sound_kept (before after : Books Id) (sound : Sound before)
    (keeps : Keeps wasPaid before.payments after.payments)
    (renewals : after.renewals = before.renewals) (pastDues : after.pastDues = before.pastDues)
    (settlements : after.settlements = before.settlements) : Sound after := by
  constructor
  · constructor
    · rw [renewals]
      exact sound.renewedOnce
    · rw [settlements]
      exact sound.settledOnce
    · rw [pastDues]
      exact sound.neverPaid
    · rw [renewals]
      exact sound.neverFailed
  · rw [renewals]
    exact fun renewed member => (sound.renewed renewed member).later keeps
  · rw [settlements]
    exact fun settlement member => (sound.settled settlement member).later keeps

theorem sound_started (accounts : List Account) :
    Sound (System.started accounts : System Id).books := by
  constructor
  · constructor <;> simp [System.started]
  · simp [System.started]
  · simp [System.started]

/-! ### What each writer does -/

theorem sound_renewAccount (now : Moment) (organization : Nat) (attempt : RenewalCharges.Attempt)
    (paymentId : Option Id) (account : Account) (books : Books Id) (sound : Sound books) :
    Sound (renewAccount now organization attempt paymentId account books) ∧
      StaysRefunded books.payments
        (renewAccount now organization attempt paymentId account books).payments := by
  refine ⟨?_, keeps_appended _ _⟩
  cases renewed : (RenewalCharges.chargeMade now attempt account).any fun charge =>
      charge.status = .succeeded &&
        (Subscriptions.addBillingCycle attempt.written account.subscription.billingCycle).isSome with
  | false =>
      refine sound_kept books _ sound (keeps_appended _ _) ?_ rfl rfl
      simp [renewAccount, renewed]
  | true =>
      obtain ⟨charge, made, charged⟩ := (Option.any_eq_true _ _).mp renewed
      have succeeded : charge.status = .succeeded := by
        simp only [Bool.and_eq_true, decide_eq_true_eq] at charged
        exact charged.1
      simp only [renewAccount, renewed, ↓reduceIte]
      constructor
      · constructor
        · simp only [List.map_append, List.map_cons, List.map_nil]
          refine List.Nodup.append sound.renewedOnce (List.nodup_singleton _) ?_
          simp only [List.disjoint_singleton, List.mem_map, not_exists, not_and]
          -- the charge's row is new, and what was renewed before has a row already
          intro earlier member same
          obtain ⟨held, stored, -⟩ := sound.renewed earlier member
          exact absurd (List.getElem?_eq_some_iff.mp stored).1 (by omega)
        · exact sound.settledOnce
        · exact sound.neverPaid
        · intro earlier member found held same
          rcases List.mem_append.mp member with old | last
          · exact sound.neverFailed earlier old found held same
          · obtain rfl := List.mem_singleton.mp last
            cases same
      · intro earlier member
        rcases List.mem_append.mp member with old | last
        · exact (sound.renewed earlier old).later (keeps_appended _ _)
        · obtain rfl := List.mem_singleton.mp last
          refine ⟨newPayment organization (some organization)
            ((attempt.plan.map Subscriptions.computeRenewalChargeAmount).getD 0)
            (charge.status, charge.identified) paymentId, ?_, ?_⟩
          · simp [made]
          · simp [newPayment, succeeded, wasPaid]
      · exact fun settlement member => (sound.settled settlement member).later (keeps_appended _ _)

theorem sound_added (books : Books Id) (sound : Sound books) (payment : Payment Id) :
    Sound (addPayment books payment) ∧
      StaysRefunded books.payments (addPayment books payment).payments := by
  refine ⟨?_, keeps_appended _ _⟩
  exact sound_kept books _ sound (keeps_appended _ _) rfl rfl rfl

theorem order_cases (books : Books Id) (event : Event Id) (target : Target Id) (held : Payment Id)
    (ordered : findsUnresolved books event target = true)
    (stored : books.payments[target.row]? = some held) :
    target.found.subscription = none ∧ alreadyResolved target.found.status = true ∨
      held.status = target.found.status ∧ (target.found.status = .pending ∨
        event.type = .failed ∧ target.found.status = .failed) := by
  -- An event's row: it is read as resolved and left, or as unresolved and is so still.
  simp only [findsUnresolved, isSettledAlready, stored, Option.all_some, Bool.or_eq_true, Bool.and_eq_true,
    Option.isNone_iff_eq_none, decide_eq_true_eq] at ordered
  rcases ordered with resolved | ⟨unresolved, same⟩
  · exact .inl resolved
  · exact .inr ⟨same, unresolved⟩

variable [DecidableEq Id]

theorem flush_status (found assigned held : Payment Id) :
    (found.flush assigned held).status = held.status ∨
      (found.flush assigned held).status = assigned.status ∧ assigned.status ≠ found.status := by
  simp only [Payment.flush, net]
  split
  · exact .inl rfl
  · rename_i changed
    exact .inr ⟨rfl, changed⟩

section Kinds

variable {kind : PaymentStatus → Bool}

theorem resolve_keeps (kind : PaymentStatus → Bool) (pending : kind .pending = false)
    (failed : kind .failed = false) (books : Books Id) (event : Event Id) (target : Target Id)
    (succeeded : Bool) (held : Payment Id)
    (ordered : findsUnresolved books event target = true)
    (stored : books.payments[target.row]? = some held) :
    Keeps kind books.payments (books.payments.set target.row
      (target.found.flush (resolvePayment event target succeeded) held)) := by
  -- An event that finds its row unresolved takes nothing from a kind that unresolved rows are not
  -- of.
  refine Rows.Evolves.replaced (fun _ => id) stored fun asked => ?_
  rcases order_cases books event target held ordered stored with ⟨-, resolved⟩ | ⟨same, unresolved⟩
  · rcases flush_status target.found (resolvePayment event target succeeded) held with kept | ⟨-, changed⟩
    · exact kept ▸ asked
    · simp [resolvePayment, resolved] at changed
  · rcases unresolved with read | ⟨-, read⟩
    · rw [same, read, pending] at asked
      cases asked
    · rw [same, read, failed] at asked
      cases asked

theorem refund_keeps (refunds : kind .refunded = true) (partly : kind .partiallyRefunded = true)
    (found assigned held : Payment Id) (amount : Option Int)
    (refund : refundPayment found amount = some assigned) (asked : kind held.status = true) :
    kind (found.flush assigned held).status = true := by
  rcases flush_status found assigned held with same | ⟨written, -⟩
  · exact same ▸ asked
  · rw [written]
    simp only [refundPayment] at refund
    split at refund
    · cases refund
    · cases refund
      dsimp only
      split
      · exact refunds
      · exact partly

end Kinds

theorem retry_cases (found assigned held : Payment Id) (answer : ProviderAnswer)
    (paymentId : Option Id) (retried : retryPayment found answer paymentId = some assigned)
    (was : found.status = .failed) :
    (found.flush assigned held).status = held.status ∨
      answer = .succeeded ∧ (found.flush assigned held).status = .succeeded := by
  rcases flush_status found assigned held with same | ⟨written, changed⟩
  · exact .inl same
  · unfold retryPayment at retried
    cases answer with
    | succeeded =>
        simp only [attemptCharge] at retried
        cases retried
        exact .inr ⟨rfl, written⟩
    | noDefaultPaymentMethod => simp [attemptCharge] at retried
    | error => simp [attemptCharge] at retried
    | declined =>
        simp only [attemptCharge] at retried
        cases retried
        exact absurd was.symm changed
    | failedResult =>
        simp only [attemptCharge] at retried
        cases retried
        exact absurd was.symm changed
    | pending =>
        simp only [attemptCharge] at retried
        cases retried
        exact absurd rfl changed

theorem captured_paid (books : Books Id) (event : Event Id) (target : Target Id) (held : Payment Id)
    (stored : books.payments[target.row]? = some held) (read : target.found.status = .pending) :
    IsPaid (books.payments.set target.row (target.found.flush (resolvePayment event target true) held))
      target.row := by
  have inside := (List.getElem?_eq_some_iff.mp stored).1
  refine ⟨_, List.getElem?_set_self inside, ?_⟩
  simp [Payment.flush, net, resolvePayment, read, alreadyResolved, wasPaid]

theorem sound_captured (now : Moment) (plan : Option Plan) (event : Event Id) (target : Target Id)
    (candidate : Option Nat) (before after : Books Id) (sound : Sound before)
    (captured : event.type = .captured) (ordered : findsUnresolved before event target = true)
    (applied : applyCaptured now plan event target candidate before = some after) :
    Sound after ∧ StaysRefunded before.payments after.payments := by
  -- A success event acts for a row that was PENDING, which has caused nothing yet.
  obtain ⟨held, stored, applied⟩ := Option.bind_eq_some_iff.mp applied
  have keeps := resolve_keeps wasPaid rfl rfl before event target true held ordered stored
  have stays := resolve_keeps wasRefunded rfl rfl before event target true held ordered stored
  cases subscription : target.found.subscription with
  | none =>
      -- A payment without a subscription is marked as paid and causes nothing else.
      simp only [subscription, Option.some.injEq] at applied
      subst applied
      exact ⟨sound_kept before _ sound keeps rfl rfl rfl, stays⟩
  | some subscription =>
      simp only [subscription] at applied
      obtain ⟨accounts, -, rfl⟩ := Option.map_eq_some_iff.mp applied
      obtain ⟨same, read⟩ : held.status = target.found.status ∧ target.found.status = .pending := by
        rcases order_cases before event target held ordered stored with ⟨none, -⟩ | ⟨same, read⟩
        · rw [subscription] at none
          cases none
        · refine ⟨same, read.resolve_right ?_⟩
          rintro ⟨failed, -⟩
          rw [captured] at failed
          cases failed
      have unpaid : ¬ IsPaid before.payments target.row := by
        rintro ⟨other, storedToo, paid⟩
        obtain rfl := Option.some.inj (stored.symm.trans storedToo)
        rw [same, read] at paid
        cases paid
      have paid := captured_paid before event target held stored read
      refine ⟨?_, stays⟩
      constructor
      · constructor
        · simp only [List.map_append, List.map_cons, List.map_nil]
          refine List.Nodup.append sound.renewedOnce (List.nodup_singleton _) ?_
          simp only [List.disjoint_singleton, List.mem_map, not_exists, not_and]
          exact fun renewed member same => unpaid (same ▸ sound.renewed renewed member)
        · cases candidate with
          | none => simpa using sound.settledOnce
          | some invoice =>
              simp only [Option.map_some, Option.toList_some, List.map_append, List.map_cons,
                List.map_nil]
              refine List.Nodup.append sound.settledOnce (List.nodup_singleton _) ?_
              simp only [List.disjoint_singleton, List.mem_map, not_exists, not_and]
              exact fun settlement member same => unpaid (same ▸ sound.settled settlement member)
        · exact sound.neverPaid
        · intro renewed member found status caused
          rcases List.mem_append.mp member with earlier | last
          · exact sound.neverFailed renewed earlier found status caused
          · obtain rfl := List.mem_singleton.mp last
            cases caused
            rw [same, read]
            exact ⟨by simp, by simp⟩
      · intro renewed member
        rcases List.mem_append.mp member with earlier | last
        · exact (sound.renewed renewed earlier).later keeps
        · obtain rfl := List.mem_singleton.mp last
          exact paid
      · intro settlement member
        rcases List.mem_append.mp member with earlier | last
        · exact (sound.settled settlement earlier).later keeps
        · cases candidate with
          | none => simp at last
          | some invoice =>
              obtain rfl := List.mem_singleton.mp (by simpa using last)
              exact paid

theorem sound_failed (now : Moment) (event : Event Id) (target : Target Id)
    (before after : Books Id) (sound : Sound before)
    (ordered : findsUnresolved before event target = true)
    (applied : applyFailed now event target before = some after) :
    Sound after ∧ StaysRefunded before.payments after.payments := by
  obtain ⟨held, stored, applied⟩ := Option.bind_eq_some_iff.mp applied
  have keeps := resolve_keeps wasPaid rfl rfl before event target false held ordered stored
  have stays := resolve_keeps wasRefunded rfl rfl before event target false held ordered stored
  cases subscription : target.found.subscription with
  | none =>
      simp only [subscription, Option.some.injEq] at applied
      subst applied
      exact ⟨sound_kept before _ sound keeps rfl rfl rfl, stays⟩
  | some subscription =>
      simp only [subscription] at applied
      obtain ⟨accounts, -, rfl⟩ := Option.map_eq_some_iff.mp applied
      have unpaid : wasPaid target.found.status = false ∧ wasPaid held.status = false := by
        rcases order_cases before event target held ordered stored with ⟨none, -⟩ | ⟨same, read⟩
        · rw [subscription] at none
          cases none
        · rw [same]
          rcases read with read | ⟨-, read⟩ <;> rw [read] <;> exact ⟨rfl, rfl⟩
      refine ⟨?_, stays⟩
      constructor
      · refine ⟨sound.renewedOnce, sound.settledOnce, ?_, sound.neverFailed⟩
        intro moved member
        rcases List.mem_append.mp member with earlier | last
        · exact sound.neverPaid moved earlier
        · obtain rfl := List.mem_singleton.mp last
          exact unpaid
      · exact fun renewed member => (sound.renewed renewed member).later keeps
      · exact fun settlement member => (sound.settled settlement member).later keeps

theorem sound_apply (now : Moment) (plan : Option Plan) (handling : Handling Id)
    (before after : Books Id) (sound : Sound before)
    (ordered : handling.target.all (fun target => findsUnresolved before handling.event target) = true)
    (applied : handling.apply now plan before = some after) :
    Sound after ∧ StaysRefunded before.payments after.payments := by
  unfold Handling.apply at applied
  split at applied
  · cases applied
    exact ⟨sound, keeps_refl _⟩
  · rename_i target found
    rw [found, Option.all_some] at ordered
    split at applied
    · rename_i captured
      exact sound_captured now plan handling.event target _ before after sound captured ordered applied
    · exact sound_failed now handling.event target before after sound ordered applied
    · cases applied
      exact ⟨sound, keeps_refl _⟩

/-! ### Runs -/

structure SoundSystem (system : System Id) : Prop where
  books : Sound system.books
  retries : ∀ snapshot ∈ system.retries, snapshot.found.status = .failed

theorem sound_written (books : Books Id) (sound : Sound books) (snapshot : Snapshot Id)
    (assigned : Payment Id)
    (paid : ∀ held, books.payments[snapshot.row]? = some held → wasPaid held.status = true →
      wasPaid (snapshot.found.flush assigned held).status = true)
    (refunded : ∀ held, books.payments[snapshot.row]? = some held → wasRefunded held.status = true →
      wasRefunded (snapshot.found.flush assigned held).status = true) :
    Sound (writePayment books snapshot assigned) ∧
      StaysRefunded books.payments (writePayment books snapshot assigned).payments := by
  refine ⟨?_, keeps_modified refunded⟩
  exact sound_kept books _ sound (keeps_modified paid) rfl rfl rfl

theorem sound_retried (books : Books Id) (sound : Sound books) (snapshot : Snapshot Id)
    (assigned : Payment Id) (answer : ProviderAnswer) (paymentId : Option Id)
    (was : snapshot.found.status = .failed) (ordered : findsFailed books snapshot answer = true)
    (retried : retryPayment snapshot.found answer paymentId = some assigned) :
    Sound (writePayment books snapshot assigned) ∧
      StaysRefunded books.payments (writePayment books snapshot assigned).payments := by
  have written := fun held => retry_cases snapshot.found assigned held answer paymentId retried was
  apply sound_written books sound snapshot assigned
  · intro held stored paid
    rcases written held with same | ⟨-, same⟩
    · exact same ▸ paid
    · rw [same]
      rfl
  · intro held stored refunded
    rcases written held with same | ⟨through, -⟩
    · exact same ▸ refunded
    · -- A retry that goes through finds the row FAILED or SUCCEEDED, so it is no refund's.
      simp only [findsFailed, Bool.or_eq_true, decide_eq_true_eq] at ordered
      have found := ordered.resolve_left fun other => other through
      simp only [stored, Option.all_some, was, Bool.or_eq_true, decide_eq_true_eq] at found
      rcases found with read | read <;> rw [read] at refunded <;> cases refunded

theorem soundSystem_step (system next : System Id) (action : Action Id)
    (sound : SoundSystem system) (ordered : orderly system action = true)
    (stepped : step system action = some next) :
    SoundSystem next ∧ StaysRefunded system.books.payments next.books.payments := by
  have unchanged : StaysRefunded system.books.payments system.books.payments := keeps_refl _
  cases action with
  | deliver event =>
      cases stepped
      unfold deliver
      split
      · exact ⟨⟨sound.books, sound.retries⟩, unchanged⟩
      · exact ⟨⟨sound.books, sound.retries⟩, unchanged⟩
  | expireMark place =>
      cases stepped
      exact ⟨⟨sound.books, sound.retries⟩, unchanged⟩
  | listUnpaid delivery =>
      obtain ⟨handling, under, stepped⟩ := Option.bind_eq_some_iff.mp stepped
      split at stepped
      · cases stepped
        exact ⟨⟨sound.books, sound.retries⟩, unchanged⟩
      · cases stepped
  | finish delivery now plan =>
      obtain ⟨handling, under, stepped⟩ := Option.bind_eq_some_iff.mp stepped
      simp only [orderly, under, Option.all_some] at ordered
      split at stepped
      · cases stepped
      · cases stepped
        unfold finish
        split
        · rename_i books applied
          obtain ⟨kept, refunded⟩ :=
            sound_apply now plan handling system.books books sound.books ordered applied
          exact ⟨⟨kept, sound.retries⟩, refunded⟩
        · exact ⟨⟨sound.books, sound.retries⟩, unchanged⟩
  | fail delivery =>
      obtain ⟨handling, -, rfl⟩ := Option.map_eq_some_iff.mp stepped
      exact ⟨⟨sound.books, sound.retries⟩, unchanged⟩
  | startRefund row =>
      obtain ⟨found, -, stepped⟩ := Option.bind_eq_some_iff.mp stepped
      split at stepped
      · cases stepped
        exact ⟨⟨sound.books, sound.retries⟩, unchanged⟩
      · cases stepped
  | commitRefund refund amount =>
      obtain ⟨snapshot, under, stepped⟩ := Option.bind_eq_some_iff.mp stepped
      obtain ⟨assigned, refunded, rfl⟩ := Option.map_eq_some_iff.mp stepped
      obtain ⟨kept, stays⟩ := sound_written system.books sound.books snapshot assigned
        (fun held _ => refund_keeps rfl rfl snapshot.found assigned held amount refunded)
        (fun held _ => refund_keeps rfl rfl snapshot.found assigned held amount refunded)
      exact ⟨⟨kept, sound.retries⟩, stays⟩
  | abortRefund refund =>
      cases stepped
      exact ⟨⟨sound.books, sound.retries⟩, unchanged⟩
  | startRetry row =>
      obtain ⟨found, -, stepped⟩ := Option.bind_eq_some_iff.mp stepped
      split at stepped
      · rename_i failed
        cases stepped
        refine ⟨⟨sound.books, ?_⟩, unchanged⟩
        intro snapshot member
        rcases List.mem_append.mp member with earlier | last
        · exact sound.retries snapshot earlier
        · obtain rfl := List.mem_singleton.mp last
          exact failed
      · cases stepped
  | commitRetry retry answer paymentId =>
      obtain ⟨snapshot, under, stepped⟩ := Option.bind_eq_some_iff.mp stepped
      obtain ⟨assigned, retried, rfl⟩ := Option.map_eq_some_iff.mp stepped
      rw [orderly, under, Option.all_some] at ordered
      obtain ⟨kept, stays⟩ := sound_retried system.books sound.books snapshot assigned answer paymentId
        (sound.retries snapshot (List.mem_of_getElem? under)) ordered retried
      exact ⟨⟨kept, fun snapshot member =>
        sound.retries snapshot (List.mem_of_mem_eraseIdx member)⟩, stays⟩
  | abortRetry retry =>
      cases stepped
      exact ⟨⟨sound.books, fun snapshot member =>
        sound.retries snapshot (List.mem_of_mem_eraseIdx member)⟩, unchanged⟩
  | initiatePayment organization subscription amount answer paymentId =>
      simp only [step] at stepped
      split at stepped
      · cases stepped
      · cases stepped
        obtain ⟨kept, stays⟩ := sound_added system.books sound.books _
        exact ⟨⟨kept, sound.retries⟩, stays⟩
  | createCheckoutOrder organization subscription amount orderId =>
      cases stepped
      obtain ⟨kept, stays⟩ := sound_added system.books sound.books _
      exact ⟨⟨kept, sound.retries⟩, stays⟩
  | renew now organization attempt paymentId =>
      obtain ⟨account, -, stepped⟩ := Option.bind_eq_some_iff.mp stepped
      split at stepped
      · cases stepped
        obtain ⟨kept, stays⟩ := sound_renewAccount now organization attempt paymentId account
          system.books sound.books
        exact ⟨⟨kept, sound.retries⟩, stays⟩
      · cases stepped
  | changeInvoices invoices =>
      cases stepped
      exact ⟨⟨sound_kept system.books _ sound.books (keeps_refl _) rfl rfl rfl, sound.retries⟩,
        unchanged⟩
  | changeAccounts accounts =>
      cases stepped
      exact ⟨⟨sound_kept system.books _ sound.books (keeps_refl _) rfl rfl rfl, sound.retries⟩,
        unchanged⟩

/-- In a run whose events and retries find what they have read, each payment row renews its subscription
at most once and settles at most one invoice, no failure event acts for a paid row and no success
event for a FAILED one, and a row once refunded stays refunded. -/
theorem one_payment_one_effect (accounts : List Account) (system : System Id)
    (reached : Reached step (fun system action => orderly system action = true)
      (System.started accounts) system) :
    OneEffect system.books ∧
      ∀ later, Reached step (fun system action => orderly system action = true) system later →
        StaysRefunded system.books.payments later.books.payments := by
  have sound : SoundSystem system := by
    refine Reached.invariant SoundSystem ⟨sound_started accounts, by simp [System.started]⟩ ?_ reached
    intro state action next held ordered stepped
    exact (soundSystem_step state next action held ordered stepped).1
  refine ⟨sound.books.toOneEffect, fun later onward => ?_⟩
  have both : SoundSystem later ∧ StaysRefunded system.books.payments later.books.payments := by
    refine Reached.invariant (fun state => SoundSystem state ∧
      StaysRefunded system.books.payments state.books.payments) ⟨sound, keeps_refl _⟩ ?_ onward
    rintro state action next ⟨held, stays⟩ ordered stepped
    obtain ⟨kept, keeps⟩ := soundSystem_step state next action held ordered stepped
    exact ⟨kept, Rows.Evolves.trans (fun _ _ _ early late held => late (early held)) stays keeps⟩
  exact both.2

section Executed

open RenewalCharges (firstEnd monthly)
open Subscriptions (day starterPlan)

def renewFirst (answer : ProviderAnswer) : Action Nat :=
  .renew firstEnd 0 ⟨some starterPlan, true, answer, firstEnd, {}⟩ (some 7)

def stripeEvent (id : Nat) (type : EventType) : Event Nat := ⟨.stripe, some id, type, some 7, none⟩

/-- A pending renewal is confirmed, its invoice settled, and the payment refunded. -/
theorem one_payment_one_effect_confirmed :
    ∃ system : System Nat,
      Reached step (fun system action => orderly system action = true) (System.started [monthly])
        system ∧
      system.books.renewals.map Renewed.row = [0] ∧ system.books.settlements = [⟨0, 0⟩] ∧
      system.books.payments.map Payment.status = [.refunded] ∧ OneEffect system.books := by
  obtain ⟨system, reached, seen⟩ := run_observed step (System.started [monthly])
    (fun system action => orderly system action)
    (fun system => system.books.renewals.map Renewed.row = [0] &&
      system.books.settlements = [⟨0, 0⟩] &&
      system.books.payments.map Payment.status = [.refunded])
    (fun _ _ checked => checked)
    [renewFirst .pending, .changeInvoices [⟨some 0, .issued, day 31, 0, none⟩],
      .deliver (stripeEvent 1 .captured), .listUnpaid 0, .finish 0 (day 32) (some starterPlan),
      .startRefund 0, .commitRefund 0 none] (by decide +kernel)
  simp only [Bool.and_eq_true, decide_eq_true_eq] at seen
  exact ⟨system, reached, seen.1.1, seen.1.2, seen.2,
    (one_payment_one_effect [monthly] system reached).1⟩

/-- The success event of a charge that had renewed the period at once renews it again; a failure
event of another id moves the paid subscription to PAST_DUE; and after a refund a further success
event makes the row SUCCEEDED again. -/
theorem repeated_events_repeat_effects :
    ∃ system later : System Nat,
      Reached step (fun _ _ => True) (System.started [monthly]) system ∧
      ¬ OneEffect system.books ∧ system.books.renewals.map Renewed.row = [0, 0] ∧
      system.books.pastDues = [⟨0, .succeeded, .succeeded⟩] ∧
      Reached step (fun _ _ => True) system later ∧
      ¬ StaysRefunded system.books.payments later.books.payments ∧
      system.books.payments.map Payment.status = [.refunded] ∧
      later.books.payments.map Payment.status = [.succeeded] := by
  obtain ⟨system, reached, seen⟩ := run_observed step (System.started [monthly])
    (fun _ _ => true)
    (fun system => system.books.renewals.map Renewed.row = [0, 0] &&
      system.books.pastDues = [⟨0, .succeeded, .succeeded⟩] &&
      system.books.payments.map Payment.status = [.refunded] &&
      (run step (fun _ _ => true) system [.deliver (stripeEvent 3 .captured), .listUnpaid 0,
        .finish 0 (day 35) (some starterPlan)]).any fun later =>
          later.books.payments.map Payment.status = [.succeeded])
    (fun _ _ _ => trivial)
    [renewFirst .succeeded, .deliver (stripeEvent 1 .captured), .listUnpaid 0,
      .finish 0 (day 32) (some starterPlan), .deliver (stripeEvent 2 .failed),
      .finish 0 (day 33) none, .startRefund 0, .commitRefund 0 none] (by decide +kernel)
  simp only [Bool.and_eq_true, decide_eq_true_eq] at seen
  obtain ⟨⟨⟨renewed, moved⟩, refunded⟩, onward⟩ := seen
  obtain ⟨later, (reachedLater : Reached step (fun _ _ => True) system later), succeeded⟩ :=
    run_observed step system (fun _ _ => true) _ (fun _ _ _ => trivial) _ onward
  refine ⟨system, later, reached, ?_, renewed, moved, reachedLater, ?_, refunded,
    by simpa using succeeded⟩
  · intro sound
    have once := sound.renewedOnce
    rw [renewed] at once
    exact absurd once (by decide)
  · intro stays
    obtain ⟨payment, stored, was⟩ : ∃ payment, system.books.payments[0]? = some payment ∧
        payment.status = .refunded := by
      have first := congrArg (fun statuses => statuses[0]?) refunded
      simpa using first
    obtain ⟨kept, storedLater, still⟩ := stays 0 payment stored
    have last := congrArg (fun statuses => statuses[0]?) (of_decide_eq_true succeeded)
    simp only [List.getElem?_map, storedLater] at last
    have refundedLater := still (by rw [was]; rfl)
    rw [Option.some.inj last] at refundedLater
    exact absurd refundedLater (by decide)

end Executed

end CloudGuest.PaymentEvents
