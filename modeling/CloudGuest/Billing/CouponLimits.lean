import CloudGuest.Billing.Coupons

/-!
What holds of a coupon however its redemptions interleave. `current_uses` is the
number of committed usage rows, because the increment is evaluated under the row
lock and commits with the usage row. It can pass `max_uses`, because nothing but
an earlier read compares the two: in runs where a call validates the coupon, or
an edit sets its limit, only while there is room for every call under way, it
stays within the limit. The discount a usage row froze is on at most one live
invoice.
-/

namespace CloudGuest.Coupons
open Calendar Sorting Invoices Runs

/-- The discounts on a subscription's invoices that are neither void nor cancelled. -/
def liveDiscount (invoices : List Invoice) (subscription : Nat) : Nat :=
  (invoices.map fun invoice =>
    if invoice.subscription = some subscription && live invoice.status then invoice.discountAmount
    else 0).sum

def discountGranted (usages : List CouponUsage) (subscription : Nat) : Nat :=
  match getUsageForSubscription usages subscription with
  | some usage => usage.discountAmountApplied
  | none => 0

/-- The coupon is validated only while the uses and the calls under way leave room for one more,
and its limit set only to what leaves room for them. -/
def roomy (store : Store) : Action → Bool
  | .validate _ _ _ _ => store.coupon.maxUses.all fun maxUses =>
      store.coupon.currentUses + store.redemptions.length < maxUses
  | .updateCoupon edit => (store.coupon.edited edit).maxUses.all fun maxUses =>
      store.coupon.currentUses + store.redemptions.length ≤ maxUses
  | _ => true

/-! ### Invoices -/

theorem liveDiscount_appended (invoices : List Invoice) (invoice : Invoice) (subscription : Nat) :
    liveDiscount (invoices ++ [invoice]) subscription = liveDiscount invoices subscription +
      if invoice.subscription = some subscription && live invoice.status then invoice.discountAmount
      else 0 := by
  simp [liveDiscount]

theorem live_before (current target : InvoiceStatus)
    (moved : target ∈ invoiceTransitions current) : live current = true := by
  cases current <;> simp [invoiceTransitions] at moved <;> decide

theorem liveDiscount_moved (invoices : List Invoice) (place : Nat) (stored : Invoice)
    (target : InvoiceStatus) (subscription : Nat) (found : invoices[place]? = some stored)
    (moved : target ∈ invoiceTransitions stored.status) :
    liveDiscount (setStatus invoices place target) subscription ≤
      liveDiscount invoices subscription := by
  induction invoices generalizing place with
  | nil => simp [setStatus, liveDiscount]
  | cons first rest ih =>
      cases place with
      | zero =>
          obtain rfl : first = stored := by simpa using found
          have alive := live_before first.status target moved
          simp only [setStatus, liveDiscount, List.modify_zero_cons, List.map_cons, List.sum_cons]
          by_cases owned : first.subscription = some subscription
          · cases after : live target with
            | false => simp [owned]
            | true => simp [owned, alive]
          · simp [owned]
      | succ place =>
          have smaller := ih place (by simpa using found)
          simp only [setStatus, liveDiscount, List.modify_succ_cons, List.map_cons,
            List.sum_cons] at smaller ⊢
          omega

theorem liveDiscount_none (invoices : List Invoice) (subscription : Nat)
    (undiscounted : hasDiscountedInvoice invoices subscription = false) :
    liveDiscount invoices subscription = 0 := by
  unfold liveDiscount
  rw [List.sum_eq_zero_iff_forall_eq_nat]
  intro share member
  obtain ⟨invoice, stored, rfl⟩ := List.mem_map.mp member
  have none := List.any_eq_false.mp undiscounted invoice stored
  by_cases owned : invoice.subscription = some subscription
  · cases alive : live invoice.status with
    | false => simp
    | true =>
        have zero : invoice.discountAmount = 0 := by simpa [owned, alive] using none
        simp [zero]
  · simp [owned]

theorem liveDiscount_foreign (invoices : List Invoice) (subscription : Nat)
    (foreign : ∀ invoice ∈ invoices, invoice.subscription ≠ some subscription) :
    liveDiscount invoices subscription = 0 := by
  apply liveDiscount_none
  unfold hasDiscountedInvoice
  rw [List.any_eq_false]
  intro invoice member
  simp [foreign invoice member]

theorem liveDiscount_generated (store : Store) (now : Moment) (subscriber : Subscriber)
    (subscription : Nat)
    (within : liveDiscount store.invoices subscription ≤ discountGranted store.usages subscription) :
    liveDiscount (store.invoices ++ [generateInvoice store now subscriber]) subscription ≤
      discountGranted store.usages subscription := by
  -- A new invoice keeps the live discounts within what the usage row grants.
  rw [liveDiscount_appended]
  by_cases owned : subscriber.subscription = subscription
  · subst owned
    simp only [generateInvoice, live, resolveCouponDiscount]
    by_cases coupon : subscriber.appliedCoupon = true
    · cases discounted : hasDiscountedInvoice store.invoices subscriber.subscription with
      | true => simpa [coupon] using within
      | false =>
          rw [liveDiscount_none store.invoices subscriber.subscription discounted]
          cases used : getUsageForSubscription store.usages subscriber.subscription with
          | none => simp [coupon, discountGranted, used]
          | some usage => simp [coupon, discountGranted, used]
    · simpa [coupon] using within
  · simpa [generateInvoice, owned] using within

theorem discountGranted_appended (usages : List CouponUsage) (usage : CouponUsage)
    (subscription : Nat) (other : usage.subscription ≠ subscription) :
    discountGranted (usages ++ [usage]) subscription = discountGranted usages subscription := by
  simp [discountGranted, getUsageForSubscription, List.filter_append, other]

/-! ### Redemptions -/

theorem redemption_in_phase (store : Store) (place other : Nat) (phase : Phase) (call : Redemption)
    (stored : (store.inPhase place phase).redemptions[other]? = some call) :
    ∃ before, store.redemptions[other]? = some before ∧
      call = if place = other then { before with phase } else before := by
  simp only [Store.inPhase, List.getElem?_modify] at stored
  obtain ⟨before, found, rfl⟩ := Option.map_eq_some_iff.mp stored
  refine ⟨before, found, ?_⟩
  split <;> rfl

theorem unlocked (store : Store) (free : store.locked = false) (place : Nat) (call : Redemption)
    (stored : store.redemptions[place]? = some call) : call.holdsLock = false := by
  have none := List.any_eq_false.mp free call (List.mem_of_getElem? stored)
  simpa using none

/-! ### What every run keeps -/

/-- One call at most has counted itself, to one more than is committed; and no subscription's live
invoices grant more than its usage row. -/
structure Consistent (store : Store) : Prop where
  uses : store.usages.length = store.coupon.currentUses
  next : ∀ call ∈ store.redemptions, ∀ usedAt discount uses,
    call.phase = .counted usedAt discount uses → uses = store.coupon.currentUses + 1
  sole : ∀ (first second : Nat) (a b : Redemption), store.redemptions[first]? = some a →
    store.redemptions[second]? = some b → a.holdsLock = true → b.holdsLock = true → first = second
  invoiced : ∀ invoice ∈ store.invoices, ∀ subscription, invoice.subscription = some subscription →
    store.known subscription = true
  granted : ∀ subscription,
    liveDiscount store.invoices subscription ≤ discountGranted store.usages subscription

theorem consistent_started (coupon : Coupon) : Consistent (Store.started coupon) := by
  constructor
  · rfl
  · simp [Store.started]
  · intro first second a b stored
    simp [Store.started] at stored
  · intro invoice member
    simp [Store.started] at member
  · intro subscription
    simp [Store.started, liveDiscount]

theorem known_appended (store : Store) (subscriber : Subscriber) (subscription : Nat)
    (known : store.known subscription = true) :
    (store.subscribers ++ [subscriber]).any
      (fun subscriber => subscriber.subscription = subscription) = true := by
  rw [List.any_append]
  simp only [Store.known] at known
  simp [known]

theorem consistent_aside (before after : Store) (consistent : Consistent before)
    (uses : after.coupon.currentUses = before.coupon.currentUses)
    (usages : after.usages = before.usages) (subscribers : after.subscribers = before.subscribers)
    (invoices : after.invoices = before.invoices)
    (calls : ∀ call ∈ after.redemptions, call.holdsLock = true → call ∈ before.redemptions)
    (sole : ∀ (first second : Nat) (a b : Redemption), after.redemptions[first]? = some a →
      after.redemptions[second]? = some b → a.holdsLock = true → b.holdsLock = true →
      first = second) : Consistent after := by
  constructor
  · rw [usages, uses]
    exact consistent.uses
  · intro call member usedAt discount count counted
    have earlier := calls call member (by simp [Redemption.holdsLock, counted])
    rw [uses]
    exact consistent.next call earlier usedAt discount count counted
  · exact sole
  · rw [invoices]
    simpa [Store.known, subscribers] using consistent.invoiced
  · rw [invoices, usages]
    exact consistent.granted

theorem consistent_in_phase (store : Store) (consistent : Consistent store) (place : Nat)
    (phase : Phase) (free : ∀ usedAt discount uses, phase ≠ .counted usedAt discount uses) :
    Consistent (store.inPhase place phase) := by
  have same : ∀ (other : Nat) (call : Redemption),
      (store.inPhase place phase).redemptions[other]? = some call → call.holdsLock = true →
      store.redemptions[other]? = some call := by
    intro other call stored holds
    obtain ⟨before, found, rfl⟩ := redemption_in_phase store place other phase call stored
    split at holds
    · exfalso
      unfold Redemption.holdsLock at holds
      split at holds
      · rename_i usedAt discount uses counted
        exact free usedAt discount uses counted
      · cases holds
    · rename_i elsewhere
      rw [if_neg elsewhere]
      exact found
  refine consistent_aside store _ consistent rfl rfl rfl rfl ?_ ?_
  · intro call member holds
    obtain ⟨other, stored⟩ := List.getElem?_of_mem member
    exact List.mem_of_getElem? (same other call stored holds)
  · intro first second a b storedA storedB holdsA holdsB
    exact consistent.sole first second a b (same first a storedA holdsA)
      (same second b storedB holdsB) holdsA holdsB

theorem consistent_without (store : Store) (consistent : Consistent store) (place : Nat) :
    Consistent (store.without place) := by
  refine consistent_aside store _ consistent rfl rfl rfl rfl ?_ ?_
  · intro call member _
    exact List.mem_of_mem_eraseIdx member
  · intro first second a b storedA storedB holdsA holdsB
    have shifted : ∀ index : Nat, (store.without place).redemptions[index]? =
        store.redemptions[if index < place then index else index + 1]? := by
      intro index
      simp only [Store.without, List.getElem?_eraseIdx]
      split <;> rfl
    rw [shifted] at storedA storedB
    have equal := consistent.sole _ _ a b storedA storedB holdsA holdsB
    split at equal <;> split at equal <;> omega

theorem consistent_validated (store : Store) (consistent : Consistent store)
    (organization plan basePrice : Nat) :
    Consistent { store with
      redemptions := store.redemptions ++
        [⟨organization, plan, basePrice, store.coupon, .validated⟩] } := by
  have old : ∀ (place : Nat) (call : Redemption), (store.redemptions ++
      [⟨organization, plan, basePrice, store.coupon, .validated⟩])[place]? = some call →
      call.holdsLock = true → store.redemptions[place]? = some call := by
    intro place call stored holds
    rcases lt_or_ge place store.redemptions.length with inside | outside
    · rw [List.getElem?_append_left inside] at stored
      exact stored
    · rw [List.getElem?_append_right outside] at stored
      obtain rfl := List.mem_singleton.mp (List.mem_of_getElem? stored)
      simp [Redemption.holdsLock] at holds
  refine consistent_aside store _ consistent rfl rfl rfl rfl ?_ ?_
  · intro call member holds
    obtain ⟨place, stored⟩ := List.getElem?_of_mem member
    exact List.mem_of_getElem? (old place call stored holds)
  · intro first second a b storedA storedB holdsA holdsB
    exact consistent.sole first second a b (old first a storedA holdsA) (old second b storedB holdsB)
      holdsA holdsB

theorem consistent_counted (store : Store) (consistent : Consistent store) (place : Nat)
    (usedAt : Moment) (discount : Nat) (free : store.locked = false) :
    Consistent (store.inPhase place
      (.counted usedAt discount (store.coupon.currentUses + 1))) := by
  have here : ∀ (other : Nat) (call : Redemption), (store.inPhase place
      (.counted usedAt discount (store.coupon.currentUses + 1))).redemptions[other]? = some call →
      call.holdsLock = true → place = other ∧
        call.phase = .counted usedAt discount (store.coupon.currentUses + 1) := by
    intro other call stored holds
    obtain ⟨before, found, rfl⟩ := redemption_in_phase store place other _ call stored
    split at holds
    · rename_i same
      exact ⟨same, by simp [same]⟩
    · rw [unlocked store free other before found] at holds
      cases holds
  constructor
  · exact consistent.uses
  · intro call member usedAt' discount' uses counted
    obtain ⟨other, stored⟩ := List.getElem?_of_mem member
    obtain ⟨-, phase⟩ := here other call stored (by simp [Redemption.holdsLock, counted])
    rw [counted] at phase
    cases phase
    rfl
  · intro first second a b storedA storedB holdsA holdsB
    exact (here first a storedA holdsA).1.symm.trans (here second b storedB holdsB).1
  · exact consistent.invoiced
  · exact consistent.granted

/-- The usage row and the counter commit together, for a subscription nobody knew. -/
theorem consistent_committed (store : Store) (consistent : Consistent store) (place : Nat)
    (call : Redemption) (usedAt : Moment) (discount uses subscription : Nat)
    (stored : store.redemptions[place]? = some call)
    (counted : call.phase = .counted usedAt discount uses)
    (unknown : store.known subscription = false) :
    Consistent { store.without place with
      coupon := { store.coupon with currentUses := uses }
      usages := store.usages ++ [⟨subscription, usedAt, discount⟩]
      subscribers := store.subscribers ++ [⟨subscription, true⟩] } := by
  have next := consistent.next call (List.mem_of_getElem? stored) usedAt discount uses counted
  have holds : call.holdsLock = true := by simp [Redemption.holdsLock, counted]
  have alone : ∀ other ∈ (store.without place).redemptions, other.holdsLock = false := by
    intro other member
    by_contra held
    obtain ⟨index, elsewhere, found⟩ := List.mem_eraseIdx_iff_getElem?.mp member
    exact elsewhere
      (consistent.sole index place other call found stored (by simpa using held) holds)
  constructor
  · simp [consistent.uses, next]
  · intro other member usedAt' discount' uses' counted'
    have free := alone other member
    simp [Redemption.holdsLock, counted'] at free
  · intro first second a b storedA storedB holdsA
    rw [alone a (List.mem_of_getElem? storedA)] at holdsA
    cases holdsA
  · intro invoice member owner owned
    exact known_appended store _ owner (consistent.invoiced invoice member owner owned)
  · intro owner
    by_cases same : subscription = owner
    · subst same
      have foreign : liveDiscount store.invoices subscription = 0 := by
        apply liveDiscount_foreign
        intro invoice member owned
        rw [consistent.invoiced invoice member subscription owned] at unknown
        cases unknown
      exact le_of_eq_of_le foreign (Nat.zero_le _)
    · rw [discountGranted_appended _ _ _ same]
      exact consistent.granted owner

theorem consistent_invoices (store : Store) (consistent : Consistent store)
    (invoices : List Invoice)
    (known : ∀ invoice ∈ invoices, ∀ subscription, invoice.subscription = some subscription →
      store.known subscription = true)
    (within : ∀ subscription,
      liveDiscount invoices subscription ≤ discountGranted store.usages subscription) :
    Consistent { store with invoices } :=
  ⟨consistent.uses, consistent.next, consistent.sole, known, within⟩

theorem consistent_moved (store : Store) (consistent : Consistent store) (place : Nat)
    (stored : Invoice) (target : InvoiceStatus) (found : store.invoices[place]? = some stored)
    (moved : target ∈ invoiceTransitions stored.status) :
    Consistent { store with invoices := setStatus store.invoices place target } := by
  apply consistent_invoices store consistent
  · intro invoice member subscription owned
    obtain ⟨index, at_index⟩ := List.getElem?_of_mem member
    simp only [setStatus, List.getElem?_modify] at at_index
    obtain ⟨before, was, rfl⟩ := Option.map_eq_some_iff.mp at_index
    refine consistent.invoiced before (List.mem_of_getElem? was) subscription ?_
    split at owned <;> exact owned
  · intro subscription
    exact le_trans (liveDiscount_moved _ _ stored target subscription found moved)
      (consistent.granted subscription)

theorem consistent_step (store next : Store) (action : Action) (consistent : Consistent store)
    (stepped : step store action = some next) : Consistent next := by
  cases action with
  | validate now organization plan basePrice =>
      simp only [step] at stepped
      split at stepped
      · cases stepped
      · split at stepped
        · cases stepped
          exact consistent_validated store consistent organization plan basePrice
        · cases stepped
  | revalidate now redemption =>
      simp only [step] at stepped
      split at stepped
      · split at stepped
        · split at stepped
          · cases stepped
            exact consistent_without store consistent redemption
          · cases stepped
            exact consistent_in_phase store consistent redemption _ (by simp)
        · cases stepped
          exact consistent_without store consistent redemption
      · cases stepped
  | insertUsage now redemption =>
      simp only [step] at stepped
      split at stepped
      · cases stepped
        exact consistent_in_phase store consistent redemption _ (by simp)
      · cases stepped
  | incrementCurrentUses redemption =>
      simp only [step] at stepped
      split at stepped
      · rename_i usedAt discount stored
        split at stepped
        · cases stepped
        · rename_i free
          cases stepped
          exact consistent_counted store consistent redemption usedAt discount (by simpa using free)
      · cases stepped
  | commit redemption subscription =>
      simp only [step] at stepped
      split at stepped
      · rename_i usedAt discount uses stored
        split at stepped
        · cases stepped
        · rename_i unknown
          cases stepped
          exact consistent_committed store consistent redemption _ usedAt discount uses subscription
            stored rfl (by simpa using unknown)
      · cases stepped
  | abort redemption =>
      cases stepped
      exact consistent_without store consistent redemption
  | updateCoupon edit =>
      simp only [step] at stepped
      split at stepped
      · cases stepped
      · split at stepped
        · cases stepped
          exact consistent_aside store _ consistent rfl rfl rfl rfl (fun _ member _ => member)
            consistent.sole
        · cases stepped
  | deactivateCoupon =>
      simp only [step] at stepped
      split at stepped
      · cases stepped
      · cases stepped
        exact consistent_aside store _ consistent rfl rfl rfl rfl (fun _ member _ => member)
          consistent.sole
  | subscribeWithoutCoupon subscription =>
      simp only [step] at stepped
      split at stepped
      · cases stepped
      · cases stepped
        refine ⟨consistent.uses, consistent.next, consistent.sole, ?_, consistent.granted⟩
        intro invoice member owner owned
        exact known_appended store _ owner (consistent.invoiced invoice member owner owned)
  | generateInvoice now subscription =>
      obtain ⟨subscriber, found, rfl⟩ := Option.map_eq_some_iff.mp stepped
      apply consistent_invoices store consistent
      · intro invoice member owner owned
        rcases List.mem_append.mp member with earlier | last
        · exact consistent.invoiced invoice earlier owner owned
        · obtain rfl := List.mem_singleton.mp last
          cases owned
          exact List.any_eq_true.mpr ⟨subscriber, List.mem_of_find?_eq_some found, by simp⟩
      · intro owner
        exact liveDiscount_generated store now subscriber owner (consistent.granted owner)
  | voidInvoice invoice =>
      obtain ⟨stored, found, stepped⟩ := Option.bind_eq_some_iff.mp stepped
      obtain ⟨target, voided, rfl⟩ := Option.map_eq_some_iff.mp stepped
      exact consistent_moved store consistent invoice stored target found
        (voidTarget_allowed stored.status target voided)
  | moveInvoice invoice target =>
      obtain ⟨stored, found, stepped⟩ := Option.bind_eq_some_iff.mp stepped
      split at stepped
      · rename_i moved
        cases stepped
        exact consistent_moved store consistent invoice stored target found moved
      · cases stepped

/-! ### The limit -/

def HasRoom (store : Store) : Prop :=
  ∀ maxUses, store.coupon.maxUses = some maxUses →
    store.coupon.currentUses + store.redemptions.length ≤ maxUses

theorem hasRoom_fewer (before after : Store) (room : HasRoom before)
    (limit : after.coupon.maxUses = before.coupon.maxUses)
    (fewer : after.coupon.currentUses + after.redemptions.length ≤
      before.coupon.currentUses + before.redemptions.length) : HasRoom after := by
  intro maxUses limited
  rw [limit] at limited
  exact le_trans fewer (room maxUses limited)

theorem length_without (store : Store) (place : Nat) :
    (store.without place).redemptions.length ≤ store.redemptions.length := by
  simp only [Store.without, List.length_eraseIdx]
  split <;> omega

theorem hasRoom_step (store next : Store) (action : Action) (consistent : Consistent store)
    (room : HasRoom store) (roomed : roomy store action = true)
    (stepped : step store action = some next) : HasRoom next := by
  cases action with
  | validate now organization plan basePrice =>
      simp only [step] at stepped
      split at stepped
      · cases stepped
      · split at stepped
        · cases stepped
          intro maxUses limited
          have limit : store.coupon.maxUses = some maxUses := limited
          have left : store.coupon.currentUses + store.redemptions.length < maxUses := by
            simpa [roomy, limit] using roomed
          simp only [List.length_append, List.length_singleton]
          omega
        · cases stepped
  | revalidate now redemption =>
      simp only [step] at stepped
      have gone : HasRoom (store.without redemption) :=
        hasRoom_fewer store _ room rfl (Nat.add_le_add_left (length_without store redemption) _)
      split at stepped
      · split at stepped
        · split at stepped
          · cases stepped
            exact gone
          · cases stepped
            exact hasRoom_fewer store _ room rfl (by simp [Store.inPhase])
        · cases stepped
          exact gone
      · cases stepped
  | insertUsage now redemption =>
      simp only [step] at stepped
      split at stepped
      · cases stepped
        exact hasRoom_fewer store _ room rfl (by simp [Store.inPhase])
      · cases stepped
  | incrementCurrentUses redemption =>
      simp only [step] at stepped
      split at stepped
      · split at stepped
        · cases stepped
        · cases stepped
          exact hasRoom_fewer store _ room rfl (by simp [Store.inPhase])
      · cases stepped
  | commit redemption subscription =>
      simp only [step] at stepped
      split at stepped
      · rename_i usedAt discount uses stored
        split at stepped
        · cases stepped
        · cases stepped
          have counted := consistent.next _ (List.mem_of_getElem? stored) usedAt discount uses rfl
          have inside := (List.getElem?_eq_some_iff.mp stored).1
          refine hasRoom_fewer store _ room rfl ?_
          simp only [Store.without, List.length_eraseIdx, inside, ↓reduceIte, counted]
          omega
      · cases stepped
  | abort redemption =>
      cases stepped
      exact hasRoom_fewer store _ room rfl (Nat.add_le_add_left (length_without store redemption) _)
  | updateCoupon edit =>
      simp only [step] at stepped
      split at stepped
      · cases stepped
      · split at stepped
        · cases stepped
          intro maxUses limited
          have limit : (store.coupon.edited edit).maxUses = some maxUses := limited
          have fits : store.coupon.currentUses + store.redemptions.length ≤ maxUses := by
            simpa [roomy, limit] using roomed
          exact fits
        · cases stepped
  | deactivateCoupon =>
      simp only [step] at stepped
      split at stepped
      · cases stepped
      · cases stepped
        exact room
  | subscribeWithoutCoupon subscription =>
      simp only [step] at stepped
      split at stepped
      · cases stepped
      · cases stepped
        exact room
  | generateInvoice now subscription =>
      obtain ⟨subscriber, -, rfl⟩ := Option.map_eq_some_iff.mp stepped
      exact room
  | voidInvoice invoice =>
      obtain ⟨stored, -, stepped⟩ := Option.bind_eq_some_iff.mp stepped
      obtain ⟨target, -, rfl⟩ := Option.map_eq_some_iff.mp stepped
      exact room
  | moveInvoice invoice target =>
      obtain ⟨stored, -, stepped⟩ := Option.bind_eq_some_iff.mp stepped
      split at stepped
      · cases stepped
        exact room
      · cases stepped

theorem consistent_reached (coupon : Coupon) (allowed : Store → Action → Prop) (store : Store)
    (reached : Reached step allowed (Store.started coupon) store) : Consistent store := by
  apply Reached.invariant Consistent (consistent_started coupon) _ reached
  intro before action after held _ stepped
  exact consistent_step before after action held stepped

/-- In every run `current_uses` is the number of committed usage rows and the live invoices of a
subscription grant at most what its usage row froze; in every run that keeps room for the calls
under way, `current_uses` stays within `max_uses`. -/
theorem coupon_limits (coupon : Coupon) (store : Store) :
    (Reached step (fun _ _ => True) (Store.started coupon) store →
      store.coupon.currentUses = store.usages.length ∧
      ∀ subscription,
        liveDiscount store.invoices subscription ≤ discountGranted store.usages subscription) ∧
    (Reached step (fun store action => roomy store action = true) (Store.started coupon) store →
      ∀ maxUses, store.coupon.maxUses = some maxUses → store.coupon.currentUses ≤ maxUses) := by
  constructor
  · intro reached
    have consistent := consistent_reached coupon _ store reached
    exact ⟨consistent.uses.symm, consistent.granted⟩
  · intro reached
    have kept : Consistent store ∧ HasRoom store := by
      refine Reached.invariant (fun store => Consistent store ∧ HasRoom store)
        ⟨consistent_started coupon, fun _ _ => Nat.zero_le _⟩ ?_ reached
      rintro before action after ⟨held, room⟩ roomed stepped
      exact ⟨consistent_step before after action held stepped,
        hasRoom_step before after action held room roomed stepped⟩
    intro maxUses limited
    have fits := kept.2 maxUses limited
    omega

section Executed

def instant (micros : Fin 60) : Moment := ⟨micros.val, by unfold firstMicros lastMicros; omega⟩

def onceOnly : Coupon :=
  ⟨some 1, 0, true, false, instant 0, none, none, [], .percentage, 1000⟩

def applyAt (redemption subscription : Nat) : List Action :=
  -- The statements of one call, from its second validation to its commit.
  [.revalidate (instant 2) redemption, .insertUsage (instant 3) redemption,
    .incrementCurrentUses redemption, .commit redemption subscription]

/-- One redemption, an invoice with its discount, voided and issued again. -/
theorem coupon_limits_redeemed :
    ∃ store : Store,
      Reached step (fun store action => roomy store action = true) (Store.started onceOnly) store ∧
      store.coupon.currentUses = 1 ∧ store.usages.map CouponUsage.discountAmountApplied = [490] ∧
      store.invoices.map Invoice.discountAmount = [490, 490, 0] ∧
      liveDiscount store.invoices 5 = 490 ∧ discountGranted store.usages 5 ≥ 490 ∧
      (∀ maxUses, store.coupon.maxUses = some maxUses → store.coupon.currentUses ≤ maxUses) := by
  obtain ⟨store, reached, seen⟩ := run_observed step (Store.started onceOnly)
    (fun store action => roomy store action)
    (fun store => store.coupon.currentUses = 1 &&
      store.usages.map CouponUsage.discountAmountApplied = [490] &&
      store.invoices.map Invoice.discountAmount = [490, 490, 0] &&
      liveDiscount store.invoices 5 = 490)
    (fun _ _ checked => checked)
    (.validate (instant 1) 7 1 4900 :: applyAt 0 5 ++
      [.generateInvoice (instant 4) 5, .voidInvoice 0, .generateInvoice (instant 5) 5,
        .generateInvoice (instant 6) 5]) (by decide +kernel)
  simp only [Bool.and_eq_true, decide_eq_true_eq] at seen
  have granted := ((coupon_limits onceOnly store).1 (reached.weaken fun _ _ _ => trivial)).2 5
  exact ⟨store, reached, seen.1.1.1, seen.1.1.2, seen.1.2, seen.2, seen.2 ▸ granted,
    (coupon_limits onceOnly store).2 reached⟩

/-- Two calls validate the coupon twice each before either commits: it is used twice. -/
theorem coupon_passes_its_limit :
    ∃ store : Store,
      Reached step (fun _ _ => True) (Store.started onceOnly) store ∧
      store.coupon.maxUses = some 1 ∧ store.coupon.currentUses = 2 := by
  obtain ⟨store, reached, seen⟩ := run_observed step (Store.started onceOnly) (fun _ _ => true)
    (fun store => store.coupon.maxUses = some 1 && store.coupon.currentUses = 2)
    (fun _ _ _ => trivial)
    [.validate (instant 1) 7 1 4900, .validate (instant 1) 8 1 4900, .revalidate (instant 2) 0,
      .revalidate (instant 2) 1, .insertUsage (instant 3) 0, .insertUsage (instant 3) 1,
      .incrementCurrentUses 0, .commit 0 5, .incrementCurrentUses 0, .commit 0 6]
    (by decide +kernel)
  simp only [Bool.and_eq_true, decide_eq_true_eq] at seen
  exact ⟨store, reached, seen.1, seen.2⟩

end Executed

end CloudGuest.Coupons
