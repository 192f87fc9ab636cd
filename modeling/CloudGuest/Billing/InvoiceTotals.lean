import CloudGuest.Billing.Coupons
import CloudGuest.Library.Decimals
import CloudGuest.Library.Texts

/-!
The figures of an invoice (`InvoiceService`, `compute_taxable_value` and
`compute_tax_breakdown` of billing/validators.py). Decimals are exact rationals
and money columns have two places. Numbering, dates, the billing snapshot and
the audit entry are left out: no figure is read from them.
-/

namespace CloudGuest.InvoiceTotals

open Decimals Texts Invoices

inductive TaxType where
  | gst | vat | salesTax | none
  deriving DecidableEq

structure TaxRate where
  countryCode : Text
  isActive : Bool
  taxType : TaxType
  ratePercentage : ℚ
  admitted : 0 ≤ ratePercentage ∧ ratePercentage ≤ 100

structure BillingProfile where
  organization : Nat
  taxExempt : Bool
  billingState : Text
  billingCountry : Text
  deriving DecidableEq

structure Plan where
  plan : Nat
  name : Text
  billingCycle : Text
  /-- In hundredths, which is what the column keeps. -/
  basePrice : Nat
  currency : Text
  deriving DecidableEq

structure Subscription where
  subscription : Nat
  organization : Nat
  plan : Nat
  appliedCoupon : Option Nat
  deriving DecidableEq

structure LineItem where
  description : Text
  quantity : ℚ
  unitPrice : ℚ
  admitted : 0 < quantity ∧ 0 ≤ unitPrice

structure Books where
  platformGstState : Text
  platformGstCountry : Text
  subscriptions : List Subscription
  plans : List Plan
  profiles : List BillingProfile
  taxRates : List TaxRate
  /-- The coupon repository, where one is wired in. -/
  couponRepository : Option (List Coupons.CouponUsage)
  invoices : List Invoices.Invoice

structure InvoiceItem where
  description : Text
  quantity : ℚ
  unitPrice : ℚ
  amount : ℚ
  deriving DecidableEq

structure Invoice where
  organization : Nat
  subscription : Option Nat
  status : InvoiceStatus
  subtotal : ℚ
  discountAmount : ℚ
  cgstAmount : ℚ
  sgstAmount : ℚ
  igstAmount : ℚ
  taxAmount : ℚ
  taxRatePercentage : ℚ
  totalAmount : ℚ
  currency : Text
  items : List InvoiceItem
  deriving DecidableEq

inductive Fault where
  | subscriptionNotFound | planNotFound | billingProfileNotFound | billingProfileMissing
  deriving DecidableEq

/-! ### Tax -/

structure GstBreakdown where
  cgstAmount : ℚ
  sgstAmount : ℚ
  igstAmount : ℚ
  taxAmount : ℚ
  isIntraState : Bool
  deriving DecidableEq

def zeroBreakdown : GstBreakdown := ⟨0, 0, 0, 0, false⟩

def computeTaxableValue (subtotal discountAmount : ℚ) : ℚ :=
  let taxable := subtotal - discountAmount
  if 0 < taxable then taxable else 0

section Service

variable (casefold : Text → Text)

def normalizeRegion (value : Text) : Text := casefold (strip value)

def isIntraState (platformState platformCountry billingState billingCountry : Text) : Bool :=
  normalizeRegion casefold platformCountry = normalizeRegion casefold billingCountry &&
    normalizeRegion casefold platformState = normalizeRegion casefold billingState

def computeTaxBreakdown (subtotal : ℚ) (taxType : Option TaxType) (ratePercentage : ℚ)
    (taxExempt : Bool) (platformState platformCountry billingState billingCountry : Text) :
    GstBreakdown :=
  if taxExempt ∨ taxType = none ∨ taxType = some .none ∨ ratePercentage ≤ 0 then zeroBreakdown
  else if taxType = some .gst then
    if isIntraState casefold platformState platformCountry billingState billingCountry then
      let half := quantize 2 (subtotal * ratePercentage / 2 / 100)
      ⟨half, half, 0, quantize 2 (half + half + 0), true⟩
    else
      let igst := quantize 2 (subtotal * ratePercentage / 100)
      ⟨0, 0, igst, quantize 2 (0 + 0 + igst), false⟩
  else ⟨0, 0, 0, quantize 2 (subtotal * ratePercentage / 100), false⟩

def getActiveForCountry (books : Books) (country : Text) : Option TaxRate :=
  books.taxRates.find? fun rate => rate.countryCode = country && rate.isActive

def rateFor (books : Books) (profile : BillingProfile) : Option TaxRate :=
  if profile.taxExempt then none else getActiveForCountry books profile.billingCountry

def storedRate : Option TaxRate → ℚ
  | some rate => rate.ratePercentage
  | none => 0

def breakdownFor (books : Books) (profile : BillingProfile) (taxable : ℚ) : GstBreakdown :=
  let rate := rateFor books profile
  computeTaxBreakdown casefold taxable (rate.map TaxRate.taxType) (storedRate rate)
    profile.taxExempt books.platformGstState books.platformGstCountry profile.billingState
    profile.billingCountry

/-! ### Invoices -/

def resolveCouponDiscount (books : Books) (subscription : Subscription) : Nat :=
  match books.couponRepository, subscription.appliedCoupon with
  | some usages, some _ =>
      if Coupons.hasDiscountedInvoice books.invoices subscription.subscription then 0
      else
        match Coupons.getUsageForSubscription usages subscription.subscription with
        | some usage => usage.discountAmountApplied
        | none => 0
  | _, _ => 0

def profileOf (books : Books) (organization : Nat) : Option BillingProfile :=
  books.profiles.find? fun profile => profile.organization = organization

def generateInvoiceForSubscription (books : Books) (id : Nat) : Except Fault Invoice :=
  match books.subscriptions.find? fun subscription => subscription.subscription = id with
  | none => .error .subscriptionNotFound
  | some subscription =>
    match books.plans.find? fun plan => plan.plan = subscription.plan with
    | none => .error .planNotFound
    | some plan =>
      match profileOf books subscription.organization with
      | none => .error .billingProfileNotFound
      | some profile =>
        let subtotal : ℚ := plan.basePrice / 100
        let discount : ℚ := resolveCouponDiscount books subscription / 100
        let taxable := computeTaxableValue subtotal discount
        let breakdown := breakdownFor casefold books profile taxable
        .ok {
          organization := subscription.organization
          subscription := some subscription.subscription
          status := .issued
          subtotal := subtotal
          discountAmount := discount
          cgstAmount := breakdown.cgstAmount
          sgstAmount := breakdown.sgstAmount
          igstAmount := breakdown.igstAmount
          taxAmount := breakdown.taxAmount
          taxRatePercentage := storedRate (rateFor books profile)
          totalAmount := quantize 2 (taxable + breakdown.taxAmount)
          currency := plan.currency
          items := [⟨plan.name ++ " subscription (".toList ++ plan.billingCycle ++ [')'], 1,
            subtotal, subtotal⟩] }

def itemOf (line : LineItem) : InvoiceItem where
  description := line.description
  quantity := line.quantity
  unitPrice := line.unitPrice
  amount := quantize 2 (line.quantity * line.unitPrice)

def issueInvoiceFromLines (books : Books) (profile : BillingProfile) (organization : Nat)
    (lineItems : List LineItem) (status : InvoiceStatus) : Invoice :=
  let subtotal := quantize 2 (lineItems.map fun line => line.quantity * line.unitPrice).sum
  let breakdown := breakdownFor casefold books profile subtotal
  { organization := organization
    subscription := none
    status := status
    subtotal := subtotal
    discountAmount := 0
    cgstAmount := breakdown.cgstAmount
    sgstAmount := breakdown.sgstAmount
    igstAmount := breakdown.igstAmount
    taxAmount := breakdown.taxAmount
    taxRatePercentage := storedRate (rateFor books profile)
    totalAmount := quantize 2 (subtotal + breakdown.taxAmount)
    currency := "INR".toList
    items := lineItems.map itemOf }

def createManualInvoice (books : Books) (organization : Nat) (lineItems : List LineItem) :
    Except Fault Invoice :=
  match profileOf books organization with
  | none => .error .billingProfileNotFound
  | some profile => .ok (issueInvoiceFromLines casefold books profile organization lineItems .issued)

def grouped (number : Nat) : Text :=
  if number < 1000 then decimal number
  else grouped (number / 1000) ++ ',' :: padded 3 (number % 1000)

def creditsLabel (creditsMinor : Nat) : Text :=
  let part := creditsMinor % 100
  grouped (creditsMinor / 100) ++ if part = 0 then [] else '.' :: padded 2 part

def topupDescription (creditsMinor : Nat) (reference : Option Text) : Text :=
  "Marketing credits: ".toList ++ creditsLabel creditsMinor ++ " credits".toList ++
    match reference with
    | some (first :: rest) => " (ref ".toList ++ first :: rest ++ [')']
    | _ => []

def topupLine (amountPaid creditsMinor : Nat) (reference : Option Text) : LineItem where
  description := topupDescription creditsMinor reference
  quantity := 1
  unitPrice := quantize 2 (amountPaid / 100)
  admitted := ⟨by norm_num, quantize_nonneg 2 _ (by positivity)⟩

def generateInvoiceForCreditTopup (books : Books) (organization amountPaid creditsMinor : Nat)
    (reference : Option Text) : Except Fault Invoice :=
  match profileOf books organization with
  | none => .error .billingProfileMissing
  | some profile =>
      .ok (issueInvoiceFromLines casefold books profile organization
        [topupLine amountPaid creditsMinor reference] .paid)

inductive Request where
  | subscription (id : Nat)
  | manual (organization : Nat) (lineItems : List LineItem)
  | creditTopup (organization amountPaid creditsMinor : Nat) (reference : Option Text)

def issue (books : Books) : Request → Except Fault Invoice
  | .subscription id => generateInvoiceForSubscription casefold books id
  | .manual organization lineItems => createManualInvoice casefold books organization lineItems
  | .creditTopup organization amountPaid creditsMinor reference =>
      generateInvoiceForCreditTopup casefold books organization amountPaid creditsMinor reference

end Service

section Laws

variable (casefold : Text → Text) (books : Books) (profile : BillingProfile)

def RegionsAgree : Prop :=
  isIntraState casefold books.platformGstState books.platformGstCountry profile.billingState
    profile.billingCountry = true

def taxTypeFor : Option TaxType := (rateFor books profile).map TaxRate.taxType

structure Taxed (taxable cgst sgst igst tax : ℚ) : Prop where
  whole : Within 2 tax
  parts : taxTypeFor books profile = some .gst → tax = cgst + sgst + igst
  split : taxTypeFor books profile = some .gst →
    ((cgst = sgst ∧ igst = 0) ↔ (RegionsAgree casefold books profile ∨ tax = 0))
  near : taxTypeFor books profile ≠ some .none →
    |tax - taxable * storedRate (rateFor books profile) / 100| ≤ 1 / 100
  nearer : taxTypeFor books profile ≠ some .none →
    ¬ (taxTypeFor books profile = some .gst ∧ RegionsAgree casefold books profile) →
      |tax - taxable * storedRate (rateFor books profile) / 100| ≤ 1 / 200
  untaxed : taxTypeFor books profile = some .none → tax = 0
  free : taxable = 0 → tax = 0

structure Closes (invoice : Invoice) : Prop where
  itemsExact : (∀ item ∈ invoice.items, Within 2 (item.quantity * item.unitPrice)) →
    (invoice.items.map InvoiceItem.amount).sum = invoice.subtotal
  itemsNear : |(invoice.items.map InvoiceItem.amount).sum - invoice.subtotal| ≤
    (invoice.items.length + 1) / 200
  rate : invoice.taxRatePercentage = storedRate (rateFor books profile)
  taxed : Taxed casefold books profile (max (invoice.subtotal - invoice.discountAmount) 0)
    invoice.cgstAmount invoice.sgstAmount invoice.igstAmount invoice.taxAmount
  total : invoice.totalAmount =
    max (invoice.subtotal - invoice.discountAmount) 0 + invoice.taxAmount
  /-- A larger discount than the subtotal is one frozen earlier, and nothing is owed. -/
  discount : invoice.subtotal < invoice.discountAmount →
    invoice.taxAmount = 0 ∧ invoice.totalAmount = 0 ∧
      ∃ usages, books.couponRepository = some usages ∧ ∃ usage ∈ usages,
        invoice.subscription = some usage.subscription ∧
          invoice.discountAmount = usage.discountAmountApplied / 100

theorem computeTaxableValue_eq (subtotal discount : ℚ) :
    computeTaxableValue subtotal discount = max (subtotal - discount) 0 := by
  simp only [computeTaxableValue]
  split
  · rename_i positive
    exact (max_eq_left positive.le).symm
  · rename_i negative
    exact (max_eq_right (not_lt.mp negative)).symm

theorem taxType_storedRate (untyped : taxTypeFor books profile = none) :
    storedRate (rateFor books profile) = 0 := by
  cases found : rateFor books profile with
  | none => rfl
  | some rate => simp [taxTypeFor, found] at untyped

theorem storedRate_nonneg (rate : Option TaxRate) : 0 ≤ storedRate rate := by
  cases rate with
  | none => exact le_rfl
  | some rate => exact rate.admitted.1

theorem breakdownFor_eq (taxable : ℚ) :
    breakdownFor casefold books profile taxable = computeTaxBreakdown casefold taxable
      (taxTypeFor books profile) (storedRate (rateFor books profile)) profile.taxExempt
      books.platformGstState books.platformGstCountry profile.billingState
      profile.billingCountry := rfl

theorem taxed_zero (taxable : ℚ)
    (noTax : profile.taxExempt ∨ taxTypeFor books profile = none ∨
      taxTypeFor books profile = some .none ∨ storedRate (rateFor books profile) ≤ 0) :
    Taxed casefold books profile taxable 0 0 0 0 := by
  -- No tax is charged: there is no rate to charge, or its type is `NONE`.
  have rateless : taxTypeFor books profile ≠ some .none →
      storedRate (rateFor books profile) = 0 := by
    intro typed
    rcases noTax with exempt | untyped | none | nothing
    · simp [rateFor, exempt, storedRate]
    · exact taxType_storedRate books profile untyped
    · exact absurd none typed
    · exact le_antisymm nothing (storedRate_nonneg _)
  constructor
  · exact Within.zero 2
  · intro _
    norm_num
  · intro _
    simp
  · intro typed
    rw [rateless typed]
    norm_num
  · intro typed _
    rw [rateless typed]
    norm_num
  · intro _
    rfl
  · intro _
    rfl

theorem taxed_intra (taxable : ℚ) (gst : taxTypeFor books profile = some .gst)
    (agree : RegionsAgree casefold books profile) (half : ℚ)
    (halved : half = quantize 2 (taxable * storedRate (rateFor books profile) / 2 / 100)) :
    Taxed casefold books profile taxable half half 0 (half + half) := by
  have near := quantize_near 2 (taxable * storedRate (rateFor books profile) / 2 / 100)
  rw [← halved, abs_le] at near
  constructor
  · rw [halved]
    exact (within_quantize 2 _).add (within_quantize 2 _)
  · intro _
    ring
  · intro _
    simp [agree]
  · intro _
    rw [abs_le]
    constructor <;> linarith
  · intro _ apart
    exact absurd ⟨gst, agree⟩ apart
  · intro none
    rw [gst] at none
    cases none
  · intro nothing
    rw [halved, nothing]
    norm_num [quantize, halfEven]

theorem taxed_whole (taxable igst tax : ℚ)
    (flat : tax = quantize 2 (taxable * storedRate (rateFor books profile) / 100))
    (typed : taxTypeFor books profile ≠ some .none)
    (apart : taxTypeFor books profile = some .gst →
      igst = tax ∧ ¬ RegionsAgree casefold books profile) :
    Taxed casefold books profile taxable 0 0 igst tax := by
  have near := quantize_near 2 (taxable * storedRate (rateFor books profile) / 100)
  rw [← flat, abs_le] at near
  constructor
  · rw [flat]
    exact within_quantize 2 _
  · intro gst
    rw [(apart gst).1]
    ring
  · intro gst
    simp [(apart gst).1, (apart gst).2]
  · intro _
    rw [abs_le]
    constructor <;> linarith
  · intro _ _
    rw [abs_le]
    constructor <;> linarith
  · intro none
    exact absurd none typed
  · intro nothing
    rw [flat, nothing]
    norm_num [quantize, halfEven]

theorem breakdown_taxed (taxable : ℚ) :
    let breakdown := breakdownFor casefold books profile taxable
    Taxed casefold books profile taxable breakdown.cgstAmount breakdown.sgstAmount
      breakdown.igstAmount breakdown.taxAmount := by
  simp only [breakdownFor_eq, computeTaxBreakdown]
  -- The branches of the computation: no tax, both halves within a state, one amount elsewhere.
  split
  · rename_i noTax
    exact taxed_zero casefold books profile taxable noTax
  · rename_i charged
    have typed : taxTypeFor books profile ≠ some .none := by
      intro none
      exact charged (.inr (.inr (.inl none)))
    split
    · rename_i gst
      split
      · rename_i agree
        have whole := (within_quantize 2
          (taxable * storedRate (rateFor books profile) / 2 / 100)).add (within_quantize 2
          (taxable * storedRate (rateFor books profile) / 2 / 100))
        simp only [add_zero, quantize_within whole]
        exact taxed_intra casefold books profile taxable gst agree _ rfl
      · rename_i apart
        simp only [zero_add, quantize_within (within_quantize 2 _)]
        exact taxed_whole casefold books profile taxable _ _ rfl typed fun _ => ⟨rfl, apart⟩
    · rename_i flat
      exact taxed_whole casefold books profile taxable 0 _ rfl typed fun gst => absurd gst flat

theorem issueInvoiceFromLines_closes (organization : Nat) (lineItems : List LineItem)
    (status : InvoiceStatus) : Closes casefold books profile
      (issueInvoiceFromLines casefold books profile organization lineItems status) := by
  have taxed := breakdown_taxed casefold books profile
    (quantize 2 (lineItems.map fun line => line.quantity * line.unitPrice).sum)
  have positive : 0 ≤ quantize 2 (lineItems.map fun line => line.quantity * line.unitPrice).sum := by
    apply quantize_nonneg
    apply List.sum_nonneg
    intro amount member
    obtain ⟨line, _, rfl⟩ := List.mem_map.mp member
    exact mul_nonneg line.admitted.1.le line.admitted.2
  have amounts : (lineItems.map itemOf).map InvoiceItem.amount =
      (lineItems.map fun line => line.quantity * line.unitPrice).map (quantize 2) := by
    simp [List.map_map, Function.comp_def, itemOf]
  have taxable : max (quantize 2 (lineItems.map fun line => line.quantity * line.unitPrice).sum - 0) 0
      = quantize 2 (lineItems.map fun line => line.quantity * line.unitPrice).sum := by
    rw [sub_zero, max_eq_left positive]
  constructor
  · intro whole
    rw [issueInvoiceFromLines, amounts]
    apply sum_quantize_within
    intro value member
    obtain ⟨line, listed, rfl⟩ := List.mem_map.mp member
    exact whole (itemOf line) (List.mem_map_of_mem listed)
  · have items := sum_quantize_near 2 (lineItems.map fun line => line.quantity * line.unitPrice)
    have sum := quantize_near 2 (lineItems.map fun line => line.quantity * line.unitPrice).sum
    rw [issueInvoiceFromLines, amounts]
    simp only [List.length_map] at items ⊢
    rw [abs_le] at items sum ⊢
    constructor <;> linarith
  · rfl
  · rw [issueInvoiceFromLines, taxable]
    exact taxed
  · rw [issueInvoiceFromLines, taxable]
    exact quantize_within ((within_quantize 2 _).add taxed.whole)
  · intro larger
    exact absurd larger (not_lt.mpr positive)

theorem resolveCouponDiscount_cases (subscription : Subscription) :
    resolveCouponDiscount books subscription = 0 ∨
      ∃ usages, books.couponRepository = some usages ∧ ∃ usage ∈ usages,
        subscription.subscription = usage.subscription ∧
          resolveCouponDiscount books subscription = usage.discountAmountApplied := by
  unfold resolveCouponDiscount
  split
  · rename_i usages coupon wired applied
    split
    · exact .inl rfl
    · split
      · rename_i usage found
        have listed := List.mem_of_mem_head? found
        rw [Sorting.mem_sortOn, List.mem_filter, decide_eq_true_eq] at listed
        exact .inr ⟨usages, wired, usage, listed.1, listed.2.symm, rfl⟩
      · exact .inl rfl
  · exact .inl rfl

theorem generateInvoiceForSubscription_closes (id : Nat) (invoice : Invoice)
    (issued : generateInvoiceForSubscription casefold books id = .ok invoice) :
    ∃ profile, profileOf books invoice.organization = some profile ∧
      Closes casefold books profile invoice ∧
        ∀ item ∈ invoice.items, Within 2 (item.quantity * item.unitPrice) := by
  unfold generateInvoiceForSubscription at issued
  split at issued
  · cases issued
  · rename_i subscription _
    split at issued
    · cases issued
    · rename_i plan _
      split at issued
      · cases issued
      · rename_i profile found
        cases issued
        have price : Within 2 ((plan.basePrice : ℚ) / 100) := ⟨plan.basePrice, by norm_num⟩
        have frozen : Within 2 ((resolveCouponDiscount books subscription : ℚ) / 100) :=
          ⟨resolveCouponDiscount books subscription, by norm_num⟩
        have taxed := breakdown_taxed casefold books profile (computeTaxableValue
          ((plan.basePrice : ℚ) / 100) (resolveCouponDiscount books subscription / 100))
        have total : Within 2 (computeTaxableValue ((plan.basePrice : ℚ) / 100)
            (resolveCouponDiscount books subscription / 100)) := by
          simp only [computeTaxableValue]
          split
          · exact price.sub frozen
          · exact Within.zero 2
        simp only [quantize_within (total.add taxed.whole)]
        simp only [computeTaxableValue_eq] at taxed ⊢
        refine ⟨profile, found, ?_, by simpa using price⟩
        constructor
        · simp
        · simp only [List.map_cons, List.map_nil, List.sum_cons, List.sum_nil, add_zero, sub_self,
            abs_zero]
          positivity
        · rfl
        · exact taxed
        · rfl
        · intro larger
          have nothing : max ((plan.basePrice : ℚ) / 100 -
              resolveCouponDiscount books subscription / 100) 0 = 0 :=
            max_eq_right (sub_nonpos.mpr larger.le)
          have free := taxed.free nothing
          refine ⟨free, by rw [free, nothing, add_zero], ?_⟩
          rcases resolveCouponDiscount_cases books subscription with
            zero | ⟨usages, wired, usage, member, owner, amount⟩
          · simp only [zero, Nat.cast_zero, zero_div] at larger
            exact absurd larger (not_lt.mpr (by positivity))
          · exact ⟨usages, wired, usage, member, by rw [owner], by rw [amount]⟩

theorem created_from_lines (organization : Nat) (lineItems : List LineItem) (status : InvoiceStatus)
    (fault : Fault) (invoice : Invoice)
    (issued : (match profileOf books organization with
      | none => .error fault
      | some profile => .ok (issueInvoiceFromLines casefold books profile organization lineItems status)) =
        Except.ok invoice) :
    ∃ profile, profileOf books invoice.organization = some profile ∧
      Closes casefold books profile invoice ∧ invoice.items = lineItems.map itemOf := by
  split at issued
  · cases issued
  · rename_i profile found
    cases issued
    exact ⟨profile, found,
      issueInvoiceFromLines_closes casefold books profile organization lineItems status, rfl⟩

/-- The figures of every invoice close, and to the last digit but for lines of smaller parts. -/
theorem invoice_closes (request : Request) (invoice : Invoice)
    (issued : issue casefold books request = .ok invoice) :
    ∃ profile, profileOf books invoice.organization = some profile ∧
      Closes casefold books profile invoice ∧
        ((∀ organization lineItems, request ≠ .manual organization lineItems) →
          (invoice.items.map InvoiceItem.amount).sum = invoice.subtotal) := by
  cases request with
  | subscription id =>
      obtain ⟨profile, found, closes, whole⟩ :=
        generateInvoiceForSubscription_closes casefold books id invoice issued
      exact ⟨profile, found, closes, fun _ => closes.itemsExact whole⟩
  | manual organization lineItems =>
      obtain ⟨profile, found, closes, _⟩ :=
        created_from_lines casefold books organization lineItems .issued _ invoice issued
      exact ⟨profile, found, closes, fun automatic => absurd rfl (automatic organization lineItems)⟩
  | creditTopup organization amountPaid creditsMinor reference =>
      obtain ⟨profile, found, closes, items⟩ :=
        created_from_lines casefold books organization _ .paid _ invoice issued
      refine ⟨profile, found, closes, fun _ => closes.itemsExact ?_⟩
      intro item member
      rw [items, List.map_singleton, List.mem_singleton] at member
      subst member
      have paid := within_quantize 2 ((amountPaid : ℚ) / 100)
      simpa [itemOf, topupLine] using paid

end Laws

/-! ### An office -/

def line (quantity unitPrice : ℚ) (admitted : 0 < quantity ∧ 0 ≤ unitPrice) : LineItem :=
  ⟨"desk".toList, quantity, unitPrice, admitted⟩

def gst18 : TaxRate := ⟨"in".toList, true, .gst, 18, by norm_num⟩

def office (state : Text) (rate : TaxRate) : Books where
  platformGstState := "mh".toList
  platformGstCountry := "in".toList
  subscriptions := [⟨7, 1, 3, some 5⟩]
  plans := [⟨3, "starter".toList, "monthly".toList, 5000, "INR".toList⟩]
  profiles := [⟨1, false, state, "in".toList⟩]
  taxRates := [rate]
  couponRepository := some [⟨7, ⟨0, Calendar.epoch_inRange⟩, 6000⟩]
  invoices := []

def threeDesks : LineItem := line 3 (3335 / 100) (by norm_num)

theorem invoice_closes_manual :
    let books := office "mh ".toList gst18
    ∃ invoice, issue id books (.manual 1 [threeDesks]) = .ok invoice ∧
      invoice.subtotal = 10005 / 100 ∧ invoice.cgstAmount = 9 ∧ invoice.totalAmount = 11805 / 100 ∧
      ∃ profile, profileOf books 1 = some profile ∧ Closes id books profile invoice :=
  ⟨_, rfl, by decide +kernel, by decide +kernel, by decide +kernel,
    (invoice_closes id (office "mh ".toList gst18) (.manual 1 [threeDesks]) _ rfl).imp
      fun _ closed => ⟨closed.1, closed.2.1⟩⟩

def halfPaisa : LineItem := line 1 (5 / 1000) (by norm_num)

/-- Two half units in the lines, a discount above the price, no tax between states at a rate of
zero, and a rate that is stored and not charged. -/
theorem figures_disagree :
    (∃ invoice, issue id (office "mh".toList gst18) (.manual 1 [halfPaisa, halfPaisa]) = .ok invoice ∧
      (invoice.items.map InvoiceItem.amount).sum = 0 ∧ invoice.subtotal = 1 / 100) ∧
    (∃ invoice, issue id (office "mh".toList gst18) (.subscription 7) = .ok invoice ∧
      invoice.subtotal = 50 ∧ invoice.discountAmount = 60) ∧
    (∃ invoice, issue id (office "ka".toList ⟨"in".toList, true, .gst, 0, by norm_num⟩)
        (.manual 1 [threeDesks]) = .ok invoice ∧
      normalizeRegion id "mh".toList ≠ normalizeRegion id "ka".toList ∧
        invoice.cgstAmount = invoice.sgstAmount ∧ invoice.igstAmount = 0) ∧
    (∃ invoice, issue id (office "mh".toList ⟨"in".toList, true, .none, 18, by norm_num⟩)
        (.manual 1 [threeDesks]) = .ok invoice ∧ invoice.taxRatePercentage = 18 ∧
      ¬ |invoice.taxAmount - (invoice.subtotal - invoice.discountAmount) *
        invoice.taxRatePercentage / 100| ≤ 1 / 100) := by
  refine ⟨⟨_, rfl, ?_⟩, ⟨_, rfl, ?_⟩, ⟨_, rfl, ?_⟩, ⟨_, rfl, ?_⟩⟩
  · decide +kernel
  · decide +kernel
  · decide +kernel
  · decide +kernel

end CloudGuest.InvoiceTotals
