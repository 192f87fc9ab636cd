import Mathlib

/-!
Decimal numbers as programs and databases compute with them: rounding to a
whole number, with halves away from zero or to the even neighbour, and
arithmetic whose results keep a fixed number of significant digits. A number of
few digits comes out of all of these as it went in.
-/

namespace CloudGuest.Decimals

/-- To the nearest whole number, halves away from zero. -/
def halfUp (value : ℚ) : ℤ := if 0 ≤ value then ⌊value + 1 / 2⌋ else -⌊-value + 1 / 2⌋

def halfEven (value : ℚ) : ℤ :=
  let low := ⌊value⌋
  if value - low < 1 / 2 then low
  else if 1 / 2 < value - low then low + 1
  else if low % 2 = 0 then low
  else low + 1

def significant (digits : Nat) (value : ℚ) : ℚ :=
  let place := Int.log 10 |value| + 1 - digits
  halfEven (value / 10 ^ place) * 10 ^ place

/-- Rounded to so many decimal places, halves to the even digit. -/
def quantize (places : Nat) (value : ℚ) : ℚ := halfEven (value * 10 ^ places) / 10 ^ places

def Within (places : Nat) (value : ℚ) : Prop := ∃ whole : ℤ, value = whole / 10 ^ places

def stored (places : Nat) (value : ℚ) : ℤ := halfUp (value * 10 ^ places)

@[simp] theorem halfUp_whole (whole : ℤ) : halfUp (whole : ℚ) = whole := by
  have half : ⌊(1 / 2 : ℚ)⌋ = 0 := by norm_num
  unfold halfUp
  split
  · rw [Int.floor_intCast_add, half, add_zero]
  · rw [← Int.cast_neg, Int.floor_intCast_add, half, add_zero, neg_neg]

@[simp] theorem halfEven_whole (whole : ℤ) : halfEven (whole : ℚ) = whole := by
  simp [halfEven]

theorem significant_exact (digits places : Nat) (whole : ℤ) (value : ℚ)
    (exact : value = whole / 10 ^ places) (fits : places ≤ digits)
    (small : |value| < 10 ^ (digits - places)) : significant digits value = value := by
  by_cases zero : value = 0
  · simp [significant, zero, halfEven]
  · have positive : 0 < |value| := abs_pos.mpr zero
    have low : Int.log 10 |value| < ((digits - places : Nat) : ℤ) := by
      rw [← Int.lt_zpow_iff_log_lt (by norm_num) positive]
      exact_mod_cast small
    obtain ⟨spare, apart⟩ : ∃ spare : Nat,
        Int.log 10 |value| + 1 - digits = -((places + spare : Nat) : ℤ) := by
      refine ⟨((digits : ℤ) - places - 1 - Int.log 10 |value|).toNat, ?_⟩
      omega
    have scaled : value / 10 ^ (-((places + spare : Nat) : ℤ)) = ((whole * 10 ^ spare : ℤ) : ℚ) := by
      rw [exact, zpow_neg, div_inv_eq_mul, zpow_natCast, pow_add]
      push_cast
      field_simp
    unfold significant
    simp only [apart]
    rw [scaled, halfEven_whole, ← scaled]
    field_simp

theorem halfEven_near (value : ℚ) : |(halfEven value : ℚ) - value| ≤ 1 / 2 := by
  have low := Int.floor_le value
  have high := Int.lt_floor_add_one value
  simp only [halfEven]
  split
  · rw [abs_le]
    constructor <;> linarith
  · rename_i notBelow
    split
    · rw [abs_le]
      push_cast
      constructor <;> linarith
    · rename_i notAbove
      -- a tie: both neighbours are half away
      have tie : value - ⌊value⌋ = 1 / 2 := le_antisymm (not_lt.mp notAbove) (not_lt.mp notBelow)
      split <;> rw [abs_le] <;> push_cast <;> constructor <;> linarith

theorem halfEven_nonneg (value : ℚ) (nonneg : 0 ≤ value) : 0 ≤ halfEven value := by
  have low : 0 ≤ ⌊value⌋ := Int.floor_nonneg.mpr nonneg
  simp only [halfEven]
  split
  · exact low
  · split
    · omega
    · split <;> omega

theorem within_quantize (places : Nat) (value : ℚ) : Within places (quantize places value) :=
  ⟨halfEven (value * 10 ^ places), rfl⟩

theorem quantize_within {places : Nat} {value : ℚ} (within : Within places value) :
    quantize places value = value := by
  obtain ⟨whole, rfl⟩ := within
  have cancelled : (whole : ℚ) / 10 ^ places * 10 ^ places = whole := by field_simp
  rw [quantize, cancelled, halfEven_whole]

theorem quantize_near (places : Nat) (value : ℚ) :
    |quantize places value - value| ≤ 1 / (2 * 10 ^ places) := by
  have positive : (0 : ℚ) < 10 ^ places := by positivity
  have near := halfEven_near (value * 10 ^ places)
  have scaled : quantize places value - value =
      (halfEven (value * 10 ^ places) - value * 10 ^ places) / 10 ^ places := by
    rw [quantize]
    field_simp
  rw [scaled, abs_div, abs_of_pos positive, div_le_div_iff₀ positive (by positivity)]
  calc |(halfEven (value * 10 ^ places) : ℚ) - value * 10 ^ places| * (2 * 10 ^ places)
      ≤ 1 / 2 * (2 * 10 ^ places) := by gcongr
    _ = 1 * 10 ^ places := by ring

theorem quantize_nonneg (places : Nat) (value : ℚ) (nonneg : 0 ≤ value) :
    0 ≤ quantize places value := by
  have rounded : 0 ≤ halfEven (value * 10 ^ places) := halfEven_nonneg _ (by positivity)
  unfold quantize
  positivity

theorem Within.zero (places : Nat) : Within places 0 := ⟨0, by simp⟩

theorem Within.add {places : Nat} {left right : ℚ} (leftWithin : Within places left)
    (rightWithin : Within places right) : Within places (left + right) := by
  obtain ⟨leftWhole, rfl⟩ := leftWithin
  obtain ⟨rightWhole, rfl⟩ := rightWithin
  exact ⟨leftWhole + rightWhole, by push_cast; ring⟩

theorem Within.sub {places : Nat} {left right : ℚ} (leftWithin : Within places left)
    (rightWithin : Within places right) : Within places (left - right) := by
  obtain ⟨leftWhole, rfl⟩ := leftWithin
  obtain ⟨rightWhole, rfl⟩ := rightWithin
  exact ⟨leftWhole - rightWhole, by push_cast; ring⟩

/-- Rounding each of a list and rounding their sum differ by a half unit each way for each. -/
theorem sum_quantize_near (places : Nat) (values : List ℚ) :
    |(values.map (quantize places)).sum - values.sum| ≤ values.length / (2 * 10 ^ places) := by
  induction values with
  | nil => simp
  | cons value rest ih =>
      have near := quantize_near places value
      simp only [List.map_cons, List.sum_cons, List.length_cons]
      have apart : quantize places value + (rest.map (quantize places)).sum - (value + rest.sum) =
          (quantize places value - value) + ((rest.map (quantize places)).sum - rest.sum) := by ring
      rw [apart]
      push_cast
      rw [add_div, add_comm ((rest.length : ℚ) / _)]
      exact (abs_add_le _ _).trans (add_le_add near ih)

theorem sum_quantize_within (places : Nat) (values : List ℚ)
    (all : ∀ value ∈ values, Within places value) :
    (values.map (quantize places)).sum = quantize places values.sum := by
  have sums : Within places values.sum := by
    induction values with
    | nil => exact Within.zero places
    | cons value rest ih =>
        rw [List.sum_cons]
        exact (all value List.mem_cons_self).add
          (ih fun other member => all other (List.mem_cons_of_mem _ member))
  have same : values.map (quantize places) = values := by
    calc values.map (quantize places)
        = values.map id := List.map_congr_left fun value member => quantize_within (all value member)
      _ = values := List.map_id values
  rw [same, quantize_within sums]

theorem stored_exact (places : Nat) (whole : ℤ) : stored places (whole / 10 ^ places) = whole := by
  have cancelled : (whole : ℚ) / 10 ^ places * 10 ^ places = whole := by field_simp
  rw [stored, cancelled, halfUp_whole]

end CloudGuest.Decimals
