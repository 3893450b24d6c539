/-
**Rounding to floating-point numbers, as rational numbers.**

An exact result that is not negative is rounded to the nearest multiple of the unit at its place
(`Binary64.rounded`):

* `Binary64.rounded_mono` — rounding is monotone.
* `Binary64.rounded_eq_self` — what has at most 53 bits is its own rounding.
* `Binary64.Rounds` — an answer that is the rounding of an exact result: those of
  `Binary64.round`, of whole numbers, of products and of quotients are.
* `Binary64.lt_iff` — numbers are compared by their values.
-/

import Mathlib.Algebra.Order.Field.Power
import RecordSchema.Binary64.Basic
import RecordSchema.Proofs.Ratio

namespace RecordSchema.Binary64

/-! ### Values -/

/-- The size of a number, without its sign. -/
def size (number : Binary64) : ℚ :=
  number.significand * 2 ^ number.exponent

/-- The value of a number. -/
def value (number : Binary64) : ℚ :=
  if number.negative then -number.size else number.size

theorem size_eq_zero_iff {number : Binary64} : number.size = 0 ↔ number.isZero = true := by
  have power : (2 : ℚ) ^ number.exponent ≠ 0 := zpow_ne_zero _ two_ne_zero
  simp [size, isZero, power]

theorem isZero_eq_false_of_size_pos {number : Binary64} (positive : 0 < number.size) :
    number.isZero = false :=
  Bool.eq_false_iff.mpr fun zero => positive.ne' (size_eq_zero_iff.mpr zero)

theorem value_of_nonneg {number : Binary64} (nonneg : number.negative = false) :
    number.value = number.size := by
  simp [value, nonneg]

/-- A multiple of a power of two is a multiple of the smaller powers. -/
theorem mul_zpow_eq_units (multiple : Nat) {unit exponent : Int} (coarse : unit ≤ exponent) :
    (multiple : ℚ) * 2 ^ exponent =
      ((multiple * 2 ^ (exponent - unit).toNat : Nat) : ℚ) * 2 ^ unit := by
  have parts : exponent = ((exponent - unit).toNat : Int) + unit := by omega
  conv_lhs => rw [parts]
  rw [zpow_add₀ two_ne_zero, zpow_natCast, Nat.cast_mul, Nat.cast_pow, Nat.cast_ofNat, mul_assoc]

/-- The value of a number in smaller units. -/
theorem value_eq_units (number : Binary64) {unit : Int} (le : unit ≤ number.exponent) :
    number.value =
      ((if number.negative then
          -((number.significand * Nat.pow 2 (number.exponent - unit).toNat : Nat) : Int)
        else ((number.significand * Nat.pow 2 (number.exponent - unit).toNat : Nat) : Int) : Int)
          : ℚ) * 2 ^ unit := by
  unfold value size
  rw [mul_zpow_eq_units number.significand le]
  cases number.negative <;> simp

/-- **Numbers are compared by their values.** -/
theorem lt_iff {first second : Binary64} :
    first.lt second = true ↔ first.value < second.value := by
  have positive : (0 : ℚ) < 2 ^ min first.exponent second.exponent := by positivity
  rw [value_eq_units first (min_le_left first.exponent second.exponent),
    value_eq_units second (min_le_right first.exponent second.exponent),
    mul_lt_mul_iff_left₀ positive, Int.cast_lt]
  simp [lt]

/-! ### Rounding -/

/-- The exponent of the unit at the place of a positive number. -/
def unitAt (exact : ℚ) : Int :=
  max (Int.log 2 exact - (precision - 1 : Nat)) minExponent

/-- The multiple of the unit that is nearest to a number that is not negative. -/
def rounded (exact : ℚ) : ℚ :=
  Ratio.nearest (exact * 2 ^ (-unitAt exact)) * 2 ^ unitAt exact

theorem rounded_nonneg (exact : ℚ) : 0 ≤ rounded exact := by
  unfold rounded
  positivity

theorem rounded_zero : rounded 0 = 0 := by
  have nearestZero : Ratio.nearest 0 = 0 := by exact_mod_cast Ratio.nearest_natCast 0
  rw [rounded, zero_mul, nearestZero, Nat.cast_zero, zero_mul]

section Multiple

variable {exact : ℚ} {multiple : Nat} {exponent : Int} (coarse : unitAt exact ≤ exponent)

include coarse

/-- A multiple of the unit bounds the rounding if it bounds the number. -/
theorem rounded_le (nonneg : 0 ≤ exact) (le : exact ≤ multiple * 2 ^ exponent) :
    rounded exact ≤ multiple * 2 ^ exponent := by
  have unitPos : (0 : ℚ) < 2 ^ unitAt exact := by positivity
  rw [mul_zpow_eq_units multiple coarse] at le ⊢
  rw [← div_le_iff₀ unitPos, div_eq_mul_inv, ← zpow_neg] at le
  have whole := Ratio.nearest_mono (by positivity) le
  rw [Ratio.nearest_natCast] at whole
  unfold rounded
  gcongr

theorem le_rounded (le : multiple * 2 ^ exponent ≤ exact) :
    multiple * 2 ^ exponent ≤ rounded exact := by
  have unitPos : (0 : ℚ) < 2 ^ unitAt exact := by positivity
  rw [mul_zpow_eq_units multiple coarse] at le ⊢
  rw [← le_div_iff₀ unitPos, div_eq_mul_inv, ← zpow_neg] at le
  have whole := Ratio.nearest_mono (Nat.cast_nonneg _) le
  rw [Ratio.nearest_natCast] at whole
  unfold rounded
  gcongr

end Multiple

/-- **Rounding is monotone.** -/
theorem rounded_mono {exact other : ℚ} (nonneg : 0 ≤ exact) (le : exact ≤ other) :
    rounded exact ≤ rounded other := by
  rcases nonneg.eq_or_lt with zero | positive
  · rw [← zero, rounded_zero]
    exact rounded_nonneg other
  have logs : Int.log 2 exact ≤ Int.log 2 other := Int.log_mono_right positive le
  have units : unitAt exact ≤ unitAt other := by
    unfold unitAt
    omega
  rcases units.eq_or_lt with same | finer
  · unfold rounded
    rw [same]
    gcongr
    exact Ratio.nearest_mono (by positivity) (by gcongr)
  · -- Where the larger number has the larger unit, the power of two below it separates the two.
    have coarse : unitAt other ≤ Int.log 2 other := by
      unfold unitAt precision minExponent at finer ⊢
      omega
    have logsApart : Int.log 2 exact + 1 ≤ Int.log 2 other := by
      unfold unitAt precision minExponent at finer
      omega
    calc rounded exact
        ≤ ((1 : Nat) : ℚ) * 2 ^ Int.log 2 other := by
          refine rounded_le (units.trans coarse) nonneg ?_
          rw [Nat.cast_one, one_mul]
          calc exact ≤ 2 ^ (Int.log 2 exact + 1) :=
                (Int.lt_zpow_succ_log_self one_lt_two exact).le
            _ ≤ 2 ^ Int.log 2 other := zpow_le_zpow_right₀ one_le_two logsApart
      _ ≤ rounded other := by
          refine le_rounded coarse ?_
          rw [Nat.cast_one, one_mul]
          exact Int.zpow_log_le_self one_lt_two (positive.trans_le le)

/-- **A number of at most 53 bits** is its own rounding. -/
theorem rounded_eq_self {significand : Nat} {exponent : Int} (short : significand < 2 ^ precision)
    (coarse : minExponent ≤ exponent) :
    rounded (significand * 2 ^ exponent) = significand * 2 ^ exponent := by
  rcases Nat.eq_zero_or_pos significand with zero | positive
  · rw [zero, Nat.cast_zero, zero_mul, rounded_zero]
  have exactPos : (0 : ℚ) < significand * 2 ^ exponent := by positivity
  have logBound : Int.log 2 ((significand : ℚ) * 2 ^ exponent) < exponent + 53 := by
    rw [← Int.lt_zpow_iff_log_lt one_lt_two exactPos, add_comm, zpow_add₀ (by norm_num)]
    have bits : (significand : ℚ) < 2 ^ (53 : Int) := by exact_mod_cast short
    exact mul_lt_mul_of_pos_right (by exact_mod_cast bits) (by positivity)
  have unit : unitAt (significand * 2 ^ exponent) ≤ exponent := by
    unfold unitAt precision
    omega
  exact le_antisymm (rounded_le unit exactPos.le le_rfl) (le_rounded unit le_rfl)

/-! ### Answers -/

/-- Whether an answer is the rounding of an exact result under a sign. There is an answer unless the
result is out of range. -/
structure Rounds (answer : Option Binary64) (negative : Bool) (exact : ℚ) : Prop where
  negative_eq : ∀ number, answer = some number → number.negative = negative
  size_eq : ∀ number, answer = some number → number.size = rounded exact
  isSome : exact < 2 ^ (1023 : Int) → answer.isSome = true

theorem rounds_of_size {significand : Nat} {unit : Int} {exact : ℚ} (negative : Bool)
    (size : significand * 2 ^ unit = rounded exact)
    (inRange : exact < 2 ^ (1023 : Int) → unit ≤ maxExponent) :
    Rounds (if maxExponent < unit then none else some ⟨negative, significand, unit⟩) negative
      exact := by
  by_cases beyond : maxExponent < unit
  · rw [if_pos beyond]
    refine ⟨fun _ answered => ?_, fun _ answered => ?_, fun small => ?_⟩
    · cases answered
    · cases answered
    · exact absurd (inRange small) (not_le.mpr beyond)
  · rw [if_neg beyond]
    refine ⟨fun _ answered => ?_, fun _ answered => ?_, fun _ => rfl⟩
    · cases answered
      rfl
    · cases answered
      exact size

/-- **Rounding a quotient** answers with its rounding. -/
theorem rounds_round (negative : Bool) (numerator : Nat) {denominator : Nat}
    (positive : 0 < denominator) :
    Rounds (round negative numerator denominator) negative (numerator / denominator) := by
  rcases Nat.eq_zero_or_pos numerator with rfl | numeratorPos
  · rw [round_zero, Nat.cast_zero, zero_div]
    refine ⟨?_, ?_, fun _ => rfl⟩
    · rintro number ⟨⟩
      rfl
    · rintro number ⟨⟩
      rw [rounded_zero, size_eq_zero_iff]
      rfl
  have exactPos : (0 : ℚ) < numerator / denominator := by positivity
  have magnitude : Ratio.magnitude 2 numerator denominator =
      Int.log 2 (numerator / denominator : ℚ) :=
    Ratio.magnitude_eq_log le_rfl numeratorPos positive
  unfold round
  rw [if_neg (Nat.ne_of_gt numeratorPos)]
  dsimp only
  rw [magnitude, Ratio.round_eq_nearest (Ratio.scaled_pos two_pos positive _ _),
    Ratio.scaled_div two_pos, Nat.cast_ofNat]
  set exact : ℚ := numerator / denominator
  have unit : max (Int.log 2 exact - (precision - 1 : Nat)) minExponent = unitAt exact := rfl
  have inRange : exact < 2 ^ (1023 : Int) → unitAt exact < maxExponent := by
    intro small
    have logBound : Int.log 2 exact < 1023 :=
      (Int.lt_zpow_iff_log_lt one_lt_two exactPos).mp (by rwa [Nat.cast_ofNat])
    unfold unitAt precision minExponent maxExponent
    omega
  rw [unit]
  by_cases carry : Ratio.nearest (exact * 2 ^ (-unitAt exact)) = Nat.pow 2 precision
  · -- The carry halves the significand and doubles the unit.
    rw [if_pos carry]
    refine rounds_of_size negative ?_ fun small => inRange small
    rw [rounded, carry, zpow_add₀ two_ne_zero]
    norm_num [precision]
    ring
  · rw [if_neg carry]
    exact rounds_of_size negative rfl fun small => (inRange small).le

theorem rounds_ofNat? (whole : Nat) : Rounds (ofNat? whole) false whole := by
  have rounding := rounds_round false whole Nat.one_pos
  rwa [Nat.cast_one, div_one] at rounding

/-- **A product** is the rounding of the exact product. -/
theorem rounds_mul? (first second : Binary64) :
    Rounds (first.mul? second) (first.negative != second.negative)
      (first.size * second.size) := by
  have rounding := rounds_round (first.negative != second.negative)
    (Ratio.scaled 2 (first.exponent + second.exponent) (first.significand * second.significand) 1).1
    (Ratio.scaled_pos two_pos Nat.one_pos (first.exponent + second.exponent)
      (first.significand * second.significand))
  have product : ((first.significand * second.significand : Nat) : ℚ) / ((1 : Nat) : ℚ) *
      ((2 : Nat) : ℚ) ^ (first.exponent + second.exponent) = first.size * second.size := by
    unfold size
    push_cast
    rw [zpow_add₀ two_ne_zero]
    ring
  rw [Ratio.scaled_div two_pos, product] at rounding
  exact rounding

/-- **A quotient** is the rounding of the exact quotient. -/
theorem rounds_div? {first second : Binary64} (nonzero : second.isZero = false) :
    Rounds (first.div? second) (first.negative != second.negative)
      (first.size / second.size) := by
  have significandPos : 0 < second.significand := by
    refine Nat.pos_of_ne_zero fun zero => ?_
    simp [isZero, zero] at nonzero
  have rounding := rounds_round (first.negative != second.negative)
    (Ratio.scaled 2 (first.exponent - second.exponent) first.significand second.significand).1
    (Ratio.scaled_pos two_pos significandPos (first.exponent - second.exponent) first.significand)
  have quotient : (first.significand : ℚ) / (second.significand : ℚ) *
      ((2 : Nat) : ℚ) ^ (first.exponent - second.exponent) = first.size / second.size := by
    unfold size
    push_cast
    rw [zpow_sub₀ two_ne_zero, mul_div_mul_comm]
  rw [Ratio.scaled_div two_pos, quotient] at rounding
  rw [div?, nonzero]
  exact rounding

end RecordSchema.Binary64
