/-
**Quotients of natural numbers, as rational numbers.**

* `Ratio.scaled_div` — scaling a quotient multiplies it by a power of the base.
* `Ratio.magnitude_eq_log` — the magnitude of a positive quotient is its integer logarithm.
* `Ratio.lt_round_iff` — when a quotient is rounded beyond an integer. So rounding depends on the
  quotient alone (`Ratio.round_eq_nearest`), and it is monotone (`Ratio.nearest_mono`).
-/

import Mathlib.Data.Int.Log
import Mathlib.Data.Rat.Floor
import Mathlib.Tactic.FieldSimp
import Mathlib.Tactic.Linarith
import Mathlib.Tactic.Positivity
import Mathlib.Tactic.Ring
import RecordSchema.Ratio

namespace RecordSchema.Ratio

/-! ### Scaled quotients -/

theorem scaled_pos {base denominator : Nat} (basePos : 0 < base) (positive : 0 < denominator)
    (exponent : Int) (numerator : Nat) : 0 < (scaled base exponent numerator denominator).2 :=
  Nat.mul_pos positive (Nat.pow_pos basePos)

/-- Scaling a quotient multiplies it by a power of the base. -/
theorem scaled_div {base : Nat} (basePos : 0 < base) (exponent : Int)
    (numerator denominator : Nat) :
    ((scaled base exponent numerator denominator).1 : ℚ) /
        (scaled base exponent numerator denominator).2 =
      numerator / denominator * (base : ℚ) ^ exponent := by
  have nonzero : (base : ℚ) ≠ 0 := Nat.cast_ne_zero.mpr (Nat.ne_of_gt basePos)
  have parts : exponent = (exponent.toNat : Int) - ((-exponent).toNat : Int) := by omega
  have power : (base : ℚ) ^ exponent =
      (base : ℚ) ^ exponent.toNat / (base : ℚ) ^ (-exponent).toNat := by
    conv_lhs => rw [parts]
    rw [zpow_sub₀ nonzero, zpow_natCast, zpow_natCast]
  simp only [scaled, Nat.pow_eq, Nat.cast_mul, Nat.cast_pow]
  rw [power, mul_div_mul_comm]

/-! ### Magnitudes -/

section Magnitude

variable {base : Nat} (large : 2 ≤ base)

include large

/-- A positive number has one digit more than its logarithm. -/
theorem digitCount_eq_log {number : Nat} (positive : 0 < number) :
    digitCount base number = Nat.log base number + 1 := by
  induction number using Nat.strongRecOn with
  | ind number hypothesis =>
    rw [digitCount, dif_pos ⟨large, positive⟩]
    by_cases small : number < base
    · rw [Nat.div_eq_of_lt small, Nat.log_of_lt small, digitCount, dif_neg (by omega)]
    · have reached : base ≤ number := Nat.le_of_not_lt small
      have shorter : number / base < number := Nat.div_lt_self positive large
      have rest : 0 < number / base := Nat.div_pos reached (by omega)
      rw [hypothesis _ shorter rest, Nat.log_of_one_lt_of_le large reached]

/-- The logarithm of a quotient is the difference of the logarithms, or one less. -/
theorem log_div_bounds {numerator denominator : Nat} (numeratorPos : 0 < numerator)
    (denominatorPos : 0 < denominator) :
    let guess : Int := (Nat.log base numerator : Int) - (Nat.log base denominator : Int)
    guess - 1 ≤ Int.log base (numerator / denominator : ℚ) ∧
      Int.log base (numerator / denominator : ℚ) ≤ guess := by
  have basePos : (0 : ℚ) < base := by positivity
  have nonzero : (base : ℚ) ≠ 0 := basePos.ne'
  have positive : (0 : ℚ) < numerator / denominator := by positivity
  have numeratorLow := Int.zpow_log_le_self (R := ℚ) large (Nat.cast_pos.mpr numeratorPos)
  have numeratorHigh := Int.lt_zpow_succ_log_self (R := ℚ) large numerator
  have denominatorLow := Int.zpow_log_le_self (R := ℚ) large (Nat.cast_pos.mpr denominatorPos)
  have denominatorHigh := Int.lt_zpow_succ_log_self (R := ℚ) large denominator
  rw [Int.log_natCast] at numeratorLow numeratorHigh denominatorLow denominatorHigh
  intro guess
  constructor
  · rw [← Int.zpow_le_iff_le_log large positive, le_div_iff₀ (by positivity)]
    calc (base : ℚ) ^ (guess - 1) * denominator
        ≤ (base : ℚ) ^ (guess - 1) * (base : ℚ) ^ ((Nat.log base denominator : Int) + 1) :=
          mul_le_mul_of_nonneg_left denominatorHigh.le (zpow_pos basePos _).le
      _ = (base : ℚ) ^ (Nat.log base numerator : Int) := by
          rw [← zpow_add₀ nonzero]
          congr 1
          omega
      _ ≤ numerator := numeratorLow
  · rw [← Int.lt_add_one_iff, ← Int.lt_zpow_iff_log_lt large positive,
      div_lt_iff₀ (by positivity)]
    calc (numerator : ℚ)
        < (base : ℚ) ^ ((Nat.log base numerator : Int) + 1) := numeratorHigh
      _ = (base : ℚ) ^ (guess + 1) * (base : ℚ) ^ (Nat.log base denominator : Int) := by
          rw [← zpow_add₀ nonzero]
          congr 1
          omega
      _ ≤ (base : ℚ) ^ (guess + 1) * denominator :=
          mul_le_mul_of_nonneg_left denominatorLow (zpow_pos basePos _).le

/-- **The magnitude** of a positive quotient is its integer logarithm. -/
theorem magnitude_eq_log {numerator denominator : Nat} (numeratorPos : 0 < numerator)
    (denominatorPos : 0 < denominator) :
    magnitude base numerator denominator = Int.log base (numerator / denominator : ℚ) := by
  have basePos : 0 < base := by omega
  have positive : (0 : ℚ) < numerator / denominator := by positivity
  obtain ⟨low, high⟩ := log_div_bounds large numeratorPos denominatorPos
  have guessed : (digitCount base numerator : Int) - (digitCount base denominator : Int) =
      (Nat.log base numerator : Int) - (Nat.log base denominator : Int) := by
    rw [digitCount_eq_log large numeratorPos, digitCount_eq_log large denominatorPos]
    omega
  unfold magnitude
  dsimp only
  rw [guessed]
  set guess := (Nat.log base numerator : Int) - (Nat.log base denominator : Int)
  -- The comparison decides which of the two candidates is the logarithm.
  have reaches : (scaled base (-guess) numerator denominator).2 ≤
      (scaled base (-guess) numerator denominator).1 ↔
        guess ≤ Int.log base (numerator / denominator : ℚ) := by
    have scaledPos : (0 : ℚ) < (scaled base (-guess) numerator denominator).2 :=
      Nat.cast_pos.mpr (scaled_pos basePos denominatorPos _ _)
    have powerPos : (0 : ℚ) < (base : ℚ) ^ guess := zpow_pos (Nat.cast_pos.mpr basePos) _
    rw [← Int.zpow_le_iff_le_log large positive, ← Nat.cast_le (α := ℚ), ← one_le_div scaledPos,
      scaled_div basePos, zpow_neg, ← div_eq_mul_inv, one_le_div powerPos]
  by_cases reached : guess ≤ Int.log base (numerator / denominator : ℚ)
  · rw [if_pos (reaches.mpr reached)]
    omega
  · rw [if_neg (mt reaches.mp reached)]
    omega

end Magnitude

/-! ### Rounding to an integer -/

/-- A quotient is rounded beyond an integer exactly if it lies above the half behind it, or on that
half where the integer is odd. -/
theorem lt_round_iff {numerator denominator : Nat} (positive : 0 < denominator) (whole : Nat) :
    whole < round numerator denominator ↔
      (2 * whole + 1) * denominator < 2 * numerator ∨
        ((2 * whole + 1) * denominator = 2 * numerator ∧ whole % 2 = 1) := by
  have division := Nat.div_add_mod numerator denominator
  have restBelow := Nat.mod_lt numerator positive
  unfold round
  dsimp only
  generalize numerator / denominator = floor at *
  generalize numerator % denominator = rest at *
  rcases Nat.lt_trichotomy whole floor with below | equal | above
  · -- The floor is beyond the integer, and so is the quotient.
    have beyond : (2 * whole + 2) * denominator ≤ 2 * floor * denominator :=
      Nat.mul_le_mul_right _ (by omega)
    have quotient : (2 * whole + 1) * denominator < 2 * numerator := by
      rw [← division]
      linarith
    refine iff_of_true ?_ (Or.inl quotient)
    split_ifs <;> omega
  · subst equal
    have half : (2 * whole + 1) * denominator < 2 * numerator ↔ denominator < 2 * rest := by
      rw [← division]
      constructor <;> intro given <;> linarith
    have tie : (2 * whole + 1) * denominator = 2 * numerator ↔ denominator = 2 * rest := by
      rw [← division]
      constructor <;> intro given <;> linarith
    rw [half, tie]
    split_ifs <;> omega
  · have behind : (2 * floor + 3) * denominator ≤ (2 * whole + 1) * denominator :=
      Nat.mul_le_mul_right _ (by omega)
    have quotient : 2 * numerator < (2 * whole + 1) * denominator := by
      rw [← division]
      linarith
    refine iff_of_false ?_ (by omega)
    split_ifs <;> omega

/-- The integer nearest to a rational number that is not negative; an exact half goes to the even
neighbour. -/
def nearest (exact : ℚ) : Nat :=
  round exact.num.toNat exact.den

theorem lt_round_iff_rat {numerator denominator : Nat} (positive : 0 < denominator)
    (whole : Nat) : whole < round numerator denominator ↔
      (whole + 1 / 2 : ℚ) < numerator / denominator ∨
        ((whole + 1 / 2 : ℚ) = numerator / denominator ∧ whole % 2 = 1) := by
  have denominatorPos : (0 : ℚ) < denominator := Nat.cast_pos.mpr positive
  rw [lt_round_iff positive, lt_div_iff₀ denominatorPos, eq_div_iff denominatorPos.ne',
    ← Nat.cast_lt (α := ℚ), ← Nat.cast_inj (R := ℚ)]
  push_cast
  constructor
  · rintro (above | ⟨tie, odd⟩)
    · exact Or.inl (by linarith)
    · exact Or.inr ⟨by linarith, odd⟩
  · rintro (above | ⟨tie, odd⟩)
    · exact Or.inl (by linarith)
    · exact Or.inr ⟨by linarith, odd⟩

theorem lt_nearest_iff {exact : ℚ} (nonneg : 0 ≤ exact) (whole : Nat) :
    whole < nearest exact ↔
      (whole + 1 / 2 : ℚ) < exact ∨ ((whole + 1 / 2 : ℚ) = exact ∧ whole % 2 = 1) := by
  have numerator : ((exact.num.toNat : Nat) : ℚ) = exact.num := by
    rw [← Int.cast_natCast, Int.toNat_of_nonneg (Rat.num_nonneg.mpr nonneg)]
  rw [nearest, lt_round_iff_rat exact.den_pos, numerator, Rat.num_div_den]

/-- Rounding depends on the quotient alone. -/
theorem round_eq_nearest {numerator denominator : Nat} (positive : 0 < denominator) :
    round numerator denominator = nearest (numerator / denominator) := by
  refine eq_of_forall_lt_iff fun whole => ?_
  rw [lt_round_iff_rat positive, lt_nearest_iff (by positivity)]

/-- **Rounding is monotone.** -/
theorem nearest_mono {exact other : ℚ} (nonneg : 0 ≤ exact) (le : exact ≤ other) :
    nearest exact ≤ nearest other := by
  refine le_of_forall_lt fun whole below => ?_
  rw [lt_nearest_iff nonneg] at below
  rw [lt_nearest_iff (nonneg.trans le)]
  rcases below with above | ⟨tie, odd⟩
  · exact Or.inl (above.trans_le le)
  · rcases le.lt_or_eq with less | same
    · exact Or.inl (tie.trans_lt less)
    · exact Or.inr ⟨tie.trans same, odd⟩

@[simp] theorem nearest_natCast (whole : Nat) : nearest whole = whole := by
  have quotient : ((whole : ℚ)) = ((whole * 1 : Nat) : ℚ) / ((1 : Nat) : ℚ) := by simp
  rw [quotient, ← round_eq_nearest Nat.one_pos, round_self_mul whole 1 Nat.one_pos]

end RecordSchema.Ratio
