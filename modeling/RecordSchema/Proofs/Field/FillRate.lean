/-
**Fill rates are exact about one hundred.**

A fill rate is a percentage in floating-point numbers that is kept only below one hundred. Rounding
could carry a share just below one up to one hundred, but not while the whole has at most 53 bits:

* `rounds_share`, `rounds_percentage` — each step of a percentage rounds its exact result.
* `roundedPercentage_lt` — a part below the whole has a percentage below one hundred.
* `le_roundedPercentage` — any other part has one of at least one hundred.
* `fillRate?_of_le`, `fillRate?_of_lt` — so the fill rate is missing exactly for the parts that
  reach the whole, and the percentage for all others.
-/

import RecordSchema.Field.Schema
import RecordSchema.Proofs.Binary64.Rounding

namespace RecordSchema

open Binary64 (precision rounded)

/-- The share of a part in a whole, rounded, times one hundred, rounded. -/
def percentage? (part whole : Nat) : Option Binary64 := do
  let share ← (← Binary64.ofNat? part).div? (← Binary64.ofNat? whole)
  share.mul? hundred

theorem bind_eq_filter {α : Type} (kept : α → Bool) (found : Option α) :
    (found.bind fun value => if kept value then some value else none) = found.filter kept := by
  cases found with
  | none => rfl
  | some value => rw [Option.bind_some, Option.filter_some]

/-- The fill rate is the percentage where it is below one hundred. -/
theorem fillRate?_eq_filter {whole : Nat} (positive : 0 < whole) (part : Nat) :
    fillRate? part whole = (percentage? part whole).filter fun rate => rate.lt hundred := by
  unfold fillRate? percentage?
  rw [if_neg (Nat.ne_of_gt positive), ← bind_eq_filter]
  simp only [Option.bind_eq_bind, Option.bind_assoc]

/-- The numbers that a percentage is computed from. -/
theorem percentage?_eq_some_iff {part whole : Nat} {rate : Binary64} :
    percentage? part whole = some rate ↔
      ∃ top bottom share, Binary64.ofNat? part = some top ∧ Binary64.ofNat? whole = some bottom ∧
        top.div? bottom = some share ∧ share.mul? hundred = some rate := by
  simp only [percentage?, Option.bind_eq_bind, Option.bind_eq_some_iff]
  constructor
  · rintro ⟨top, isTop, bottom, isBottom, share, isShare, isRate⟩
    exact ⟨top, bottom, share, isTop, isBottom, isShare, isRate⟩
  · rintro ⟨top, bottom, share, isTop, isBottom, isShare, isRate⟩
    exact ⟨top, isTop, bottom, isBottom, share, isShare, isRate⟩

/-! ### Numbers that are represented exactly -/

theorem rounded_natCast {whole : Nat} (short : whole < 2 ^ precision) :
    rounded whole = whole := by
  have exact : rounded (whole * 2 ^ (0 : Int)) = whole * 2 ^ (0 : Int) :=
    Binary64.rounded_eq_self short (by decide)
  rwa [zpow_zero, mul_one] at exact

theorem natCast_lt_maximum {whole : Nat} (short : whole < 2 ^ precision) :
    (whole : ℚ) < 2 ^ (1023 : Int) := by
  calc (whole : ℚ) < 2 ^ (53 : Int) := by exact_mod_cast short
    _ ≤ 2 ^ (1023 : Int) := zpow_le_zpow_right₀ one_le_two (by decide)

/-- A whole number of at most 53 bits is represented exactly. -/
theorem exists_ofNat? {whole : Nat} (short : whole < 2 ^ precision) :
    ∃ number, Binary64.ofNat? whole = some number ∧ number.negative = false ∧
      number.size = whole := by
  have rounds := Binary64.rounds_ofNat? whole
  obtain ⟨number, answered⟩ := Option.isSome_iff_exists.mp
    (rounds.isSome (natCast_lt_maximum short))
  exact ⟨number, answered, rounds.negative_eq number answered,
    (rounds.size_eq number answered).trans (rounded_natCast short)⟩

theorem negative_hundred : hundred.negative = false := by
  decide +kernel

theorem size_hundred : hundred.size = 100 := by
  obtain ⟨number, answered, -, size⟩ := exists_ofNat? (show 100 < 2 ^ precision by decide)
  unfold hundred
  rw [answered]
  exact_mod_cast size

/-- The largest number below one. -/
def belowOne : Binary64 :=
  ⟨false, 2 ^ 53 - 1, -53⟩

theorem size_belowOne : belowOne.size = 1 - 1 / 2 ^ 53 := by
  norm_num [belowOne, Binary64.size]

theorem rounded_size_belowOne : rounded belowOne.size = belowOne.size :=
  Binary64.rounded_eq_self (by decide) (by decide)

/-- One hundred times the largest number below one is not rounded up to one hundred. -/
theorem rounded_belowOne_mul_lt : rounded (belowOne.size * 100) < 100 := by
  have product : belowOne.mul? hundred = some ⟨false, 100 * 2 ^ 46 - 1, -46⟩ := by
    decide +kernel
  rw [← size_hundred, ← (Binary64.rounds_mul? belowOne hundred).size_eq _ product, size_hundred]
  norm_num [Binary64.size]

/-! ### Percentages -/

/-- The value of a percentage: the part, the share and the product are rounded. -/
def roundedPercentage (part whole : Nat) : ℚ :=
  rounded (rounded (rounded part / whole) * 100)

section Percentage

variable {part whole : Nat} (short : whole < 2 ^ precision)

include short

/-- **The share** of a part in a whole is the rounded quotient of the rounded part. -/
theorem rounds_share (positive : 0 < whole) {top bottom : Binary64}
    (isTop : Binary64.ofNat? part = some top) (isBottom : Binary64.ofNat? whole = some bottom) :
    Binary64.Rounds (top.div? bottom) false (rounded part / whole) := by
  have topRounds := Binary64.rounds_ofNat? part
  have bottomRounds := Binary64.rounds_ofNat? whole
  have bottomSize : bottom.size = whole :=
    (bottomRounds.size_eq bottom isBottom).trans (rounded_natCast short)
  have bottomPos : 0 < bottom.size := by
    rw [bottomSize]
    exact_mod_cast positive
  have rounds : Binary64.Rounds (top.div? bottom) _ _ :=
    Binary64.rounds_div? (Binary64.isZero_eq_false_of_size_pos bottomPos)
  rwa [topRounds.negative_eq top isTop, bottomRounds.negative_eq bottom isBottom,
    topRounds.size_eq top isTop, bottomSize] at rounds

/-- **The percentage** is the rounded product of the share. -/
theorem rounds_percentage (positive : 0 < whole) {top bottom share : Binary64}
    (isTop : Binary64.ofNat? part = some top) (isBottom : Binary64.ofNat? whole = some bottom)
    (isShare : top.div? bottom = some share) :
    Binary64.Rounds (share.mul? hundred) false (rounded (rounded part / whole) * 100) := by
  have shareRounds := rounds_share short positive isTop isBottom
  have rounds := Binary64.rounds_mul? share hundred
  rwa [shareRounds.negative_eq share isShare, negative_hundred,
    shareRounds.size_eq share isShare, size_hundred] at rounds

/-- A percentage that is answered has its value. -/
theorem lt_hundred_iff (positive : 0 < whole) {rate : Binary64}
    (answered : percentage? part whole = some rate) :
    rate.lt hundred = true ↔ roundedPercentage part whole < 100 := by
  obtain ⟨top, bottom, share, isTop, isBottom, isShare, isRate⟩ :=
    percentage?_eq_some_iff.mp answered
  have rounds := rounds_percentage short positive isTop isBottom isShare
  rw [Binary64.lt_iff, Binary64.value_of_nonneg (rounds.negative_eq rate isRate),
    Binary64.value_of_nonneg negative_hundred, rounds.size_eq rate isRate, size_hundred]
  rfl

/-- A part below the whole has a share of at most the largest number below one. -/
theorem rounded_div_le_belowOne (below : part < whole) :
    rounded (rounded part / whole) ≤ belowOne.size := by
  have wholePos : (0 : ℚ) < whole := by exact_mod_cast Nat.lt_of_le_of_lt (Nat.zero_le _) below
  have partBound : (part : ℚ) + 1 ≤ whole := by exact_mod_cast below
  have wholeBound : (whole : ℚ) < 2 ^ 53 := by exact_mod_cast short
  have lost : (1 / 2 ^ 53 : ℚ) * whole ≤ 1 := by linarith
  rw [rounded_natCast (below.trans short), ← rounded_size_belowOne]
  refine Binary64.rounded_mono (by positivity) ?_
  rw [size_belowOne, div_le_iff₀ wholePos]
  linarith

/-- **A part below the whole** has a percentage below one hundred. -/
theorem roundedPercentage_lt (below : part < whole) : roundedPercentage part whole < 100 := by
  have share := rounded_div_le_belowOne short below
  calc roundedPercentage part whole
      ≤ rounded (belowOne.size * 100) :=
        Binary64.rounded_mono (mul_nonneg (Binary64.rounded_nonneg _) (by norm_num)) (by gcongr)
    _ < 100 := rounded_belowOne_mul_lt

/-- **A part that reaches the whole** has a percentage of at least one hundred. -/
theorem le_roundedPercentage (positive : 0 < whole) (reaches : whole ≤ part) :
    100 ≤ roundedPercentage part whole := by
  have wholePos : (0 : ℚ) < whole := by exact_mod_cast positive
  have exact : ∀ number : Nat, number < 2 ^ precision → (number : ℚ) = rounded number :=
    fun _ small => (rounded_natCast small).symm
  have top : (whole : ℚ) ≤ rounded part := by
    rw [exact whole short]
    exact Binary64.rounded_mono wholePos.le (by exact_mod_cast reaches)
  have share : 1 ≤ rounded (rounded part / whole) := by
    rw [← Nat.cast_one, exact 1 (by decide), Nat.cast_one]
    exact Binary64.rounded_mono zero_le_one ((one_le_div wholePos).mpr top)
  rw [← Nat.cast_ofNat, exact 100 (by decide), Nat.cast_ofNat]
  exact Binary64.rounded_mono (by norm_num) (by linarith)

/-- A part below the whole has a percentage. -/
theorem percentage?_isSome (below : part < whole) : (percentage? part whole).isSome = true := by
  have positive : 0 < whole := by omega
  have shareBound := rounded_div_le_belowOne short below
  rw [size_belowOne] at shareBound
  obtain ⟨top, isTop, -, -⟩ := exists_ofNat? (below.trans short)
  obtain ⟨bottom, isBottom, -, -⟩ := exists_ofNat? short
  have quotientInRange : rounded part / whole < 2 ^ (1023 : Int) := by
    calc rounded part / whole ≤ ((1 : Nat) : ℚ) := by
          rw [rounded_natCast (below.trans short), Nat.cast_one,
            div_le_one (by exact_mod_cast positive)]
          exact_mod_cast below.le
      _ < 2 ^ (1023 : Int) := natCast_lt_maximum (by decide)
  obtain ⟨share, isShare⟩ := Option.isSome_iff_exists.mp
    ((rounds_share short positive isTop isBottom).isSome quotientInRange)
  have productInRange : rounded (rounded part / whole) * 100 < 2 ^ (1023 : Int) := by
    calc rounded (rounded part / whole) * 100 ≤ ((100 : Nat) : ℚ) := by
          push_cast
          linarith
      _ < 2 ^ (1023 : Int) := natCast_lt_maximum (by decide)
  obtain ⟨rate, isRate⟩ := Option.isSome_iff_exists.mp
    ((rounds_percentage short positive isTop isBottom isShare).isSome productInRange)
  rw [percentage?_eq_some_iff.mpr ⟨top, bottom, share, isTop, isBottom, isShare, isRate⟩]
  rfl

/-- **The fill rate** of a part that reaches the whole is missing. -/
theorem fillRate?_of_le (positive : 0 < whole) (reaches : whole ≤ part) :
    fillRate? part whole = none := by
  rw [fillRate?_eq_filter positive, Option.filter_eq_none_iff]
  intro rate answered small
  rw [lt_hundred_iff short positive answered] at small
  exact absurd small (not_lt.mpr (le_roundedPercentage short positive reaches))

/-- **The fill rate** of a smaller part is its percentage. -/
theorem fillRate?_of_lt (below : part < whole) :
    ∃ rate, percentage? part whole = some rate ∧ fillRate? part whole = some rate := by
  have positive : 0 < whole := by omega
  obtain ⟨rate, answered⟩ := Option.isSome_iff_exists.mp (percentage?_isSome short below)
  have small : rate.lt hundred = true :=
    (lt_hundred_iff short positive answered).mpr (roundedPercentage_lt short below)
  refine ⟨rate, answered, ?_⟩
  rw [fillRate?_eq_filter positive, answered, Option.filter_some, if_pos small]

end Percentage

end RecordSchema
