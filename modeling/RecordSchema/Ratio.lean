/-
**Quotients of natural numbers: rounding and magnitude.**

* `Ratio.round` is the integer next to a quotient, an exact half going to the even neighbour.
* `Ratio.magnitude` is the exponent of the largest power of a base that a positive quotient reaches,
  and `Ratio.scaled` writes a quotient times a power of a base as a quotient again.
-/

namespace RecordSchema.Ratio

/-- The integer nearest to `numerator / denominator`; an exact half goes to the even neighbour. -/
def round (numerator denominator : Nat) : Nat :=
  let floor := numerator / denominator
  let twiceRest := 2 * (numerator % denominator)
  if twiceRest < denominator then floor
  else if denominator < twiceRest then floor + 1
  else if floor % 2 = 0 then floor
  else floor + 1

/-- A quotient written as numerator and denominator, after multiplication by a power of a base. -/
def scaled (base : Nat) (exponent : Int) (numerator denominator : Nat) : Nat × Nat :=
  (numerator * Nat.pow base exponent.toNat, denominator * Nat.pow base (-exponent).toNat)

/-- The number of digits of a number in a base; zero has none. -/
def digitCount (base number : Nat) : Nat :=
  if large : 2 ≤ base ∧ 0 < number then digitCount base (number / base) + 1 else 0
termination_by number
decreasing_by exact Nat.div_lt_self large.2 large.1

/-- The exponent of the largest power of the base that is at most a positive quotient. -/
def magnitude (base numerator denominator : Nat) : Int :=
  let guess : Int := (digitCount base numerator : Int) - (digitCount base denominator : Int)
  let (top, bottom) := scaled base (-guess) numerator denominator
  if bottom ≤ top then guess else guess - 1

@[simp] theorem round_self_mul (whole denominator : Nat) (positive : 0 < denominator) :
    round (whole * denominator) denominator = whole := by
  simp [round, Nat.mul_div_cancel _ positive, positive]

end RecordSchema.Ratio
