/-
**Finite 64-bit floating-point numbers, as exact dyadic fractions.**

A number is a sign, a significand below `2 ^ 53` and the exponent of its unit. Every operation
computes its exact quotient first and rounds once, to the nearest number and on a tie to the even
significand (`Binary64.round`):

* `Binary64.round_zero` — a zero numerator rounds to a zero of the given sign.
* `Binary64.bits` — the number's place in the interchange format, as a natural number.

A result beyond the largest finite number has no representation here, so rounding answers `none`.
-/

import RecordSchema.Ratio

namespace RecordSchema

/-- A finite number: the sign, then `significand * 2 ^ exponent`. -/
structure Binary64 where
  negative : Bool
  significand : Nat
  exponent : Int
  deriving DecidableEq, Repr, Inhabited

namespace Binary64

/-- The significand has this many bits. -/
def precision : Nat := 53

/-- The exponent of the smallest unit. -/
def minExponent : Int := -1074

/-- The exponent of the largest unit. -/
def maxExponent : Int := 971

def zero (negative : Bool) : Binary64 :=
  ⟨negative, 0, minExponent⟩

def isZero (number : Binary64) : Bool :=
  number.significand == 0

/-- The number nearest to `numerator / denominator` under a sign, ties to the even significand, and
`none` beyond the largest finite number. -/
def round (negative : Bool) (numerator denominator : Nat) : Option Binary64 :=
  if numerator = 0 then some (zero negative)
  else
    let leading := Ratio.magnitude 2 numerator denominator
    let unit := max (leading - (precision - 1 : Nat)) minExponent
    let (top, bottom) := Ratio.scaled 2 (-unit) numerator denominator
    let significand := Ratio.round top bottom
    let (significand, unit) :=
      if significand = Nat.pow 2 precision then (Nat.pow 2 (precision - 1), unit + 1)
      else (significand, unit)
    if maxExponent < unit then none else some ⟨negative, significand, unit⟩

/-- The magnitude as a quotient of natural numbers. -/
def magnitudeRatio (number : Binary64) : Nat × Nat :=
  Ratio.scaled 2 number.exponent number.significand 1

def ofNat? (value : Nat) : Option Binary64 :=
  round false value 1

def ofInt? (value : Int) : Option Binary64 :=
  round (decide (value < 0)) value.natAbs 1

def mul? (first second : Binary64) : Option Binary64 :=
  let (top, bottom) := Ratio.scaled 2 (first.exponent + second.exponent)
    (first.significand * second.significand) 1
  round (first.negative != second.negative) top bottom

/-- The rounded quotient; there is none by zero. -/
def div? (first second : Binary64) : Option Binary64 :=
  if second.isZero then none
  else
    let (top, bottom) := Ratio.scaled 2 (first.exponent - second.exponent)
      first.significand second.significand
    round (first.negative != second.negative) top bottom

/-- The place of the number in the interchange format: sign, biased exponent, trailing significand.
-/
def bits (number : Binary64) : Nat :=
  let sign := if number.negative then Nat.pow 2 63 else 0
  let hidden := Nat.pow 2 (precision - 1)
  if number.significand < hidden then sign + number.significand
  else sign + (number.exponent + 1075).toNat * hidden + (number.significand - hidden)

/-- Whether the first number is below the second, where the zeros are equal. -/
def lt (first second : Binary64) : Bool :=
  let unit := min first.exponent second.exponent
  let units (number : Binary64) : Int :=
    let size : Int := number.significand * Nat.pow 2 (number.exponent - unit).toNat
    if number.negative then -size else size
  units first < units second

@[simp] theorem round_zero (negative : Bool) (denominator : Nat) :
    round negative 0 denominator = some (zero negative) := rfl

end Binary64

end RecordSchema
