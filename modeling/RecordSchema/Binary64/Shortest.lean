/-
**The fewest decimal digits that read back as the same number.**

Every real number in an interval around a floating-point number rounds to it, and the ends belong to
the interval exactly when the significand is even (`Binary64.Neighbourhood`). For one digit, two
digits, and so on up to seventeen, `Binary64.decimalOn?` looks at the two decimals next to the
number on the grid of that many digits and takes the nearer one in the interval; `Binary64.shortest`
is the first answer.
-/

import RecordSchema.Binary64.Basic

namespace RecordSchema

/-- A natural number times a power of ten. -/
structure Decimal where
  digits : Nat
  exponent : Int
  deriving DecidableEq, Repr, Inhabited

namespace Binary64

/-- The reals that round to a positive number, measured in quarters of its unit. -/
structure Neighbourhood where
  lower : Nat
  centre : Nat
  upper : Nat
  /-- Whether the two ends belong to it. -/
  closed : Bool

/-- The reals that round to the number: half a unit up, and half a unit down, or a quarter where the
spacing below is finer. -/
def neighbourhood (number : Binary64) : Neighbourhood :=
  let finerBelow : Bool :=
    number.significand == Nat.pow 2 (precision - 1) && decide (minExponent < number.exponent)
  { lower := 4 * number.significand - (if finerBelow then 1 else 2)
    centre := 4 * number.significand
    upper := 4 * number.significand + 2
    closed := number.significand % 2 == 0 }

/-- Whether `candidate * bottom / top` quarters lie in the neighbourhood. -/
def Neighbourhood.holds (around : Neighbourhood) (top bottom candidate : Nat) : Bool :=
  let low := around.lower * top
  let high := around.upper * top
  let place := candidate * bottom
  if around.closed then decide (low ≤ place) && decide (place ≤ high)
  else decide (low < place) && decide (place < high)

/-- The grid step `10 ^ step` against a quarter unit of the number, as a quotient. -/
def quarterOnGrid (number : Binary64) (step : Int) : Nat × Nat :=
  let (top, bottom) := Ratio.scaled 2 (number.exponent - 2) 1 1
  Ratio.scaled 10 (-step) top bottom

/-- The nearer of the two multiples of `10 ^ step` next to the number that read back, if one does.
An exact tie goes to the even multiple. -/
def decimalOn? (number : Binary64) (step : Int) : Option Nat :=
  let around := number.neighbourhood
  let (top, bottom) := number.quarterOnGrid step
  let below := around.centre * top / bottom
  let nearest := Ratio.round (around.centre * top) bottom
  if around.holds top bottom nearest then some nearest
  else if around.holds top bottom below then some below
  else if around.holds top bottom (below + 1) then some (below + 1)
  else none

/-- The decimal with the fewest digits that reads back as a nonzero number, and of those the
nearest. Seventeen digits always suffice. -/
def shortest (number : Binary64) : Decimal :=
  let (top, bottom) := number.magnitudeRatio
  let leading := Ratio.magnitude 10 top bottom
  let onGrid (count : Nat) : Option Decimal :=
    (number.decimalOn? (leading - count)).map fun digits => ⟨digits, leading - count⟩
  ((List.range 17).findSome? onGrid).getD ⟨0, 0⟩

end Binary64

end RecordSchema
