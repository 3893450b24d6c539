/-
**The text of a floating-point number.**

`Decimal.text` lays out a decimal by a `DecimalLayout`: positional between two powers of ten, and a
leading digit with an exponent outside them. `Binary64.text` lays out the shortest decimal that
reads back, and `Binary64.wholeText` rounds to an integer, an exact half going to the even
neighbour.
-/

import RecordSchema.Binary64.Shortest

namespace RecordSchema

/-- How decimals are written. -/
structure DecimalLayout where
  /-- The lowest power of ten whose multiples are written positionally. -/
  positionalFrom : Int
  /-- The first power of ten that is written with an exponent again. -/
  positionalBelow : Int
  /-- What follows the digits of an integer. -/
  wholeTail : String
  /-- What divides the digits from the exponent. -/
  exponentMark : String
  /-- The sign of an exponent that is not negative. -/
  plusSign : String

def zeros (count : Nat) : String :=
  String.ofList (List.replicate count '0')

/-- The digits of a number without the zeros at its end, and how many of these there were. -/
def trimmedDigits (number : Nat) : List Char × Nat :=
  let digits := Nat.toDigits 10 number
  let kept := (digits.reverse.dropWhile (· == '0')).reverse
  (kept, digits.length - kept.length)

namespace Decimal

/-- A positive decimal written by a layout. -/
def text (layout : DecimalLayout) (decimal : Decimal) : String :=
  let (digits, dropped) := trimmedDigits decimal.digits
  let leading : Int := decimal.exponent + dropped + digits.length - 1
  if layout.positionalFrom ≤ leading ∧ leading < layout.positionalBelow then
    if leading < 0 then
      "0." ++ zeros (-leading - 1).toNat ++ String.ofList digits
    else
      let whole := leading.toNat + 1
      if digits.length ≤ whole then
        String.ofList digits ++ zeros (whole - digits.length) ++ layout.wholeTail
      else
        String.ofList (digits.take whole) ++ "." ++ String.ofList (digits.drop whole)
  else
    let fraction := if digits.length ≤ 1 then "" else "." ++ String.ofList (digits.drop 1)
    let sign := if leading < 0 then "-" else layout.plusSign
    String.ofList (digits.take 1) ++ fraction ++ layout.exponentMark ++ sign ++
      toString leading.natAbs

end Decimal

namespace Binary64

/-- The sign in front of a number's digits. -/
def signText (number : Binary64) : String :=
  if number.negative then "-" else ""

/-- The shortest text that reads back as the number. -/
def text (layout : DecimalLayout) (number : Binary64) : String :=
  number.signText ++
    (if number.isZero then "0" ++ layout.wholeTail else number.shortest.text layout)

/-- The nearest integer, a half going to the even neighbour, under the sign of the number. -/
def wholeText (number : Binary64) : String :=
  let (top, bottom) := number.magnitudeRatio
  number.signText ++ toString (Ratio.round top bottom)

/-- The bits of the number as sixteen hexadecimal digits. -/
def bitsText (number : Binary64) : String :=
  let digits := Nat.toDigits 16 number.bits
  zeros (16 - digits.length) ++ String.ofList digits

end Binary64

end RecordSchema
