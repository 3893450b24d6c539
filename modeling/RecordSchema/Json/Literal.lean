/-
**Number literals.**

A literal keeps its digits. An integer literal that fits into 64 bits is an integer; every other
literal is a floating-point number: the digits that fit into 64 bits are taken, the rest only moves
the point, and the taken number is scaled by a power of ten.

* `Literal.value?` — the number, or `none` beyond the largest finite number.
-/

import RecordSchema.Json.Value

namespace RecordSchema.Json

/-- A number as it is written. -/
structure Literal where
  negative : Bool
  /-- The digits in front of the point. -/
  whole : List Nat
  /-- The digits behind the point; none without a point. -/
  fraction : List Nat
  exponent : Option Int
  deriving DecidableEq, Repr, Inhabited

namespace Literal

def digit? (char : Char) : Option Nat :=
  if '0' ≤ char ∧ char ≤ '9' then some (char.toNat - '0'.toNat) else none

/-- The digits at the front of a text, and the rest. -/
def takeDigits : List Char → List Nat × List Char
  | [] => ([], [])
  | char :: rest =>
    match digit? char with
    | some digit =>
      let (digits, after) := takeDigits rest
      (digit :: digits, after)
    | none => ([], char :: rest)

def number (digits : List Nat) : Nat :=
  digits.foldl (fun value digit => value * 10 + digit) 0

/-- Reads the exponent at the end of a literal; a sign may precede its digits. -/
def exponentOf? (text : List Char) : Option Int :=
  let (negative, unsigned) : Bool × List Char :=
    match text with
    | '+' :: rest => (false, rest)
    | '-' :: rest => (true, rest)
    | other => (false, other)
  match takeDigits unsigned with
  | ([], _) => none
  | (digits, []) => some (if negative then -(number digits : Int) else number digits)
  | _ => none

/-- Reads the end of a literal behind its fraction. -/
def tailOf? (negative : Bool) (whole fraction : List Nat) : List Char → Option Literal
  | [] => some ⟨negative, whole, fraction, none⟩
  | char :: rest =>
    if char = 'e' ∨ char = 'E' then
      (exponentOf? rest).map fun exponent => ⟨negative, whole, fraction, some exponent⟩
    else none

/-- Reads a whole text as a literal: no zero in front of another digit, and a digit on both sides of
a point. -/
def ofChars? (text : List Char) : Option Literal :=
  let (negative, unsigned) : Bool × List Char :=
    match text with
    | '-' :: rest => (true, rest)
    | other => (false, other)
  match takeDigits unsigned with
  | ([], _) => none
  | (0 :: _ :: _, _) => none
  | (whole, '.' :: rest) =>
    match takeDigits rest with
    | ([], _) => none
    | (fraction, after) => tailOf? negative whole fraction after
  | (whole, after) => tailOf? negative whole [] after

/-- The first number that needs more than 64 bits. -/
def limit : Nat := Nat.pow 2 64

/-- Takes digits while the number stays within 64 bits; the second part is left. -/
def fill (value : Nat) : List Nat → Nat × List Nat
  | [] => (value, [])
  | digit :: rest =>
    if value * 10 + digit < limit then fill (value * 10 + digit) rest else (value, digit :: rest)

/-- The number nearest to a power of ten. -/
def powerOfTen? (exponent : Nat) : Option Binary64 :=
  Binary64.ofNat? (Nat.pow 10 exponent)

/-- The largest power of ten that a scaling step uses. -/
def stepLimit : Nat := 308

/-- `value` times a power of ten, rounded after every step: one product upwards, one quotient
downwards, and below the smallest single step a first quotient by `10 ^ 308`. -/
def scale? (value : Binary64) (exponent : Int) : Option Binary64 := do
  if value.isZero then
    return value
  else if (stepLimit : Int) < exponent then
    none
  else if 0 ≤ exponent then
    value.mul? (← powerOfTen? exponent.toNat)
  else if -(stepLimit : Int) ≤ exponent then
    value.div? (← powerOfTen? (-exponent).toNat)
  else
    let first ← value.div? (← powerOfTen? stepLimit)
    if -(2 * stepLimit : Int) ≤ exponent then
      first.div? (← powerOfTen? (-exponent - stepLimit).toNat)
    else
      return Binary64.zero false

/-- The floating-point reading of a literal. -/
def binary? (literal : Literal) : Option Binary64 := do
  let (taken, wholeLeft) := fill 0 literal.whole
  let (significand, fractionLeft) := fill taken literal.fraction
  let moved : Int := wholeLeft.length - (literal.fraction.length - fractionLeft.length : Nat)
  let size ← scale? (← Binary64.ofNat? significand) (moved + literal.exponent.getD 0)
  return { size with negative := literal.negative }

/-- The number that a literal stands for. A negative zero is a floating-point number. -/
def value? (literal : Literal) : Option Number :=
  let size := number literal.whole
  if literal.fraction.isEmpty ∧ literal.exponent = none then
    if ¬ literal.negative ∧ size < limit then some (.integer size)
    else if literal.negative ∧ 0 < size ∧ size ≤ Nat.pow 2 63 then some (.integer (-size))
    else literal.binary?.map .binary
  else literal.binary?.map .binary

end Literal

end RecordSchema.Json
