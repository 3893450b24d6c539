/-
**Points in time, by the proleptic Gregorian calendar.**

* `Timestamp.ofUnix?` — the date and time of a number of seconds since the start of 1970, for the
  years that the calendar covers.
* `Timestamp.text` — `2024-03-01T12:30:05Z`; a year with other than four digits carries a sign.
-/

namespace RecordSchema

structure Timestamp where
  year : Int
  month : Nat
  day : Nat
  hour : Nat
  minute : Nat
  second : Nat
  deriving DecidableEq, Repr, Inhabited

namespace Timestamp

def firstYear : Int := -262143

def lastYear : Int := 262142

/-- Days from the first of March of the year zero to the first of January 1970. -/
def epochDay : Int := 719468

/-- The number of days in four hundred years, after which the calendar repeats. -/
def cycleDays : Int := 146097

/-- The year, month and day of a day counted from the start of 1970. Years are counted from the
first of March, so that a leap day ends its year. -/
def civil (day : Int) : Int × Nat × Nat :=
  let shifted := day + epochDay
  let cycle := shifted / cycleDays
  let dayOfCycle := (shifted % cycleDays).toNat
  let yearOfCycle :=
    (dayOfCycle - dayOfCycle / 1460 + dayOfCycle / 36524 - dayOfCycle / 146096) / 365
  let dayOfYear := dayOfCycle - (365 * yearOfCycle + yearOfCycle / 4 - yearOfCycle / 100)
  let monthFromMarch := (5 * dayOfYear + 2) / 153
  let dayOfMonth := dayOfYear - (153 * monthFromMarch + 2) / 5 + 1
  let month := if monthFromMarch < 10 then monthFromMarch + 3 else monthFromMarch - 9
  let year : Int := yearOfCycle + cycle * 400 + (if month ≤ 2 then 1 else 0)
  (year, month, dayOfMonth)

/-- The point in time of a number of seconds since the start of 1970. -/
def ofUnix? (seconds : Int) : Option Timestamp :=
  let (year, month, day) := civil (seconds / 86400)
  let secondOfDay := (seconds % 86400).toNat
  if firstYear ≤ year ∧ year ≤ lastYear then
    some ⟨year, month, day, secondOfDay / 3600, secondOfDay / 60 % 60, secondOfDay % 60⟩
  else none

/-- A number with zeros in front up to a width. -/
def padded (width number : Nat) : String :=
  let digits := Nat.toDigits 10 number
  String.ofList (List.replicate (width - digits.length) '0' ++ digits)

/-- A year with four digits, or with a sign and at least four. -/
def yearText (year : Int) : String :=
  let sign := if year < 0 then "-" else if 9999 < year then "+" else ""
  sign ++ padded 4 year.natAbs

def text (timestamp : Timestamp) : String :=
  yearText timestamp.year ++ "-" ++ padded 2 timestamp.month ++ "-" ++ padded 2 timestamp.day ++
    "T" ++ padded 2 timestamp.hour ++ ":" ++ padded 2 timestamp.minute ++ ":" ++
    padded 2 timestamp.second ++ "Z"

end Timestamp

end RecordSchema
