/-
**The limits of field inference.**

Every limit has a default. A limit is read and written under its own name, and the order of the
declarations is also the order in which a list gives them.

* `InferenceLimits.ofSetting?`, `InferenceLimits.toJson` — reading and writing.
* `InferenceLimits.fault?` — the first limit that has to be positive and is zero.
-/

import RecordSchema.Config.Setting

namespace RecordSchema

open Json (Value)

/-- The limits of field inference and of sample records. -/
structure InferenceLimits where
  /-- The largest number of distinct values that are all listed. -/
  maxUniqueValues : Nat := 25
  /-- The number of examples for fields with more values. -/
  maxExampleValues : Nat := 5
  /-- Texts are cut to this length before they are compared. -/
  maxValueLength : Nat := 100
  /-- The number of first values that are searched for markup and length. -/
  richTextScanLimit : Nat := 10
  /-- Longer texts are rich text. -/
  richTextMinLength : Nat := 500
  maxSampleRecords : Nat := 3
  sampleTitleLength : Nat := 80
  sampleValueLength : Nat := 60
  sampleFieldLimit : Nat := 4
  deriving DecidableEq, Repr, Inhabited

namespace InferenceLimits

def standard : InferenceLimits := {}

def declared : List String :=
  ["maxUniqueValues", "maxExampleValues", "maxValueLength", "richTextScanLimit",
    "richTextMinLength", "maxSampleRecords", "sampleTitleLength", "sampleValueLength",
    "sampleFieldLimit"]

/-- Reads limits; a missing one has its default. -/
def ofSetting? (surplus : Surplus) (setting : Setting) : Option InferenceLimits := do
  let given ← setting.given? surplus declared
  let limit (name : String) (fallback : Nat) : Option Nat :=
    given.withDefault name fallback Setting.count?
  return {
    maxUniqueValues := ← limit "maxUniqueValues" standard.maxUniqueValues
    maxExampleValues := ← limit "maxExampleValues" standard.maxExampleValues
    maxValueLength := ← limit "maxValueLength" standard.maxValueLength
    richTextScanLimit := ← limit "richTextScanLimit" standard.richTextScanLimit
    richTextMinLength := ← limit "richTextMinLength" standard.richTextMinLength
    maxSampleRecords := ← limit "maxSampleRecords" standard.maxSampleRecords
    sampleTitleLength := ← limit "sampleTitleLength" standard.sampleTitleLength
    sampleValueLength := ← limit "sampleValueLength" standard.sampleValueLength
    sampleFieldLimit := ← limit "sampleFieldLimit" standard.sampleFieldLimit }

def toJson (limits : InferenceLimits) : Value :=
  .object [
    ("maxUniqueValues", .ofNat limits.maxUniqueValues),
    ("maxExampleValues", .ofNat limits.maxExampleValues),
    ("maxValueLength", .ofNat limits.maxValueLength),
    ("richTextScanLimit", .ofNat limits.richTextScanLimit),
    ("richTextMinLength", .ofNat limits.richTextMinLength),
    ("maxSampleRecords", .ofNat limits.maxSampleRecords),
    ("sampleTitleLength", .ofNat limits.sampleTitleLength),
    ("sampleValueLength", .ofNat limits.sampleValueLength),
    ("sampleFieldLimit", .ofNat limits.sampleFieldLimit)]

/-- The limits that have to be positive, in the order in which they are checked. -/
def positiveLimits (limits : InferenceLimits) : List (String × Nat) :=
  [("maxUniqueValues", limits.maxUniqueValues), ("maxExampleValues", limits.maxExampleValues),
    ("maxValueLength", limits.maxValueLength), ("sampleTitleLength", limits.sampleTitleLength),
    ("sampleValueLength", limits.sampleValueLength)]

/-- What is wrong with the limits: the first one that has to be positive and is zero. -/
def fault? (limits : InferenceLimits) : Option String :=
  (limits.positiveLimits.find? fun limit => limit.2 == 0).map fun limit =>
    limit.1 ++ " must be greater than zero"

end InferenceLimits

end RecordSchema
