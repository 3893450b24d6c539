/-
**Sample records.**

A sample shows the title of a record and the first few of its field values, shortened for display.
Rich text fields and absent values are passed over.

* `Sample.ofRecord` — the sample of one record; later values replace earlier ones under the same
  key.
* `Sample.walk` — the same sample made without picking the entries beforehand: a walk over the
  entries of a record passes over those that are not shown, and counts the others.
* `Sample.ofRecords` — the samples of the first records, without the empty ones.
-/

import RecordSchema.Field.Schema

namespace RecordSchema

open Json (Value)

structure SampleLimits where
  records : Nat
  titleLength : Nat
  valueLength : Nat
  /-- The number of field entries that are shown. -/
  fields : Nat
  deriving DecidableEq, Repr, Inhabited

/-- The limits of samples within the limits of an inference. -/
def InferenceLimits.sampleLimits (limits : InferenceLimits) : SampleLimits :=
  ⟨limits.maxSampleRecords, limits.sampleTitleLength, limits.sampleValueLength,
    limits.sampleFieldLimit⟩

/-- The texts that a sample shows, under their keys. -/
abbrev Sample := SortedMap String

namespace Sample

def titleKey : String := "title"

/-- Whether the field under a key is rich text. -/
def isRich (fields : SortedMap FieldSchema) (key : String) : Bool :=
  (fields.get? key).any fun field => field.dataType == .richText

/-- The field entries of a record that a sample may show. -/
def eligible (fields : SortedMap FieldSchema) (record : Record) : List (FieldEntry × FieldValue) :=
  record.presentEntries.filter fun present => !isRich fields (fieldKey present.1.label)

/-- The sample with the title alone, or without anything where the title is missing or empty. -/
def titled (limits : SampleLimits) (record : Record) : Sample :=
  match record.title.filter (· != "") with
  | some title => SortedMap.empty.insert titleKey (Text.shorten limits.titleLength title)
  | none => SortedMap.empty

def ofRecord (limits : SampleLimits) (fields : SortedMap FieldSchema) (record : Record) : Sample :=
  ((eligible fields record).take limits.fields).foldl
    (fun sample present =>
      sample.insert (fieldKey present.1.label)
        (Text.shorten limits.valueLength present.2.canonical))
    (titled limits record)

/-- Shows entries on top of a sample that shows `count` of them already. The walk ends at the limit;
an entry of rich text or without a present value does not count. -/
def walk (limits : SampleLimits) (fields : SortedMap FieldSchema) :
    Nat → List FieldEntry → Sample → Sample
  | _, [], sample => sample
  | count, entry :: rest, sample =>
    if limits.fields ≤ count then sample
    else if isRich fields (fieldKey entry.label) then walk limits fields count rest sample
    else
      match entry.present? with
      | none => walk limits fields count rest sample
      | some value =>
        walk limits fields (count + 1) rest
          (sample.insert (fieldKey entry.label) (Text.shorten limits.valueLength value.canonical))

/-- The samples of the first records, without the empty ones. -/
def ofRecords (limits : SampleLimits) (fields : SortedMap FieldSchema) (records : List Record) :
    List Sample :=
  ((records.take limits.records).map (ofRecord limits fields)).filter fun sample => !sample.isEmpty

def toJson (sample : Sample) : Value :=
  .object (sample.entries.map fun entry => (entry.1, .string entry.2))

end Sample

end RecordSchema
