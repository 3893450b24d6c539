/-
**Inferring the fields of one item type.**

A `Tally` folds records into one observation per key and a set of statuses; `Tally.result` describes
every field once all records have been seen.

* `Tally.addJson` — a value that is no record is refused, with the name of its kind, and leaves
  everything as it was.
* `InferredType.ofRecords` — the fields and statuses of a list of records.
-/

import RecordSchema.Field.Schema

namespace RecordSchema

open Json (Value)

/-- Why nothing can be inferred. -/
inductive InferenceError where
  /-- A value that is no record; `found` names its kind. -/
  | invalidStructure (found : String)
  | noRecords
  deriving DecidableEq, Repr, Inhabited

def InferenceError.message : InferenceError → String
  | invalidStructure found => "Invalid record structure: expected object at root, found " ++ found
  | noRecords => "No records provided for inference"

/-- The label of the field entry that holds a record's status. -/
def statusLabel : String := "Status"

/-- The statuses of a record: the present values under exactly the status label. -/
def Record.statuses (record : Record) : List String :=
  (record.presentEntries.filter fun present => present.1.label == statusLabel).map
    fun present => present.2.canonical

/-- What was inferred for an item type. -/
structure InferredType where
  recordCount : Nat
  fields : SortedMap FieldSchema
  statuses : List String

/-- The records of one item type, folded. -/
structure Tally where
  recordCount : Nat := 0
  observations : SortedMap Observation := SortedMap.empty
  statuses : NameSet := NameSet.empty

namespace Tally

def start : Tally := {}

/-- Adds one contribution to the observation under its key. -/
def contribute (observations : SortedMap Observation) (contribution : Contribution) :
    SortedMap Observation :=
  observations.adjust contribution.key (Observation.extend contribution)

def add (tally : Tally) (record : Record) : Tally where
  recordCount := tally.recordCount + 1
  observations := record.contributions.foldl contribute tally.observations
  statuses := tally.statuses.insertAll record.statuses

def addAll (tally : Tally) (records : List Record) : Tally :=
  records.foldl add tally

/-- Adds a record in source form. -/
def addJson (tally : Tally) (value : Value) : Except InferenceError Tally :=
  match Record.ofJson? value with
  | some record => .ok (tally.add record)
  | none => .error (.invalidStructure value.kindName)

/-- Every record counts once. -/
theorem recordCount_addAll (tally : Tally) (records : List Record) :
    (tally.addAll records).recordCount = tally.recordCount + records.length := by
  induction records generalizing tally with
  | nil => rfl
  | cons record rest hypothesis =>
    show ((tally.add record).addAll rest).recordCount = _
    rw [hypothesis, List.length_cons]
    show tally.recordCount + 1 + rest.length = _
    omega

def observation? (tally : Tally) (key : String) : Option Observation :=
  tally.observations.get? key

/-- Describes every observed field. -/
def result (tally : Tally) (limits : InferenceLimits) : Except InferenceError InferredType :=
  if tally.recordCount = 0 then .error .noRecords
  else .ok {
    recordCount := tally.recordCount
    fields := tally.observations.map fun observation =>
      observation.schema tally.recordCount limits
    statuses := tally.statuses.names }

end Tally

/-- The fields and statuses of the records of one type. -/
def InferredType.ofRecords (limits : InferenceLimits) (records : List Record) :
    Except InferenceError InferredType :=
  (Tally.start.addAll records).result limits

end RecordSchema
