/-
**The schema of an item type.**

* `ItemType.ofRecordSet` — the schema that the records of a type suggest, still without outgoing
  relations.
* `ItemType.attach` — the relations that leave the type, once those of all types have been counted.
* `ItemType.precedes` — the order of item types: by falling count and then by name.
-/

import RecordSchema.ItemType.RecordSet
import RecordSchema.ItemType.Sample
import RecordSchema.ItemType.Tally
import RecordSchema.Relation.Catalogue
import RecordSchema.Source.Query

namespace RecordSchema

open Json (Value)

structure ItemType where
  name : String
  /-- The number of records of the type; the schema may rest on fewer. -/
  count : Nat
  fields : SortedMap FieldSchema
  samples : List Sample
  shortName : Option String
  statuses : List String
  /-- The names of the relations that leave records of the type. -/
  outgoing : List String

namespace ItemType

/-- The schema that the records of a type suggest. -/
def ofRecordSet (limits : InferenceLimits) (set : RecordSet) : Except InferenceError ItemType :=
  match InferredType.ofRecords limits set.records with
  | .error reason => .error reason
  | .ok inferred => .ok {
      name := set.typeName
      count := set.total
      fields := inferred.fields
      samples := Sample.ofRecords limits.sampleLimits inferred.fields set.records
      shortName := set.shortName
      statuses := inferred.statuses
      outgoing := [] }

/-- The item type with the relations that leave it. -/
def attach (catalogue : RelationCatalogue) (itemType : ItemType) : ItemType :=
  { itemType with outgoing := catalogue.outgoing itemType.name }

@[simp] theorem name_attach (catalogue : RelationCatalogue) (itemType : ItemType) :
    (itemType.attach catalogue).name = itemType.name := rfl

@[simp] theorem outgoing_attach (catalogue : RelationCatalogue) (itemType : ItemType) :
    (itemType.attach catalogue).outgoing = catalogue.outgoing itemType.name := rfl

/-- Whether an item type may stand in front of another: by falling count and then by name. -/
def precedes (first second : ItemType) : Bool :=
  decide (second.count < first.count) ||
    (first.count == second.count && decide (first.name ≤ second.name))

/-- The expression that selects all records of the type. -/
def query (itemType : ItemType) : String :=
  typeExpression itemType.name

/-- The schema as it stands in a document; what is absent or empty at its end is left out. -/
def toJson (itemType : ItemType) : Value :=
  .object (
    [("kqlQuery", .string itemType.query), ("count", .ofNat itemType.count),
      ("fields", .object (itemType.fields.entries.map fun entry => (entry.1, entry.2.toJson))),
      ("sampleRecords", .array (itemType.samples.map Sample.toJson))] ++
    (itemType.shortName.map fun name => ("shortName", Value.string name)).toList ++
    (if itemType.statuses.isEmpty then [] else [("statuses", .ofTexts itemType.statuses)]) ++
    (if itemType.outgoing.isEmpty then []
      else [("outgoingRelations", .array (itemType.outgoing.map outgoingJson))]))

end ItemType

end RecordSchema
