/-
**Counting with an index.**

A catalogue can be built without a search among its kinds: an index tells at which position the kind
of a name stands.

* `RelationBuilder.locate` — the position of a name; the kind of a new one is put last.
* `RelationBuilder.countEntry` — counts an entry at the position of its name. There is no answer if
  nothing stands there.
* `RelationCatalogue.countAll` — the catalogue of several batches of records, which is what
  `RelationBuilder.countAll` builds.
-/

import RecordSchema.Relation.Catalogue

namespace RecordSchema

/-- Records that are counted as leaving one type. -/
structure RecordBatch where
  typeName : String
  records : List Record

/-- The catalogue of the relation entries of several batches. -/
def RelationCatalogue.countAll (batches : List RecordBatch) : RelationCatalogue :=
  batches.foldl (fun catalogue batch => catalogue.count batch.typeName batch.records) empty

/-- A catalogue under construction. -/
structure RelationBuilder where
  kinds : List RelationKind
  /-- The position at which the kind of a name was put. -/
  index : SortedMap Nat

namespace RelationBuilder

def empty : RelationBuilder := ⟨[], SortedMap.empty⟩

/-- The position of a name, and the builder in which its kind stands there. -/
def locate (builder : RelationBuilder) (name : String) : Nat × RelationBuilder :=
  match builder.index.get? name with
  | some position => (position, builder)
  | none =>
    let position := builder.kinds.length
    (position, ⟨builder.kinds ++ [{ name := name }], builder.index.insert name position⟩)

/-- Counts one entry, if there is a kind at the position of its name. -/
def countEntry (typeName : String) (builder : RelationBuilder) (name : String) :
    Option RelationBuilder :=
  let (position, located) := builder.locate name
  located.kinds[position]?.map fun kind =>
    { located with kinds := located.kinds.set position (kind.countFrom typeName) }

/-- Counts every relation entry of a batch. -/
def count (builder : RelationBuilder) (batch : RecordBatch) : Option RelationBuilder :=
  (RelationCatalogue.relationNames batch.records).foldlM (countEntry batch.typeName) builder

/-- Counts every relation entry of several batches. -/
def countAll (batches : List RecordBatch) : Option RelationBuilder :=
  batches.foldlM count empty

def finish (builder : RelationBuilder) : RelationCatalogue := ⟨builder.kinds⟩

end RelationBuilder

end RecordSchema
