/-
**The catalogue of relations.**

Relation entries are counted by name, over the records of all types. The kinds of relations are
listed in the order in which their names were first seen.

* `RelationCatalogue.count` — counts the relations of records as leaving a type.
* `RelationCatalogue.outgoing` — the names of the relations that leave a type.
* `RelationCatalogue.ranked` — the most frequent kinds; equal counts keep their order.
-/

import RecordSchema.Record.Basic

namespace RecordSchema

open Json (Value)

/-- The expression that selects a record's relations of one name. -/
def relationAccess (name : String) : String :=
  "relations | where('type', '" ++ name ++ "')"

/-- A relation as it stands among those that leave an item type. -/
def outgoingJson (name : String) : Value :=
  .object [("relation", .string name), ("accessPattern", .string (relationAccess name))]

/-! ### Kinds of relations -/

/-- All relation entries of one name. -/
structure RelationKind where
  name : String
  /-- The types whose records have such an entry. -/
  fromTypes : NameSet := NameSet.empty
  /-- The types that the relation leads to. Entries do not tell them, so there are none. -/
  toTypes : NameSet := NameSet.empty
  count : Nat := 0

namespace RelationKind

/-- The kind after one more entry on a record of a type. -/
def countFrom (typeName : String) (kind : RelationKind) : RelationKind :=
  { kind with fromTypes := kind.fromTypes.insert typeName, count := kind.count + 1 }

def toJson (kind : RelationKind) : Value :=
  .object [
    ("relationType", .string kind.name),
    ("fromTypes", .ofTexts kind.fromTypes.names),
    ("toTypes", .ofTexts kind.toTypes.names),
    ("count", .ofNat kind.count),
    ("accessPattern", .string (relationAccess kind.name))]

end RelationKind

/-! ### The catalogue -/

structure RelationCatalogue where
  /-- The kinds, in the order in which their names were first seen. -/
  kinds : List RelationKind

namespace RelationCatalogue

def empty : RelationCatalogue := ⟨[]⟩

/-- Counts one entry among the kinds; a new name comes last. -/
def countEntry (typeName name : String) : List RelationKind → List RelationKind
  | [] => [RelationKind.countFrom typeName { name := name }]
  | kind :: rest =>
    if kind.name = name then kind.countFrom typeName :: rest
    else kind :: countEntry typeName name rest

/-- The names of all relation entries of records, in their order. -/
def relationNames (records : List Record) : List String :=
  records.flatMap fun record => record.relations.map Relation.name

/-- Counts every relation entry of records as leaving a type. -/
def count (catalogue : RelationCatalogue) (typeName : String) (records : List Record) :
    RelationCatalogue :=
  ⟨(relationNames records).foldl (fun kinds name => countEntry typeName name kinds) catalogue.kinds⟩

def total (catalogue : RelationCatalogue) : Nat :=
  catalogue.kinds.foldr (fun kind sum => kind.count + sum) 0

/-- An entry raises the sum of the counts by one. -/
theorem sum_countEntry (typeName name : String) (kinds : List RelationKind) :
    (countEntry typeName name kinds).foldr (fun kind sum => kind.count + sum) 0 =
      kinds.foldr (fun kind sum => kind.count + sum) 0 + 1 := by
  induction kinds with
  | nil => rfl
  | cons kind rest hypothesis =>
    unfold countEntry
    split
    · show kind.count + 1 + _ = kind.count + _ + 1
      omega
    · rw [List.foldr_cons, hypothesis, List.foldr_cons]
      omega

/-- The names of the relations that leave a type, in the order of the kinds. -/
def outgoing (catalogue : RelationCatalogue) (typeName : String) : List String :=
  (catalogue.kinds.filter fun kind => kind.fromTypes.contains typeName).map RelationKind.name

/-- At most `cap` kinds by falling count; equal counts keep their order. -/
def ranked (catalogue : RelationCatalogue) (cap : Nat) : List RelationKind :=
  (catalogue.kinds.mergeSort fun first second => decide (second.count ≤ first.count)).take cap

end RelationCatalogue

end RecordSchema
