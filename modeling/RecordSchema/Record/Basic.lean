/-
**Item records.**

A record arrives as loosely shaped JSON and is read leniently: only a root that is no object is
refused; a field entry without a label and a relation entry that is no object are passed over.

* `Record.ofJson?` — reads a record; `Record.ofJson?_isSome` says when it succeeds.
* `Record.fixedValues` — the fixed attributes that are present, in their order.
* `Record.presentEntries` — the field entries with a present value.
* `Record.lookup?` — the first present value under a label.
-/

import RecordSchema.Record.FieldValue

namespace RecordSchema

open Json (Value)

/-! ### Field entries -/

/-- An entry of a record's dynamic field list. -/
structure FieldEntry where
  label : String
  value : Option FieldValue
  hint : Hint
  deriving Repr, Inhabited

namespace FieldEntry

/-- The value, if it is present. -/
def present? (entry : FieldEntry) : Option FieldValue :=
  entry.value.filter FieldValue.isPresent

/-- Reads an entry: an object with a label that is not empty. Without a declared type the hint is
`string`. -/
def ofJson? (json : Value) : Option FieldEntry := do
  let label ← (← json.member? "label").text?
  if label = "" then none
  else
    let hint := (((json.member? "type").bind Value.text?).map Hint.ofName).getD .string
    some ⟨label, (json.member? "value").bind (FieldValue.observed? hint), hint⟩

end FieldEntry

/-! ### Relation entries -/

/-- A named edge from a record to another. -/
structure Relation where
  name : String
  /-- The identifier of the other record, where it is known. -/
  target : Option String
  deriving DecidableEq, Repr, Inhabited

namespace Relation

/-- The name of a relation that has none. -/
def unnamed : String := "UNKNOWN"

/-- The identifier that an entry's target states: the `id` of an object, or a string itself. -/
def targetOf? : Value → Option String
  | .object members => (Entries.find? "id" members).bind Value.text?
  | .string identifier => some identifier
  | _ => none

/-- Reads an entry: any object. -/
def ofJson? (json : Value) : Option Relation :=
  if json.isObject then
    let name := (((json.member? "type").bind Value.text?).filter (· != "")).getD unnamed
    some ⟨name, (json.member? "toItem").bind targetOf?⟩
  else none

end Relation

/-! ### Records -/

inductive FixedAttribute where
  | title
  | revision
  | isControlled
  | createdAt
  deriving DecidableEq, Repr, Inhabited

namespace FixedAttribute

/-- The fixed attributes, in the order of observation. -/
def all : List FixedAttribute :=
  [title, revision, isControlled, createdAt]

def name : FixedAttribute → String
  | title => "title"
  | revision => "revision"
  | isControlled => "isControlled"
  | createdAt => "createdAt"

end FixedAttribute

structure Record where
  typeName : String := ""
  title : Option String := none
  createdAt : Option String := none
  revision : Option FieldValue := none
  isControlled : Option Bool := none
  fields : List FieldEntry := []
  relations : List Relation := []
  deriving Repr, Inhabited

namespace Record

/-- The text of a title: a string itself, nothing for null, and the canonical text of anything else.
-/
def titleOf? : Value → Option String
  | .string text => some text
  | .null => none
  | other => some other.compact

/-- The entries of a member that lists them; what is no list has none. -/
def entriesOf {α : Type} (decode : Value → Option α) (listed : Option Value) : List α :=
  ((listed.bind Value.elements?).getD []).filterMap decode

/-- Reads a record: any object. -/
def ofJson? (json : Value) : Option Record :=
  if json.isObject then
    some {
      typeName := ((json.member? "type").bind Value.text?).getD ""
      title := (json.member? "title").bind titleOf?
      createdAt := (json.member? "createdAt").bind Value.text?
      revision := (json.member? "revision").bind (FieldValue.observed? .number)
      isControlled := (json.member? "isControlled").bind Value.bool?
      fields := entriesOf FieldEntry.ofJson? (json.member? "fields")
      relations := entriesOf Relation.ofJson? (json.member? "relations") }
  else none

/-- Exactly the objects are records. -/
theorem ofJson?_isSome (json : Value) : (ofJson? json).isSome = json.isObject := by
  unfold ofJson?
  cases json.isObject <;> rfl

def attribute? (record : Record) : FixedAttribute → Option FieldValue
  | .title => record.title.map .text
  | .revision => record.revision
  | .isControlled => record.isControlled.map .boolean
  | .createdAt => record.createdAt.map .dateTime

def presentAttribute? (record : Record) (which : FixedAttribute) : Option FieldValue :=
  (record.attribute? which).filter FieldValue.isPresent

/-- The fixed attributes that are present, with their names, in their order. -/
def fixedValues (record : Record) : List (String × FieldValue) :=
  FixedAttribute.all.filterMap fun which =>
    (record.presentAttribute? which).map fun value => (which.name, value)

/-- The field entries that have a present value, with that value. -/
def presentEntries (record : Record) : List (FieldEntry × FieldValue) :=
  record.fields.filterMap fun entry => entry.present?.map fun value => (entry, value)

/-- The first present value of an entry with exactly this label. -/
def lookup? (record : Record) (label : String) : Option FieldValue :=
  (record.fields.filter fun entry => entry.label == label).findSome? FieldEntry.present?

/-! ### Building records -/

/-- The record under a title. -/
def setTitle (record : Record) (title : String) : Record :=
  { record with title := some title }

/-- The record with a further field entry at the end. -/
def addField (record : Record) (entry : FieldEntry) : Record :=
  { record with fields := record.fields ++ [entry] }

/-- The record with a further relation entry at the end. -/
def addRelation (record : Record) (relation : Relation) : Record :=
  { record with relations := record.relations ++ [relation] }

end Record

end RecordSchema
