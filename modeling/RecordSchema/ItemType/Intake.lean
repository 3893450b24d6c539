/-
**Filling a tally in place.**

A tally can be filled step by step. Each step changes it where it stands, and a step that fails
leaves behind whatever the tally is at that moment; nothing is undone.

* `Intake.addRecord` — adds a record, one attribute and one field entry after the other.
* `Intake.addJson` — adds a value in source form, which has to be a record.
* `Intake.addEach` — adds several values and goes on behind those that are refused.
-/

import RecordSchema.ItemType.Tally

namespace RecordSchema

open Json (Value)

/-- A step that changes a tally. A step that fails keeps the changes that it has made. -/
abbrev Intake := EStateM InferenceError Tally

namespace Intake

def countRecord : Intake Unit :=
  modify fun tally => { tally with recordCount := tally.recordCount + 1 }

def observe (contribution : Contribution) : Intake Unit :=
  modify fun tally =>
    { tally with observations := Tally.contribute tally.observations contribution }

def noteStatus (status : String) : Intake Unit :=
  modify fun tally => { tally with statuses := tally.statuses.insert status }

/-- Adds a field entry; one without a present value is passed over. -/
def addEntry (entry : FieldEntry) : Intake Unit :=
  match entry.present? with
  | none => pure ()
  | some value => do
    if entry.label = statusLabel then
      noteStatus value.canonical
    observe (.ofEntry entry value)

/-- Adds a record: counts it, and then observes its attributes and its entries in their order. -/
def addRecord (record : Record) : Intake Unit := do
  countRecord
  forM record.fixedValues fun named => observe (.ofFixed named.1 named.2)
  forM record.fields addEntry

/-- Adds a record in source form. -/
def addJson (value : Value) : Intake Unit :=
  match Record.ofJson? value with
  | some record => addRecord record
  | none => throw (.invalidStructure value.kindName)

/-- Adds a record in source form, and tells why the value was refused, if it was. -/
def attempt (value : Value) : Intake (Option InferenceError) :=
  tryCatch (do addJson value; return none) fun fault => return some fault

/-- Adds values one after the other, and goes on behind those that are refused. -/
def addEach (values : List Value) : Intake (List (Option InferenceError)) :=
  values.mapM attempt

end Intake

end RecordSchema
