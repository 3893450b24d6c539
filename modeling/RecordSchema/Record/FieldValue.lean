/-
**Observed values.**

A value is tagged by its shape: a text, a number, a truth value, a point in time, or any other JSON
value. The same text is a point in time under a temporal hint and a plain text otherwise.

* `FieldValue.isPresent` — empty texts do not count as present, zero and `false` do.
* `FieldValue.canonical` — the text that stands for the value in domains, statuses and samples.
* `FieldValue.toJson`, `FieldValue.ofJson?` — the tagged form, a kind beside a value.
-/

import RecordSchema.Json.Given
import RecordSchema.Json.Printer
import RecordSchema.Record.Hint

namespace RecordSchema

open Json (Value Number)

inductive FieldValue where
  | text (content : String)
  | number (value : Number)
  | boolean (value : Bool)
  | dateTime (content : String)
  /-- Arrays, objects and whatever has no tag of its own. -/
  | unknown (value : Value)
  deriving Repr, Inhabited

namespace FieldValue

/-- The value that a JSON value is observed as under a declared hint; null is no observation. -/
def observed? (hint : Hint) : Value → Option FieldValue
  | .null => none
  | .string content => some (if hint.isTemporal then dateTime content else text content)
  | .number value => some (number value)
  | .bool value => some (boolean value)
  | other => some (unknown other)

def isPresent : FieldValue → Bool
  | text content => content != ""
  | dateTime content => content != ""
  | number _ => true
  | boolean _ => true
  | unknown value => !value.isNull

/-- The content of a text or a point in time. -/
def textContent? : FieldValue → Option String
  | text content => some content
  | dateTime content => some content
  | _ => none

/-- Only texts and points in time have a text content. -/
theorem eq_of_textContent? {value : FieldValue} {content : String}
    (found : value.textContent? = some content) :
    value = .text content ∨ value = .dateTime content := by
  cases value with
  | text text => exact Or.inl (congrArg FieldValue.text (Option.some.inj found))
  | dateTime text => exact Or.inr (congrArg FieldValue.dateTime (Option.some.inj found))
  | number _ => cases found
  | boolean _ => cases found
  | unknown _ => cases found

/-- The text that stands for the value. -/
def canonical : FieldValue → String
  | text content => content
  | dateTime content => content
  | number value => value.text
  | boolean value => if value then "true" else "false"
  | unknown value => value.compact

/-! ### The tagged form -/

def kind : FieldValue → String
  | text _ => "text"
  | number _ => "number"
  | boolean _ => "boolean"
  | dateTime _ => "dateTime"
  | unknown _ => "unknown"

def content : FieldValue → Value
  | text content => .string content
  | number value => .number value
  | boolean value => .bool value
  | dateTime content => .string content
  | unknown value => value

/-- The tagged form: an object of the kind and the value. -/
def toJson (value : FieldValue) : Value :=
  .object [("kind", .string value.kind), ("value", value.content)]

/-- The value of a kind with a content. -/
def ofContent? (kind : String) (content : Value) : Option FieldValue :=
  if kind = "text" then content.text?.map text
  else if kind = "number" then
    match content with
    | .number value => some (number value)
    | _ => none
  else if kind = "boolean" then content.bool?.map boolean
  else if kind = "dateTime" then content.text?.map dateTime
  else if kind = "unknown" then some (unknown content)
  else none

/-- The name of the kind that a tagged form states: in an array a string, and in an object any way
of choosing an alternative. -/
def kindOf? (tagged : Value) : Value → Option String :=
  if tagged.isObject then Value.choice? else Value.text?

/-- Reads the tagged form. Both members have to be there. -/
def ofJson? (value : Value) : Option FieldValue := do
  let given ← value.given? ["kind", "value"]
  ofContent? (← given.required "kind" (kindOf? value)) (← given "value")

end FieldValue

end RecordSchema
