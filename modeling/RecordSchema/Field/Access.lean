/-
**Data types, and the expressions that reach a field.**

* `Access.ofField` — every field has a plain expression; exactly the rich text fields have a
  rendering one as well (`Access.rich_isSome_iff`).
-/

import RecordSchema.Json.Value

namespace RecordSchema

open Json (Value)

inductive DataType where
  | string
  | number
  | datetime
  | boolean
  | richText
  deriving DecidableEq, Repr, Inhabited

namespace DataType

def name : DataType → String
  | string => "string"
  | number => "number"
  | datetime => "datetime"
  | boolean => "boolean"
  | richText => "richText"

def all : List DataType :=
  [string, number, datetime, boolean, richText]

def ofName? (name : String) : Option DataType :=
  all.find? fun dataType => dataType.name == name

end DataType

/-- The expressions by which a template reaches a field. -/
structure Access where
  /-- Usable wherever a plain string is expected. -/
  plain : String
  /-- Renders the field as markup. -/
  rich : Option String
  deriving DecidableEq, Repr, Inhabited

namespace Access

/-- The expressions for a field; custom fields are reached through the record's field list. -/
def ofField (key : String) (isCustom : Bool) (dataType : DataType) : Access where
  plain := if isCustom then "fieldValue." ++ key else key
  rich :=
    if dataType = .richText then
      some (if isCustom then "~~fieldContent." ++ key else "~~" ++ key)
    else none

/-- Exactly rich text has a rendering expression. -/
theorem rich_isSome_iff (key : String) (isCustom : Bool) (dataType : DataType) :
    (ofField key isCustom dataType).rich.isSome = true ↔ dataType = .richText := by
  unfold ofField
  by_cases rich : dataType = .richText <;> simp [rich]

/-- The expressions as an object; a missing one is left out. -/
def toJson (access : Access) : Value :=
  .object (("plain", .string access.plain) ::
    (access.rich.map fun rich => ("rich", Value.string rich)).toList)

end Access

end RecordSchema
