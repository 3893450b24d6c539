/-
**Declared type hints.**

A field entry may declare the type of its value. The five documented hints have names; every other
name is read as `Hint.other`.
-/

namespace RecordSchema

inductive Hint where
  | string
  | number
  | date
  | datetime
  | boolean
  /-- Any hint outside the documented ones. -/
  | other
  deriving DecidableEq, Repr, Inhabited

namespace Hint

def all : List Hint :=
  [string, number, date, datetime, boolean, other]

def name : Hint → String
  | string => "string"
  | number => "number"
  | date => "date"
  | datetime => "datetime"
  | boolean => "boolean"
  | other => "other"

def ofName (name : String) : Hint :=
  (all.find? fun hint => hint.name == name).getD other

/-- Whether the hint declares a point in time. -/
def isTemporal : Hint → Bool
  | date => true
  | datetime => true
  | _ => false

theorem mem_all (hint : Hint) : hint ∈ all := by
  cases hint <;> decide

end Hint

end RecordSchema
