/-
**Settings, as a configuration file gives them.**

A configuration is read from a tree of settings, whatever the format of its text. A setting is a
count, a text, a list or a table of further settings; values of all other kinds are no setting, and
a reader refuses them wherever it expects one.

* `Setting.given?` — the settings given for the declared names of a table.
* `Json.Value.toSetting` — the settings of a JSON document.
-/

import RecordSchema.Json.Given

namespace RecordSchema

/-- A tree of settings. -/
inductive Setting where
  /-- A setting that is explicitly not set. -/
  | unset
  | count (value : Nat)
  | text (value : String)
  | list (elements : List Setting)
  | table (members : List (String × Setting))
  /-- A value of a kind that no setting has. -/
  | other
  deriving Repr, Inhabited

/-- What becomes of the elements that a list has beyond the declared settings of a table. -/
inductive Surplus where
  | refused
  | ignored
  deriving DecidableEq, Repr, Inhabited

namespace Setting

def count? : Setting → Option Nat
  | .count value => some value
  | _ => none

/-- The value of a text that may also be unset. -/
def optionalText? : Setting → Option (Option String)
  | .unset => some none
  | .text value => some (some value)
  | _ => none

/-- The settings given for the declared names of a table: by name, or as a list in order of
declaration. -/
def given? (surplus : Surplus) (declared : List String) : Setting → Option (Given Setting)
  | .table members => some (Given.ofMembers members)
  | .list elements =>
    if surplus = .refused ∧ declared.length < elements.length then none
    else some (Given.ofElements declared elements)
  | _ => none

end Setting

namespace Json.Value

mutual

def toSetting : Value → Setting
  | .null => .unset
  | .bool _ => .other
  | .number value => (value.count?.map .count).getD .other
  | .string text => .text text
  | .array elements => .list (elementSettings elements)
  | .object members => .table (memberSettings members)

def elementSettings : List Value → List Setting
  | [] => []
  | element :: rest => toSetting element :: elementSettings rest

def memberSettings : List (String × Value) → List (String × Setting)
  | [] => []
  | (name, value) :: rest => (name, toSetting value) :: memberSettings rest

end

end Json.Value

end RecordSchema
