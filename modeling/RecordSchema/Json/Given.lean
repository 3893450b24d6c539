/-
**The members given for a declared structure.**

A structure with declared members may be given as an object, where other members are passed over, or
as an array of its members in order of declaration, where the last ones may be missing.

* `Value.given?` — the members given by a JSON value, with no surplus in an array.
* `Given.required`, `Given.withDefault`, `Given.optional` — a member that has to be there, one with
  a default, and one that may also be null.
-/

import RecordSchema.Json.Value

namespace RecordSchema

universe u v

/-- What is given under each name. -/
abbrev Given (α : Type u) := String → Option α

namespace Given

variable {α : Type u} {β : Type v}

def ofMembers (members : List (String × α)) : Given α :=
  fun name => Entries.find? name members

/-- The elements of an array under the declared names, in their order. -/
def ofElements (declared : List String) (elements : List α) : Given α :=
  fun name => Entries.find? name (declared.zip elements)

/-- A member that has to be given. -/
def required (given : Given α) (name : String) (decode : α → Option β) : Option β :=
  (given name).bind decode

/-- A member that has a default. -/
def withDefault (given : Given α) (name : String) (fallback : β) (decode : α → Option β) :
    Option β :=
  match given name with
  | none => some fallback
  | some value => decode value

end Given

namespace Json.Value

/-- The members that a value gives for the declared names. -/
def given? (declared : List String) : Value → Option (Given Value)
  | .object members => some (Given.ofMembers members)
  | .array elements =>
    if elements.length ≤ declared.length then some (Given.ofElements declared elements) else none
  | _ => none

end Json.Value

namespace Given

/-- A member that may be missing or null. -/
def optional {α : Type} (given : Given Json.Value) (name : String)
    (decode : Json.Value → Option α) : Option (Option α) :=
  match given name with
  | none => some none
  | some .null => some none
  | some value => (decode value).map some

end Given

namespace Json.Value

def listOf? {α : Type} (decode : Value → Option α) : Value → Option (List α)
  | .array elements => elements.mapM decode
  | _ => none

/-- The name that chooses one of several alternatives: a string, or an object whose only member is
null. -/
def choice? : Value → Option String
  | .string name => some name
  | .object [(name, .null)] => some name
  | _ => none

end Json.Value

end RecordSchema
