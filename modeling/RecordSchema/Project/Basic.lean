/-
**Projects, versions, items and pages of records.**

* `Version.choose` — the version that a document describes.
* `Project.ofJson?`, `Version.ofJson?`, `Item.ofJson?` — strict reading.
-/

import RecordSchema.Json.Given

namespace RecordSchema

open Json (Value)

/-! ### Projects -/

/-- What is known about a project. -/
structure Project where
  id : String
  name : String
  description : Option String := none
  deriving DecidableEq, Repr, Inhabited

namespace Project

def declared : List String := ["id", "name", "description"]

def ofJson? (json : Value) : Option Project := do
  let given ← json.given? declared
  return {
    id := ← given.required "id" Value.text?
    name := ← given.required "name" Value.text?
    description := ← given.optional "description" Value.text? }

def toJson (project : Project) : Value :=
  .object [("id", .string project.id), ("name", .string project.name),
    ("description", .ofText? project.description)]

end Project

/-! ### Versions -/

structure Version where
  id : String
  name : String
  isReleased : Bool := false
  releaseDate : Option String := none
  deriving DecidableEq, Repr, Inhabited

namespace Version

def declared : List String := ["id", "name", "isReleased", "releaseDate"]

def ofJson? (json : Value) : Option Version := do
  let given ← json.given? declared
  return {
    id := ← given.required "id" Value.text?
    name := ← given.required "name" Value.text?
    isReleased := ← given.withDefault "isReleased" false Value.bool?
    releaseDate := ← given.optional "releaseDate" Value.text? }

/-- The version as an object; a missing date is left out. -/
def toJson (version : Version) : Value :=
  .object ([("id", .string version.id), ("name", .string version.name),
    ("isReleased", .bool version.isReleased)] ++
    (version.releaseDate.map fun date => ("releaseDate", Value.string date)).toList)

/-- The version that a document describes: the first one with the requested identifier, and without
a request the last released one or else the last one. -/
def choose (versions : List Version) (requested : Option String) : Option Version :=
  match requested with
  | some id => versions.find? fun version => version.id == id
  | none => ((versions.filter Version.isReleased).getLast?).or versions.getLast?

end Version

/-! ### Items -/

/-- An entry of a project's item list. -/
structure Item where
  id : Option String
  deriving DecidableEq, Repr, Inhabited

namespace Item

def ofJson? (json : Value) : Option Item := do
  let given ← json.given? ["id"]
  return { id := ← given.optional "id" Value.text? }

def toJson (item : Item) : Value :=
  .object [("id", .ofText? item.id)]

end Item

/-! ### Pages -/

/-- One page of records, as a source delivers them. -/
structure Page where
  records : List Value
  /-- The number of all matching records, where the source reports it. -/
  total : Option Nat := none
  deriving Repr, Inhabited

end RecordSchema
