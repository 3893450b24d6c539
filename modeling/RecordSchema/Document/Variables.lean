/-
**Template variables.**

The variables that every document lists, in three groups. Each is reached by its own key.

* `TemplateVariables.find?` — the variable of a key.
-/

import RecordSchema.Field.Access

namespace RecordSchema

open Json (Value)

/-- A variable that every template has. -/
structure TemplateVariable where
  key : String
  description : String
  dataType : DataType
  deriving DecidableEq, Repr, Inhabited

namespace TemplateVariable

/-- The expression that reaches the variable. -/
def access (entry : TemplateVariable) : String :=
  entry.key

def toJson (entry : TemplateVariable) : Value :=
  .object [("description", .string entry.description),
    ("dataType", .string entry.dataType.name), ("access", .string entry.access)]

end TemplateVariable

structure VariableGroup where
  name : String
  members : List TemplateVariable
  deriving DecidableEq, Repr, Inhabited

def VariableGroup.toJson (group : VariableGroup) : Value :=
  .object (group.members.map fun entry => (entry.key, entry.toJson))

namespace TemplateVariables

def groups : List VariableGroup :=
  [{ name := "project"
     members := [
       ⟨"project.name", "Project name", .string⟩,
       ⟨"project.id", "Project identifier", .string⟩] },
   { name := "version"
     members := [
       ⟨"version.name", "Version name/number", .string⟩,
       ⟨"version.id", "Version identifier", .string⟩,
       ⟨"version.isReleased", "Whether version is released", .boolean⟩,
       ⟨"version.releaseDate", "Release date (if released)", .datetime⟩] },
   { name := "document"
     members := [
       ⟨"document.title", "Document title", .string⟩,
       ⟨"document.date", "Document generation date", .datetime⟩,
       ⟨"document.version", "Document version", .string⟩] }]

def all : List TemplateVariable :=
  groups.flatMap VariableGroup.members

def find? (key : String) : Option TemplateVariable :=
  all.find? fun entry => entry.key == key

def toJson : Value :=
  .object (groups.map fun group => (group.name, group.toJson))

end TemplateVariables

end RecordSchema
