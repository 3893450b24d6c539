/-
**Schema documents.**

A document describes the item types of a project for the authors of templates.

* `Document.toJson` — the document with its members in order of declaration.
* `Document.pretty` — the text of a document.
-/

import RecordSchema.Document.Timestamp
import RecordSchema.Document.Variables
import RecordSchema.ItemType.Schema
import RecordSchema.Project.Basic

namespace RecordSchema

open Json (Value)

/-! ### Fixed texts -/

namespace Document

/-- The version of the document's format. -/
def formatVersion : String := "2.0.0"

/-- What a document is for. -/
def purpose : String := "AI-optimized project data for template generation"

/-- Notes for the readers of a document. -/
def readerNotes : List String :=
  ["access.plain: Use in table cells, inline text, anywhere plain string is needed",
    "access.rich: Use when HTML rendering is desired (prefixed with ~~)",
    "kqlQuery: Pre-computed query to fetch all items of this type",
    "uniqueValues: All possible values (for categorical fields with <=25 values)",
    "exampleValues: Sample values (for fields with >25 unique values)"]

end Document

/-! ### Sections -/

structure ProjectSection where
  id : String
  name : String
  description : String
  deriving DecidableEq, Repr, Inhabited

def ProjectSection.toJson (project : ProjectSection) : Value :=
  .object [("id", .string project.id), ("name", .string project.name),
    ("description", .string project.description)]

/-- The section for the described version; all is null without one. -/
def versionSection (version : Option Version) : Value :=
  .object [
    ("id", .ofText? (version.map Version.id)),
    ("name", .ofText? (version.map Version.name)),
    ("isReleased", (version.map fun chosen => Value.bool chosen.isReleased).getD .null)]

/-- An entry of the list of versions. -/
def versionEntry (version : Version) : Value :=
  .object [("id", .string version.id), ("name", .string version.name),
    ("isReleased", .bool version.isReleased)]

structure Summary where
  totalItems : Nat
  itemTypeCount : Nat
  totalRelations : Nat
  deriving DecidableEq, Repr, Inhabited

def Summary.toJson (summary : Summary) : Value :=
  .object [("totalItems", .ofNat summary.totalItems),
    ("itemTypeCount", .ofNat summary.itemTypeCount),
    ("totalRelations", .ofNat summary.totalRelations)]

/-! ### Documents -/

structure Document where
  generatedAt : Timestamp
  project : ProjectSection
  version : Option Version
  allVersions : List Version
  summary : Summary
  itemTypes : List ItemType
  relationTypes : List RelationKind

namespace Document

/-- The schema of the first item type of a name. -/
def itemType? (document : Document) (name : String) : Option ItemType :=
  document.itemTypes.find? fun itemType => itemType.name == name

/-- The members that tell how the document came about. -/
def metaSection (document : Document) : Value :=
  .object [("generatedAt", .string document.generatedAt.text), ("purpose", .string purpose),
    ("version", .string formatVersion), ("notes", .ofTexts readerNotes)]

/-- The item types under their names. -/
def itemTypeSection (document : Document) : Value :=
  .object (document.itemTypes.map fun itemType => (itemType.name, itemType.toJson))

/-- The members that the source decides, in order. -/
def leadingMembers (document : Document) : List (String × Value) :=
  [("project", document.project.toJson), ("version", versionSection document.version),
    ("allVersions", .array (document.allVersions.map versionEntry)),
    ("summary", document.summary.toJson)]

/-- The members that the records decide, in order. -/
def trailingMembers (document : Document) : List (String × Value) :=
  [("itemTypes", document.itemTypeSection),
    ("relationTypes", .array (document.relationTypes.map RelationKind.toJson))]

/-- The document with its members in order of declaration. -/
def toJson (document : Document) : Value :=
  .object ([("_meta", document.metaSection)] ++ document.leadingMembers ++
    [("builtinVariables", TemplateVariables.toJson)] ++ document.trailingMembers)

def pretty (document : Document) : String :=
  document.toJson.pretty

end Document

end RecordSchema
