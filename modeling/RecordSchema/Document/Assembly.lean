/-
**Assembling a document.**

* `Document.ofParts` — a document from its parts: the item types in their order, the totals over all
  of them, and the most frequent relations.
-/

import RecordSchema.Document.Basic
import RecordSchema.Text.Truncate

namespace RecordSchema

structure DocumentLimits where
  relationCap : Nat := 20
  descriptionLength : Nat := 200
  deriving DecidableEq, Repr, Inhabited

structure DocumentParts where
  project : Project
  versions : List Version
  chosen : Option Version
  itemTypes : List ItemType
  relations : RelationCatalogue
  generatedAt : Timestamp

namespace Document

/-- The project section, with a shortened description; a missing one is empty. -/
def projectSection (limits : DocumentLimits) (project : Project) : ProjectSection where
  id := project.id
  name := project.name
  description := Text.shorten limits.descriptionLength (project.description.getD "")

/-- The first total that needs more than 64 bits. -/
def totalLimit : Nat := Nat.pow 2 64

/-- The number of items of all item types. A total has 64 bits, and starts again at zero beyond
them. -/
def itemTotal (itemTypes : List ItemType) : Nat :=
  itemTypes.foldr (fun itemType sum => itemType.count + sum) 0 % totalLimit

/-- A document from its parts. -/
def ofParts (limits : DocumentLimits) (parts : DocumentParts) : Document where
  generatedAt := parts.generatedAt
  project := projectSection limits parts.project
  version := parts.chosen
  allVersions := parts.versions
  summary := {
    totalItems := itemTotal parts.itemTypes
    itemTypeCount := parts.itemTypes.length
    totalRelations := parts.relations.total }
  itemTypes := parts.itemTypes.mergeSort ItemType.precedes
  relationTypes := parts.relations.ranked limits.relationCap

end Document

end RecordSchema
