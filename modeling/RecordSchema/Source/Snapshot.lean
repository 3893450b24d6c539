/-
**Snapshots.**

A snapshot is a JSON document with the answers of a source. Its members may all be missing, members
that it does not declare are never looked into, and a declared member may be given once.

* `Snapshot.ofText` — the snapshot of a text.
* `Snapshot.load` — the snapshot of a file, from what reading it gave.
-/

import RecordSchema.Json.Draft
import RecordSchema.Source.Store

namespace RecordSchema

open Json (Value Draft)
open Json.Draft (Shape)

structure Snapshot where
  /-- Where the snapshot was read from; empty for a text without a place. -/
  path : String
  store : Store

namespace Snapshot

/-- The declared parts of a snapshot, in order of declaration. -/
def shape : Shape :=
  .fields [
    ("project", .fields (Project.declared.map fun name => (name, .whole))),
    ("versions", .list (.fields (Version.declared.map fun name => (name, .whole)))),
    ("items", .list (.fields [("id", .whole)])),
    ("itemRecords", .table (.list .whole)),
    ("records", .list .whole)]

def declared : List String := ["project", "versions", "items", "itemRecords", "records"]

/-- A member that lists records. -/
def recordList? (member : String × Value) : Option (String × List Value) :=
  member.2.elements?.map fun records => (member.1, records)

/-- The records under the names of an object. -/
def recordTable? : Value → Option (SortedMap (List Value))
  | .object members => (members.mapM recordList?).map SortedMap.ofList
  | _ => none

/-- Reads the declared part of a snapshot. -/
def storeOf? (json : Value) : Option Store := do
  let given ← json.given? declared
  return {
    project := ← given.optional "project" Project.ofJson?
    versions := ← given.optional "versions" (Value.listOf? Version.ofJson?)
    items := ← given.withDefault "items" [] (Value.listOf? Item.ofJson?)
    itemRecords := ← given.withDefault "itemRecords" SortedMap.empty recordTable?
    records := ← given.withDefault "records" [] Value.elements? }

/-- The answers that the text of a snapshot holds, if it is one. -/
def read? (text : String) : Option Store := do
  storeOf? (← (← Draft.read text).select? shape Draft.depthLimit)

/-- The snapshot of a text. -/
def ofText (text : String) : Except SourceError Snapshot :=
  match read? text with
  | some store => .ok ⟨"", store⟩
  | none => .error (.serialization "the text is no snapshot")

/-- The snapshot of a file, given its text or the reason why there is none. -/
def load (path : String) (content : Except String String) : Except SourceError Snapshot :=
  match content with
  | .error reason => .error (.io (path ++ ": " ++ reason))
  | .ok text => (ofText text).map fun snapshot => { snapshot with path := path }

end Snapshot

end RecordSchema
