/-
**Record sources.**

A `Source` answers five kinds of requests, each on its own: an error of one answer says nothing
about the others. A `Store` answers from values that it holds, and can be told to fail.

* `Store.answer` — the window of the records of a type that a query asks for, with their total.
* `Store.receive` — the same, with the query noted.
-/

import RecordSchema.ItemType.Survey
import RecordSchema.Project.Basic
import RecordSchema.Source.Query

namespace RecordSchema

open Json (Value)

/-- Why a source has no answer. -/
inductive SourceError where
  | notFound (what : String)
  | network (reason : String)
  | invalidResponse (reason : String)
  | io (reason : String)
  | serialization (reason : String)
  deriving DecidableEq, Repr, Inhabited

def SourceError.message : SourceError → String
  | notFound what => "Not found: " ++ what
  | network reason => "Network error: " ++ reason
  | invalidResponse reason => "Invalid response: " ++ reason
  | io reason => "IO error: " ++ reason
  | serialization reason => "Serialization error: " ++ reason

/-- The requests that a source answers. All but the first argument of a request narrow it down. -/
structure Source where
  project : String → Except SourceError Project
  versions : String → Except SourceError (List Version)
  /-- The first items of a project. -/
  items : String → Nat → Except SourceError (List Item)
  /-- The records of an item of a project. -/
  itemRecords : String → String → Except SourceError (List Value)
  /-- The records of a project that a query selects. -/
  query : String → Query → Except SourceError Page

/-- The answers that a source holds. -/
structure Store where
  project : Option Project := none
  versions : Option (List Version) := none
  items : List Item := []
  itemRecords : SortedMap (List Value) := SortedMap.empty
  records : List Value := []
  /-- The items whose records are not delivered. -/
  failingItems : NameSet := NameSet.empty
  /-- The types whose queries fail. -/
  failingTypes : NameSet := NameSet.empty
  /-- The queries noted so far, in the order of their arrival. -/
  received : List Query := []

namespace Store

def empty : Store := {}

/-- The store with one more item and its records. -/
def addItem (store : Store) (id : String) (records : List Value) : Store :=
  { store with
    items := store.items ++ [⟨some id⟩]
    itemRecords := store.itemRecords.insert id records }

/-! ### Answers -/

/-- The project, under its own identifier only. -/
def findProject (store : Store) (id : String) : Except SourceError Project :=
  match store.project.filter fun project => project.id == id with
  | some project => .ok project
  | none => .error (.notFound ("project " ++ id))

/-- The versions, if there is any list of them. -/
def findVersions (store : Store) (projectId : String) : Except SourceError (List Version) :=
  match store.versions with
  | some versions => .ok versions
  | none => .error (.notFound ("versions of " ++ projectId))

def findItemRecords (store : Store) (itemId : String) : Except SourceError (List Value) :=
  if store.failingItems.contains itemId then
    .error (.network ("records of item " ++ itemId ++ " unavailable"))
  else
    match store.itemRecords.get? itemId with
    | some records => .ok records
    | none => .error (.notFound ("item " ++ itemId))

/-- The records with a type tag. -/
def tagged (store : Store) (typeName : String) : List Value :=
  store.records.filter fun record => typeTag? record == some typeName

/-- The window of records that a query asks for, with the number of all matching ones. -/
def answer (store : Store) (query : Query) : Except SourceError Page :=
  match query.typeName? with
  | none => .error (.invalidResponse ("unsupported query: " ++ query.expression))
  | some typeName =>
    if store.failingTypes.contains typeName then
      .error (.network ("query for " ++ typeName ++ " failed"))
    else
      let matching := store.tagged typeName
      .ok {
        records := (matching.drop query.startAt).take query.maxResults
        total := some matching.length }

/-- Answers a query and notes it. -/
def receive (store : Store) (query : Query) : Except SourceError Page × Store :=
  (store.answer query, { store with received := store.received ++ [query] })

/-- The source that gives these answers. -/
def toSource (store : Store) : Source where
  project := store.findProject
  versions := store.findVersions
  items := fun _ limit => .ok (store.items.take limit)
  itemRecords := fun _ itemId => store.findItemRecords itemId
  query := fun _ query => store.answer query

end Store

end RecordSchema
