/-
**Extracting a schema document from a source.**

The types of a project are found among the records of its first items, the records of each type are
queried, and a document is assembled from what was inferred of them.

* `extract` — a faulty configuration and a missing project are errors, and more permits than a pool
  can hold abort the extraction; every other failure of the source leaves a gap in the document.
* `gather` — the retrieved types under their names, in whatever order their queries were answered.
-/

import RecordSchema.Config.Extraction
import RecordSchema.Document.Assembly
import RecordSchema.Source.Store

namespace RecordSchema

/-! ### Errors -/

/-- Why there is no document. -/
inductive ExtractionError where
  | config (cause : ConfigError)
  | projectUnavailable (projectId : String) (cause : SourceError)
  | taskFailed (reason : String)
  deriving DecidableEq, Repr, Inhabited

namespace ExtractionError

def message : ExtractionError → String
  | config cause => "Configuration error: " ++ cause.message
  | projectUnavailable projectId _ => "Failed to fetch project " ++ projectId
  | taskFailed reason => "Inference task failed: " ++ reason

/-- The wording of the error behind an error. -/
def cause? : ExtractionError → Option String
  | config cause => some cause.message
  | projectUnavailable _ cause => some cause.message
  | taskFailed _ => none

end ExtractionError

/-- How an extraction ends without a document. -/
inductive ExtractionFailure where
  /-- It reports an error. -/
  | reported (error : ExtractionError)
  /-- It is aborted without an error, since no pool holds the permits of its queries. -/
  | aborted
  deriving DecidableEq, Repr, Inhabited

/-- The most permits that a pool can hold where words have 64 bits: three bits of the word that
counts them are used otherwise. -/
def wordPermitBound : Nat := Nat.pow 2 61 - 1

/-! ### The types of a project -/

/-- The identifiers of the items whose records are looked at. -/
def sampledItems (source : Source) (limits : DiscoveryLimits) (projectId : String) : List String :=
  match source.items projectId limits.listLimit with
  | .ok items => (items.take limits.sampleItems).filterMap Item.id
  | .error _ => []

/-- The records of an item, and none where the source fails. -/
def sampledRecords (source : Source) (projectId itemId : String) : List Json.Value :=
  match source.itemRecords projectId itemId with
  | .ok records => records
  | .error _ => []

/-- The types of the records of the first items, ascending. -/
def surveyTypes (source : Source) (limits : DiscoveryLimits) (projectId : String) : List String :=
  (TypeSurvey.start.noteAll
    ((sampledItems source limits projectId).flatMap (sampledRecords source projectId))).typeNames

/-! ### The records of the types -/

/-- The query for the records of a type: one page from the start, of all versions. -/
def typeQuery (limits : FetchLimits) (typeName : String) : Query :=
  { expression := typeExpression typeName, maxResults := limits.pageSize }

/-- The records of a type, if its query is answered with any. -/
def retrieve (source : Source) (config : ExtractionConfig) (projectId typeName : String) :
    Option RecordSet :=
  match source.query projectId (typeQuery config.fetch typeName) with
  | .ok page => RecordSet.ofPage? config.discovery.shortNames typeName page
  | .error _ => none

/-- The retrieved types under their names, from the answers in any order. -/
def gather (answers : List (Option RecordSet)) : SortedMap RecordSet :=
  SortedMap.ofList ((answers.filterMap id).map fun set => (set.typeName, set))

/-! ### The document -/

/-- The schemas of the retrieved types that have any, in the order of their names. -/
def describeTypes (limits : InferenceLimits) (retrieved : SortedMap RecordSet) : List ItemType :=
  retrieved.values.filterMap fun set => (ItemType.ofRecordSet limits set).toOption

/-- The relations of the retrieved types, counted in the order of their names. -/
def countRelations (retrieved : SortedMap RecordSet) : RelationCatalogue :=
  retrieved.entries.foldl (fun catalogue entry => catalogue.count entry.1 entry.2.records)
    RelationCatalogue.empty

/-- The document of a project from its retrieved types. -/
def documentOf (config : ExtractionConfig) (generatedAt : Timestamp) (project : Project)
    (versions : List Version) (retrieved : SortedMap RecordSet) : Document :=
  let relations := countRelations retrieved
  Document.ofParts { relationCap := config.relationCap } {
    project := project
    versions := versions
    chosen := Version.choose versions config.versionId
    itemTypes := (describeTypes config.inference retrieved).map (ItemType.attach relations)
    relations := relations
    generatedAt := generatedAt }

/-- An extraction: the queries that the source received, and the document or how it ended without
one. -/
structure Extraction where
  queries : List Query
  outcome : Except ExtractionFailure Document

/-- The versions of a project, and none where the source fails. -/
def knownVersions (source : Source) (projectId : String) : List Version :=
  match source.versions projectId with
  | .ok versions => versions
  | .error _ => []

/-- Extracts the document of a project. The permits of the queries come from one pool, which is made
before the first query and holds no more than `permitBound`. -/
def extract (permitBound : Nat) (source : Source) (config : ExtractionConfig)
    (generatedAt : Timestamp) (projectId : String) : Extraction :=
  match config.fault? with
  | some fault => ⟨[], .error (.reported (.config fault))⟩
  | none =>
    match source.project projectId with
    | .error reason => ⟨[], .error (.reported (.projectUnavailable projectId reason))⟩
    | .ok project =>
      let typeNames := surveyTypes source config.discovery projectId
      if permitBound < config.fetch.maxConcurrent then ⟨[], .error .aborted⟩
      else
        let retrieved := gather (typeNames.map (retrieve source config projectId))
        { queries := typeNames.map (typeQuery config.fetch)
          outcome := .ok
            (documentOf config generatedAt project (knownVersions source projectId) retrieved) }

end RecordSchema
