/-
**The described version.**

A document describes the version that was requested, and without a request the last released one or
else the last one. The request shows nowhere else.

* `Version.Chosen` — which version is described; `Version.choose_eq_iff` says that it is chosen.
* `Document.DescribesVersions` — what a document says about the versions of its project.
* `Document.SameButVersion` — documents that differ in the described version and the time only.
* `extract_describesVersions` — two extractions that request different versions fail alike, are both
  aborted, or give two such documents.
-/

import RecordSchema.Proofs.Extraction.Retrieval
import RecordSchema.Proofs.Search

namespace RecordSchema

open Json (Value)

/-! ### The choice among versions -/

namespace Version

/-- Which of the versions is described on a request. -/
inductive Chosen (versions : List Version) : Option String → Option Version → Prop
  /-- A requested version is the first one with its identifier. -/
  | requested {id : String} {version : Version}
      (first : IsFirst (fun other => other.id = id) versions version) :
      Chosen versions (some id) (some version)
  /-- No version has the requested identifier. -/
  | missing {id : String} (absent : ∀ version ∈ versions, version.id ≠ id) :
      Chosen versions (some id) none
  /-- Without a request it is the last released version. -/
  | released {version : Version}
      (last : IsLast (fun other => other.isReleased = true) versions version) :
      Chosen versions none (some version)
  /-- Where none is released, it is the last version. -/
  | unreleased {version : Version} (pending : ∀ other ∈ versions, other.isReleased = false)
      (last : versions.getLast? = some version) :
      Chosen versions none (some version)
  | nothing (empty : versions = []) : Chosen versions none none

variable {versions : List Version}

theorem find?_id_eq_some_iff {id : String} {version : Version} :
    versions.find? (fun other => other.id == id) = some version ↔
      IsFirst (fun other => other.id = id) versions version := by
  simp only [find?_eq_some_iff_isFirst, beq_iff_eq]

theorem find?_id_eq_none_iff {id : String} :
    versions.find? (fun other => other.id == id) = none ↔
      ∀ version ∈ versions, version.id ≠ id := by
  simp only [List.find?_eq_none, beq_iff_eq, ne_eq]

theorem getLast?_released_eq_none_iff :
    (versions.filter isReleased).getLast? = none ↔
      ∀ other ∈ versions, other.isReleased = false := by
  simp only [List.getLast?_eq_none_iff, List.filter_eq_nil_iff, Bool.not_eq_true]

/-- **The chosen version** is the described one, on every request. -/
theorem chosen_choose (versions : List Version) (requested : Option String) :
    Chosen versions requested (choose versions requested) := by
  cases requested with
  | some id =>
    show Chosen versions (some id) (versions.find? fun version => version.id == id)
    cases found : versions.find? (fun version => version.id == id) with
    | some version => exact .requested (find?_id_eq_some_iff.mp found)
    | none => exact .missing (find?_id_eq_none_iff.mp found)
  | none =>
    show Chosen versions none (((versions.filter isReleased).getLast?).or versions.getLast?)
    cases found : (versions.filter isReleased).getLast? with
    | some version => exact .released (getLast?_filter_eq_some_iff_isLast.mp found)
    | none =>
      rw [Option.none_or]
      cases last : versions.getLast? with
      | some version => exact .unreleased (getLast?_released_eq_none_iff.mp found) last
      | none => exact .nothing (List.getLast?_eq_none_iff.mp last)

/-- No other version is described. -/
theorem choose_eq_iff {requested : Option String} {chosen : Option Version} :
    choose versions requested = chosen ↔ Chosen versions requested chosen := by
  constructor
  · rintro rfl
    exact chosen_choose versions requested
  · intro described
    cases described with
    | requested first => exact find?_id_eq_some_iff.mpr first
    | missing absent => exact find?_id_eq_none_iff.mpr absent
    | released last =>
      rw [choose, getLast?_filter_eq_some_iff_isLast.mpr last, Option.some_or]
    | unreleased pending last =>
      rw [choose, getLast?_released_eq_none_iff.mpr pending, Option.none_or, last]
    | nothing empty =>
      subst empty
      rfl

/-- Without a request there is a version to describe, unless there is none at all. -/
theorem choose_none_eq_none_iff : choose versions none = none ↔ versions = [] := by
  constructor
  · intro nothing
    cases choose_eq_iff.mp nothing with
    | nothing empty => exact empty
  · rintro rfl
    rfl

end Version

/-! ### Versions in a document -/

namespace Document

/-- What a document says about the versions of its project, also where it is written. -/
structure DescribesVersions (document : Document) (versions : List Version)
    (requested : Option String) : Prop where
  chosen : Version.Chosen versions requested document.version
  version_eq_none_iff : requested = none → (document.version = none ↔ versions = [])
  member?_of_some : ∀ version, document.version = some version →
    document.toJson.member? "version" = some (.object [("id", .string version.id),
      ("name", .string version.name), ("isReleased", .bool version.isReleased)])
  /-- Without a described version all is null. -/
  member?_of_none : document.version = none →
    document.toJson.member? "version" =
      some (.object [("id", .null), ("name", .null), ("isReleased", .null)])
  allVersions_eq : document.allVersions = versions
  member?_allVersions : document.toJson.member? "allVersions" =
    some (.array (versions.map fun version => .object [("id", .string version.id),
      ("name", .string version.name), ("isReleased", .bool version.isReleased)]))

/-- Whether two documents differ in the described version and in the time only, also where they are
written. -/
structure SameButVersion (first second : Document) : Prop where
  eq : second = { first with version := second.version, generatedAt := second.generatedAt }
  member?_eq : ∀ name, name ≠ "version" → name ≠ "_meta" →
    first.toJson.member? name = second.toJson.member? name

theorem member?_version (document : Document) :
    document.toJson.member? "version" = some (versionSection document.version) := by
  rfl

theorem member?_allVersions (document : Document) :
    document.toJson.member? "allVersions" =
      some (.array (document.allVersions.map versionEntry)) := by
  rfl

/-- The written members behind the described version. -/
def laterMembers (document : Document) : List (String × Value) :=
  [("allVersions", .array (document.allVersions.map versionEntry)),
    ("summary", document.summary.toJson), ("builtinVariables", TemplateVariables.toJson)] ++
    document.trailingMembers

/-- Only two of the written members tell of version and time. -/
theorem member?_toJson_of_ne (document : Document) {name : String} (noVersion : name ≠ "version")
    (noMeta : name ≠ "_meta") :
    document.toJson.member? name =
      (Entries.find? name [("project", document.project.toJson)]).or
        (Entries.find? name document.laterMembers) := by
  have members : document.toJson = .object ([("_meta", document.metaSection)] ++
      ([("project", document.project.toJson)] ++
        ([("version", versionSection document.version)] ++ document.laterMembers))) := rfl
  have inMeta : Entries.find? name [("_meta", document.metaSection)] = none :=
    if_neg noMeta.symm
  have inVersion : Entries.find? name [("version", versionSection document.version)] = none :=
    if_neg noVersion.symm
  rw [members, Value.member?_object, Entries.find?_append, Entries.find?_append,
    Entries.find?_append, inMeta, inVersion, Option.none_or, Option.none_or]

theorem sameButVersion_with (document : Document) (version : Option Version)
    (generatedAt : Timestamp) :
    document.SameButVersion { document with version := version, generatedAt := generatedAt } := by
  refine ⟨rfl, fun name noVersion noMeta => ?_⟩
  rw [member?_toJson_of_ne document noVersion noMeta, member?_toJson_of_ne _ noVersion noMeta]
  rfl

theorem describesVersions_of_chosen {document : Document} {versions : List Version}
    {requested : Option String} (chosen : document.version = Version.choose versions requested)
    (listed : document.allVersions = versions) : document.DescribesVersions versions requested := by
  refine ⟨Version.choose_eq_iff.mp chosen.symm, ?_, ?_, ?_, listed, ?_⟩
  · rintro rfl
    rw [chosen, Version.choose_none_eq_none_iff]
  · intro version described
    rw [member?_version, described]
    rfl
  · intro nothing
    rw [member?_version, nothing]
    rfl
  · rw [member?_allVersions, listed]
    rfl

end Document

/-! ### Extractions on different requests -/

section Requests

variable {permitBound : Nat} {source : Source} {config : ExtractionConfig}
  {generatedAt : Timestamp} {projectId : String} {document : Document}

/-- **An extracted document** describes the version that its configuration requests. -/
theorem describesVersions_of_outcome
    (extracted : (extract permitBound source config generatedAt projectId).outcome =
      .ok document) :
    document.DescribesVersions (knownVersions source projectId) config.versionId := by
  obtain ⟨-, -, project, -, rfl⟩ := outcome_eq_ok_iff.mp extracted
  exact Document.describesVersions_of_chosen rfl rfl

/-- **Another request** is answered with a document that differs in version and time only. -/
theorem exists_sameButVersion (requested : Option String) (later : Timestamp)
    (extracted : (extract permitBound source config generatedAt projectId).outcome =
      .ok document) :
    ∃ other, (extract permitBound source { config with versionId := requested } later
        projectId).outcome = .ok other ∧ document.SameButVersion other := by
  obtain ⟨faultless, within, project, found, rfl⟩ := outcome_eq_ok_iff.mp extracted
  refine ⟨_, outcome_eq_ok_iff.mpr ⟨faultless, within, project, found, rfl⟩, ?_⟩
  exact Document.sameButVersion_with _ _ _

/-- The request is no part of what is checked, so that another one is answered in the same way. -/
theorem ExtractsTo.exists_request {run : Extraction}
    (extracts : ExtractsTo permitBound source config generatedAt projectId run)
    (requested : Option String) (later : Timestamp) :
    ∃ other, ExtractsTo permitBound source { config with versionId := requested } later projectId
        other ∧ other.queries = run.queries := by
  cases extracts with
  | faulty faulty => exact ⟨_, .faulty faulty, rfl⟩
  | unavailable faultless unavailable => exact ⟨_, .unavailable faultless unavailable, rfl⟩
  | aborted faultless found beyond => exact ⟨_, .aborted faultless found beyond, rfl⟩
  | completed faultless found within => exact ⟨_, .completed faultless found within, rfl⟩

/-- The queries that a source receives do not depend on the request. -/
theorem queries_request_eq (requested : Option String) (later : Timestamp) :
    (extract permitBound source { config with versionId := requested } later projectId).queries =
      (extract permitBound source config generatedAt projectId).queries := by
  have extracts := extractsTo_extract permitBound source config generatedAt projectId
  obtain ⟨other, reextracts, same⟩ := extracts.exists_request requested later
  rw [extract_eq_iff.mpr reextracts, same]

end Requests

theorem knownVersions_toSource (store : Store) (projectId : String) :
    knownVersions store.toSource projectId = store.versions.getD [] := by
  have answered : store.toSource.versions projectId = store.findVersions projectId := rfl
  rw [knownVersions, answered, Store.findVersions]
  cases store.versions <;> rfl

/-- **The request shows in the version section only.** Two extractions from a store that request
different versions send the same queries. Both report the project as unavailable for the same
reason, or both are aborted, or both give a document; then the two are the same but for version and
time, and each describes the requested version among those that the store lists. -/
theorem extract_describesVersions (permitBound : Nat) (store : Store) (config : ExtractionConfig)
    (faultless : config.fault? = none) (requested : Option String) (earlier later : Timestamp)
    (projectId : String) :
    let first := extract permitBound store.toSource config earlier projectId
    let second :=
      extract permitBound store.toSource { config with versionId := requested } later projectId
    first.queries = second.queries ∧
      ((∃ reason, store.findProject projectId = .error reason ∧
          first.outcome = .error (.reported (.projectUnavailable projectId reason)) ∧
          second.outcome = .error (.reported (.projectUnavailable projectId reason))) ∨
        (∃ project, store.findProject projectId = .ok project ∧
          permitBound < config.fetch.maxConcurrent ∧
          first.outcome = .error .aborted ∧ second.outcome = .error .aborted) ∨
        ∃ project document other, store.findProject projectId = .ok project ∧
          config.fetch.maxConcurrent ≤ permitBound ∧
          first.outcome = .ok document ∧ second.outcome = .ok other ∧
          document.SameButVersion other ∧
          document.DescribesVersions (store.versions.getD []) config.versionId ∧
          other.DescribesVersions (store.versions.getD []) requested) := by
  intro first second
  refine ⟨(queries_request_eq requested later).symm, ?_⟩
  have otherFaultless : ({ config with versionId := requested } : ExtractionConfig).fault? = none :=
    faultless
  cases answered : store.toSource.project projectId with
  | error reason =>
    refine Or.inl ⟨reason, answered, ?_, ?_⟩
    · exact (outcome_eq_projectUnavailable_iff faultless).mpr answered
    · exact (outcome_eq_projectUnavailable_iff otherFaultless).mpr answered
  | ok project =>
    refine Or.inr ?_
    obtain (beyond | within) := Nat.lt_or_ge permitBound config.fetch.maxConcurrent
    · refine Or.inl ⟨project, answered, beyond, ?_, ?_⟩
      · exact (outcome_eq_aborted_iff faultless).mpr ⟨beyond, project, answered⟩
      · exact (outcome_eq_aborted_iff otherFaultless).mpr ⟨beyond, project, answered⟩
    · obtain ⟨document, extracted⟩ : ∃ document, first.outcome = .ok document :=
        exists_document faultless within answered
      obtain ⟨other, reextracted, same⟩ := exists_sameButVersion requested later extracted
      have described := describesVersions_of_outcome extracted
      have redescribed := describesVersions_of_outcome reextracted
      rw [knownVersions_toSource] at described redescribed
      exact Or.inr ⟨project, document, other, answered, within, extracted, reextracted, same,
        described, redescribed⟩

/-- Without a request the last released version is described, and on a request the first one of two
with this identifier. -/
theorem extract_describesVersions_repeated :
    let store : Store := {
      project := some ⟨"P", "Project", none⟩
      versions := some [⟨"a", "1.0", true, none⟩, ⟨"b", "1.1", false, none⟩,
        ⟨"a", "2.0", true, none⟩, ⟨"b", "2.1", false, none⟩] }
    ({} : ExtractionConfig).fault? = none ∧ ∃ document other,
      (extract wordPermitBound store.toSource {} default "P").outcome = .ok document ∧
        (extract wordPermitBound store.toSource { versionId := some "b" } default "P").outcome =
          .ok other ∧
        document.SameButVersion other ∧ document.version = some ⟨"a", "2.0", true, none⟩ ∧
        other.version = some ⟨"b", "1.1", false, none⟩ := by
  intro store
  have faultless : ({} : ExtractionConfig).fault? = none := by decide
  obtain ⟨-, outcomes⟩ := extract_describesVersions wordPermitBound store {} faultless (some "b")
    default default "P"
  obtain (failed | aborted | documents) := outcomes
  · obtain ⟨reason, unavailable, -⟩ := failed
    cases unavailable
  · obtain ⟨-, -, beyond, -⟩ := aborted
    exact absurd beyond (by decide)
  · obtain ⟨-, document, other, -, -, extracted, reextracted, same, described, redescribed⟩ :=
      documents
    refine ⟨faultless, document, other, extracted, reextracted, same, ?_, ?_⟩
    · rw [← Version.choose_eq_iff.mpr described.chosen]
      decide
    · rw [← Version.choose_eq_iff.mpr redescribed.chosen]
      decide

end RecordSchema
