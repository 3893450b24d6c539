/-
**What an extraction retrieves.**

* `mem_surveyTypes_iff` — the types that are found are those that a sampled record names.
* `get?_gather_map_iff`, `get?_retrievedTypes_iff` — the retrieved types are the found ones whose
  query brought a record.
* `ItemType.Describes` — what an item type says about the records that it was inferred from.
* `itemTypes_documentOf` — a document has one item type for each retrieved type, and it describes
  the retrieved records.
* `ExtractsTo` — the four ways of an extraction; `extract_eq_iff` says that it goes one of them.
* `outcome_eq_ok_iff`, `outcome_eq_projectUnavailable_iff`, `outcome_eq_aborted_iff` — when there is
  a document, and which, and how an extraction ends without one.
* `exists_of_mem_of_outcome` — where an item type of an extracted document comes from.
-/

import RecordSchema.Extraction
import RecordSchema.Proofs.Document.Assembly
import RecordSchema.Proofs.ItemType.Tally
import RecordSchema.Proofs.SortedMap

namespace RecordSchema

section Retrieval

variable {source : Source} {config : ExtractionConfig} {projectId : String}

/-! ### Found types -/

theorem mem_sampledRecords_iff {itemId : String} {record : Json.Value} :
    record ∈ sampledRecords source projectId itemId ↔
      ∃ records, source.itemRecords projectId itemId = .ok records ∧ record ∈ records := by
  unfold sampledRecords
  cases source.itemRecords projectId itemId with
  | ok records =>
    refine ⟨fun member => ⟨records, rfl, member⟩, ?_⟩
    rintro ⟨_, ⟨⟩, member⟩
    exact member
  | error reason =>
    refine ⟨fun member => absurd member List.not_mem_nil, ?_⟩
    rintro ⟨_, ⟨⟩, _⟩

/-- **The types that are found** are those that a record of a sampled item names. -/
theorem mem_surveyTypes_iff {limits : DiscoveryLimits} {name : String} :
    name ∈ surveyTypes source limits projectId ↔
      isTypeName name = true ∧ ∃ itemId ∈ sampledItems source limits projectId,
        ∃ record ∈ sampledRecords source projectId itemId, typeTag? record = some name := by
  have named : ∀ record, namedType? record = some name ↔
      isTypeName name = true ∧ typeTag? record = some name := fun record => by
    rw [namedType?, Option.filter_eq_some_iff, and_comm]
  rw [surveyTypes, TypeSurvey.mem_typeNames_noteAll]
  refine ⟨fun given => ?_, fun given => ?_⟩
  · obtain (⟨record, member, found⟩ | older) := given
    · obtain ⟨itemId, sampled, listed⟩ := List.mem_flatMap.mp member
      obtain ⟨isType, tagged⟩ := (named record).mp found
      exact ⟨isType, itemId, sampled, record, listed, tagged⟩
    · cases older
  · obtain ⟨isType, itemId, sampled, record, listed, tagged⟩ := given
    refine Or.inl ⟨record, List.mem_flatMap.mpr ⟨itemId, sampled, listed⟩, ?_⟩
    exact (named record).mpr ⟨isType, tagged⟩

theorem surveyTypes_nodup (source : Source) (limits : DiscoveryLimits) (projectId : String) :
    (surveyTypes source limits projectId).Nodup :=
  SortedMap.names_nodup _

/-! ### Retrieved types -/

/-- The records of a type are kept under its name, and only if there are any. -/
theorem RecordSet.of_ofPage? {limits : ShortNameLimits} {typeName : String} {page : Page}
    {set : RecordSet} (kept : RecordSet.ofPage? limits typeName page = some set) :
    set.typeName = typeName ∧ set.records ≠ [] ∧
      set.records = page.records.filterMap Record.ofJson? ∧
      set.total = page.total.getD set.records.length := by
  unfold RecordSet.ofPage? at kept
  by_cases nothing : (page.records.filterMap Record.ofJson?).isEmpty = true
  · rw [if_pos nothing] at kept
    cases kept
  · rw [if_neg nothing] at kept
    cases kept
    exact ⟨rfl, fun empty => nothing (List.isEmpty_iff.mpr empty), rfl, rfl⟩

/-- A type is retrieved exactly if its query is answered with a page that is kept. -/
theorem retrieve_eq_some_iff {typeName : String} {set : RecordSet} :
    retrieve source config projectId typeName = some set ↔
      ∃ page, source.query projectId (typeQuery config.fetch typeName) = .ok page ∧
        RecordSet.ofPage? config.discovery.shortNames typeName page = some set := by
  unfold retrieve
  cases source.query projectId (typeQuery config.fetch typeName) with
  | ok page =>
    refine ⟨fun kept => ⟨page, rfl, kept⟩, ?_⟩
    rintro ⟨_, ⟨⟩, kept⟩
    exact kept
  | error reason =>
    refine ⟨fun kept => absurd kept (Option.some_ne_none set).symm, ?_⟩
    rintro ⟨_, ⟨⟩, _⟩

/-- What a query brings is kept under the name of its type, and only if there is any. -/
theorem retrieve_kept {typeName : String} {set : RecordSet}
    (found : retrieve source config projectId typeName = some set) :
    set.typeName = typeName ∧ set.records ≠ [] := by
  obtain ⟨page, -, kept⟩ := retrieve_eq_some_iff.mp found
  obtain ⟨named, nonempty, -⟩ := RecordSet.of_ofPage? kept
  exact ⟨named, nonempty⟩

/-- **Gathered answers**, of which no two are about the same type, are all kept. -/
theorem get?_gather_iff {answers : List (Option RecordSet)}
    (distinct : ((answers.filterMap id).map RecordSet.typeName).Nodup) {name : String}
    {set : RecordSet} :
    (gather answers).get? name = some set ↔ some set ∈ answers ∧ set.typeName = name := by
  have names : ((answers.filterMap id).map fun set => (set.typeName, set)).map Prod.fst =
      (answers.filterMap id).map RecordSet.typeName := by
    rw [List.map_map]
    rfl
  rw [gather, SortedMap.get?_ofList_iff (names ▸ distinct), List.mem_map]
  refine ⟨fun given => ?_, fun given => ?_⟩
  · obtain ⟨kept, member, equal⟩ := given
    cases equal
    obtain ⟨answer, listed, same⟩ := List.mem_filterMap.mp member
    exact ⟨same ▸ listed, rfl⟩
  · obtain ⟨listed, rfl⟩ := given
    exact ⟨set, List.mem_filterMap.mpr ⟨some set, listed, rfl⟩, rfl⟩

/-- Where each type brings records of its own, their names are some of those that were asked for. -/
theorem typeNames_sublist {brought : String → Option RecordSet}
    (own : ∀ typeName set, brought typeName = some set → set.typeName = typeName)
    (typeNames : List String) :
    (((typeNames.map brought).filterMap id).map RecordSet.typeName).Sublist typeNames := by
  induction typeNames with
  | nil => exact List.Sublist.slnil
  | cons typeName rest hypothesis =>
    cases found : brought typeName with
    | none =>
      rw [List.map_cons, found, List.filterMap_cons_none (f := id) rfl]
      exact hypothesis.cons typeName
    | some set =>
      rw [List.map_cons, found, List.filterMap_cons_some (f := id) rfl, List.map_cons,
        own typeName set found]
      exact hypothesis.cons_cons typeName

/-- **Gathered types** are those whose query brought a record. -/
theorem get?_gather_map_iff {brought : String → Option RecordSet}
    (own : ∀ typeName set, brought typeName = some set → set.typeName = typeName)
    {typeNames : List String} (distinct : typeNames.Nodup) {name : String} {set : RecordSet} :
    (gather (typeNames.map brought)).get? name = some set ↔
      name ∈ typeNames ∧ brought name = some set := by
  -- Only a query for the name itself can bring records under it, so no answer replaces another.
  rw [get?_gather_iff (distinct.sublist (typeNames_sublist own typeNames)), List.mem_map]
  refine ⟨fun given => ?_, fun given => ?_⟩
  · obtain ⟨⟨typeName, member, found⟩, rfl⟩ := given
    rw [own typeName set found]
    exact ⟨member, found⟩
  · obtain ⟨member, found⟩ := given
    exact ⟨⟨name, member, found⟩, own name set found⟩

/-- The retrieved types of a project under their names. -/
def retrievedTypes (source : Source) (config : ExtractionConfig) (projectId : String) :
    SortedMap RecordSet :=
  gather ((surveyTypes source config.discovery projectId).map (retrieve source config projectId))

/-- **The retrieved types** are the found ones whose query brought a record. -/
theorem get?_retrievedTypes_iff {name : String} {set : RecordSet} :
    (retrievedTypes source config projectId).get? name = some set ↔
      name ∈ surveyTypes source config.discovery projectId ∧
        retrieve source config projectId name = some set :=
  get?_gather_map_iff (fun _ _ found => (retrieve_kept found).1)
    (surveyTypes_nodup source config.discovery projectId)

end Retrieval

/-! ### Described types -/

/-- What an item type says about the records that it was inferred from. -/
structure ItemType.Describes (itemType : ItemType) (set : RecordSet) : Prop where
  name_eq : itemType.name = set.typeName
  count_eq : itemType.count = set.total
  mem_keys_iff : ∀ key, key ∈ itemType.fields.names ↔ contributionsTo key set.records ≠ []

/-- **Records are described**, whatever they hold. -/
theorem ItemType.exists_describes (limits : InferenceLimits) {set : RecordSet}
    (nonempty : set.records ≠ []) :
    ∃ itemType, ItemType.ofRecordSet limits set = .ok itemType ∧ itemType.Describes set := by
  obtain ⟨inferred, result, reads⟩ := InferredType.ofRecords_reads limits nonempty
  unfold ItemType.ofRecordSet
  rw [result]
  exact ⟨_, rfl, rfl, rfl, reads.mem_names_iff⟩

/-- The names of the described types, where every set has a record. -/
theorem names_describe (limits : InferenceLimits) {sets : List RecordSet}
    (nonempty : ∀ set ∈ sets, set.records ≠ []) :
    (sets.filterMap fun set => (ItemType.ofRecordSet limits set).toOption).map ItemType.name =
      sets.map RecordSet.typeName := by
  induction sets with
  | nil => rfl
  | cons set rest hypothesis =>
    obtain ⟨itemType, described, describes⟩ :=
      ItemType.exists_describes limits (nonempty set List.mem_cons_self)
    have later := hypothesis fun other member => nonempty other (List.mem_cons_of_mem _ member)
    have first : (ItemType.ofRecordSet limits set).toOption = some itemType :=
      congrArg Except.toOption described
    rw [List.filterMap_cons, first]
    show itemType.name :: _ = _
    rw [later, describes.name_eq, List.map_cons]

/-- Whether every set is kept under the name of its type and has a record. -/
def Kept (retrieved : SortedMap RecordSet) : Prop :=
  ∀ name set, retrieved.get? name = some set → set.typeName = name ∧ set.records ≠ []

theorem retrievedTypes_kept (source : Source) (config : ExtractionConfig) (projectId : String) :
    Kept (retrievedTypes source config projectId) := fun _ _ found =>
  retrieve_kept (get?_retrievedTypes_iff.mp found).2

/-- **An item type of a document** is the schema of a retrieved type, with the relations that leave
it. -/
theorem exists_of_mem_documentOf {config : ExtractionConfig} {generatedAt : Timestamp}
    {project : Project} {versions : List Version} {retrieved : SortedMap RecordSet}
    (kept : Kept retrieved) {itemType : ItemType}
    (member : itemType ∈ (documentOf config generatedAt project versions retrieved).itemTypes) :
    ∃ set bare, retrieved.get? itemType.name = some set ∧
      ItemType.ofRecordSet config.inference set = .ok bare ∧ bare.Describes set ∧
        itemType = bare.attach (countRelations retrieved) := by
  let listed := (describeTypes config.inference retrieved).map
    (ItemType.attach (countRelations retrieved))
  have attached : itemType ∈ listed := (Document.itemTypes_ofParts_perm _ _).mem_iff.mp member
  obtain ⟨bare, described, rfl⟩ := List.mem_map.mp attached
  obtain ⟨set, isValue, result⟩ := List.mem_filterMap.mp described
  obtain ⟨name, found⟩ := SortedMap.mem_values_iff.mp isValue
  obtain ⟨named, nonempty⟩ := kept name set found
  obtain ⟨same, succeeded, describes⟩ := ItemType.exists_describes config.inference nonempty
  rw [succeeded] at result
  cases result
  refine ⟨set, bare, ?_, succeeded, describes, rfl⟩
  show retrieved.get? bare.name = some set
  rw [describes.name_eq, named, found]

/-- **A document has one item type for each retrieved type**, and it describes the records. -/
theorem itemTypes_documentOf (config : ExtractionConfig) (generatedAt : Timestamp)
    (project : Project) (versions : List Version) {retrieved : SortedMap RecordSet}
    (kept : Kept retrieved) :
    let document := documentOf config generatedAt project versions retrieved
    (document.itemTypes.map ItemType.name).Perm retrieved.names ∧
      ∀ itemType ∈ document.itemTypes, ∃ set,
        retrieved.get? itemType.name = some set ∧ itemType.Describes set := by
  intro document
  let listed := (describeTypes config.inference retrieved).map
    (ItemType.attach (countRelations retrieved))
  have sorted : document.itemTypes.Perm listed := Document.itemTypes_ofParts_perm _ _
  have records : ∀ set ∈ retrieved.values, set.records ≠ [] := fun set member => by
    obtain ⟨name, found⟩ := SortedMap.mem_values_iff.mp member
    exact (kept name set found).2
  constructor
  · have names : listed.map ItemType.name = retrieved.names := by
      rw [List.map_map]
      show (describeTypes config.inference retrieved).map ItemType.name = _
      rw [describeTypes, names_describe config.inference records, SortedMap.values, List.map_map]
      refine List.map_congr_left fun entry member => ?_
      exact (kept entry.1 entry.2 (SortedMap.mem_entries_iff.mp member)).1
    exact names ▸ sorted.map ItemType.name
  · intro itemType member
    obtain ⟨set, bare, found, -, describes, rfl⟩ := exists_of_mem_documentOf kept member
    exact ⟨set, found, describes.name_eq, describes.count_eq, describes.mem_keys_iff⟩

/-! ### Outcomes -/

section Outcome

variable {permitBound : Nat} {source : Source} {config : ExtractionConfig}
  {generatedAt : Timestamp} {projectId : String}

/-- The four ways of an extraction, and what leads to each of them. -/
inductive ExtractsTo (permitBound : Nat) (source : Source) (config : ExtractionConfig)
    (generatedAt : Timestamp) (projectId : String) : Extraction → Prop
  | faulty {fault : ConfigError} (faulty : config.fault? = some fault) :
      ExtractsTo permitBound source config generatedAt projectId
        ⟨[], .error (.reported (.config fault))⟩
  | unavailable {reason : SourceError} (faultless : config.fault? = none)
      (unavailable : source.project projectId = .error reason) :
      ExtractsTo permitBound source config generatedAt projectId
        ⟨[], .error (.reported (.projectUnavailable projectId reason))⟩
  /-- No pool holds the permits, so that not even the first query is sent. -/
  | aborted {project : Project} (faultless : config.fault? = none)
      (found : source.project projectId = .ok project)
      (beyond : permitBound < config.fetch.maxConcurrent) :
      ExtractsTo permitBound source config generatedAt projectId ⟨[], .error .aborted⟩
  /-- All types that are found are queried. -/
  | completed {project : Project} (faultless : config.fault? = none)
      (found : source.project projectId = .ok project)
      (within : config.fetch.maxConcurrent ≤ permitBound) :
      ExtractsTo permitBound source config generatedAt projectId {
        queries := (surveyTypes source config.discovery projectId).map (typeQuery config.fetch)
        outcome := .ok (documentOf config generatedAt project (knownVersions source projectId)
          (retrievedTypes source config projectId)) }

theorem extractsTo_extract (permitBound : Nat) (source : Source) (config : ExtractionConfig)
    (generatedAt : Timestamp) (projectId : String) :
    ExtractsTo permitBound source config generatedAt projectId
      (extract permitBound source config generatedAt projectId) := by
  unfold extract
  cases faultless : config.fault? with
  | some fault => exact .faulty faultless
  | none =>
    cases found : source.project projectId with
    | error reason => exact .unavailable faultless found
    | ok project =>
      dsimp only
      split
      case isTrue beyond => exact .aborted faultless found beyond
      case isFalse within => exact .completed faultless found (Nat.not_lt.mp within)

/-- **An extraction goes one of the four ways**, and what leads to one of them excludes the others.
-/
theorem extract_eq_iff {run : Extraction} :
    extract permitBound source config generatedAt projectId = run ↔
      ExtractsTo permitBound source config generatedAt projectId run := by
  constructor
  · rintro rfl
    exact extractsTo_extract permitBound source config generatedAt projectId
  · intro extracts
    cases extracts with
    | faulty faulty => rw [extract, faulty]
    | unavailable faultless unavailable => rw [extract, faultless, unavailable]
    | aborted faultless found beyond =>
      rw [extract, faultless, found]
      exact if_pos beyond
    | completed faultless found within =>
      rw [extract, faultless, found]
      exact if_neg (Nat.not_lt.mpr within)

/-- **There is a document** exactly for a faultless configuration, a project that the source has and
permits that a pool can hold. -/
theorem outcome_eq_ok_iff {document : Document} :
    (extract permitBound source config generatedAt projectId).outcome = .ok document ↔
      config.fault? = none ∧ config.fetch.maxConcurrent ≤ permitBound ∧
        ∃ project, source.project projectId = .ok project ∧
          document = documentOf config generatedAt project (knownVersions source projectId)
            (retrievedTypes source config projectId) := by
  refine ⟨fun given => ?_, fun given => ?_⟩
  · have extracts := extractsTo_extract permitBound source config generatedAt projectId
    generalize extract permitBound source config generatedAt projectId = run at extracts given
    cases extracts with
    | faulty => cases given
    | unavailable => cases given
    | aborted => cases given
    | completed faultless found within =>
      cases given
      exact ⟨faultless, within, _, found, rfl⟩
  · obtain ⟨faultless, within, project, found, rfl⟩ := given
    rw [extract_eq_iff.mpr (.completed faultless found within)]

theorem exists_document (faultless : config.fault? = none)
    (within : config.fetch.maxConcurrent ≤ permitBound) {project : Project}
    (found : source.project projectId = .ok project) :
    ∃ document, (extract permitBound source config generatedAt projectId).outcome = .ok document :=
  ⟨_, outcome_eq_ok_iff.mpr ⟨faultless, within, project, found, rfl⟩⟩

/-- The item types of an extracted document are the retrieved ones. -/
theorem names_itemTypes_of_outcome {document : Document}
    (extracted : (extract permitBound source config generatedAt projectId).outcome =
      .ok document) :
    (document.itemTypes.map ItemType.name).Perm (retrievedTypes source config projectId).names := by
  obtain ⟨-, -, project, -, rfl⟩ := outcome_eq_ok_iff.mp extracted
  exact (itemTypes_documentOf config generatedAt project (knownVersions source projectId)
    (retrievedTypes_kept source config projectId)).1

/-- **An item type of an extracted document** is the schema of what its query brought, with the
relations that leave it. -/
theorem exists_of_mem_of_outcome {document : Document}
    (extracted : (extract permitBound source config generatedAt projectId).outcome = .ok document)
    {itemType : ItemType} (member : itemType ∈ document.itemTypes) :
    ∃ set bare, (retrievedTypes source config projectId).get? itemType.name = some set ∧
      ItemType.ofRecordSet config.inference set = .ok bare ∧
        itemType = bare.attach (countRelations (retrievedTypes source config projectId)) := by
  obtain ⟨-, -, project, -, rfl⟩ := outcome_eq_ok_iff.mp extracted
  obtain ⟨set, bare, found, described, -, attached⟩ :=
    exists_of_mem_documentOf (retrievedTypes_kept source config projectId) member
  exact ⟨set, bare, found, described, attached⟩

/-- Under a faultless configuration, the project is reported as unavailable exactly if the source
fails to deliver it. -/
theorem outcome_eq_projectUnavailable_iff {reason : SourceError}
    (faultless : config.fault? = none) :
    (extract permitBound source config generatedAt projectId).outcome =
        .error (.reported (.projectUnavailable projectId reason)) ↔
      source.project projectId = .error reason := by
  refine ⟨fun given => ?_, fun unavailable => ?_⟩
  · have extracts := extractsTo_extract permitBound source config generatedAt projectId
    generalize extract permitBound source config generatedAt projectId = run at extracts given
    cases extracts with
    | faulty => cases given
    | unavailable _ unavailable =>
      cases given
      exact unavailable
    | aborted => cases given
    | completed => cases given
  · rw [extract_eq_iff.mpr (.unavailable faultless unavailable)]

/-- Under a faultless configuration, an extraction is aborted exactly if the source has the project
and no pool holds the permits. -/
theorem outcome_eq_aborted_iff (faultless : config.fault? = none) :
    (extract permitBound source config generatedAt projectId).outcome = .error .aborted ↔
      permitBound < config.fetch.maxConcurrent ∧
        ∃ project, source.project projectId = .ok project := by
  refine ⟨fun given => ?_, fun given => ?_⟩
  · have extracts := extractsTo_extract permitBound source config generatedAt projectId
    generalize extract permitBound source config generatedAt projectId = run at extracts given
    cases extracts with
    | faulty => cases given
    | unavailable => cases given
    | aborted _ found beyond => exact ⟨beyond, _, found⟩
    | completed => cases given
  · obtain ⟨beyond, project, found⟩ := given
    rw [extract_eq_iff.mpr (.aborted faultless found beyond)]

end Outcome

end RecordSchema
