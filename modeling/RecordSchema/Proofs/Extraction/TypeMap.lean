/-
**The types in the document of a store.**

* `Store.Shows` — the types that the records of the first items show.
* `mem_surveyTypes_toSource_iff` — the types that are found in a store.
* `retrieve_toSource_eq_some_iff`, `retrieve_toSource_isSome_iff` — what the query for a type
  brings.
* `Document.MapsTypes` — what a document says about the types of a store: which there are, how often
  they occur, and in which order.
* `extract_mapsTypes` — within the bound on permits there is a document exactly if there is a
  project, and it says that; beyond the bound the extraction of a project is aborted.
-/

import RecordSchema.Proofs.Extraction.Retrieval
import RecordSchema.Proofs.Source.Store

namespace RecordSchema

/-! ### The found types of a store -/

/-- Whether a type occurs among the records of the first items. An item without an identifier, one
without records and one that fails show nothing. -/
def Store.Shows (store : Store) (limits : DiscoveryLimits) (name : String) : Prop :=
  ∃ item ∈ (store.items.take limits.listLimit).take limits.sampleItems, ∃ itemId,
    item.id = some itemId ∧ itemId ∉ store.failingItems ∧
      ∃ records, store.itemRecords.get? itemId = some records ∧
        ∃ record ∈ records, record.isObject = true ∧ typeTag? record = some name

/-- Whether no record of an item has a tag between quotes of its own. -/
def Store.PlainTags (store : Store) : Prop :=
  ∀ itemId records, store.itemRecords.get? itemId = some records →
    ∀ record ∈ records, ∀ tag, typeTag? record = some tag → ¬ SelfQuoted tag

theorem isTypeName_iff {name : String} :
    isTypeName name = true ↔ name ≠ "" ∧ name ≠ unknownType := by
  rw [isTypeName, Bool.and_eq_true, bne_iff_ne, bne_iff_ne]

/-- **The types that are found in a store** are the shown ones that are named. -/
theorem mem_surveyTypes_toSource_iff {store : Store} {limits : DiscoveryLimits}
    {projectId name : String} :
    name ∈ surveyTypes store.toSource limits projectId ↔
      store.Shows limits name ∧ name ≠ "" ∧ name ≠ unknownType := by
  rw [mem_surveyTypes_iff, isTypeName_iff, and_comm]
  refine and_congr_left fun _ => ?_
  constructor
  · rintro ⟨itemId, sampled, record, delivered, tagged⟩
    obtain ⟨item, first, identified⟩ := List.mem_filterMap.mp sampled
    obtain ⟨records, found, member⟩ := mem_sampledRecords_iff.mp delivered
    obtain ⟨working, registered⟩ := Store.findItemRecords_eq_ok_iff.mp found
    exact ⟨item, first, itemId, identified, working, records, registered, record, member,
      isObject_of_typeTag? tagged, tagged⟩
  · rintro ⟨item, first, itemId, identified, working, records, registered, record, member, -,
      tagged⟩
    have found := Store.findItemRecords_eq_ok_iff.mpr ⟨working, registered⟩
    exact ⟨itemId, List.mem_filterMap.mpr ⟨item, first, identified⟩, record,
      mem_sampledRecords_iff.mpr ⟨records, found, member⟩, tagged⟩

theorem Store.PlainTags.of_shows {store : Store} {limits : DiscoveryLimits} {name : String}
    (plain : store.PlainTags) (shown : store.Shows limits name) : ¬ SelfQuoted name := by
  obtain ⟨-, -, itemId, -, -, records, registered, record, member, -, tagged⟩ := shown
  exact plain itemId records registered record member name tagged

/-! ### The retrieved types of a store -/

/-- The page of a type that is asked for, with the number of all its records. -/
def Store.firstPage (store : Store) (limits : FetchLimits) (name : String) : Page where
  records := (store.tagged name).take limits.pageSize
  total := some (store.tagged name).length

/-- The records of a type that the query for it brings. -/
def Store.fetched (store : Store) (limits : FetchLimits) (name : String) : List Record :=
  (store.firstPage limits name).records.filterMap Record.ofJson?

section Retrieved

variable {store : Store} {config : ExtractionConfig} {projectId name : String} {set : RecordSet}

/-- **The query for a type** brings its first page, unless the type fails. -/
theorem retrieve_toSource_eq_some_iff (nonempty : name ≠ "") (plain : ¬ SelfQuoted name) :
    retrieve store.toSource config projectId name = some set ↔
      name ∉ store.failingTypes ∧
        RecordSet.ofPage? config.discovery.shortNames name (store.firstPage config.fetch name) =
          some set := by
  rw [retrieve_eq_some_iff]
  refine ⟨fun given => ?_, fun given => ?_⟩
  · obtain ⟨page, answered, kept⟩ := given
    rw [Store.query_toSource] at answered
    obtain ⟨working, rfl⟩ := (Store.answer_typeExpression nonempty plain).mp answered
    exact ⟨working, kept⟩
  · obtain ⟨working, kept⟩ := given
    refine ⟨store.firstPage config.fetch name, ?_, kept⟩
    rw [Store.query_toSource]
    exact (Store.answer_typeExpression nonempty plain).mpr ⟨working, rfl⟩

theorem retrieve_toSource_reads (nonempty : name ≠ "") (plain : ¬ SelfQuoted name)
    (found : retrieve store.toSource config projectId name = some set) :
    set.total = (store.tagged name).length ∧ set.records = store.fetched config.fetch name := by
  obtain ⟨-, kept⟩ := (retrieve_toSource_eq_some_iff nonempty plain).mp found
  obtain ⟨-, -, records, total⟩ := RecordSet.of_ofPage? kept
  exact ⟨total, records⟩

/-- **A type is retrieved** exactly if it does not fail and some record has it as its tag. -/
theorem retrieve_toSource_isSome_iff (nonempty : name ≠ "") (plain : ¬ SelfQuoted name)
    (positive : config.fetch.pageSize ≠ 0) :
    (∃ set, retrieve store.toSource config projectId name = some set) ↔
      name ∉ store.failingTypes ∧ ∃ record ∈ store.records, typeTag? record = some name := by
  have first : (∃ record ∈ (store.firstPage config.fetch name).records, record.isObject = true) ↔
      ∃ record ∈ store.records, typeTag? record = some name := by
    refine ⟨fun given => ?_, fun given => ?_⟩
    · obtain ⟨record, member, -⟩ := given
      exact ⟨record, Store.mem_tagged_iff.mp (List.mem_of_mem_take member)⟩
    · obtain ⟨record, member⟩ := given
      have nonempty : store.tagged name ≠ [] :=
        List.ne_nil_of_mem (Store.mem_tagged_iff.mpr member)
      obtain ⟨head, rest, listed⟩ := List.exists_cons_of_ne_nil nonempty
      have isFirst : head ∈ (store.firstPage config.fetch name).records := by
        obtain ⟨size, equal⟩ := Nat.exists_eq_succ_of_ne_zero positive
        show head ∈ (store.tagged name).take config.fetch.pageSize
        rw [listed, equal, List.take_succ_cons]
        exact List.mem_cons_self
      have tagged : head ∈ store.tagged name := listed ▸ List.mem_cons_self
      exact ⟨head, isFirst, isObject_of_typeTag? (Store.mem_tagged_iff.mp tagged).2⟩
  rw [← first, ← RecordSet.ofPage?_isSome_iff, Option.isSome_iff_exists]
  refine ⟨fun given => ?_, fun given => ?_⟩
  · obtain ⟨set, found⟩ := given
    obtain ⟨working, kept⟩ := (retrieve_toSource_eq_some_iff nonempty plain).mp found
    exact ⟨working, set, kept⟩
  · obtain ⟨working, set, kept⟩ := given
    exact ⟨set, (retrieve_toSource_eq_some_iff nonempty plain).mpr ⟨working, kept⟩⟩

end Retrieved

theorem ExtractionConfig.pageSize_ne_zero {config : ExtractionConfig}
    (faultless : config.fault? = none) : config.fetch.pageSize ≠ 0 := by
  intro zero
  rw [fault?, if_pos zero] at faultless
  cases faultless

/-! ### The map of types -/

/-- What a document says about the types of a store. -/
structure Document.MapsTypes (document : Document) (store : Store) (limits : DiscoveryLimits) :
    Prop where
  names_nodup : (document.itemTypes.map ItemType.name).Nodup
  /-- The types of a document are those that are shown, named, working and not empty. -/
  mem_names_iff : ∀ name, name ∈ document.itemTypes.map ItemType.name ↔
    store.Shows limits name ∧ (name ≠ "" ∧ name ≠ unknownType) ∧ name ∉ store.failingTypes ∧
      ∃ record ∈ store.records, typeTag? record = some name
  /-- All records of a type are counted, however many a query brings. -/
  count_eq : ∀ itemType ∈ document.itemTypes,
    itemType.count = store.records.countP fun record => typeTag? record == some itemType.name
  ordered : document.itemTypes.Pairwise fun first second =>
    second.count < first.count ∨ (first.count = second.count ∧ first.name < second.name)
  itemTypeCount_eq : document.summary.itemTypeCount = document.itemTypes.length
  /-- The total counts each record whose tag is one of the types. -/
  totalItems_eq : document.summary.totalItems =
    (store.records.countP fun record =>
      document.itemTypes.any fun itemType => typeTag? record == some itemType.name) %
        Document.totalLimit

/-- The total is exact where the records can be counted with 64 bits. -/
theorem Document.MapsTypes.totalItems_eq_of_lt {document : Document} {store : Store}
    {limits : DiscoveryLimits} (maps : document.MapsTypes store limits)
    (few : store.records.length < Document.totalLimit) :
    document.summary.totalItems = store.records.countP fun record =>
      document.itemTypes.any fun itemType => typeTag? record == some itemType.name := by
  rw [maps.totalItems_eq]
  exact Nat.mod_eq_of_lt (Nat.lt_of_le_of_lt List.countP_le_length few)

section Mapped

variable {permitBound : Nat} {store : Store} {config : ExtractionConfig} {generatedAt : Timestamp}
  {projectId : String}

theorem mem_names_retrievedTypes_iff (plain : store.PlainTags)
    (positive : config.fetch.pageSize ≠ 0) (name : String) :
    name ∈ (retrievedTypes store.toSource config projectId).names ↔
      store.Shows config.discovery name ∧ (name ≠ "" ∧ name ≠ unknownType) ∧
        name ∉ store.failingTypes ∧ ∃ record ∈ store.records, typeTag? record = some name := by
  rw [SortedMap.mem_names_iff, Option.isSome_iff_exists]
  refine ⟨fun given => ?_, fun given => ?_⟩
  · obtain ⟨set, retrieved⟩ := given
    obtain ⟨surveyed, found⟩ := get?_retrievedTypes_iff.mp retrieved
    obtain ⟨shown, named⟩ := mem_surveyTypes_toSource_iff.mp surveyed
    exact ⟨shown, named, (retrieve_toSource_isSome_iff named.1 (plain.of_shows shown) positive).mp
      ⟨set, found⟩⟩
  · obtain ⟨shown, named, kept⟩ := given
    obtain ⟨set, found⟩ :=
      (retrieve_toSource_isSome_iff named.1 (plain.of_shows shown) positive).mpr kept
    exact ⟨set, get?_retrievedTypes_iff.mpr
      ⟨mem_surveyTypes_toSource_iff.mpr ⟨shown, named⟩, found⟩⟩

/-- A retrieved type has the total of its records in the store. -/
theorem total_retrievedTypes (plain : store.PlainTags) {name : String} {set : RecordSet}
    (retrieved : (retrievedTypes store.toSource config projectId).get? name = some set) :
    set.total = (store.tagged name).length := by
  obtain ⟨surveyed, found⟩ := get?_retrievedTypes_iff.mp retrieved
  obtain ⟨shown, nonempty, -⟩ := mem_surveyTypes_toSource_iff.mp surveyed
  exact (retrieve_toSource_reads nonempty (plain.of_shows shown) found).1

/-- **A document maps the types of the store** that it was extracted from. -/
theorem mapsTypes_of_outcome {document : Document} (plain : store.PlainTags)
    (extracted : (extract permitBound store.toSource config generatedAt projectId).outcome =
      .ok document) :
    document.MapsTypes store config.discovery := by
  obtain ⟨faultless, -, project, -, rfl⟩ := outcome_eq_ok_iff.mp extracted
  have positive := ExtractionConfig.pageSize_ne_zero faultless
  let retrieved := retrievedTypes store.toSource config projectId
  let document := documentOf config generatedAt project (knownVersions store.toSource projectId)
    retrieved
  obtain ⟨names, described⟩ : (document.itemTypes.map ItemType.name).Perm retrieved.names ∧
      ∀ itemType ∈ document.itemTypes, ∃ set, retrieved.get? itemType.name = some set ∧
        itemType.Describes set :=
    itemTypes_documentOf config generatedAt project _ (retrievedTypes_kept _ config projectId)
  have distinct : (document.itemTypes.map ItemType.name).Nodup :=
    names.nodup_iff.mpr retrieved.names_nodup
  have counts : ∀ itemType ∈ document.itemTypes,
      itemType.count = (store.tagged itemType.name).length := by
    intro itemType member
    obtain ⟨set, found, describes⟩ := described itemType member
    rw [describes.count_eq, total_retrievedTypes plain found]
  refine ⟨distinct, fun name => ?_, fun itemType member => ?_, ?_, ?_, ?_⟩
  · exact names.mem_iff.trans (mem_names_retrievedTypes_iff plain positive name)
  · rw [counts itemType member, Store.tagged, List.countP_eq_length_filter]
  · refine Document.itemTypes_ofParts_pairwise _ ?_
    exact ((Document.itemTypes_ofParts_perm _ _).map ItemType.name).nodup_iff.mp distinct
  · exact Document.itemTypeCount_ofParts _ _
  · -- Every record is counted for its own tag only, so the counts add up to those of a partition.
    have total : document.summary.totalItems = document.itemTypes.foldr
        (fun itemType sum => itemType.count + sum) 0 % Document.totalLimit :=
      Document.totalItems_ofParts _ _
    rw [total, Document.foldr_count_eq (fun name => (store.tagged name).length) counts,
      store.sum_length_tagged distinct]
    simp only [List.any_map]
    rfl

end Mapped

/-- **A store is extracted with its types.** Within the bound on permits the only failure is that of
the project; beyond it, the extraction of an available project is aborted. A document maps the types
of the store. -/
theorem extract_mapsTypes (permitBound : Nat) (store : Store) (config : ExtractionConfig)
    (faultless : config.fault? = none) (generatedAt : Timestamp) (projectId : String) :
    let outcome := (extract permitBound store.toSource config generatedAt projectId).outcome
    (∀ reason, outcome = .error (.reported (.projectUnavailable projectId reason)) ↔
      store.toSource.project projectId = .error reason) ∧
    (config.fetch.maxConcurrent ≤ permitBound →
      ((∃ document, outcome = .ok document) ↔
        ∃ project, store.toSource.project projectId = .ok project)) ∧
    (permitBound < config.fetch.maxConcurrent →
      (outcome = .error .aborted ↔
        ∃ project, store.toSource.project projectId = .ok project)) ∧
    (store.PlainTags → ∀ document, outcome = .ok document →
      document.MapsTypes store config.discovery ∧
        (store.records.length < Document.totalLimit → document.summary.totalItems =
          store.records.countP fun record =>
            document.itemTypes.any fun itemType => typeTag? record == some itemType.name)) := by
  intro outcome
  refine ⟨fun reason => outcome_eq_projectUnavailable_iff faultless, fun within => ?_,
    fun beyond => ?_, fun plain document extracted => ?_⟩
  · refine ⟨fun given => ?_, fun given => ?_⟩
    · obtain ⟨document, extracted⟩ := given
      obtain ⟨-, -, project, found, -⟩ := outcome_eq_ok_iff.mp extracted
      exact ⟨project, found⟩
    · obtain ⟨project, found⟩ := given
      exact exists_document faultless within found
  · exact (outcome_eq_aborted_iff faultless).trans (and_iff_right beyond)
  · have maps := mapsTypes_of_outcome plain extracted
    exact ⟨maps, maps.totalItems_eq_of_lt⟩

/-- Two records of a type are counted where a query brings one of them, and a failing type is left
out. With a configuration that asks for `2 ^ 63 - 1` permits, there is no document of the store. -/
theorem extract_mapsTypes_failing :
    let record (tag : String) : Json.Value := .object [("type", .string tag)]
    let store : Store := {
      project := some ⟨"P", "Project", none⟩
      items := [⟨some "1"⟩, ⟨none⟩]
      itemRecords := SortedMap.empty.insert "1" [record "A", record "B"]
      records := [record "A", record "B", record "A"]
      failingTypes := NameSet.empty.insert "B" }
    let crowded : ExtractionConfig := { fetch := { maxConcurrent := 9223372036854775807 } }
    (∃ document,
      (extract wordPermitBound store.toSource { fetch := { pageSize := 1 } } default "P").outcome =
          .ok document ∧
        document.MapsTypes store {} ∧ "A" ∈ document.itemTypes.map ItemType.name ∧
        "B" ∉ document.itemTypes.map ItemType.name ∧
        ∀ itemType ∈ document.itemTypes, itemType.name = "A" → itemType.count = 2) ∧
      crowded.fault? = none ∧
      (extract wordPermitBound store.toSource crowded default "P").outcome = .error .aborted := by
  intro record store crowded
  obtain ⟨-, succeeds, -, maps⟩ :=
    extract_mapsTypes wordPermitBound store { fetch := { pageSize := 1 } } rfl default "P"
  obtain ⟨-, -, aborts, -⟩ := extract_mapsTypes wordPermitBound store crowded rfl default "P"
  have available : ∃ project, store.toSource.project "P" = .ok project :=
    ⟨⟨"P", "Project", none⟩, rfl⟩
  have plain : store.PlainTags := by
    intro itemId records registered found member tag tagged quoted
    rw [SortedMap.get?_insert] at registered
    split at registered
    · cases registered
      rcases List.mem_cons.mp member with rfl | later
      · cases tagged
        exact absurd quoted.opened (by decide)
      · cases List.mem_singleton.mp later
        cases tagged
        exact absurd quoted.opened (by decide)
    · cases registered
  obtain ⟨document, extracted⟩ := (succeeds (by decide)).mpr available
  have holds := (maps plain document extracted).1
  refine ⟨⟨document, extracted, holds, (holds.mem_names_iff "A").mpr ?_, ?_, ?_⟩, rfl,
    (aborts (by decide)).mpr available⟩
  · refine ⟨⟨⟨some "1"⟩, List.mem_cons_self, "1", rfl, ?_, _, rfl, record "A", List.mem_cons_self,
      rfl, rfl⟩, by decide, ?_, record "A", List.mem_cons_self, rfl⟩
    · rintro ⟨⟩
    · show "A" ∉ ["B"]
      decide
  · intro listed
    obtain ⟨-, -, working, -⟩ := (holds.mem_names_iff "B").mp listed
    exact working List.mem_cons_self
  · intro itemType member name
    rw [holds.count_eq itemType member, name]
    rfl

end RecordSchema
