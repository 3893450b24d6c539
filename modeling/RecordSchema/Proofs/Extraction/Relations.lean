/-
**The relations in a document.**

The relations of all retrieved types are counted in one catalogue. Three parts of a document are
read off it: the relations that leave each type, the total, and the listed kinds.

* `fetchedRecords` — the records that the query for a type brings.
* `tallies_countRelations` — the catalogue tallies the entries of the retrieved types.
* `Document.RelatesTypes` — how the three parts fit together.
* `extract_relatesTypes` — they do so in every extracted document.
-/

import RecordSchema.Proofs.Extraction.Retrieval
import RecordSchema.Proofs.Relation.Batches

namespace RecordSchema

open RelationCatalogue (Tallies relationNames)

/-! ### The catalogue of the retrieved types -/

section Counted

variable {retrieved : SortedMap RecordSet}

/-- The relation entries of retrieved types, in the order in which they are counted. -/
def retrievedDepartures (retrieved : SortedMap RecordSet) : List Departure :=
  retrieved.entries.flatMap fun entry => departures entry.1 entry.2.records

/-- The records of each retrieved type. -/
def retrievedBatches (retrieved : SortedMap RecordSet) : List RecordBatch :=
  retrieved.entries.map fun entry => ⟨entry.1, entry.2.records⟩

theorem countRelations_eq (retrieved : SortedMap RecordSet) :
    countRelations retrieved = RelationCatalogue.countAll (retrievedBatches retrieved) := by
  rw [RelationCatalogue.countAll, retrievedBatches, List.foldl_map]
  rfl

theorem entries_retrievedBatches (retrieved : SortedMap RecordSet) :
    RecordBatch.entries (retrievedBatches retrieved) = retrievedDepartures retrieved := by
  rw [RecordBatch.entries, retrievedBatches, List.flatMap_map]
  rfl

/-- **The catalogue** tallies the entries of the retrieved types. -/
theorem tallies_countRelations (retrieved : SortedMap RecordSet) :
    Tallies (countRelations retrieved).kinds (retrievedDepartures retrieved) := by
  rw [countRelations_eq, ← entries_retrievedBatches]
  exact RelationCatalogue.tallies_countAll _

theorem mem_retrievedDepartures_iff {typeName name : String} :
    ⟨typeName, name⟩ ∈ retrievedDepartures retrieved ↔
      ∃ set, retrieved.get? typeName = some set ∧ name ∈ relationNames set.records := by
  rw [retrievedDepartures, List.mem_flatMap]
  constructor
  · rintro ⟨⟨key, set⟩, member, entered⟩
    obtain ⟨found, listed, equal⟩ := List.mem_map.mp entered
    cases equal
    exact ⟨set, SortedMap.mem_entries_iff.mp member, listed⟩
  · rintro ⟨set, found, listed⟩
    exact ⟨(typeName, set), SortedMap.mem_entries_iff.mpr found,
      List.mem_map.mpr ⟨name, listed, rfl⟩⟩

/-- **The relations that leave a retrieved type** are those of its own records. -/
theorem mem_outgoing_countRelations_iff {typeName name : String} {set : RecordSet}
    (found : retrieved.get? typeName = some set) :
    name ∈ (countRelations retrieved).outgoing typeName ↔ name ∈ relationNames set.records := by
  rw [(tallies_countRelations retrieved).mem_outgoing_iff, mem_retrievedDepartures_iff]
  constructor
  · rintro ⟨other, same, listed⟩
    rw [found] at same
    cases same
    exact listed
  · intro listed
    exact ⟨set, found, listed⟩

end Counted

/-! ### Fetched records -/

/-- The records that the query for a type brings, as far as they can be read. -/
def fetchedRecords (source : Source) (config : ExtractionConfig) (projectId typeName : String) :
    List Record :=
  match source.query projectId (typeQuery config.fetch typeName) with
  | .ok page => page.records.filterMap Record.ofJson?
  | .error _ => []

theorem records_of_retrieve {source : Source} {config : ExtractionConfig}
    {projectId typeName : String} {set : RecordSet}
    (found : retrieve source config projectId typeName = some set) :
    set.records = fetchedRecords source config projectId typeName := by
  obtain ⟨page, answered, kept⟩ := retrieve_eq_some_iff.mp found
  obtain ⟨-, -, records, -⟩ := RecordSet.of_ofPage? kept
  rw [fetchedRecords, answered, records]

namespace Document

/-- The names of the relation entries of the records of all item types, entry by entry. -/
def relationEntries (document : Document) (fetched : String → List Record) : List String :=
  document.itemTypes.flatMap fun itemType => relationNames (fetched itemType.name)

/-- How the relations in a document fit together, where `fetched` are the records of its item types
and at most `cap` kinds are listed. -/
structure RelatesTypes (document : Document) (fetched : String → List Record) (cap : Nat) :
    Prop where
  names_nodup : (document.relationTypes.map RelationKind.name).Nodup
  /-- A kind leaves the item types whose outgoing relations name it. -/
  mem_fromTypes_iff : ∀ kind ∈ document.relationTypes, ∀ itemType ∈ document.itemTypes,
    itemType.name ∈ kind.fromTypes ↔ kind.name ∈ itemType.outgoing
  mem_names_of_mem_fromTypes : ∀ kind ∈ document.relationTypes, ∀ name ∈ kind.fromTypes,
    name ∈ document.itemTypes.map ItemType.name
  totalRelations_eq :
    document.summary.totalRelations = (document.relationEntries fetched).length
  entryCount_le :
    RelationKind.entryCount document.relationTypes ≤ document.summary.totalRelations
  /-- The listed kinds hold all entries exactly if all different names are listed. -/
  entryCount_eq_iff :
    RelationKind.entryCount document.relationTypes = document.summary.totalRelations ↔
      (document.relationEntries fetched).eraseDups.length ≤ cap

end Document

section Related

variable {permitBound : Nat} {source : Source} {config : ExtractionConfig}
  {generatedAt : Timestamp} {projectId : String}

/-- **The entries of the item types** are the counted ones, in another order. -/
theorem relationEntries_perm {document : Document}
    (extracted : (extract permitBound source config generatedAt projectId).outcome = .ok document) :
    (document.relationEntries (fetchedRecords source config projectId)).Perm
      ((retrievedDepartures (retrievedTypes source config projectId)).map Departure.name) := by
  have counted : (retrievedDepartures (retrievedTypes source config projectId)).map Departure.name =
      (retrievedTypes source config projectId).names.flatMap fun name =>
        relationNames (fetchedRecords source config projectId name) := by
    rw [retrievedDepartures, List.map_flatMap, SortedMap.names, List.flatMap_map]
    refine congrArg List.flatten (List.map_congr_left fun entry member => ?_)
    obtain ⟨-, found⟩ := get?_retrievedTypes_iff.mp (SortedMap.mem_entries_iff.mp member)
    show (departures entry.1 entry.2.records).map Departure.name = _
    rw [departures, List.map_map, records_of_retrieve found]
    exact List.map_id _
  have named := (names_itemTypes_of_outcome extracted).flatMap_right fun name =>
    relationNames (fetchedRecords source config projectId name)
  rw [List.flatMap_map] at named
  rw [counted]
  exact named

/-- The total and the listed kinds are those of the catalogue. -/
theorem relations_of_outcome {document : Document}
    (extracted : (extract permitBound source config generatedAt projectId).outcome = .ok document) :
    let relations := countRelations (retrievedTypes source config projectId)
    document.summary.totalRelations = relations.total ∧
      document.relationTypes = relations.ranked config.relationCap := by
  obtain ⟨-, -, project, -, rfl⟩ := outcome_eq_ok_iff.mp extracted
  exact ⟨rfl, rfl⟩

/-- **The relations in an extracted document fit together.** -/
theorem extract_relatesTypes {document : Document}
    (extracted : (extract permitBound source config generatedAt projectId).outcome = .ok document) :
    document.RelatesTypes (fetchedRecords source config projectId) config.relationCap := by
  obtain ⟨total, listed⟩ := relations_of_outcome extracted
  have names := names_itemTypes_of_outcome extracted
  have entries := relationEntries_perm extracted
  have tallies := tallies_countRelations (retrievedTypes source config projectId)
  refine ⟨?names, ?sources, ?sourceNames, ?total, ?bound, ?exact⟩
  case names =>
    rw [listed]
    exact tallies.names_ranked_nodup _
  case sources =>
    intro kind isListed itemType member
    rw [listed] at isListed
    have counted := RelationCatalogue.mem_kinds_of_mem_ranked isListed
    obtain ⟨set, bare, -, -, rfl⟩ := exists_of_mem_of_outcome extracted member
    rw [ItemType.name_attach, ItemType.outgoing_attach, tallies.mem_fromTypes_iff kind counted,
      tallies.mem_outgoing_iff]
  case sourceNames =>
    intro kind isListed name leaves
    rw [listed] at isListed
    have counted := RelationCatalogue.mem_kinds_of_mem_ranked isListed
    rw [tallies.mem_fromTypes_iff kind counted, mem_retrievedDepartures_iff] at leaves
    obtain ⟨set, found, -⟩ := leaves
    rw [names.mem_iff, SortedMap.mem_names_iff, found]
    rfl
  case total =>
    rw [total, tallies.total_eq, entries.length_eq, List.length_map]
  case bound =>
    rw [listed, total]
    exact RelationCatalogue.entryCount_ranked_le _ _
  case exact =>
    have distinct := (perm_eraseDups fun name => entries.mem_iff (a := name)).length_eq
    rw [listed, total, tallies.entryCount_ranked_eq_iff, distinct]

end Related

/-! ### A cap below the number of names -/

/-- A record of a type with relations of some names. -/
def linkedRecord (tag : String) (relations : List String) : Json.Value :=
  .object [("type", .string tag),
    ("relations", .array (relations.map fun name => .object [("type", .string name)]))]

/-- A store whose two types have a relation in common. -/
def linkedStore : Store where
  project := some ⟨"P", "Project", none⟩
  items := [⟨some "1"⟩]
  itemRecords := SortedMap.empty.insert "1" [linkedRecord "A" [], linkedRecord "B" []]
  records := [linkedRecord "B" ["uses", "tests"], linkedRecord "A" ["tests"]]

/-- Where one of two names is listed, its kind does not hold all entries. -/
theorem extract_relatesTypes_capped :
    ∃ document,
      (extract wordPermitBound linkedStore.toSource { relationCap := 1 } default "P").outcome =
          .ok document ∧
        document.RelatesTypes (fetchedRecords linkedStore.toSource { relationCap := 1 } "P") 1 ∧
        document.summary.totalRelations = 3 ∧
        RelationKind.entryCount document.relationTypes ≠ 3 := by
  obtain ⟨document, extracted⟩ : ∃ document,
      (extract wordPermitBound linkedStore.toSource { relationCap := 1 } default "P").outcome =
        .ok document :=
    exists_document rfl (by decide) rfl
  have relates := extract_relatesTypes extracted
  have entries := relationEntries_perm extracted
  have counted : (retrievedDepartures (retrievedTypes linkedStore.toSource { relationCap := 1 }
      "P")).map Departure.name = ["tests", "uses", "tests"] := rfl
  rw [counted] at entries
  have total : document.summary.totalRelations = 3 := by
    rw [relates.totalRelations_eq, entries.length_eq]
    rfl
  refine ⟨document, extracted, relates, total, fun all => ?_⟩
  have listed := relates.entryCount_eq_iff.mp (all.trans total.symm)
  rw [(perm_eraseDups fun name => entries.mem_iff (a := name)).length_eq] at listed
  exact absurd listed (by decide)

end RecordSchema
