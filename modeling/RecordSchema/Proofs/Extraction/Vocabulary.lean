/-
**The fields in the document of a store.**

The records of a type are queried once, so an item type speaks of the records on the first page.

* `Lists` — the field entries that a record lists.
* `mem_keys_iff_of_outcome` — the keys of an item type are those that a record on the first page
  contributes to.
* `vocabulary_of_outcome` — every present entry of such a record has its key, and so has every
  present entry of the type where all its records fit on a page.
* `vocabulary_beyond_page` — an entry of a later record may be missing.
-/

import RecordSchema.Proofs.Extraction.TypeMap

namespace RecordSchema

/-! ### Listed entries -/

/-- Whether a record lists an entry: an element of its fields that can be read. -/
def Lists (record : Json.Value) (entry : FieldEntry) : Prop :=
  ∃ elements, (record.member? "fields").bind Json.Value.elements? = some elements ∧
    ∃ element ∈ elements, FieldEntry.ofJson? element = some entry

theorem mem_fields_iff_lists {json : Json.Value} {record : Record}
    (read : Record.ofJson? json = some record) (entry : FieldEntry) :
    entry ∈ record.fields ↔ Lists json entry := by
  unfold Record.ofJson? at read
  split at read
  · cases read
    show entry ∈ Record.entriesOf FieldEntry.ofJson? (json.member? "fields") ↔ _
    rw [Record.entriesOf, List.mem_filterMap, Lists]
    cases (json.member? "fields").bind Json.Value.elements? with
    | none =>
      refine ⟨fun given => ?_, fun given => ?_⟩
      · obtain ⟨element, member, -⟩ := given
        cases member
      · obtain ⟨elements, ⟨⟩, -⟩ := given
    | some elements =>
      refine ⟨fun given => ?_, fun given => ?_⟩
      · obtain ⟨element, member, found⟩ := given
        exact ⟨elements, rfl, element, member, found⟩
      · obtain ⟨others, same, element, member, found⟩ := given
        cases same
        exact ⟨element, member, found⟩
  · cases read

/-! ### The keys of an item type -/

section Extracted

variable {permitBound : Nat} {store : Store} {config : ExtractionConfig} {generatedAt : Timestamp}
  {projectId : String} {document : Document} {itemType : ItemType}

/-- **The keys of an item type** are those that a record on the first page contributes to. -/
theorem mem_keys_iff_of_outcome
    (extracted : (extract permitBound store.toSource config generatedAt projectId).outcome =
      .ok document)
    (member : itemType ∈ document.itemTypes) (plain : ¬ SelfQuoted itemType.name) (key : String) :
    key ∈ itemType.fields.names ↔
      contributionsTo key (store.fetched config.fetch itemType.name) ≠ [] := by
  obtain ⟨-, -, project, -, rfl⟩ := outcome_eq_ok_iff.mp extracted
  obtain ⟨-, described⟩ := itemTypes_documentOf config generatedAt project
    (knownVersions store.toSource projectId) (retrievedTypes_kept store.toSource config projectId)
  obtain ⟨set, retrieved, describes⟩ := described itemType member
  obtain ⟨surveyed, found⟩ := get?_retrievedTypes_iff.mp retrieved
  obtain ⟨-, nonempty, -⟩ := mem_surveyTypes_toSource_iff.mp surveyed
  rw [describes.mem_keys_iff, (retrieve_toSource_reads nonempty plain found).2]

/-- A present entry of a record on the first page has its key. -/
theorem key_mem_of_lists
    (extracted : (extract permitBound store.toSource config generatedAt projectId).outcome =
      .ok document)
    (member : itemType ∈ document.itemTypes) (plain : ¬ SelfQuoted itemType.name)
    {json : Json.Value} (onPage : json ∈ (store.firstPage config.fetch itemType.name).records)
    {entry : FieldEntry} (lists : Lists json entry) (present : entry.present?.isSome = true) :
    fieldKey entry.label ∈ itemType.fields.names := by
  rw [mem_keys_iff_of_outcome extracted member plain]
  have tagged : json ∈ store.tagged itemType.name := List.mem_of_mem_take onPage
  have object : (Record.ofJson? json).isSome = true := by
    rw [Record.ofJson?_isSome]
    exact isObject_of_typeTag? (Store.mem_tagged_iff.mp tagged).2
  obtain ⟨record, read⟩ := Option.isSome_iff_exists.mp object
  obtain ⟨value, isValue⟩ := Option.isSome_iff_exists.mp present
  have fetched : record ∈ store.fetched config.fetch itemType.name :=
    List.mem_filterMap.mpr ⟨json, onPage, read⟩
  have listed : (entry, value) ∈ record.presentEntries := by
    refine List.mem_filterMap.mpr ⟨entry, (mem_fields_iff_lists read entry).mpr lists, ?_⟩
    rw [isValue]
    rfl
  exact contributionsTo_ne_nil_of_mem fetched listed

/-- **The first page decides the fields of a type.** The keys are those that its records contribute
to, every present entry of them has its key, and where all records of the type fit on the page, this
holds for all of them. -/
theorem vocabulary_of_outcome
    (extracted : (extract permitBound store.toSource config generatedAt projectId).outcome =
      .ok document)
    (member : itemType ∈ document.itemTypes) (plain : ¬ SelfQuoted itemType.name) :
    (∀ key, key ∈ itemType.fields.names ↔
      contributionsTo key (store.fetched config.fetch itemType.name) ≠ []) ∧
    (∀ json ∈ (store.tagged itemType.name).take config.fetch.pageSize, ∀ entry,
      Lists json entry → entry.present?.isSome = true →
        fieldKey entry.label ∈ itemType.fields.names) ∧
    ((store.tagged itemType.name).length ≤ config.fetch.pageSize → ∀ json ∈ store.records,
      typeTag? json = some itemType.name → ∀ entry, Lists json entry →
        entry.present?.isSome = true → fieldKey entry.label ∈ itemType.fields.names) := by
  refine ⟨mem_keys_iff_of_outcome extracted member plain, ?_, ?_⟩
  · intro json onPage entry lists present
    exact key_mem_of_lists extracted member plain onPage lists present
  · intro fits json stored tagged entry lists present
    have onPage : json ∈ (store.firstPage config.fetch itemType.name).records := by
      show json ∈ (store.tagged itemType.name).take config.fetch.pageSize
      rw [List.take_of_length_le fits]
      exact Store.mem_tagged_iff.mpr ⟨stored, tagged⟩
    exact key_mem_of_lists extracted member plain onPage lists present

end Extracted

/-! ### Fields beyond the first page -/

def lateFieldEntry : FieldEntry :=
  ⟨"Extra", some (.text "x"), .string⟩

def lateFieldRecord : Json.Value :=
  .object [("type", .string "A"),
    ("fields", .array [.object [("label", .string "Extra"), ("value", .string "x")]])]

/-- A store with two records of a type, of which the second has an entry. -/
def lateFieldStore : Store where
  project := some ⟨"P", "Project", none⟩
  items := [⟨some "1"⟩]
  itemRecords := SortedMap.empty.insert "1" [.object [("type", .string "A")]]
  records := [.object [("type", .string "A")], lateFieldRecord]

theorem lists_lateFieldEntry : Lists lateFieldRecord lateFieldEntry :=
  ⟨_, rfl, _, List.mem_cons_self, rfl⟩

theorem exists_itemType_lateField (config : ExtractionConfig) (faultless : config.fault? = none)
    (within : config.fetch.maxConcurrent ≤ wordPermitBound) (standard : config.discovery = {}) :
    ∃ document itemType,
      (extract wordPermitBound lateFieldStore.toSource config default "P").outcome = .ok document ∧
        itemType ∈ document.itemTypes ∧ itemType.name = "A" := by
  have plain : lateFieldStore.PlainTags := by
    intro itemId records registered record member tag tagged quoted
    rw [lateFieldStore, SortedMap.get?_insert] at registered
    split at registered
    · cases registered
      cases List.mem_singleton.mp member
      cases tagged
      exact absurd quoted.opened (by decide)
    · cases registered
  obtain ⟨document, extracted⟩ : ∃ document,
      (extract wordPermitBound lateFieldStore.toSource config default "P").outcome = .ok document :=
    exists_document faultless within rfl
  have listed : "A" ∈ document.itemTypes.map ItemType.name := by
    refine ((mapsTypes_of_outcome plain extracted).mem_names_iff "A").mpr ?_
    rw [standard]
    exact ⟨⟨⟨some "1"⟩, List.mem_cons_self, "1", rfl, List.not_mem_nil, _, rfl, _,
      List.mem_cons_self, rfl, rfl⟩, by decide, List.not_mem_nil, _, List.mem_cons_self, rfl⟩
  obtain ⟨itemType, member, name⟩ := List.mem_map.mp listed
  exact ⟨document, itemType, extracted, member, name⟩

theorem not_selfQuoted_lateField {itemType : ItemType} (name : itemType.name = "A") :
    ¬ SelfQuoted itemType.name := by
  intro quoted
  rw [name] at quoted
  exact absurd quoted.opened (by decide)

/-- On a page of two records, both have their entries among the fields. -/
theorem vocabulary_within_page :
    ∃ document itemType,
      (extract wordPermitBound lateFieldStore.toSource { fetch := { pageSize := 2 } } default
          "P").outcome = .ok document ∧
        itemType ∈ document.itemTypes ∧ ¬ SelfQuoted itemType.name ∧
        fieldKey lateFieldEntry.label ∈ itemType.fields.names := by
  obtain ⟨document, itemType, extracted, member, name⟩ :=
    exists_itemType_lateField { fetch := { pageSize := 2 } } rfl (by decide) rfl
  have plain := not_selfQuoted_lateField name
  obtain ⟨-, -, all⟩ := vocabulary_of_outcome extracted member plain
  refine ⟨document, itemType, extracted, member, plain, all ?_ lateFieldRecord ?_ ?_ lateFieldEntry
    lists_lateFieldEntry rfl⟩
  · rw [name]
    decide
  · exact List.mem_cons_of_mem _ List.mem_cons_self
  · rw [name]
    rfl

/-- **A present entry may be missing among the fields**: on a page of one record, that of the second
record is. -/
theorem vocabulary_beyond_page :
    ({ fetch := { pageSize := 1 } } : ExtractionConfig).fault? = none ∧
      ¬ ∀ (generatedAt : Timestamp) (projectId : String) (document : Document),
        (extract wordPermitBound lateFieldStore.toSource { fetch := { pageSize := 1 } } generatedAt
            projectId).outcome = .ok document →
          ∀ itemType ∈ document.itemTypes, ∀ json ∈ lateFieldStore.records,
            json.isObject = true → typeTag? json = some itemType.name → ∀ entry, Lists json entry →
              entry.present?.isSome = true → fieldKey entry.label ∈ itemType.fields.names := by
  refine ⟨rfl, fun complete => ?_⟩
  obtain ⟨document, itemType, extracted, member, name⟩ :=
    exists_itemType_lateField { fetch := { pageSize := 1 } } rfl (by decide) rfl
  have plain := not_selfQuoted_lateField name
  have tagged : typeTag? lateFieldRecord = some itemType.name := by
    rw [name]
    rfl
  have isKey := complete default "P" document extracted itemType member lateFieldRecord
    (List.mem_cons_of_mem _ List.mem_cons_self) rfl tagged lateFieldEntry lists_lateFieldEntry rfl
  rw [mem_keys_iff_of_outcome extracted member plain, name] at isKey
  have nothing : contributionsTo (fieldKey lateFieldEntry.label)
      (lateFieldStore.fetched { pageSize := 1 } "A") = [] := by
    rw [fieldKey_eq_self (by decide)]
    rfl
  exact isKey nothing

end RecordSchema
