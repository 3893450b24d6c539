/-
**What the schema of a type depends on.**

The schema of a type is inferred from the first page of its own records. The other types of a store,
its items, its failures, its project and its versions leave it as it is, but for the order in which
its relations are listed.

* `ItemType.Agrees` — two schemas that differ at most in that order.
* `retrieve_toSource_congr` — stores with the same records of a type bring the same ones.
* `outgoing_perm_of_records_eq` — the relations that leave a type are those of its own records.
* `extract_agrees` — documents of such stores agree on the type.
-/

import RecordSchema.Proofs.Extraction.Relations
import RecordSchema.Proofs.Extraction.TypeMap

namespace RecordSchema

/-- The relations that leave a type, each with the expression that selects it. -/
def ItemType.outgoingAccess (itemType : ItemType) : List (String × String) :=
  itemType.outgoing.map fun name => (name, relationAccess name)

/-- Whether two schemas say the same, where their relations may stand in different orders. -/
structure ItemType.Agrees (first second : ItemType) : Prop where
  name_eq : first.name = second.name
  query_eq : first.query = second.query
  count_eq : first.count = second.count
  fields_eq : first.fields = second.fields
  samples_eq : first.samples = second.samples
  shortName_eq : first.shortName = second.shortName
  statuses_eq : first.statuses = second.statuses
  outgoing_perm : first.outgoingAccess.Perm second.outgoingAccess
  outgoing_nodup : first.outgoingAccess.Nodup ∧ second.outgoingAccess.Nodup

/-- A schema agrees with itself under two catalogues that name the same relations for it. -/
theorem ItemType.agrees_attach (bare : ItemType) {catalogue other : RelationCatalogue}
    (perm : (catalogue.outgoing bare.name).Perm (other.outgoing bare.name))
    (distinct : (catalogue.outgoing bare.name).Nodup) :
    (bare.attach catalogue).Agrees (bare.attach other) := by
  have once : (bare.attach catalogue).outgoingAccess.Nodup := by
    refine List.Pairwise.map _ (fun name otherName different equal => ?_) distinct
    exact different (congrArg Prod.fst equal)
  have reordered : (bare.attach catalogue).outgoingAccess.Perm (bare.attach other).outgoingAccess :=
    perm.map _
  exact ⟨rfl, rfl, rfl, rfl, rfl, rfl, rfl, reordered, once, reordered.nodup_iff.mp once⟩

/-! ### The same records -/

/-- **Stores with the same records of a type** bring the same ones. -/
theorem retrieve_toSource_congr {first second : Store} {config : ExtractionConfig}
    {firstProject secondProject name : String} {set other : RecordSet} (nonempty : name ≠ "")
    (plain : ¬ SelfQuoted name) (same : first.tagged name = second.tagged name)
    (found : retrieve first.toSource config firstProject name = some set)
    (otherFound : retrieve second.toSource config secondProject name = some other) :
    set = other := by
  have page : first.firstPage config.fetch name = second.firstPage config.fetch name := by
    unfold Store.firstPage
    rw [same]
  obtain ⟨-, kept⟩ := (retrieve_toSource_eq_some_iff nonempty plain).mp found
  obtain ⟨-, otherKept⟩ := (retrieve_toSource_eq_some_iff nonempty plain).mp otherFound
  rw [page, otherKept] at kept
  exact (Option.some.inj kept).symm

/-- **The relations that leave a type** are those of its own records, whatever else is counted. -/
theorem outgoing_perm_of_records_eq {retrieved others : SortedMap RecordSet} {name : String}
    {set : RecordSet} (found : retrieved.get? name = some set)
    (otherFound : others.get? name = some set) :
    ((countRelations retrieved).outgoing name).Perm ((countRelations others).outgoing name) := by
  have distinct := (tallies_countRelations retrieved).outgoing_nodup name
  have otherDistinct := (tallies_countRelations others).outgoing_nodup name
  rw [List.perm_ext_iff_of_nodup distinct otherDistinct]
  intro relation
  rw [mem_outgoing_countRelations_iff found, mem_outgoing_countRelations_iff otherFound]

/-! ### Agreeing documents -/

/-- **Documents agree on a type** whose records are the same in both stores, whatever else the
stores hold and wherever else they fail. -/
theorem extract_agrees {permitBound : Nat} {firstStore secondStore : Store}
    {config : ExtractionConfig} {firstTime secondTime : Timestamp}
    {firstProject secondProject : String} {firstDocument secondDocument : Document}
    (firstExtracted : (extract permitBound firstStore.toSource config firstTime
      firstProject).outcome = .ok firstDocument)
    (secondExtracted : (extract permitBound secondStore.toSource config secondTime
      secondProject).outcome = .ok secondDocument)
    {name : String} (plain : ¬ SelfQuoted name)
    (same : firstStore.tagged name = secondStore.tagged name)
    {first second : ItemType}
    (firstMember : first ∈ firstDocument.itemTypes) (firstNamed : first.name = name)
    (secondMember : second ∈ secondDocument.itemTypes) (secondNamed : second.name = name) :
    first.Agrees second := by
  obtain ⟨set, bare, retrieved, described, rfl⟩ :=
    exists_of_mem_of_outcome firstExtracted firstMember
  obtain ⟨other, otherBare, otherRetrieved, otherDescribed, rfl⟩ :=
    exists_of_mem_of_outcome secondExtracted secondMember
  rw [firstNamed] at retrieved
  rw [secondNamed] at otherRetrieved
  obtain ⟨surveyed, found⟩ := get?_retrievedTypes_iff.mp retrieved
  obtain ⟨-, otherFound⟩ := get?_retrievedTypes_iff.mp otherRetrieved
  obtain ⟨-, nonempty, -⟩ := mem_surveyTypes_toSource_iff.mp surveyed
  have sameSet := retrieve_toSource_congr nonempty plain same found otherFound
  subst sameSet
  rw [described] at otherDescribed
  cases otherDescribed
  rw [ItemType.name_attach] at firstNamed
  subst firstNamed
  exact bare.agrees_attach (outgoing_perm_of_records_eq retrieved otherRetrieved)
    ((tallies_countRelations _).outgoing_nodup _)

/-- The store of `linkedRecord`s with one of the two types only, and with failures of its own. -/
def loneStore : Store where
  project := some ⟨"Q", "Other", none⟩
  items := [⟨none⟩, ⟨some "3"⟩, ⟨some "2"⟩]
  itemRecords := SortedMap.empty.insert "2" [linkedRecord "A" [], linkedRecord "B" ["cites"]]
  records := [linkedRecord "A" ["cites"], linkedRecord "B" ["uses", "tests"]]
  failingItems := NameSet.empty.insert "3"
  failingTypes := NameSet.empty.insert "A"

/-- Another type that is counted first changes the order of the relations, and nothing else. -/
theorem extract_agrees_reordered :
    ∃ firstDocument secondDocument first second,
      (extract wordPermitBound linkedStore.toSource {} default "P").outcome = .ok firstDocument ∧
        (extract wordPermitBound loneStore.toSource {} default "Q").outcome = .ok secondDocument ∧
        ¬ SelfQuoted "B" ∧ linkedStore.tagged "B" = loneStore.tagged "B" ∧
        first ∈ firstDocument.itemTypes ∧ first.name = "B" ∧
        second ∈ secondDocument.itemTypes ∧ second.name = "B" ∧ first.Agrees second ∧
        first.outgoing = ["tests", "uses"] ∧ second.outgoing = ["uses", "tests"] := by
  obtain ⟨firstDocument, firstExtracted⟩ : ∃ document,
      (extract wordPermitBound linkedStore.toSource {} default "P").outcome = .ok document :=
    exists_document rfl (by decide) rfl
  obtain ⟨secondDocument, secondExtracted⟩ : ∃ document,
      (extract wordPermitBound loneStore.toSource {} default "Q").outcome = .ok document :=
    exists_document rfl (by decide) rfl
  have firstListed : "B" ∈ firstDocument.itemTypes.map ItemType.name := by
    rw [(names_itemTypes_of_outcome firstExtracted).mem_iff]
    decide +kernel
  have secondListed : "B" ∈ secondDocument.itemTypes.map ItemType.name := by
    rw [(names_itemTypes_of_outcome secondExtracted).mem_iff]
    decide +kernel
  obtain ⟨first, firstMember, firstNamed⟩ := List.mem_map.mp firstListed
  obtain ⟨second, secondMember, secondNamed⟩ := List.mem_map.mp secondListed
  have plain : ¬ SelfQuoted "B" := fun quoted => absurd quoted.opened (by decide)
  refine ⟨firstDocument, secondDocument, first, second, firstExtracted, secondExtracted, plain, rfl,
    firstMember, firstNamed, secondMember, secondNamed,
    extract_agrees firstExtracted secondExtracted plain rfl firstMember firstNamed secondMember
      secondNamed, ?_, ?_⟩
  · obtain ⟨-, bare, -, -, rfl⟩ := exists_of_mem_of_outcome firstExtracted firstMember
    rw [ItemType.outgoing_attach, ← ItemType.name_attach, firstNamed]
    decide +kernel
  · obtain ⟨-, bare, -, -, rfl⟩ := exists_of_mem_of_outcome secondExtracted secondMember
    rw [ItemType.outgoing_attach, ← ItemType.name_attach, secondNamed]
    decide +kernel

end RecordSchema
