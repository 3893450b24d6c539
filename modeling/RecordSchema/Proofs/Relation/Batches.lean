/-
**What a catalogue says about batches of records.**

* `RelationCatalogue.kinds_countAll` — a catalogue depends on the entries of the batches, taken
  together, and not on where one batch ends.
* `RelationCatalogue.Tallies.kinds_perm` — in another order of the entries the same kinds come up.
* `RelationCatalogue.Summarises` — names in the order of their first occurrence, the number of
  entries of each, the types that they leave, and the relations that leave a type.
* `RelationCatalogue.countAll_summarises` — the catalogue of any batches does so, however it is
  built.
-/

import RecordSchema.Proofs.Relation.Builder
import RecordSchema.Proofs.SortedMap

namespace RecordSchema

/-- The relation entries of several batches, in the order in which they are counted. -/
def RecordBatch.entries (batches : List RecordBatch) : List Departure :=
  batches.flatMap fun batch => departures batch.typeName batch.records

/-- The names of the relation entries of several batches. -/
def RecordBatch.names (batches : List RecordBatch) : List String :=
  batches.flatMap fun batch => RelationCatalogue.relationNames batch.records

namespace RecordBatch

variable {batches : List RecordBatch}

theorem map_name_entries (batches : List RecordBatch) :
    (entries batches).map Departure.name = names batches := by
  rw [entries, List.map_flatMap, names]
  refine congrArg List.flatten (List.map_congr_left fun batch _ => ?_)
  rw [departures, List.map_map]
  exact List.map_id _

theorem length_entries (batches : List RecordBatch) :
    (entries batches).length = (names batches).length := by
  rw [← map_name_entries, List.length_map]

theorem mem_entries_iff {typeName name : String} :
    ⟨typeName, name⟩ ∈ entries batches ↔ ∃ batch ∈ batches, batch.typeName = typeName ∧
      name ∈ RelationCatalogue.relationNames batch.records := by
  rw [entries, List.mem_flatMap]
  refine exists_congr fun batch => and_congr_right fun _ => ?_
  rw [departures, List.mem_map]
  constructor
  · rintro ⟨found, listed, equal⟩
    cases equal
    exact ⟨rfl, listed⟩
  · rintro ⟨rfl, listed⟩
    exact ⟨name, listed, rfl⟩

theorem entries_append (first second : List RecordBatch) :
    entries (first ++ second) = entries first ++ entries second :=
  List.flatMap_append

/-- The entries of a batch are those of its parts. -/
theorem entries_parts (typeName : String) (parts : List (List Record)) :
    entries (parts.map (RecordBatch.mk typeName)) = departures typeName parts.flatten := by
  induction parts with
  | nil => rfl
  | cons part rest hypothesis =>
    show departures typeName part ++ entries (rest.map (RecordBatch.mk typeName)) =
      departures typeName (part ++ rest.flatten)
    rw [hypothesis, departures_append]

end RecordBatch

namespace RelationCatalogue

open RecordBatch (entries names)

/-! ### Runs over the entries -/

/-- A catalogue depends on the entries of the batches only. -/
theorem kinds_countAll (batches : List RecordBatch) :
    (countAll batches).kinds = countEntries [] (entries batches) := by
  have run : ∀ catalogue : RelationCatalogue,
      (batches.foldl (fun catalogue batch => catalogue.count batch.typeName batch.records)
        catalogue).kinds = countEntries catalogue.kinds (entries batches) := by
    induction batches with
    | nil => exact fun _ => rfl
    | cons batch rest hypothesis =>
      intro catalogue
      rw [List.foldl_cons, hypothesis, kinds_count]
      exact (List.foldl_append ..).symm
  exact run empty

theorem countAll_congr {first second : List RecordBatch} (same : entries first = entries second) :
    countAll first = countAll second := by
  have kinds : (countAll first).kinds = (countAll second).kinds := by
    rw [kinds_countAll, kinds_countAll, same]
  exact congrArg RelationCatalogue.mk kinds

/-- **The catalogue** tallies the entries of the batches. -/
theorem tallies_countAll (batches : List RecordBatch) :
    Tallies (countAll batches).kinds (entries batches) := by
  rw [kinds_countAll]
  exact Tallies.empty.countEntries (entries batches)

/-! ### The types that a relation leads to -/

theorem toTypes_countEntry {typeName name : String} {kinds : List RelationKind}
    (untold : ∀ kind ∈ kinds, kind.toTypes = NameSet.empty) :
    ∀ kind ∈ countEntry typeName name kinds, kind.toTypes = NameSet.empty := by
  induction kinds with
  | nil =>
    intro kind member
    rw [List.mem_singleton.mp member]
    rfl
  | cons head rest hypothesis =>
    have first := untold head List.mem_cons_self
    have others : ∀ kind ∈ rest, kind.toTypes = NameSet.empty :=
      fun kind member => untold kind (List.mem_cons_of_mem _ member)
    unfold countEntry
    by_cases same : head.name = name
    · rw [if_pos same]
      exact List.forall_mem_cons.mpr ⟨first, others⟩
    · rw [if_neg same]
      exact List.forall_mem_cons.mpr ⟨first, hypothesis others⟩

/-- No entry tells where its relation leads. -/
theorem toTypes_countAll (batches : List RecordBatch) :
    ∀ kind ∈ (countAll batches).kinds, kind.toTypes = NameSet.empty := by
  have run : ∀ (counted : List Departure) (kinds : List RelationKind),
      (∀ kind ∈ kinds, kind.toTypes = NameSet.empty) →
        ∀ kind ∈ countEntries kinds counted, kind.toTypes = NameSet.empty := by
    intro counted
    induction counted with
    | nil => exact fun _ untold => untold
    | cons entry rest hypothesis =>
      exact fun kinds untold => hypothesis _ (toTypes_countEntry untold)
  rw [kinds_countAll]
  exact run _ [] fun _ member => nomatch member

/-! ### Other orders -/

/-- A kind that tallies entries is there after they are counted in another order. -/
theorem Tallies.mem_of_perm {first second : List RelationKind} {listed others : List Departure}
    (tallies : Tallies first listed) (again : Tallies second others)
    (reordered : listed.Perm others)
    (untold : ∀ kind ∈ first, kind.toTypes = NameSet.empty)
    (untoldAgain : ∀ kind ∈ second, kind.toTypes = NameSet.empty) {kind : RelationKind}
    (member : kind ∈ first) : kind ∈ second := by
  have named : kind.name ∈ second.map RelationKind.name := by
    rw [again.mem_names_iff, ← (reordered.map Departure.name).mem_iff, ← tallies.mem_names_iff]
    exact List.mem_map_of_mem member
  obtain ⟨other, found, same⟩ := List.mem_map.mp named
  have counts : other.count = kind.count := by
    rw [again.count_eq other found, tallies.count_eq kind member, same]
    exact ((reordered.map Departure.name).count_eq kind.name).symm
  have sources : other.fromTypes = kind.fromTypes := by
    refine NameSet.ext_mem fun typeName => ?_
    rw [again.mem_fromTypes_iff other found, tallies.mem_fromTypes_iff kind member, same,
      reordered.mem_iff]
  have targets : other.toTypes = kind.toTypes := by
    rw [untoldAgain other found, untold kind member]
  cases other
  cases kind
  cases same
  cases counts
  cases sources
  cases targets
  exact found

/-- **In another order of the entries** the same kinds come up. -/
theorem kinds_perm {first second : List RecordBatch}
    (reordered : (entries first).Perm (entries second)) :
    (countAll first).kinds.Perm (countAll second).kinds := by
  have tallies := tallies_countAll first
  have again := tallies_countAll second
  have untold := toTypes_countAll first
  have untoldAgain := toTypes_countAll second
  have distinct : ∀ batches, (countAll batches).kinds.Nodup := fun batches =>
    List.Pairwise.of_map RelationKind.name (fun _ _ different same => different (congrArg _ same))
      (tallies_countAll batches).names_nodup
  rw [List.perm_ext_iff_of_nodup (distinct first) (distinct second)]
  intro kind
  constructor
  · exact tallies.mem_of_perm again reordered untold untoldAgain
  · exact again.mem_of_perm tallies reordered.symm untoldAgain untold

/-! ### What a catalogue says -/

/-- What a catalogue says about the relation entries of batches of records. -/
structure Summarises (catalogue : RelationCatalogue) (batches : List RecordBatch) : Prop where
  names_nodup : (catalogue.kinds.map RelationKind.name).Nodup
  mem_names_iff : ∀ name, name ∈ catalogue.kinds.map RelationKind.name ↔ name ∈ names batches
  /-- The kinds stand in the order in which their names first occur. -/
  names_pairwise : (catalogue.kinds.map RelationKind.name).Pairwise fun first second =>
    (names batches).idxOf first < (names batches).idxOf second
  count_eq : ∀ kind ∈ catalogue.kinds, kind.count = (names batches).count kind.name
  count_pos : ∀ kind ∈ catalogue.kinds, 0 < kind.count
  mem_fromTypes_iff : ∀ kind ∈ catalogue.kinds, ∀ typeName, typeName ∈ kind.fromTypes ↔
    ∃ batch ∈ batches, batch.typeName = typeName ∧ kind.name ∈ relationNames batch.records
  toTypes_eq : ∀ kind ∈ catalogue.kinds, kind.toTypes = NameSet.empty
  total_eq : catalogue.total = (names batches).length
  /-- The relations that leave a type stand in the order of the kinds. -/
  outgoing_sublist : ∀ typeName,
    (catalogue.outgoing typeName).Sublist (catalogue.kinds.map RelationKind.name)
  outgoing_nodup : ∀ typeName, (catalogue.outgoing typeName).Nodup
  mem_outgoing_iff : ∀ typeName name, name ∈ catalogue.outgoing typeName ↔
    ∃ batch ∈ batches, batch.typeName = typeName ∧ name ∈ relationNames batch.records

theorem summarises_countAll (batches : List RecordBatch) :
    (countAll batches).Summarises batches := by
  have tallies := tallies_countAll batches
  refine ⟨tallies.names_nodup, ?members, ?order, ?counts, fun _ => tallies.count_pos, ?sources,
    toTypes_countAll batches, ?total, fun typeName => List.filter_sublist.map RelationKind.name,
    tallies.outgoing_nodup, ?outgoing⟩
  case members =>
    intro name
    rw [tallies.mem_names_iff, RecordBatch.map_name_entries]
  case order =>
    rw [tallies.names_eq, RecordBatch.map_name_entries]
    exact pairwise_idxOf_eraseDups (names batches)
  case counts =>
    intro kind member
    rw [tallies.count_eq kind member, RecordBatch.map_name_entries]
  case sources =>
    intro kind member typeName
    rw [tallies.mem_fromTypes_iff kind member, RecordBatch.mem_entries_iff]
  case total =>
    rw [tallies.total_eq, RecordBatch.length_entries]
  case outgoing =>
    intro typeName name
    rw [tallies.mem_outgoing_iff, RecordBatch.mem_entries_iff]

/-- **The catalogue of batches** tells what their entries are, and counting with an index builds it.
In another order of the batches the same kinds come up, and where a batch comes in parts the
catalogue is the same. -/
theorem countAll_summarises (batches : List RecordBatch) :
    (RelationBuilder.countAll batches).map RelationBuilder.finish = some (countAll batches) ∧
      (countAll batches).Summarises batches ∧
      (∀ others : List RecordBatch, others.Perm batches →
        (countAll others).kinds.Perm (countAll batches).kinds) ∧
      ∀ before typeName (parts : List (List Record)) after,
        batches = before ++ ⟨typeName, parts.flatten⟩ :: after →
        countAll (before ++ parts.map (RecordBatch.mk typeName) ++ after) = countAll batches := by
  refine ⟨RelationBuilder.countAll_eq batches, summarises_countAll batches, ?reordered, ?split⟩
  case reordered =>
    intro others reordered
    exact kinds_perm (reordered.flatMap_right _)
  case split =>
    rintro before typeName parts after rfl
    refine countAll_congr ?_
    rw [RecordBatch.entries_append, RecordBatch.entries_append, RecordBatch.entries_append,
      RecordBatch.entries_parts, List.append_assoc]
    rfl

/-- A relation that leaves two types is one kind, and its entries are counted together. -/
example :
    let tested : Record := { relations := [⟨"TESTS", none⟩] }
    let required : Record := { relations := [⟨"IMPLEMENTS", none⟩, ⟨"TESTS", none⟩] }
    ((countAll [⟨"Requirement", [required]⟩, ⟨"Test Case", [tested, tested]⟩]).kinds.map
        fun kind => (kind.name, kind.fromTypes.names, kind.count)) =
      [("IMPLEMENTS", ["Requirement"], 1), ("TESTS", ["Requirement", "Test Case"], 3)] := by
  rfl

end RelationCatalogue

end RecordSchema
