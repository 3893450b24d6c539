/-
**What a catalogue says about the entries that it counted.**

* `Departure` — a relation entry, with the type that it leaves.
* `RelationCatalogue.Tallies` — a catalogue has one kind for each name among its entries, which
  knows how many they are and which types they leave. One more entry keeps it
  (`Tallies.countEntry`), and so do several (`Tallies.countEntries`).
* `RelationCatalogue.Tallies.mem_outgoing_iff` — the relations that leave a type are the names of
  its entries.
* `RelationCatalogue.Tallies.entryCount_ranked_eq_iff` — the listed kinds hold all entries exactly
  if every name is listed.
-/

import RecordSchema.Proofs.Distinct
import RecordSchema.Relation.Catalogue

namespace RecordSchema

/-- A relation entry as it leaves records of a type. -/
structure Departure where
  typeName : String
  name : String
  deriving DecidableEq, Repr

/-- The relation entries of records of a type. -/
def departures (typeName : String) (records : List Record) : List Departure :=
  (RelationCatalogue.relationNames records).map fun name => ⟨typeName, name⟩

theorem departures_append (typeName : String) (first second : List Record) :
    departures typeName (first ++ second) =
      departures typeName first ++ departures typeName second := by
  rw [departures, RelationCatalogue.relationNames, List.flatMap_append, List.map_append]
  rfl

/-- The number of entries of several kinds. -/
def RelationKind.entryCount (kinds : List RelationKind) : Nat :=
  kinds.foldr (fun kind sum => kind.count + sum) 0

namespace RelationKind

@[simp] theorem entryCount_nil : entryCount [] = 0 := rfl

@[simp] theorem entryCount_cons (kind : RelationKind) (rest : List RelationKind) :
    entryCount (kind :: rest) = kind.count + entryCount rest := rfl

theorem entryCount_append (first second : List RelationKind) :
    entryCount (first ++ second) = entryCount first + entryCount second := by
  induction first with
  | nil => simp
  | cons kind rest hypothesis =>
    rw [List.cons_append, entryCount_cons, hypothesis, entryCount_cons, Nat.add_assoc]

theorem entryCount_perm {first second : List RelationKind} (reordered : first.Perm second) :
    entryCount first = entryCount second := by
  induction reordered with
  | nil => rfl
  | cons kind _ same => rw [entryCount_cons, entryCount_cons, same]
  | swap kind other rest =>
    simp only [entryCount_cons]
    omega
  | trans _ _ same again => exact same.trans again

end RelationKind

namespace RelationCatalogue

open RelationKind (entryCount)

/-! ### One more entry -/

/-- A new name comes last, and a known one changes nothing among the names. -/
theorem map_name_countEntry (typeName name : String) (kinds : List RelationKind) :
    (countEntry typeName name kinds).map RelationKind.name =
      if name ∈ kinds.map RelationKind.name then kinds.map RelationKind.name
      else kinds.map RelationKind.name ++ [name] := by
  induction kinds with
  | nil => rfl
  | cons kind rest hypothesis =>
    unfold countEntry
    by_cases same : kind.name = name
    · have known : name ∈ (kind :: rest).map RelationKind.name := by simp [same]
      rw [if_pos same, if_pos known]
      rfl
    · have later : name ∈ (kind :: rest).map RelationKind.name ↔
          name ∈ rest.map RelationKind.name := by
        rw [List.map_cons, List.mem_cons]
        exact or_iff_right fun equal => same equal.symm
      rw [if_neg same, List.map_cons, hypothesis]
      by_cases known : name ∈ rest.map RelationKind.name
      · rw [if_pos known, if_pos (later.mpr known), List.map_cons]
      · rw [if_neg known, if_neg (fun found => known (later.mp found)), List.map_cons,
          List.cons_append]

/-- **A kind after one more entry** has another name, or was there before the entry, or is new. -/
theorem mem_countEntry {typeName name : String} {kinds : List RelationKind}
    (distinct : (kinds.map RelationKind.name).Nodup) {kind : RelationKind}
    (member : kind ∈ countEntry typeName name kinds) :
    (kind ∈ kinds ∧ kind.name ≠ name) ∨
      (∃ older ∈ kinds, older.name = name ∧ kind = older.countFrom typeName) ∨
        (name ∉ kinds.map RelationKind.name ∧
          kind = RelationKind.countFrom typeName { name := name }) := by
  induction kinds with
  | nil => exact Or.inr (Or.inr ⟨List.not_mem_nil, List.mem_singleton.mp member⟩)
  | cons head rest hypothesis =>
    rw [List.map_cons, List.nodup_cons] at distinct
    unfold countEntry at member
    by_cases same : head.name = name
    · rw [if_pos same] at member
      rcases List.mem_cons.mp member with equal | later
      · exact Or.inr (Or.inl ⟨head, List.mem_cons_self, same, equal⟩)
      · refine Or.inl ⟨List.mem_cons_of_mem _ later, fun equal => distinct.1 ?_⟩
        rw [same, ← equal]
        exact List.mem_map_of_mem later
    · rw [if_neg same] at member
      rcases List.mem_cons.mp member with equal | later
      · exact Or.inl ⟨equal ▸ List.mem_cons_self, equal ▸ same⟩
      · rcases hypothesis distinct.2 later with kept | ⟨older, found, named, grown⟩ | ⟨new, fresh⟩
        · exact Or.inl ⟨List.mem_cons_of_mem _ kept.1, kept.2⟩
        · exact Or.inr (Or.inl ⟨older, List.mem_cons_of_mem _ found, named, grown⟩)
        · refine Or.inr (Or.inr ⟨?_, fresh⟩)
          rw [List.map_cons, List.mem_cons, not_or]
          exact ⟨fun equal => same equal.symm, new⟩

/-! ### Several entries -/

/-- Counts entries among the kinds, one after the other. -/
def countEntries (kinds : List RelationKind) (counted : List Departure) : List RelationKind :=
  counted.foldl (fun kinds entry => countEntry entry.typeName entry.name kinds) kinds

theorem kinds_count (catalogue : RelationCatalogue) (typeName : String) (records : List Record) :
    (catalogue.count typeName records).kinds =
      countEntries catalogue.kinds (departures typeName records) := by
  rw [countEntries, departures, List.foldl_map]
  rfl

/-! ### Tallied entries -/

/-- Kinds tally entries: there is one kind for each name, in the order in which the names came up,
and it knows the number of its entries and the types that they leave. No entry is counted twice. -/
structure Tallies (kinds : List RelationKind) (entries : List Departure) : Prop where
  names_eq : kinds.map RelationKind.name = (entries.map Departure.name).eraseDups
  count_eq : ∀ kind ∈ kinds, kind.count = (entries.map Departure.name).count kind.name
  mem_fromTypes_iff : ∀ kind ∈ kinds, ∀ typeName,
    typeName ∈ kind.fromTypes ↔ ⟨typeName, kind.name⟩ ∈ entries
  entryCount_eq : entryCount kinds = entries.length

theorem Tallies.empty : Tallies [] [] where
  names_eq := rfl
  count_eq := fun _ member => nomatch member
  mem_fromTypes_iff := fun _ member => nomatch member
  entryCount_eq := rfl

namespace Tallies

variable {kinds : List RelationKind} {entries : List Departure}

theorem names_nodup (tallies : Tallies kinds entries) : (kinds.map RelationKind.name).Nodup := by
  rw [tallies.names_eq]
  exact nodup_eraseDups _

theorem mem_names_iff (tallies : Tallies kinds entries) {name : String} :
    name ∈ kinds.map RelationKind.name ↔ name ∈ entries.map Departure.name := by
  rw [tallies.names_eq, List.mem_eraseDups]

theorem not_mem_of_new (tallies : Tallies kinds entries) {name : String}
    (new : name ∉ kinds.map RelationKind.name) (typeName : String) :
    ⟨typeName, name⟩ ∉ entries := by
  intro entered
  exact new (tallies.mem_names_iff.mpr (List.mem_map_of_mem (f := Departure.name) entered))

/-- **One more entry** is tallied. -/
theorem countEntry (tallies : Tallies kinds entries) (typeName name : String) :
    Tallies (RelationCatalogue.countEntry typeName name kinds) (entries ++ [⟨typeName, name⟩]) where
  names_eq := by
    rw [map_name_countEntry, List.map_append, List.map_singleton, eraseDups_concat,
      ← tallies.names_eq]
    by_cases known : name ∈ kinds.map RelationKind.name
    · rw [if_pos known, if_pos (tallies.mem_names_iff.mp known)]
    · rw [if_neg known, if_neg (mt tallies.mem_names_iff.mpr known)]
  count_eq := by
    intro kind member
    rw [List.map_append, List.map_singleton, List.count_append]
    rcases mem_countEntry tallies.names_nodup member with
      ⟨older, other⟩ | ⟨older, found, rfl, rfl⟩ | ⟨new, rfl⟩
    · rw [List.count_singleton, if_neg (by simpa using other.symm), Nat.add_zero]
      exact tallies.count_eq kind older
    · show older.count + 1 =
        (entries.map Departure.name).count older.name + [older.name].count older.name
      rw [tallies.count_eq older found, List.count_singleton_self]
    · show 0 + 1 = (entries.map Departure.name).count name + [name].count name
      have absent : (entries.map Departure.name).count name = 0 :=
        List.count_eq_zero.mpr (mt tallies.mem_names_iff.mpr new)
      rw [absent, List.count_singleton_self]
  mem_fromTypes_iff := by
    intro kind member source
    rw [List.mem_append, List.mem_singleton, Departure.mk.injEq]
    rcases mem_countEntry tallies.names_nodup member with
      ⟨older, other⟩ | ⟨older, found, rfl, rfl⟩ | ⟨new, rfl⟩
    · rw [tallies.mem_fromTypes_iff kind older]
      exact (or_iff_left fun same => other same.2).symm
    · show source ∈ (older.fromTypes.insert typeName).names ↔
        ⟨source, older.name⟩ ∈ entries ∨ source = typeName ∧ older.name = older.name
      rw [NameSet.mem_insert_iff, ← tallies.mem_fromTypes_iff older found, or_comm, eq_comm]
      exact or_congr Iff.rfl (and_iff_left rfl).symm
    · show source ∈ (NameSet.empty.insert typeName).names ↔
        ⟨source, name⟩ ∈ entries ∨ source = typeName ∧ name = name
      have nothing : source ∉ NameSet.empty.names := List.not_mem_nil
      rw [NameSet.mem_insert_iff, or_iff_left nothing,
        or_iff_right (tallies.not_mem_of_new new source), eq_comm]
      exact (and_iff_left rfl).symm
  entryCount_eq := by
    have step : entryCount (RelationCatalogue.countEntry typeName name kinds) =
        entryCount kinds + 1 := sum_countEntry typeName name kinds
    rw [step, tallies.entryCount_eq, List.length_append, List.length_singleton]

/-- **Several entries**, one after the other, are tallied. -/
theorem countEntries (tallies : Tallies kinds entries) (counted : List Departure) :
    Tallies (RelationCatalogue.countEntries kinds counted) (entries ++ counted) := by
  induction counted generalizing kinds entries with
  | nil => rwa [List.append_nil]
  | cons entry rest hypothesis =>
    have run := hypothesis (tallies.countEntry entry.typeName entry.name)
    rwa [List.append_assoc, List.singleton_append] at run

end Tallies

/-! ### Relations that leave a type -/

section Tallied

variable {catalogue : RelationCatalogue} {entries : List Departure}

/-- **The relations that leave a type** are the names of its entries. -/
theorem Tallies.mem_outgoing_iff (tallies : Tallies catalogue.kinds entries)
    {typeName name : String} :
    name ∈ catalogue.outgoing typeName ↔ ⟨typeName, name⟩ ∈ entries := by
  have listed : ∀ kind ∈ catalogue.kinds,
      kind.fromTypes.contains typeName = true ↔ ⟨typeName, kind.name⟩ ∈ entries := by
    intro kind member
    rw [← tallies.mem_fromTypes_iff kind member]
    exact SortedMap.mem_names_iff.symm
  rw [outgoing, List.mem_map]
  constructor
  · rintro ⟨kind, member, rfl⟩
    obtain ⟨found, leaves⟩ := List.mem_filter.mp member
    exact (listed kind found).mp leaves
  · intro entered
    have named : name ∈ catalogue.kinds.map RelationKind.name :=
      tallies.mem_names_iff.mpr (List.mem_map_of_mem (f := Departure.name) entered)
    obtain ⟨kind, found, rfl⟩ := List.mem_map.mp named
    exact ⟨kind, List.mem_filter.mpr ⟨found, (listed kind found).mpr entered⟩, rfl⟩

theorem Tallies.outgoing_nodup (tallies : Tallies catalogue.kinds entries) (typeName : String) :
    (catalogue.outgoing typeName).Nodup :=
  tallies.names_nodup.sublist (List.filter_sublist.map RelationKind.name)

theorem Tallies.total_eq (tallies : Tallies catalogue.kinds entries) :
    catalogue.total = entries.length := tallies.entryCount_eq

/-! ### Listed kinds -/

theorem mem_kinds_of_mem_ranked {cap : Nat} {kind : RelationKind}
    (member : kind ∈ catalogue.ranked cap) : kind ∈ catalogue.kinds :=
  (List.mergeSort_perm _ _).mem_iff.mp (List.mem_of_mem_take member)

theorem names_ranked_nodup (distinct : (catalogue.kinds.map RelationKind.name).Nodup) (cap : Nat) :
    ((catalogue.ranked cap).map RelationKind.name).Nodup := by
  have sorted := (List.mergeSort_perm catalogue.kinds fun first second =>
    decide (second.count ≤ first.count)).map RelationKind.name
  exact (sorted.nodup_iff.mpr distinct).sublist
    ((List.take_sublist cap _).map RelationKind.name)

theorem Tallies.names_ranked_nodup (tallies : Tallies catalogue.kinds entries) (cap : Nat) :
    ((catalogue.ranked cap).map RelationKind.name).Nodup :=
  RelationCatalogue.names_ranked_nodup tallies.names_nodup cap

theorem Tallies.count_pos (tallies : Tallies catalogue.kinds entries) {kind : RelationKind}
    (member : kind ∈ catalogue.kinds) : 0 < kind.count := by
  rw [tallies.count_eq kind member, List.count_pos_iff]
  exact tallies.mem_names_iff.mp (List.mem_map_of_mem member)

/-- The listed kinds and those beyond the cap hold all entries. -/
theorem exists_entryCount_ranked_add (catalogue : RelationCatalogue) (cap : Nat) :
    ∃ left : List RelationKind, left.length = catalogue.kinds.length - cap ∧
      (∀ kind ∈ left, kind ∈ catalogue.kinds) ∧
        entryCount (catalogue.ranked cap) + entryCount left = catalogue.total := by
  let sorted := catalogue.kinds.mergeSort fun first second => decide (second.count ≤ first.count)
  have perm : sorted.Perm catalogue.kinds := List.mergeSort_perm _ _
  refine ⟨sorted.drop cap, ?_, fun kind member => ?_, ?_⟩
  · rw [List.length_drop, perm.length_eq]
  · exact perm.mem_iff.mp (List.mem_of_mem_drop member)
  · show entryCount (sorted.take cap) + entryCount (sorted.drop cap) = entryCount catalogue.kinds
    rw [← RelationKind.entryCount_append, List.take_append_drop]
    exact RelationKind.entryCount_perm perm

theorem entryCount_ranked_le (catalogue : RelationCatalogue) (cap : Nat) :
    entryCount (catalogue.ranked cap) ≤ catalogue.total := by
  obtain ⟨left, -, -, total⟩ := exists_entryCount_ranked_add catalogue cap
  omega

/-- **The listed kinds hold all entries** exactly if no name is beyond the cap. -/
theorem Tallies.entryCount_ranked_eq_iff (tallies : Tallies catalogue.kinds entries) (cap : Nat) :
    entryCount (catalogue.ranked cap) = catalogue.total ↔
      (entries.map Departure.name).eraseDups.length ≤ cap := by
  obtain ⟨left, size, kept, total⟩ := exists_entryCount_ranked_add catalogue cap
  have kinds : (entries.map Departure.name).eraseDups.length = catalogue.kinds.length := by
    rw [← tallies.names_eq, List.length_map]
  rw [kinds]
  cases left with
  | nil =>
    rw [List.length_nil] at size
    rw [RelationKind.entryCount_nil, Nat.add_zero] at total
    exact ⟨fun _ => by omega, fun _ => total⟩
  | cons kind rest =>
    -- What is left out has entries of its own.
    have counted := tallies.count_pos (kept kind List.mem_cons_self)
    rw [List.length_cons] at size
    rw [RelationKind.entryCount_cons] at total
    exact ⟨fun _ => by omega, fun _ => by omega⟩

end Tallied

end RelationCatalogue

end RecordSchema
