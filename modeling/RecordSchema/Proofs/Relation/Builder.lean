/-
**The index of a catalogue under construction.**

* `RelationBuilder.InStep` — the index holds the names of the kinds, each with the position of its
  kind. One more entry keeps it (`InStep.countEntry`), and so do all entries of a batch
  (`InStep.count`) and of several batches (`InStep.foldlM_count`).
* `RelationBuilder.countAll_eq` — an index in step is never stale, so that every entry is counted,
  and at the kind that a search would find.
-/

import RecordSchema.Proofs.Relation.Catalogue
import RecordSchema.Relation.Builder

namespace RecordSchema

/-! ### Counting at a position -/

namespace RelationCatalogue

/-- The kind of a new name comes last. -/
theorem countEntry_of_new (typeName : String) {name : String} {kinds : List RelationKind}
    (new : name ∉ kinds.map RelationKind.name) :
    countEntry typeName name kinds =
      kinds ++ [RelationKind.countFrom typeName { name := name }] := by
  induction kinds with
  | nil => rfl
  | cons kind rest hypothesis =>
    rw [List.map_cons, List.mem_cons, not_or] at new
    rw [countEntry, if_neg (Ne.symm new.1), hypothesis new.2, List.cons_append]

/-- An entry is counted at the position of its kind. -/
theorem countEntry_eq_set (typeName : String) {kinds : List RelationKind} {position : Nat}
    {kind : RelationKind} (distinct : (kinds.map RelationKind.name).Nodup)
    (found : kinds[position]? = some kind) :
    countEntry typeName kind.name kinds = kinds.set position (kind.countFrom typeName) := by
  induction kinds generalizing position with
  | nil => cases found
  | cons head rest hypothesis =>
    rw [List.map_cons, List.nodup_cons] at distinct
    cases position with
    | zero =>
      cases found
      rw [countEntry, if_pos rfl, List.set_cons_zero]
    | succ position =>
      rw [List.getElem?_cons_succ] at found
      have other : head.name ≠ kind.name := fun same =>
        distinct.1 (same ▸ List.mem_map_of_mem (List.mem_of_getElem? found))
      rw [countEntry, if_neg other, hypothesis distinct.2 found, List.set_cons_succ]

end RelationCatalogue

namespace RelationBuilder

/-! ### One more entry -/

/-- The index of a builder holds the names of its kinds, each with the position of its kind. -/
structure InStep (builder : RelationBuilder) : Prop where
  index_iff : ∀ name position, builder.index.get? name = some position ↔
    (builder.kinds.map RelationKind.name)[position]? = some name

theorem InStep.empty : InStep RelationBuilder.empty where
  index_iff := fun _ _ => ⟨nofun, nofun⟩

namespace InStep

variable {builder : RelationBuilder}

/-- No two kinds have one name, since the index knows a single position of it. -/
theorem names_nodup (inStep : builder.InStep) : (builder.kinds.map RelationKind.name).Nodup := by
  refine List.pairwise_iff_getElem.mpr fun first second firstBound secondBound before same => ?_
  have atFirst := (inStep.index_iff _ _).mpr (List.getElem?_eq_getElem firstBound)
  have atSecond := (inStep.index_iff _ _).mpr (List.getElem?_eq_getElem secondBound)
  rw [same, atSecond] at atFirst
  exact absurd (Option.some.inj atFirst) (Nat.ne_of_gt before)

theorem not_mem_names_of_none (inStep : builder.InStep) {name : String}
    (unknown : builder.index.get? name = none) : name ∉ builder.kinds.map RelationKind.name := by
  intro listed
  obtain ⟨position, standing⟩ := List.mem_iff_getElem?.mp listed
  rw [(inStep.index_iff name position).mpr standing] at unknown
  cases unknown

/-- The position behind the kinds becomes that of a new name. -/
theorem index_insert_iff (inStep : builder.InStep) {name : String}
    (new : name ∉ builder.kinds.map RelationKind.name) (other : String) (position : Nat) :
    (builder.index.insert name builder.kinds.length).get? other = some position ↔
      (builder.kinds.map RelationKind.name ++ [name])[position]? = some other := by
  have size : (builder.kinds.map RelationKind.name).length = builder.kinds.length :=
    List.length_map _
  rw [SortedMap.get?_insert, List.getElem?_append, size]
  by_cases within : position < builder.kinds.length
  · rw [if_pos within]
    by_cases same : name = other
    · subst same
      rw [if_pos rfl, Option.some.injEq]
      exact iff_of_false (Nat.ne_of_gt within) fun standing => new (List.mem_of_getElem? standing)
    · rw [if_neg same, inStep.index_iff]
  · rw [if_neg within]
    by_cases same : name = other
    · rw [if_pos same, same, Option.some.injEq, List.getElem?_singleton]
      split <;> simp <;> omega
    · have beyond : (builder.kinds.map RelationKind.name)[position]? = none :=
        List.getElem?_eq_none (size ▸ Nat.le_of_not_lt within)
      rw [if_neg same, inStep.index_iff, beyond, List.getElem?_singleton]
      split <;> simp [same]

/-- **One more entry** is counted where a search finds its kind, and the index stays in step. -/
theorem countEntry (inStep : builder.InStep) (typeName name : String) :
    ∃ next, builder.countEntry typeName name = some next ∧
      next.kinds = RelationCatalogue.countEntry typeName name builder.kinds ∧ next.InStep := by
  unfold RelationBuilder.countEntry locate
  cases known : builder.index.get? name with
  | some position =>
    -- The kind at the position is counted, and no name changes.
    have standing := (inStep.index_iff name position).mp known
    rw [List.getElem?_map, Option.map_eq_some_iff] at standing
    obtain ⟨kind, found, rfl⟩ := standing
    have counted := RelationCatalogue.countEntry_eq_set typeName inStep.names_nodup found
    have named := RelationCatalogue.map_name_countEntry typeName kind.name builder.kinds
    rw [if_pos (List.mem_map_of_mem (List.mem_of_getElem? found))] at named
    refine ⟨{ builder with kinds := builder.kinds.set position (kind.countFrom typeName) },
      ?_, counted.symm, ⟨fun other place => ?_⟩⟩
    · dsimp only
      rw [found, Option.map_some]
    · rw [← counted, named]
      exact inStep.index_iff other place
  | none =>
    -- The kind of the name is put last, and then counted there.
    have new := inStep.not_mem_names_of_none known
    have counted := RelationCatalogue.countEntry_of_new typeName new
    refine ⟨⟨builder.kinds ++ [RelationKind.countFrom typeName { name := name }],
      builder.index.insert name builder.kinds.length⟩, ?_, counted.symm, ⟨fun other place => ?_⟩⟩
    · dsimp only
      rw [List.getElem?_concat_length, Option.map_some, List.set_append_right _ _ (Nat.le_refl _),
        Nat.sub_self, List.set_cons_zero]
    · rw [List.map_append]
      exact inStep.index_insert_iff new other place

/-! ### Whole runs -/

/-- **All entries of a batch** are counted as in the catalogue. -/
theorem count (inStep : builder.InStep) (batch : RecordBatch) :
    ∃ next, builder.count batch = some next ∧
      next.finish = builder.finish.count batch.typeName batch.records ∧ next.InStep := by
  unfold RelationBuilder.count RelationCatalogue.count finish
  generalize RelationCatalogue.relationNames batch.records = names
  induction names generalizing builder with
  | nil => exact ⟨builder, rfl, rfl, inStep⟩
  | cons name rest hypothesis =>
    obtain ⟨next, counted, kinds, kept⟩ := inStep.countEntry batch.typeName name
    rw [List.foldlM_cons, counted, List.foldl_cons, ← kinds]
    exact hypothesis kept

/-- **All entries of several batches** are counted as in the catalogue. -/
theorem foldlM_count (inStep : builder.InStep) (batches : List RecordBatch) :
    ∃ last, batches.foldlM RelationBuilder.count builder = some last ∧
      last.finish = batches.foldl (fun catalogue batch =>
        catalogue.count batch.typeName batch.records) builder.finish ∧ last.InStep := by
  induction batches generalizing builder with
  | nil => exact ⟨builder, rfl, rfl, inStep⟩
  | cons batch rest hypothesis =>
    obtain ⟨next, counted, finished, kept⟩ := inStep.count batch
    rw [List.foldlM_cons, counted, List.foldl_cons, ← finished]
    exact hypothesis kept

end InStep

/-- **Counting with an index** never meets a stale position, and it builds the catalogue. -/
theorem countAll_eq (batches : List RecordBatch) :
    (countAll batches).map finish = some (RelationCatalogue.countAll batches) := by
  obtain ⟨last, built, finished, -⟩ := InStep.empty.foldlM_count batches
  rw [countAll, built, Option.map_some, finished]
  rfl

end RelationBuilder

end RecordSchema
