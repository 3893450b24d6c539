/-
**What a tally says about its records.**

* `Tally.observation?_addAll` — the observation under a key holds the contributions to that key,
  and there is one exactly if there are any.
* `InferredType.Reads` — what is inferred, read off the records: one field for each key with a
  contribution, and the distinct statuses.
* `InferredType.ofRecords_reads` — inference gives that for every list of records but the empty one.
* `InferredType.Reads.exists_observation` — a field describes the contributions to its key.
* `Tally.addAll_reads` — both together: the fold of records is its reading.
-/

import RecordSchema.Proofs.Field.Contributions
import RecordSchema.Proofs.SortedMap

namespace RecordSchema

namespace Tally

/-- Adding records runs through all their contributions. -/
theorem observations_addAll (tally : Tally) (records : List Record) :
    (tally.addAll records).observations =
      (records.flatMap Record.contributions).foldl contribute tally.observations := by
  induction records generalizing tally with
  | nil => rfl
  | cons record rest hypothesis =>
    show ((tally.add record).addAll rest).observations = _
    rw [hypothesis, List.flatMap_cons, List.foldl_append]
    rfl

/-- **The observation under a key**, after records were added to an empty tally. -/
theorem observation?_addAll (records : List Record) (key : String) :
    ((start.addAll records).observation? key = none ↔ contributionsTo key records = []) ∧
      ∀ observation, (start.addAll records).observation? key = some observation →
        observation.Gathers key (contributionsTo key records) := by
  have run := gathers_of_foldl_contribute (records.flatMap Record.contributions) key
  rw [filter_flatMap_contributions] at run
  rw [observation?, observations_addAll]
  exact run

/-- Adding records collects all their statuses. -/
theorem statuses_addAll (tally : Tally) (records : List Record) :
    (tally.addAll records).statuses =
      tally.statuses.insertAll (records.flatMap Record.statuses) := by
  induction records generalizing tally with
  | nil => rfl
  | cons record rest hypothesis =>
    show ((tally.add record).addAll rest).statuses = _
    rw [hypothesis, List.flatMap_cons]
    exact (List.foldl_append ..).symm

theorem recordCount_start_addAll (records : List Record) :
    (start.addAll records).recordCount = records.length := by
  rw [recordCount_addAll]
  exact Nat.zero_add _

/-- There is no result exactly without records. -/
theorem result_addAll_eq_noRecords_iff (limits : InferenceLimits) (records : List Record) :
    (start.addAll records).result limits = .error .noRecords ↔ records = [] := by
  rw [result, recordCount_start_addAll, ← List.length_eq_zero_iff]
  by_cases empty : records.length = 0
  · simp [empty]
  · simp [empty]

end Tally

/-- The statuses of a record are the present values under the status label. -/
theorem Record.mem_statuses_iff {record : Record} {status : String} :
    status ∈ record.statuses ↔
      ∃ present ∈ record.presentEntries,
        present.1.label = statusLabel ∧ present.2.canonical = status := by
  rw [Record.statuses, List.mem_map]
  refine ⟨fun given => ?_, fun given => ?_⟩
  · obtain ⟨present, member, text⟩ := given
    rw [List.mem_filter, beq_iff_eq] at member
    exact ⟨present, member.1, member.2, text⟩
  · obtain ⟨present, member, label, text⟩ := given
    exact ⟨present, List.mem_filter.mpr ⟨member, beq_iff_eq.mpr label⟩, text⟩

/-! ### The inferred type -/

/-- What is inferred of records, read off the records. -/
structure InferredType.Reads (inferred : InferredType) (limits : InferenceLimits)
    (records : List Record) : Prop where
  recordCount_eq : inferred.recordCount = records.length
  /-- A field is the description of its observation. -/
  get?_fields : ∀ key, inferred.fields.get? key =
    ((Tally.start.addAll records).observation? key).map fun observation =>
      observation.schema records.length limits
  names_nodup : inferred.fields.names.Nodup
  /-- There is a field for each key with a contribution. -/
  mem_names_iff : ∀ key, key ∈ inferred.fields.names ↔ contributionsTo key records ≠ []
  statuses_ascending : inferred.statuses.Pairwise (· < ·)
  mem_statuses_iff : ∀ status, status ∈ inferred.statuses ↔
    ∃ record ∈ records, ∃ present ∈ record.presentEntries,
      present.1.label = statusLabel ∧ present.2.canonical = status

/-- **Inference succeeds on records**, and what it gives can be read off them. -/
theorem InferredType.ofRecords_reads (limits : InferenceLimits) {records : List Record}
    (nonempty : records ≠ []) :
    ∃ inferred, InferredType.ofRecords limits records = .ok inferred ∧
      inferred.Reads limits records := by
  have counted : ¬ records.length = 0 := fun zero => nonempty (List.length_eq_zero_iff.mp zero)
  unfold InferredType.ofRecords Tally.result
  rw [Tally.recordCount_start_addAll, if_neg counted]
  have fields : ∀ key, ((Tally.start.addAll records).observations.map fun observation =>
      observation.schema records.length limits).get? key =
        ((Tally.start.addAll records).observation? key).map fun observation =>
          observation.schema records.length limits := fun key => SortedMap.get?_map _ _ key
  refine ⟨_, rfl, rfl, fields, ?_, fun key => ?_, ?_, fun status => ?_⟩
  · exact SortedMap.names_nodup _
  · rw [SortedMap.mem_names_iff, fields, Option.isSome_map, Option.isSome_iff_ne_none]
    exact not_congr (Tally.observation?_addAll records key).1
  · exact SortedMap.names_pairwise_lt _
  · rw [Tally.statuses_addAll, NameSet.mem_insertAll_iff, List.mem_flatMap]
    refine ⟨fun given => ?_, fun given => ?_⟩
    · obtain (⟨record, member, found⟩ | older) := given
      · exact ⟨record, member, Record.mem_statuses_iff.mp found⟩
      · cases older
    · obtain ⟨record, member, found⟩ := given
      exact Or.inl ⟨record, member, Record.mem_statuses_iff.mpr found⟩

theorem InferredType.ne_nil_of_ofRecords {limits : InferenceLimits} {records : List Record}
    {inferred : InferredType} (result : InferredType.ofRecords limits records = .ok inferred) :
    records ≠ [] := by
  rintro rfl
  cases result

/-- What was inferred can be read off its records. -/
theorem InferredType.reads_of_ofRecords {limits : InferenceLimits} {records : List Record}
    {inferred : InferredType} (result : InferredType.ofRecords limits records = .ok inferred) :
    inferred.Reads limits records := by
  obtain ⟨read, given, reads⟩ :=
    InferredType.ofRecords_reads limits (InferredType.ne_nil_of_ofRecords result)
  rw [given] at result
  cases result
  exact reads

namespace InferredType.Reads

variable {inferred : InferredType} {limits : InferenceLimits} {records : List Record}
  (reads : inferred.Reads limits records) {key : String}

include reads

theorem exists_field_iff :
    (∃ field, inferred.fields.get? key = some field) ↔ contributionsTo key records ≠ [] := by
  rw [← reads.mem_names_iff, SortedMap.mem_names_iff, Option.isSome_iff_exists]

/-- **A field describes an observation**, which holds all contributions to its key. -/
theorem exists_observation {field : FieldSchema} (found : inferred.fields.get? key = some field) :
    ∃ observation, (Tally.start.addAll records).observation? key = some observation ∧
      observation.Gathers key (contributionsTo key records) ∧
        field = observation.schema records.length limits := by
  rw [reads.get?_fields] at found
  obtain ⟨observation, observed, described⟩ := Option.map_eq_some_iff.mp found
  exact ⟨observation, observed, (Tally.observation?_addAll records key).2 observation observed,
    described.symm⟩

/-- The observation of a field has a value. -/
theorem values_ne_nil {field : FieldSchema} (found : inferred.fields.get? key = some field)
    {observation : Observation} (gathered : observation.Gathers key (contributionsTo key records)) :
    observation.values ≠ [] := by
  rw [gathered.values_eq]
  exact mt List.map_eq_nil_iff.mp (reads.exists_field_iff.mp ⟨field, found⟩)

end InferredType.Reads

/-- **The fold of records is its reading.** An observation holds the contributions to its key, all
in order, and the result has a field for each key with a contribution. -/
theorem Tally.addAll_reads (limits : InferenceLimits) (records : List Record) :
    (∀ key,
      ((start.addAll records).observation? key = none ↔ contributionsTo key records = []) ∧
        ∀ observation, (start.addAll records).observation? key = some observation →
          observation.Gathers key (contributionsTo key records)) ∧
      ((start.addAll records).result limits = .error .noRecords ↔ records = []) ∧
      (records ≠ [] → ∃ inferred, (start.addAll records).result limits = .ok inferred ∧
        inferred.Reads limits records) :=
  ⟨observation?_addAll records, result_addAll_eq_noRecords_iff limits records,
    InferredType.ofRecords_reads limits⟩

/-- A title and a later entry of the same name are gathered under one key. -/
theorem Tally.addAll_reads_title :
    let records : List Record :=
      [{ title := some "A", fields := [⟨"title", some (.text "B"), .string⟩] }]
    ∃ observation inferred,
      (start.addAll records).observation? "title" = some observation ∧
        observation.values = [.text "A", .text "B"] ∧ observation.isCustom = true ∧
        (start.addAll records).result {} = .ok inferred ∧ "title" ∈ inferred.fields.names := by
  intro records
  obtain ⟨observations, -, results⟩ := addAll_reads {} records
  have own : contributionsTo "title" records = [.ofFixed "title" (.text "A"),
      ⟨"title", .text "B", some .string, true, "title"⟩] := by
    have key : fieldKey "title" = "title" := fieldKey_eq_self (by decide)
    show Contribution.ofFixed "title" (.text "A") ::
      ([((⟨"title", some (.text "B"), .string⟩ : FieldEntry), FieldValue.text "B")].filter
          fun present => fieldKey present.1.label == "title").map
        (fun present => Contribution.ofEntry present.1 present.2) ++ [] = _
    simp [Contribution.ofEntry, key]
  have nonempty : contributionsTo "title" records ≠ [] := own ▸ List.cons_ne_nil _ _
  obtain ⟨observation, observed⟩ := Option.ne_none_iff_exists'.mp
    (mt (observations "title").1.mp nonempty)
  have gathered := (observations "title").2 observation observed
  obtain ⟨inferred, result, reads⟩ := results (List.cons_ne_nil _ _)
  have isField := (reads.mem_names_iff "title").mpr nonempty
  refine ⟨observation, inferred, observed, ?_, ?_, result, isField⟩
  · rw [gathered.values_eq, own]
    rfl
  · obtain ⟨last, isLast, -, origin⟩ := gathered.last_eq
    rw [own] at isLast
    cases isLast
    exact origin

end RecordSchema
