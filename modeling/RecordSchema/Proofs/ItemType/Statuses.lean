/-
**The statuses of a type and the domain of its status field.**

The statuses are collected under the exact status label, the domain under the key of a label. Only
the status label itself has that key, so both describe the same values:

* `canonical_contributionsTo_status` — the statuses are the texts of the contributions to the
  status key.
* `InferredType.domain_status` — there are statuses exactly if there is a status field, and where
  its values are short, its domain lists the statuses, or as many of them as it may.
-/

import RecordSchema.Proofs.Field.Domain
import RecordSchema.Proofs.ItemType.Tally

namespace RecordSchema

/-! ### The status key -/

/-- No fixed attribute is called like the status, and only entries labelled so have its key. -/
theorem Record.contributionsTo_status (record : Record) :
    record.contributionsTo statusLabel =
      (record.presentEntries.filter fun present => present.1.label == statusLabel).map
        fun present => Contribution.ofEntry present.1 present.2 := by
  have noAttribute : FixedAttribute.all.find? (fun which => which.name == statusLabel) = none := by
    decide
  rw [Record.contributionsTo, noAttribute, record.filter_key_presentEntries (by decide) (by decide)]
  rfl

/-- **The statuses** are the texts of the contributions to the status key. -/
theorem canonical_contributionsTo_status (records : List Record) :
    (contributionsTo statusLabel records).map (fun contribution => contribution.value.canonical) =
      records.flatMap Record.statuses := by
  rw [contributionsTo, List.map_flatMap]
  refine congrArg (records.flatMap ·) (funext fun record => ?_)
  rw [Record.contributionsTo_status, Record.statuses, List.map_map]
  rfl

namespace InferredType

variable {inferred : InferredType} {limits : InferenceLimits} {records : List Record}

theorem Reads.mem_statuses_iff_contributions (reads : inferred.Reads limits records)
    {status : String} : status ∈ inferred.statuses ↔
      ∃ contribution ∈ contributionsTo statusLabel records,
        contribution.value.canonical = status := by
  rw [← List.mem_map, canonical_contributionsTo_status, List.mem_flatMap, reads.mem_statuses_iff]
  refine exists_congr fun record => and_congr_right fun _ => ?_
  exact Record.mem_statuses_iff.symm

theorem Reads.statuses_nodup (reads : inferred.Reads limits records) : inferred.statuses.Nodup :=
  reads.statuses_ascending.imp fun below => Entries.ne_of_lt below

/-- **There are statuses** exactly if there is a status field. -/
theorem Reads.statuses_ne_nil_iff (reads : inferred.Reads limits records) :
    inferred.statuses ≠ [] ↔ statusLabel ∈ inferred.fields.names := by
  rw [reads.mem_names_iff]
  constructor
  · intro nonempty
    obtain ⟨status, member⟩ := List.exists_mem_of_ne_nil _ nonempty
    obtain ⟨contribution, contributed, -⟩ := reads.mem_statuses_iff_contributions.mp member
    exact List.ne_nil_of_mem contributed
  · intro nonempty
    obtain ⟨contribution, contributed⟩ := List.exists_mem_of_ne_nil _ nonempty
    exact List.ne_nil_of_mem
      (reads.mem_statuses_iff_contributions.mpr ⟨contribution, contributed, rfl⟩)

/-- The distinct texts of short status values are the statuses, in another order. -/
theorem Reads.distinct_perm_statuses (reads : inferred.Reads limits records)
    {observation : Observation}
    (gathered : observation.Gathers statusLabel (contributionsTo statusLabel records))
    (fits : ∀ value ∈ observation.values, value.FitsIn limits.maxValueLength) :
    (limits.domainLimits.distinct observation.values).Perm inferred.statuses := by
  rw [List.perm_ext_iff_of_nodup (DomainLimits.nodup_distinct _ _) reads.statuses_nodup]
  intro status
  rw [DomainLimits.mem_distinct_iff, reads.mem_statuses_iff_contributions]
  rw [gathered.values_eq] at fits ⊢
  constructor
  · rintro ⟨value, member, clipped⟩
    obtain ⟨contribution, contributed, rfl⟩ := List.mem_map.mp member
    have whole : limits.domainLimits.clip contribution.value = contribution.value.canonical :=
      DomainLimits.clip_eq_canonical (fits contribution.value member)
    exact ⟨contribution, contributed, whole.symm.trans clipped⟩
  · rintro ⟨contribution, contributed, canonical⟩
    have member := List.mem_map_of_mem (f := Contribution.value) contributed
    refine ⟨contribution.value, member, ?_⟩
    exact (DomainLimits.clip_eq_canonical (fits contribution.value member)).trans canonical

/-- **The domain of the status field.** Where the field is no rich text and its values are short, it
lists all statuses while they are few, and otherwise as many of them as it may. -/
theorem domain_status (result : InferredType.ofRecords limits records = .ok inferred) :
    (inferred.statuses ≠ [] ↔ statusLabel ∈ inferred.fields.names) ∧
      ∀ field, inferred.fields.get? statusLabel = some field → field.dataType ≠ .richText →
        (∀ observation, (Tally.start.addAll records).observation? statusLabel = some observation →
          ∀ value ∈ observation.values, value.FitsIn limits.maxValueLength) →
        (inferred.statuses.length ≤ limits.maxUniqueValues →
          field.domain = .enumerated inferred.statuses) ∧
        (limits.maxUniqueValues < inferred.statuses.length →
          ∃ examples, field.domain = .examples examples ∧
            examples.length = min limits.maxExampleValues inferred.statuses.length ∧
            examples.Nodup ∧ ∀ shown ∈ examples, shown ∈ inferred.statuses) := by
  have reads := reads_of_ofRecords result
  refine ⟨reads.statuses_ne_nil_iff, fun field found plain fits => ?_⟩
  obtain ⟨observation, observed, gathered, rfl⟩ := reads.exists_observation found
  have texts := reads.distinct_perm_statuses gathered (fits observation observed)
  have valued := reads.values_ne_nil found gathered
  exact ⟨DomainLimits.domainOf_of_few plain valued texts reads.statuses_ascending,
    DomainLimits.domainOf_of_many plain valued texts⟩

/-- Two statuses on three records are examples where only one may be listed. -/
theorem domain_status_open :
    let ofStatus (status : String) : Record :=
      { fields := [⟨statusLabel, some (.text status), .string⟩] }
    let records : List Record := [ofStatus "Open", ofStatus "Open", ofStatus "Closed"]
    ∃ inferred field examples, ofRecords { maxUniqueValues := 1 } records = .ok inferred ∧
      inferred.fields.get? statusLabel = some field ∧ field.domain = .examples examples ∧
        examples.length = 2 := by
  intro ofStatus records
  obtain ⟨inferred, result, reads⟩ :=
    ofRecords_reads { maxUniqueValues := 1 } (List.cons_ne_nil _ _ : records ≠ [])
  have two : inferred.statuses.length = 2 := by
    have counted : (ofRecords { maxUniqueValues := 1 } records).toOption.map
        (fun inferred => inferred.statuses.length) = some 2 := by
      decide +kernel
    rw [result] at counted
    exact Option.some.inj counted
  have isField := reads.statuses_ne_nil_iff.mp (List.ne_nil_of_length_pos (by omega))
  obtain ⟨field, found⟩ := reads.exists_field_iff.mpr ((reads.mem_names_iff statusLabel).mp isField)
  obtain ⟨observation, observed, -, rfl⟩ := reads.exists_observation found
  have seen : ((Tally.start.addAll records).observation? statusLabel).map (fun observation =>
      (observation.dataType { maxUniqueValues := 1 },
        observation.values.map FieldValue.textContent?)) =
          some (.string, [some "Open", some "Open", some "Closed"]) := by
    decide +kernel
  rw [observed] at seen
  obtain ⟨string, texts⟩ := Prod.mk.inj (Option.some.inj seen)
  have plain : observation.dataType { maxUniqueValues := 1 } ≠ .richText := by
    rw [string]
    decide
  have fits : ∀ value ∈ observation.values, value.FitsIn 100 := by
    intro value member content isText
    have listed := List.mem_map_of_mem (f := FieldValue.textContent?) member
    rw [texts, isText] at listed
    have short : ∀ text ∈ [some "Open", some "Open", some "Closed"],
        ∀ content ∈ text, content.length ≤ 100 := by decide
    exact short _ listed content rfl
  obtain ⟨-, domain⟩ := domain_status result
  obtain ⟨-, many⟩ := domain _ found plain fun other otherObserved => by
    rw [observed] at otherObserved
    cases otherObserved
    exact fits
  obtain ⟨examples, shown, length, -⟩ := many (by rw [two]; decide)
  rw [two] at length
  exact ⟨inferred, _, examples, result, found, shown, length⟩

end InferredType

end RecordSchema
