/-
**Inference does not depend on the order of the records.**

* `Tally.map_observation?_eq` — a reading that does not tell apart observations of reordered
  contributions gives the same after reordered records, under every key.
* `InferredType.ofRecords_perm` — reordered records give the same number of records, the same
  statuses, the same keys, and under each key the same fill rate. Where the order of the
  contributions to no key shows, they give the same inferred type.
-/

import RecordSchema.Proofs.Field.Reordering
import RecordSchema.Proofs.ItemType.Tally

namespace RecordSchema

/-- What an inferred type says apart from the descriptions of its fields. -/
structure InferredType.Outline where
  recordCount : Nat
  statuses : List String
  /-- The fill rate under each key. -/
  fillRates : SortedMap (Option Binary64)

/-- An inferred type without the descriptions of its fields. -/
def InferredType.outline (inferred : InferredType) : InferredType.Outline :=
  ⟨inferred.recordCount, inferred.statuses, inferred.fields.map FieldSchema.fillRate⟩

section Reordered

variable {records shuffled : List Record} (reordered : records.Perm shuffled)

include reordered

theorem contributionsTo_perm (key : String) :
    (contributionsTo key records).Perm (contributionsTo key shuffled) :=
  reordered.flatMap_right (Record.contributionsTo key)

/-- **Observations of reordered records** read alike under a reading that does not tell apart
observations of reordered contributions. -/
theorem Tally.map_observation?_eq {β : Type} {reading : Observation → β} {key : String}
    (alike : ∀ first second, first.Gathers key (contributionsTo key records) →
      second.Gathers key (contributionsTo key shuffled) → reading first = reading second) :
    ((start.addAll records).observation? key).map reading =
      ((start.addAll shuffled).observation? key).map reading := by
  obtain ⟨absent, gathers⟩ := observation?_addAll records key
  obtain ⟨shuffledAbsent, shuffledGathers⟩ := observation?_addAll shuffled key
  -- Reordering keeps whether there is any contribution, so both observations exist or none does.
  have same : (start.addAll records).observation? key = none ↔
      (start.addAll shuffled).observation? key = none := by
    rw [absent, shuffledAbsent, ← List.length_eq_zero_iff, ← List.length_eq_zero_iff,
      (contributionsTo_perm reordered key).length_eq]
  cases found : (start.addAll records).observation? key with
  | none => rw [same.mp found]
  | some first =>
    cases shuffledFound : (start.addAll shuffled).observation? key with
    | none =>
      rw [same.mpr shuffledFound] at found
      cases found
    | some second =>
      exact congrArg some (alike first second (gathers first found)
        (shuffledGathers second shuffledFound))

namespace InferredType.Reads

variable {limits : InferenceLimits} {first second : InferredType}
  (reads : first.Reads limits records) (rereads : second.Reads limits shuffled)

include reads rereads

theorem recordCount_eq_of_perm : first.recordCount = second.recordCount := by
  rw [reads.recordCount_eq, rereads.recordCount_eq, reordered.length_eq]

theorem statuses_eq_of_perm : first.statuses = second.statuses := by
  refine SortedMap.names_ext reads.statuses_ascending rereads.statuses_ascending fun status => ?_
  rw [reads.mem_statuses_iff, rereads.mem_statuses_iff]
  simp only [reordered.mem_iff]

/-- A field reads alike after both orders where descriptions of reordered contributions do. -/
theorem map_get?_fields_eq {β : Type} {reading : FieldSchema → β} {key : String}
    (alike : ∀ seen reseen : Observation, seen.Gathers key (contributionsTo key records) →
      reseen.Gathers key (contributionsTo key shuffled) →
        reading (seen.schema records.length limits) =
          reading (reseen.schema records.length limits)) :
    (first.fields.get? key).map reading = (second.fields.get? key).map reading := by
  rw [reads.get?_fields, rereads.get?_fields, ← reordered.length_eq, Option.map_map,
    Option.map_map]
  exact Tally.map_observation?_eq reordered alike

/-- **The outline** does not depend on the order of the records. -/
theorem outline_eq_of_perm : first.outline = second.outline := by
  have fillRates : first.fields.map FieldSchema.fillRate =
      second.fields.map FieldSchema.fillRate := by
    refine SortedMap.ext_get? fun key => ?_
    rw [SortedMap.get?_map, SortedMap.get?_map]
    refine reads.map_get?_fields_eq reordered rereads fun seen reseen gathered regathered => ?_
    exact gathered.fillRate_schema_eq regathered (contributionsTo_perm reordered key) _ limits
  unfold outline
  rw [reads.recordCount_eq_of_perm reordered rereads, reads.statuses_eq_of_perm reordered rereads,
    fillRates]

/-- **The inferred type** is the same where no key shows the order of its contributions. -/
theorem eq_of_settles (settled : ∀ key, limits.Settles (contributionsTo key records)) :
    first = second := by
  have fields : first.fields = second.fields := by
    refine SortedMap.ext_get? fun key => ?_
    have same : (first.fields.get? key).map id = (second.fields.get? key).map id := by
      refine reads.map_get?_fields_eq reordered rereads fun seen reseen gathered regathered => ?_
      exact gathered.schema_eq regathered (contributionsTo_perm reordered key) (settled key) _
    rw [Option.map_id] at same
    exact same
  have counts := reads.recordCount_eq_of_perm reordered rereads
  have statuses := reads.statuses_eq_of_perm reordered rereads
  cases first
  cases second
  cases fields
  cases counts
  cases statuses
  rfl

end InferredType.Reads

end Reordered

/-- **Inference does not depend on the order of the records.** The number of records, the statuses,
the keys and the fill rates are the same in every order, and where no key shows the order of its
contributions, so is all the rest. -/
theorem InferredType.ofRecords_perm (limits : InferenceLimits) {records shuffled : List Record}
    (reordered : records.Perm shuffled) :
    (ofRecords limits records).map outline = (ofRecords limits shuffled).map outline ∧
      ((∀ key, limits.Settles (contributionsTo key records)) →
        ofRecords limits records = ofRecords limits shuffled) := by
  by_cases empty : records = []
  · have shuffledEmpty : shuffled = [] := (empty ▸ reordered).nil_eq.symm
    rw [empty, shuffledEmpty]
    exact ⟨rfl, fun _ => rfl⟩
  · have shuffledNonempty : shuffled ≠ [] := fun shuffledEmpty =>
      empty (shuffledEmpty ▸ reordered).eq_nil
    obtain ⟨first, inferred, reads⟩ := ofRecords_reads limits empty
    obtain ⟨second, reinferred, rereads⟩ := ofRecords_reads limits shuffledNonempty
    rw [inferred, reinferred]
    refine ⟨?_, fun settled => ?_⟩
    · show Except.ok first.outline = Except.ok second.outline
      rw [reads.outline_eq_of_perm reordered rereads]
    · rw [reads.eq_of_settles reordered rereads settled]

/-- Two records that differ in title and status give the same inferred type in both orders. -/
theorem InferredType.ofRecords_perm_status :
    let records : List Record :=
      [{ title := some "A", fields := [⟨"Status", some (.text "Open"), .string⟩] },
        { title := some "B", fields := [⟨"Status", some (.text "Closed"), .string⟩] }]
    records ≠ records.reverse ∧ ofRecords {} records = ofRecords {} records.reverse := by
  intro records
  have reordered : records.Perm records.reverse := (List.reverse_perm records).symm
  have settled : ∀ key, InferenceLimits.Settles {} (contributionsTo key records) :=
    InferenceLimits.settles_of_few (by decide +kernel) (by decide +kernel) (by decide +kernel)
  refine ⟨fun same => ?_, (ofRecords_perm {} reordered).2 settled⟩
  have titles := congrArg (List.map Record.title) same
  revert titles
  decide

end RecordSchema
