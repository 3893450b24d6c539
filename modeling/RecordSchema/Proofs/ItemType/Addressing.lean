/-
**How the fields of an item type are found and reached.**

A field is found under the key that its label has, through whichever of the two ways its values came
in: as a fixed attribute, which is called like its key, or as an entry of the field list.

* `Contribution.Addresses` — what a contribution says about its key, its label and its origin. Every
  contribution to a key does (`addresses_of_mem_contributionsTo`).
* `FieldSchema.Addressed` — what a field has in common with the key under which it is found. The
  field keeps what its last contribution says (`Observation.Gathers.addressed_schema`).
* `SortedMap.nodup_expressions` — fields that are addressed by their keys are reached by pairwise
  different expressions.
* `InferredType.addressed_of_ofRecords` — so are all inferred fields.
-/

import RecordSchema.Proofs.Field.Access
import RecordSchema.Proofs.ItemType.Tally

namespace RecordSchema

theorem FixedAttribute.fieldKey_name (which : FixedAttribute) :
    fieldKey which.name = which.name := by
  have spaceless : ' ' ∉ which.name.toList := by cases which <;> decide
  exact fieldKey_eq_self spaceless

/-! ### Contributions to a key -/

/-- A contribution is addressed by a key: its label has the key, and its origin may have it. -/
structure Contribution.Addresses (contribution : Contribution) (key : String) : Prop where
  fieldKey_label : fieldKey contribution.label = key
  fits : Access.OriginFits key contribution.isCustom

/-- **What contributes to a key** is addressed by it, whether it is an attribute or an entry. -/
theorem addresses_of_mem_contributionsTo {key : String} {records : List Record}
    {contribution : Contribution} (member : contribution ∈ contributionsTo key records) :
    contribution.Addresses key := by
  obtain ⟨record, -, contributed⟩ := List.mem_flatMap.mp member
  rcases List.mem_append.mp contributed with fixed | entered
  · obtain ⟨value, found, rfl⟩ := Option.map_eq_some_iff.mp (Option.mem_toList.mp fixed)
    obtain ⟨which, called, -⟩ := Option.bind_eq_some_iff.mp found
    have name : which.name = key := by simpa using List.find?_some called
    subst name
    exact ⟨which.fieldKey_name, fun _ => ⟨which, rfl⟩⟩
  · obtain ⟨present, listed, rfl⟩ := List.mem_map.mp entered
    exact ⟨beq_iff_eq.mp (List.mem_filter.mp listed).2, fun fixed => nomatch fixed⟩

/-! ### Fields under their keys -/

/-- What a field has in common with the key under which it is found. -/
structure FieldSchema.Addressed (field : FieldSchema) (key : String) : Prop where
  key_eq : field.key = key
  fieldKey_label : fieldKey field.label = key
  spaceless : ' ' ∉ key.toList
  /-- A field that is not custom is called like a fixed attribute. -/
  fits : Access.OriginFits key field.isCustom
  access_eq : field.access = Access.ofField key field.isCustom field.dataType

namespace FieldSchema.Addressed

variable {field otherField : FieldSchema} {key other : String}

theorem nodup_expressions (addressed : field.Addressed key) :
    field.access.expressions.Nodup := by
  rw [addressed.access_eq]
  exact Access.nodup_expressions addressed.fits _

theorem plain_inj (addressed : field.Addressed key) (otherAddressed : otherField.Addressed other)
    (same : field.access.plain = otherField.access.plain) : key = other := by
  rw [addressed.access_eq, otherAddressed.access_eq] at same
  exact Access.plain_ofField_inj addressed.fits otherAddressed.fits same

theorem eq_of_mem_expressions (addressed : field.Addressed key)
    (otherAddressed : otherField.Addressed other) {text : String}
    (member : text ∈ field.access.expressions) (also : text ∈ otherField.access.expressions) :
    key = other := by
  rw [addressed.access_eq] at member
  rw [otherAddressed.access_eq] at also
  exact Access.eq_of_mem_expressions addressed.fits otherAddressed.fits member also

end FieldSchema.Addressed

/-- **A field keeps** what the last contribution to its key says. -/
theorem Observation.Gathers.addressed_schema {observation : Observation} {key : String}
    {records : List Record} (gathered : observation.Gathers key (contributionsTo key records))
    (total : Nat) (limits : InferenceLimits) : (observation.schema total limits).Addressed key := by
  obtain ⟨last, isLast, label, origin⟩ := gathered.last_eq
  have addresses := addresses_of_mem_contributionsTo (List.mem_of_getLast? isLast)
  refine ⟨gathered.key_eq, ?label, ?spaceless, ?origin, ?access⟩
  case label =>
    show fieldKey observation.label = key
    rw [label, addresses.fieldKey_label]
  case spaceless =>
    rw [← addresses.fieldKey_label]
    exact not_mem_fieldKey last.label
  case origin =>
    show Access.OriginFits key observation.isCustom
    rw [origin]
    exact addresses.fits
  case access =>
    rw [← gathered.key_eq]
    rfl

/-- **Fields that are addressed by their keys** are reached by pairwise different expressions. -/
theorem SortedMap.nodup_expressions {fields : SortedMap FieldSchema}
    (addressed : ∀ key field, fields.get? key = some field → field.Addressed key) :
    (fields.values.flatMap fun field => field.access.expressions).Nodup := by
  have found : ∀ entry ∈ fields.entries, entry.2.Addressed entry.1 := fun entry member =>
    addressed entry.1 entry.2 (mem_entries_iff.mp member)
  rw [values, List.flatMap_map, List.nodup_flatMap]
  refine ⟨fun entry member => (found entry member).nodup_expressions, ?_⟩
  refine (List.Pairwise.of_map Prod.fst (fun _ _ different => different)
    fields.names_nodup).imp_of_mem ?_
  intro first second firstMember secondMember different text member also
  have own := found first firstMember
  exact different (own.eq_of_mem_expressions (found second secondMember) member also)

/-- **All inferred fields** are addressed by their keys. Two fields have different plain
expressions, and no expression that occurs among the fields occurs twice. -/
theorem InferredType.addressed_of_ofRecords {limits : InferenceLimits} {records : List Record}
    {inferred : InferredType} (result : InferredType.ofRecords limits records = .ok inferred) :
    (∀ key field, inferred.fields.get? key = some field → field.Addressed key) ∧
      (∀ key other field otherField, key ≠ other → inferred.fields.get? key = some field →
        inferred.fields.get? other = some otherField →
          field.access.plain ≠ otherField.access.plain) ∧
      (inferred.fields.values.flatMap fun field => field.access.expressions).Nodup := by
  have reads := InferredType.reads_of_ofRecords result
  have addressed : ∀ key field, inferred.fields.get? key = some field → field.Addressed key := by
    intro key field found
    obtain ⟨observation, -, gathered, rfl⟩ := reads.exists_observation found
    exact gathered.addressed_schema records.length limits
  refine ⟨addressed, ?_, SortedMap.nodup_expressions addressed⟩
  intro key other field otherField different found otherFound same
  have own := addressed key field found
  exact different (own.plain_inj (addressed other otherField otherFound) same)

/-- A narrative title, and an entry that is labelled like the expression of another field. -/
theorem InferredType.addressed_of_ofRecords_marked :
    let records : List Record := [{ title := some "<p>Alarm</p>", fields :=
      [⟨"Root Cause", some (.text "loose"), .string⟩,
        ⟨"fieldValue.Root Cause", some (.text "dirt"), .string⟩] }]
    ∃ inferred, ofRecords {} records = .ok inferred ∧
      (inferred.fields.values.flatMap fun field => field.access.expressions).Nodup ∧
      inferred.fields.values.flatMap (fun field => field.access.expressions) =
        ["fieldValue.Root_Cause", "~~fieldContent.Root_Cause",
          "fieldValue.fieldValue.Root_Cause", "~~fieldContent.fieldValue.Root_Cause",
          "title", "~~title"] := by
  intro records
  obtain ⟨inferred, result, -⟩ := ofRecords_reads {} (List.cons_ne_nil _ _ : records ≠ [])
  obtain ⟨-, -, different⟩ := addressed_of_ofRecords result
  have listed : (ofRecords {} records).toOption.map (fun inferred =>
      inferred.fields.values.flatMap fun field => field.access.expressions) =
        some ["fieldValue.Root_Cause", "~~fieldContent.Root_Cause",
          "fieldValue.fieldValue.Root_Cause", "~~fieldContent.fieldValue.Root_Cause",
          "title", "~~title"] := by
    decide +kernel
  rw [result] at listed
  exact ⟨inferred, result, different, Option.some.inj listed⟩

end RecordSchema
