/-
**One description for each field.**

Rich text has an expression that renders it. Any other field has a list of its values, and limits
without a fault leave no list empty, so each field is described in exactly one way.

* `InferenceLimits.fault?_eq_none_iff` — limits are faultless if none that has to be positive is
  zero.
* `DomainLimits.domainOf_listed` — the list that describes values, and how long it is.
* `FieldSchema.member?_toJson_of_list` — a written field has the list of its domain and no other.
* `FieldSchema.DescribedOnce` — a field that is described in exactly one way.
* `InferredType.describedOnce_of_ofRecords` — so is every field that is inferred under faultless
  limits.
-/

import RecordSchema.Proofs.Field.Domain
import RecordSchema.Proofs.ItemType.Tally

namespace RecordSchema

/-! ### Faultless limits -/

/-- Limits are faultless if none that has to be positive is zero. -/
theorem InferenceLimits.fault?_eq_none_iff {limits : InferenceLimits} :
    limits.fault? = none ↔ ∀ limit ∈ limits.positiveLimits, limit.2 ≠ 0 := by
  rw [fault?, Option.map_eq_none_iff, List.find?_eq_none]
  refine forall₂_congr fun limit _ => ?_
  rw [beq_iff_eq]

theorem InferenceLimits.maxExampleValues_pos {limits : InferenceLimits}
    (faultless : limits.fault? = none) : 0 < limits.maxExampleValues := by
  have positive := fault?_eq_none_iff.mp faultless ("maxExampleValues", limits.maxExampleValues)
  exact Nat.pos_of_ne_zero (positive (by simp [positiveLimits]))

/-! ### Listed values -/

namespace DomainLimits

variable {limits : DomainLimits} {dataType : DataType} {values : List FieldValue}

theorem length_distinct_pos (valued : values ≠ []) : 0 < (limits.distinct values).length := by
  obtain ⟨value, member⟩ := List.exists_mem_of_ne_nil values valued
  exact List.length_pos_of_mem (mem_distinct_iff.mpr ⟨value, member, rfl⟩)

/-- **Values that are no rich text** are listed: all distinct texts where they are few, and
otherwise as many examples as the limits allow. -/
theorem domainOf_listed (limits : DomainLimits) (positive : 0 < limits.maxExampleValues)
    (plain : dataType ≠ .richText) (valued : values ≠ []) :
    (∃ listed, limits.domainOf dataType values = .enumerated listed ∧ listed ≠ [] ∧
      listed.length = (limits.distinct values).length ∧
        (limits.distinct values).length ≤ limits.maxUniqueValues) ∨
    ∃ examples, limits.domainOf dataType values = .examples examples ∧ examples ≠ [] ∧
      examples.length ≤ limits.maxExampleValues ∧
        limits.maxUniqueValues < (limits.distinct values).length := by
  have distinct : 0 < (limits.distinct values).length := length_distinct_pos valued
  have sorted := distinct_perm_names limits values
  rcases Nat.lt_or_ge limits.maxUniqueValues (limits.distinct values).length with many | few
  · obtain ⟨examples, shown, length, -⟩ :=
      domainOf_of_many plain valued (List.Perm.refl _) many
    have nonempty : 0 < examples.length := by
      rw [length]
      exact Nat.lt_min.mpr ⟨positive, distinct⟩
    exact Or.inr ⟨examples, shown, List.ne_nil_of_length_pos nonempty,
      length ▸ Nat.min_le_left _ _, many⟩
  · have all := domainOf_of_few plain valued sorted (SortedMap.names_pairwise_lt _)
      (sorted.length_eq ▸ few)
    have nonempty := List.ne_nil_of_length_pos (sorted.length_eq ▸ distinct)
    exact Or.inl ⟨_, all, nonempty, sorted.length_eq.symm, few⟩

/-- Values have no domain exactly if they are rich text. -/
theorem isEmpty_domainOf_iff (limits : DomainLimits) (positive : 0 < limits.maxExampleValues)
    (valued : values ≠ []) :
    (limits.domainOf dataType values).isEmpty = true ↔ dataType = .richText := by
  by_cases isRich : dataType = .richText
  · rw [(domainOf_eq_empty_iff limits dataType values).mpr (Or.inl isRich)]
    exact iff_of_true rfl isRich
  · rcases limits.domainOf_listed positive isRich valued with
      ⟨texts, described, nonempty, -⟩ | ⟨texts, described, nonempty, -⟩
    · rw [described]
      exact iff_of_false (mt List.isEmpty_iff.mp nonempty) isRich
    · rw [described]
      exact iff_of_false (mt List.isEmpty_iff.mp nonempty) isRich

end DomainLimits

/-! ### Written fields -/

/-- The names of the members that list values. -/
def listNames : List String := ["uniqueValues", "exampleValues"]

namespace FieldSchema

open Json (Value)

/-- **A written field** has the list of its domain, and no other member is called like a list. -/
theorem member?_toJson_of_list {field : FieldSchema} {name : String} (isList : name ∈ listNames) :
    field.toJson.member? name = Entries.find? name (domainMembers field.domain) := by
  have apart : ∀ other ∈ ["label", "dataType", "access", "isCustomField", "fillRate"],
      other ∉ listNames := by
    decide
  have others : ∀ other ∈ ["label", "dataType", "access", "isCustomField", "fillRate"],
      other ≠ name := fun other member same => apart other member (same ▸ isList)
  have before : Entries.find? name (
      [("label", Value.string field.label), ("dataType", .string field.dataType.name),
        ("access", field.access.toJson)] ++
      (if field.isCustom then [("isCustomField", .bool true)] else [])) = none := by
    refine Entries.find?_eq_none_of_forall fun entry member => others entry.1 ?_
    rcases List.mem_append.mp member with fixed | marked
    · simp only [List.mem_cons, List.not_mem_nil, or_false] at fixed
      rcases fixed with rfl | rfl | rfl <;> simp
    · split at marked
      · rw [List.mem_singleton.mp marked]
        simp
      · cases marked
  have behind : Entries.find? name
      (field.fillRateText?.map fun text => ("fillRate", Value.string text)).toList = none := by
    refine Entries.find?_eq_none_of_forall fun entry member => others entry.1 ?_
    obtain ⟨text, -, rfl⟩ := Option.map_eq_some_iff.mp (Option.mem_toList.mp member)
    simp
  rw [toJson, Value.member?_object, Entries.find?_append, Entries.find?_append, before, behind,
    Option.none_or, Option.or_none]

theorem domainMembers_enumerated {texts : List String} (nonempty : texts ≠ []) :
    domainMembers (.enumerated texts) = [("uniqueValues", .ofTexts texts)] :=
  if_neg (mt List.isEmpty_iff.mp nonempty)

theorem domainMembers_examples {texts : List String} (nonempty : texts ≠ []) :
    domainMembers (.examples texts) = [("exampleValues", .ofTexts texts)] :=
  if_neg (mt List.isEmpty_iff.mp nonempty)

/-- A field that is described in exactly one way: rich text by an expression that renders it and by
no list of values, and any other field by one list, which has a value and is not too long. It has as
many values as there are distinct texts, and only where these are too many, there are examples. -/
structure DescribedOnce (field : FieldSchema) (limits : InferenceLimits)
    (values : List FieldValue) : Prop where
  richText_iff : field.dataType = .richText ↔ field.access.rich.isSome = true
  rich_iff : field.access.rich.isSome = true ↔ field.domain.isEmpty = true
  unlisted : field.dataType = .richText →
    field.toJson.member? "uniqueValues" = none ∧ field.toJson.member? "exampleValues" = none
  listed : field.dataType ≠ .richText →
    (∃ texts, field.toJson.member? "uniqueValues" = some (.ofTexts texts) ∧
      field.toJson.member? "exampleValues" = none ∧
        texts ≠ [] ∧ texts.length ≤ limits.maxUniqueValues ∧
          texts.length = (limits.domainLimits.distinct values).length) ∨
    ∃ texts, field.toJson.member? "exampleValues" = some (.ofTexts texts) ∧
      field.toJson.member? "uniqueValues" = none ∧
        texts ≠ [] ∧ texts.length ≤ limits.maxExampleValues ∧
          limits.maxUniqueValues < (limits.domainLimits.distinct values).length

end FieldSchema

/-- **A field that has a value** is described in exactly one way under faultless limits. -/
theorem Observation.describedOnce {limits : InferenceLimits} {observation : Observation}
    (faultless : limits.fault? = none) (valued : observation.values ≠ []) (records : Nat) :
    (observation.schema records limits).DescribedOnce limits observation.values := by
  have positive := InferenceLimits.maxExampleValues_pos faultless
  let field := observation.schema records limits
  have rich : field.access.rich.isSome = true ↔ field.dataType = .richText :=
    Access.rich_isSome_iff observation.key observation.isCustom field.dataType
  have undescribed : field.domain.isEmpty = true ↔ field.dataType = .richText :=
    limits.domainLimits.isEmpty_domainOf_iff positive valued
  have unique : field.toJson.member? "uniqueValues" =
      Entries.find? "uniqueValues" (FieldSchema.domainMembers field.domain) :=
    FieldSchema.member?_toJson_of_list List.mem_cons_self
  have shown : field.toJson.member? "exampleValues" =
      Entries.find? "exampleValues" (FieldSchema.domainMembers field.domain) :=
    FieldSchema.member?_toJson_of_list (List.mem_cons_of_mem _ List.mem_cons_self)
  refine ⟨rich.symm, rich.trans undescribed.symm, fun isRich => ?_, fun plain => ?_⟩
  · have empty : field.domain = .empty :=
      (DomainLimits.domainOf_eq_empty_iff _ _ _).mpr (Or.inl isRich)
    rw [unique, shown, empty]
    exact ⟨rfl, rfl⟩
  · rcases limits.domainLimits.domainOf_listed positive plain valued with
      ⟨texts, domain, nonempty, length, few⟩ | ⟨texts, domain, nonempty, length, many⟩
    · have described : field.domain = .enumerated texts := domain
      rw [unique, shown, described, FieldSchema.domainMembers_enumerated nonempty]
      exact Or.inl ⟨texts, rfl, rfl, nonempty, length ▸ few, length⟩
    · have described : field.domain = .examples texts := domain
      rw [unique, shown, described, FieldSchema.domainMembers_examples nonempty]
      exact Or.inr ⟨texts, rfl, rfl, nonempty, length, many⟩

/-- **Every inferred field** is described in exactly one way under faultless limits, where its
values are those that the records contribute to its key. -/
theorem InferredType.describedOnce_of_ofRecords {limits : InferenceLimits}
    (faultless : limits.fault? = none) {records : List Record} {inferred : InferredType}
    (result : InferredType.ofRecords limits records = .ok inferred)
    {key : String} {field : FieldSchema} (found : inferred.fields.get? key = some field) :
    field.DescribedOnce limits ((contributionsTo key records).map Contribution.value) := by
  have reads := InferredType.reads_of_ofRecords result
  obtain ⟨observation, -, gathered, rfl⟩ := reads.exists_observation found
  have valued := reads.values_ne_nil found gathered
  rw [← gathered.values_eq]
  exact Observation.describedOnce faultless valued _

/-- Two severities are examples where one may be listed, and only one example is written. -/
theorem InferredType.describedOnce_of_severities :
    let limits : InferenceLimits := { maxUniqueValues := 1, maxExampleValues := 1 }
    let ofSeverity (severity : String) : Record :=
      { fields := [⟨"Severity", some (.text severity), .string⟩] }
    let records : List Record := [ofSeverity "High", ofSeverity "Low"]
    limits.fault? = none ∧ ∃ inferred field, ofRecords limits records = .ok inferred ∧
      inferred.fields.get? "Severity" = some field ∧ field.dataType ≠ .richText ∧
        field.toJson.member? "uniqueValues" = none ∧
        ∃ texts, field.toJson.member? "exampleValues" = some (.ofTexts texts) ∧
          texts.length = 1 := by
  intro limits ofSeverity records
  have faultless : limits.fault? = none := by decide
  obtain ⟨inferred, result, reads⟩ := ofRecords_reads limits (List.cons_ne_nil _ _ : records ≠ [])
  have contributed : (contributionsTo "Severity" records).length = 2 := by decide +kernel
  have two : (limits.domainLimits.distinct
      ((contributionsTo "Severity" records).map Contribution.value)).length = 2 := by
    decide +kernel
  obtain ⟨field, found⟩ :=
    reads.exists_field_iff.mpr (List.ne_nil_of_length_eq_add_one contributed)
  have once := describedOnce_of_ofRecords faultless result found
  have plain : field.dataType ≠ .richText := by
    obtain ⟨observation, observed, -, rfl⟩ := reads.exists_observation found
    have seen : ((Tally.start.addAll records).observation? "Severity").map
        (Observation.dataType limits) = some .string := by
      decide +kernel
    rw [observed] at seen
    show observation.dataType limits ≠ .richText
    rw [Option.some.inj seen]
    decide
  rcases once.listed plain with
    ⟨texts, -, -, -, few, all⟩ | ⟨texts, shown, unlisted, nonempty, few, -⟩
  · rw [all, two] at few
    exact absurd few (by decide)
  · exact ⟨faultless, inferred, field, result, found, plain, unlisted, texts, shown,
      Nat.le_antisymm few (List.length_pos_iff.mpr nonempty)⟩

end RecordSchema
