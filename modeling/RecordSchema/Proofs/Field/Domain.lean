/-
**What the domain of a field lists.**

* `DomainLimits.mem_enumerated_iff` — an enumerated domain lists the texts of all values.
* `DomainLimits.domainOf_of_few`, `DomainLimits.domainOf_of_many` — which of the two kinds of domain
  describes the values of a field, given their distinct texts in any order.
* `DomainLimits.clip_eq_canonical` — a value that is short enough stands for itself in a domain.
* `DomainLimits.Describes` — what a domain says about values, given their texts without repetitions.
* `DomainLimits.domainOf_describes` — the domain of values says that, and apart from the choice of
  the examples only the set of their texts matters (`Domain.Alike`).
-/

import RecordSchema.Field.Domain
import RecordSchema.Proofs.Distinct
import RecordSchema.Proofs.SortedMap

namespace RecordSchema

/-- Whether the content of a text or a point in time has at most some length. -/
def FieldValue.FitsIn (maxLength : Nat) (value : FieldValue) : Prop :=
  ∀ content, value.textContent? = some content → content.length ≤ maxLength

theorem Text.cut_of_length_le {limit : Nat} {text : String} (short : text.length ≤ limit) :
    Text.cut limit text = text := by
  rw [← String.toList_inj, toList_cut]
  exact List.take_of_length_le short

namespace DomainLimits

variable {limits : DomainLimits} {values : List FieldValue}

/-- **A short value** is not cut. -/
theorem clip_eq_canonical {value : FieldValue} (fits : value.FitsIn limits.maxValueLength) :
    limits.clip value = value.canonical := by
  cases value with
  | text content => exact Text.cut_of_length_le (fits content rfl)
  | dateTime content => exact Text.cut_of_length_le (fits content rfl)
  | number => rfl
  | boolean => rfl
  | unknown => rfl

theorem mem_distinct_iff {text : String} :
    text ∈ limits.distinct values ↔ ∃ value ∈ values, limits.clip value = text := by
  rw [distinct, List.mem_eraseDups, List.mem_map]

theorem nodup_distinct (limits : DomainLimits) (values : List FieldValue) :
    (limits.distinct values).Nodup :=
  nodup_eraseDups _

/-- The distinct texts of values, in order. -/
theorem distinct_perm_names (limits : DomainLimits) (values : List FieldValue) :
    (limits.distinct values).Perm (NameSet.ofList (limits.distinct values)).names := by
  rw [List.perm_ext_iff_of_nodup (nodup_distinct limits values) (SortedMap.names_nodup _)]
  intro text
  rw [NameSet.mem_ofList_iff]

/-- **An enumerated domain** lists the texts of all values. -/
theorem mem_enumerated_iff {dataType : DataType} {listed : List String}
    (enumerated : limits.domainOf dataType values = .enumerated listed) {text : String} :
    text ∈ listed ↔ ∃ value ∈ values, limits.clip value = text := by
  unfold domainOf at enumerated
  split at enumerated
  · cases enumerated
  split at enumerated
  · cases enumerated
    rw [NameSet.mem_ofList_iff, mem_distinct_iff]
  · cases enumerated

section Described

variable {dataType : DataType} (plain : dataType ≠ .richText) (valued : values ≠ [])
  {texts : List String} (same : (limits.distinct values).Perm texts)

include plain valued

theorem not_undescribed : ¬ (dataType = .richText ∨ values.isEmpty = true) := by
  rw [List.isEmpty_iff]
  exact not_or.mpr ⟨plain, valued⟩

include same

/-- **Few texts** are listed, in ascending order. -/
theorem domainOf_of_few (ascending : texts.Pairwise (· < ·))
    (few : texts.length ≤ limits.maxUniqueValues) :
    limits.domainOf dataType values = .enumerated texts := by
  have listed : (NameSet.ofList (limits.distinct values)).names = texts := by
    refine SortedMap.names_ext (SortedMap.names_pairwise_lt _) ascending fun text => ?_
    rw [NameSet.mem_ofList_iff, same.mem_iff]
  rw [← same.length_eq] at few
  rw [domainOf, if_neg (not_undescribed plain valued), if_pos few, listed]

/-- **Of many texts** some are shown, as many as the limits allow. -/
theorem domainOf_of_many (many : limits.maxUniqueValues < texts.length) :
    ∃ examples, limits.domainOf dataType values = .examples examples ∧
      examples.length = min limits.maxExampleValues texts.length ∧
      examples.Nodup ∧ ∀ shown ∈ examples, shown ∈ texts := by
  rw [← same.length_eq] at many ⊢
  refine ⟨(limits.distinct values).take limits.maxExampleValues, ?_, List.length_take, ?_, ?_⟩
  · rw [domainOf, if_neg (not_undescribed plain valued), if_neg (Nat.not_le.mpr many)]
  · exact (List.take_sublist _ _).nodup (nodup_distinct limits values)
  · intro shown member
    exact same.mem_iff.mp (List.mem_of_mem_take member)

end Described

/-! ### The domain as a whole -/

/-- What a domain says about values of a type, given their texts without repetitions. -/
structure Describes (limits : DomainLimits) (dataType : DataType) (values : List FieldValue)
    (texts : List String) (domain : Domain) : Prop where
  empty_iff : domain = .empty ↔ dataType = .richText ∨ values = []
  /-- Few texts are all listed, in ascending order. -/
  few : dataType ≠ .richText → values ≠ [] → texts.length ≤ limits.maxUniqueValues →
    ∃ listed, domain = .enumerated listed ∧ listed.Pairwise (· < ·) ∧
      ∀ text, text ∈ listed ↔ text ∈ texts
  /-- Of many texts the first ones are shown, in the order in which they were seen. -/
  many : dataType ≠ .richText → values ≠ [] → limits.maxUniqueValues < texts.length →
    domain = .examples (texts.take limits.maxExampleValues)

end DomainLimits

/-- Whether two domains are of one kind, and list the same values where they list all of them. -/
inductive Domain.Alike : Domain → Domain → Prop
  | enumerated (listed : List String) : Alike (.enumerated listed) (.enumerated listed)
  | examples (shown others : List String) : Alike (.examples shown) (.examples others)
  | empty : Alike .empty .empty

namespace DomainLimits

theorem describes_domainOf (limits : DomainLimits) (dataType : DataType)
    (values : List FieldValue) :
    limits.Describes dataType values (limits.distinct values)
      (limits.domainOf dataType values) := by
  refine ⟨domainOf_eq_empty_iff limits dataType values, ?_, ?_⟩
  · intro plain valued few
    have sorted := distinct_perm_names limits values
    have ascending := (NameSet.ofList (limits.distinct values)).names_pairwise_lt
    rw [sorted.length_eq] at few
    exact ⟨_, domainOf_of_few plain valued sorted ascending few, ascending,
      fun _ => NameSet.mem_ofList_iff⟩
  · intro plain valued many
    rw [domainOf, if_neg (not_undescribed plain valued), if_neg (Nat.not_le.mpr many)]

section Alike

variable {limits : DomainLimits} {values others : List FieldValue}
  (same : ∀ text, text ∈ values.map limits.clip ↔ text ∈ others.map limits.clip)

include same

theorem eq_nil_iff_of_same_texts : values = [] ↔ others = [] := by
  have texts : ∀ listed : List FieldValue, listed = [] ↔ listed.map limits.clip = [] :=
    fun _ => List.map_eq_nil_iff.symm
  rw [texts, texts others, List.eq_nil_iff_forall_not_mem, List.eq_nil_iff_forall_not_mem]
  simp only [same]

/-- **Values with the same texts** have domains of one kind. -/
theorem alike_domainOf (dataType : DataType) :
    (limits.domainOf dataType values).Alike (limits.domainOf dataType others) := by
  have described := limits.describes_domainOf dataType values
  have redescribed := limits.describes_domainOf dataType others
  by_cases undescribed : dataType = .richText ∨ values = []
  · rw [described.empty_iff.mpr undescribed,
      redescribed.empty_iff.mpr (undescribed.imp_right (eq_nil_iff_of_same_texts same).mp)]
    exact .empty
  obtain ⟨plain, valued⟩ := not_or.mp undescribed
  have othersValued : others ≠ [] := mt (eq_nil_iff_of_same_texts same).mpr valued
  have texts : (limits.distinct values).Perm (limits.distinct others) := perm_eraseDups same
  rcases Nat.lt_or_ge limits.maxUniqueValues (limits.distinct values).length with many | few
  · rw [described.many plain valued many,
      redescribed.many plain othersValued (texts.length_eq ▸ many)]
    exact .examples _ _
  · obtain ⟨listed, enumerated, ascending, mem_iff⟩ := described.few plain valued few
    obtain ⟨relisted, reenumerated, reascending, remem_iff⟩ :=
      redescribed.few plain othersValued (texts.length_eq ▸ few)
    have equal : listed = relisted := by
      refine SortedMap.names_ext ascending reascending fun text => ?_
      rw [mem_iff, remem_iff, texts.mem_iff]
    rw [enumerated, reenumerated, equal]
    exact .enumerated _

end Alike

/-- **The domain of values** is empty for rich text and without values. Otherwise it depends on
their texts without repetitions: few of them are all listed, and of many the first ones are shown.
So apart from the choice of the examples only the set of the texts matters. -/
theorem domainOf_describes (limits : DomainLimits) (dataType : DataType)
    (values : List FieldValue) :
    (∃! texts, FirstsOf (values.map limits.clip) texts) ∧
      (∀ texts, FirstsOf (values.map limits.clip) texts →
        limits.Describes dataType values texts (limits.domainOf dataType values)) ∧
      ∀ others, (∀ text, text ∈ values.map limits.clip ↔ text ∈ others.map limits.clip) →
        (limits.domainOf dataType values).Alike (limits.domainOf dataType others) := by
  refine ⟨⟨limits.distinct values, ?_, ?_⟩, ?_, ?_⟩
  · exact firstsOf_iff.mpr rfl
  · intro texts firsts
    exact firstsOf_iff.mp firsts
  · intro texts firsts
    rw [firstsOf_iff.mp firsts]
    exact describes_domainOf limits dataType values
  · intro others same
    exact alike_domainOf same dataType

/-- Where two texts may be listed, three of them, one repeated, are shown by the first two; read in
reverse they give a domain of the same kind. -/
theorem domainOf_describes_repeated :
    let limits : DomainLimits := ⟨2, 2, 10⟩
    let values : List FieldValue := [.text "b", .text "a", .text "b", .text "c"]
    FirstsOf (values.map limits.clip) ["b", "a", "c"] ∧
      limits.domainOf .string values = .examples ["b", "a"] ∧
      (limits.domainOf .string values).Alike (limits.domainOf .string values.reverse) := by
  intro limits values
  obtain ⟨-, describes, alike⟩ := limits.domainOf_describes .string values
  have firsts : FirstsOf (values.map limits.clip) ["b", "a", "c"] :=
    firstsOf_iff.mpr (by decide)
  refine ⟨firsts, (describes _ firsts).many (by decide) (List.cons_ne_nil _ _) (by decide), ?_⟩
  apply alike
  intro text
  rw [List.map_reverse, List.mem_reverse]

end DomainLimits

end RecordSchema
