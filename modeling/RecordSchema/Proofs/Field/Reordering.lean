/-
**Fields of reordered contributions.**

The order in which contributions arrive can show in four places: the last label, the last origin,
the values that are scanned for narrative text, and the first values of a domain of examples.

* `Observation.Gathers.fillRate_schema_eq` — it does not show in the fill rate.
* `InferenceLimits.Settles` — contributions whose order shows in none of the four places. Few
  contributions that are alike are of this kind (`InferenceLimits.settles_of_few`).
* `Observation.Gathers.schema_eq` — such contributions give the same description in every order.
-/

import RecordSchema.Proofs.Distinct
import RecordSchema.Proofs.Field.Contributions
import RecordSchema.Proofs.SortedMap

namespace RecordSchema

/-! ### Reordered values -/

/-- **Values that are all scanned** are narrative in every order. -/
theorem hasNarrativeValue_perm {scanLimit minLength : Nat} {values others : List FieldValue}
    (reordered : values.Perm others) (scanned : values.length ≤ scanLimit) :
    hasNarrativeValue scanLimit minLength values =
      hasNarrativeValue scanLimit minLength others := by
  have othersScanned : others.length ≤ scanLimit := reordered.length_eq ▸ scanned
  unfold hasNarrativeValue
  rw [List.take_of_length_le scanned, List.take_of_length_le othersScanned]
  exact (reordered.filterMap FieldValue.textContent?).any_eq

namespace DomainLimits

theorem distinct_perm (limits : DomainLimits) {values others : List FieldValue}
    (reordered : values.Perm others) : (limits.distinct values).Perm (limits.distinct others) :=
  perm_eraseDups fun _ => (reordered.map limits.clip).mem_iff

/-- **Few distinct values** have the same domain in every order. -/
theorem domainOf_perm {limits : DomainLimits} {values others : List FieldValue}
    (reordered : values.Perm others)
    (few : (limits.distinct values).length ≤ limits.maxUniqueValues) (dataType : DataType) :
    limits.domainOf dataType values = limits.domainOf dataType others := by
  have texts : (limits.distinct values).Perm (limits.distinct others) :=
    limits.distinct_perm reordered
  have othersFew : (limits.distinct others).length ≤ limits.maxUniqueValues :=
    texts.length_eq ▸ few
  have names : (NameSet.ofList (limits.distinct values)).names =
      (NameSet.ofList (limits.distinct others)).names :=
    NameSet.names_ofList_congr fun _ => texts.mem_iff
  unfold domainOf
  rw [if_pos few, if_pos othersFew, names, reordered.isEmpty_eq]

end DomainLimits

/-! ### Reordered contributions -/

/-- Contributions whose order does not show: they are alike in label and origin, all of them are
scanned, and all their distinct texts are listed. -/
structure InferenceLimits.Settles (limits : InferenceLimits) (contributions : List Contribution) :
    Prop where
  alike : ∀ first ∈ contributions, ∀ second ∈ contributions,
    first.label = second.label ∧ first.isCustom = second.isCustom
  scanned : contributions.length ≤ limits.richTextScanLimit
  listed : (limits.domainLimits.distinct (contributions.map Contribution.value)).length ≤
    limits.maxUniqueValues

/-- Few contributions that are alike under each key show no order. -/
theorem InferenceLimits.settles_of_few {limits : InferenceLimits} {records : List Record}
    (alike : ∀ first ∈ records.flatMap Record.contributions,
      ∀ second ∈ records.flatMap Record.contributions, first.key = second.key →
        first.label = second.label ∧ first.isCustom = second.isCustom)
    (scanned : (records.flatMap Record.contributions).length ≤ limits.richTextScanLimit)
    (listed : (records.flatMap Record.contributions).length ≤ limits.maxUniqueValues)
    (key : String) : limits.Settles (contributionsTo key records) := by
  have bound : (contributionsTo key records).length ≤
      (records.flatMap Record.contributions).length := by
    rw [← filter_flatMap_contributions]
    exact List.length_filter_le ..
  refine ⟨fun first member second otherMember => ?_, Nat.le_trans bound scanned, ?_⟩
  · rw [← filter_flatMap_contributions, List.mem_filter, beq_iff_eq] at member otherMember
    exact alike first member.1 second otherMember.1 (member.2.trans otherMember.2.symm)
  · have distinct := length_eraseDups_le
      (((contributionsTo key records).map Contribution.value).map limits.domainLimits.clip)
    rw [List.length_map, List.length_map] at distinct
    exact Nat.le_trans distinct (Nat.le_trans bound listed)

namespace Observation.Gathers

variable {first second : Observation} {key : String} {contributions others : List Contribution}
  (gathered : first.Gathers key contributions) (regathered : second.Gathers key others)
  (reordered : contributions.Perm others)

include gathered regathered reordered

theorem values_perm : first.values.Perm second.values := by
  rw [gathered.values_eq, regathered.values_eq]
  exact reordered.map Contribution.value

theorem hints_eq_of_perm : first.hints = second.hints := by
  rw [gathered.hints_eq, regathered.hints_eq]
  exact List.filter_congr fun _ _ => reordered.any_eq

/-- **The fill rate** does not depend on the order of the contributions. -/
theorem fillRate_schema_eq (records : Nat) (limits : InferenceLimits) :
    (first.schema records limits).fillRate = (second.schema records limits).fillRate := by
  show fillRate? first.values.length records = fillRate? second.values.length records
  rw [(gathered.values_perm regathered reordered).length_eq]

/-- Where all values are scanned, the data type does not depend on their order. -/
theorem dataType_eq {limits : InferenceLimits}
    (scanned : contributions.length ≤ limits.richTextScanLimit) :
    first.dataType limits = second.dataType limits := by
  have valuesScanned : first.values.length ≤ limits.richTextScanLimit := by
    rw [gathered.values_eq, List.length_map]
    exact scanned
  have narrative : first.isNarrative limits = second.isNarrative limits := by
    unfold isNarrative
    rw [gathered.key_eq, regathered.key_eq,
      hasNarrativeValue_perm (gathered.values_perm regathered reordered) valuesScanned]
  unfold dataType declares
  rw [narrative, gathered.hints_eq_of_perm regathered reordered]

variable {limits : InferenceLimits} (settled : limits.Settles contributions)

include settled

theorem last_eq_of_perm : first.label = second.label ∧ first.isCustom = second.isCustom := by
  obtain ⟨last, isLast, label, origin⟩ := gathered.last_eq
  obtain ⟨otherLast, isOtherLast, otherLabel, otherOrigin⟩ := regathered.last_eq
  have member : last ∈ contributions := List.mem_of_getLast? isLast
  have otherMember : otherLast ∈ contributions :=
    reordered.mem_iff.mpr (List.mem_of_getLast? isOtherLast)
  rw [label, otherLabel, origin, otherOrigin]
  exact settled.alike last member otherLast otherMember

/-- **Contributions whose order does not show** give the same description in every order. -/
theorem schema_eq (records : Nat) :
    first.schema records limits = second.schema records limits := by
  obtain ⟨label, origin⟩ := gathered.last_eq_of_perm regathered reordered settled
  have values : first.values.Perm second.values := gathered.values_perm regathered reordered
  have listed : (limits.domainLimits.distinct first.values).length ≤
      limits.domainLimits.maxUniqueValues := by
    rw [gathered.values_eq]
    exact settled.listed
  unfold schema
  dsimp only
  rw [gathered.dataType_eq regathered reordered settled.scanned, gathered.key_eq,
    regathered.key_eq, label, origin, DomainLimits.domainOf_perm values listed, values.length_eq]

end Observation.Gathers

end RecordSchema
