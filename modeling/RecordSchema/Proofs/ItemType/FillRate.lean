/-
**What a fill rate tells of the records.**

A fill rate counts the present values under a key, and a record may have several: two entries of one
label, labels with one key, or an entry that is called like a fixed attribute.

* `FieldSchema.TellsCarriers` — a fill rate that is the share of the records that carry the field.
* `carriers_le_length`, `carriers_eq_length` — there are no more carriers than values, and equally
  many where no record has several.
* `InferredType.tellsCarriers_iff` — the share of the values is what the fill rate is, and exactly
  when that tells the carriers.
-/

import RecordSchema.Proofs.Field.FillRate
import RecordSchema.Proofs.ItemType.Tally

namespace RecordSchema

/-! ### Carriers -/

/-- Whether a record carries a field: it has the fixed attribute of that name, or a present entry
whose label has the key. -/
def Record.carries (key : String) (record : Record) : Bool :=
  (record.fixedValues.any fun named => named.1 == key) ||
    record.presentEntries.any fun present => fieldKey present.1.label == key

/-- The number of records that carry a field. -/
def carriers (key : String) (records : List Record) : Nat :=
  records.countP (Record.carries key)

/-- A record carries a field exactly if it contributes to its key. -/
theorem Record.carries_iff {record : Record} {key : String} :
    record.carries key = true ↔ 0 < (record.contributionsTo key).length := by
  have carried : record.carries key =
      record.contributions.any fun contribution => contribution.key == key := by
    rw [Record.contributions, List.any_append, List.any_map, List.any_map]
    rfl
  rw [carried, ← filter_contributions, ← List.countP_eq_length_filter, List.countP_pos_iff,
    List.any_eq_true]

theorem length_contributionsTo_cons (key : String) (record : Record) (records : List Record) :
    (contributionsTo key (record :: records)).length =
      (contributionsTo key records).length + (record.contributionsTo key).length := by
  rw [contributionsTo, List.flatMap_cons, List.length_append, Nat.add_comm]
  rfl

/-- A record adds a carrier if it has any value. -/
theorem carriers_cons (key : String) (record : Record) (records : List Record) :
    carriers key (record :: records) =
      carriers key records + min 1 (record.contributionsTo key).length := by
  rw [carriers, List.countP_cons, ← carriers]
  by_cases carried : record.carries key = true
  · have value := Record.carries_iff.mp carried
    rw [if_pos carried]
    omega
  · have nothing := mt Record.carries_iff.mpr carried
    rw [if_neg carried]
    omega

/-- **Every carrier has a value.** -/
theorem carriers_le_length (key : String) (records : List Record) :
    carriers key records ≤ (contributionsTo key records).length := by
  induction records with
  | nil => exact Nat.zero_le _
  | cons record rest hypothesis =>
    rw [carriers_cons, length_contributionsTo_cons]
    omega

/-- **Where no record has several values**, there are as many carriers as values. -/
theorem carriers_eq_length {key : String} {records : List Record}
    (single : ∀ record ∈ records, (record.contributionsTo key).length ≤ 1) :
    carriers key records = (contributionsTo key records).length := by
  induction records with
  | nil => rfl
  | cons record rest hypothesis =>
    have here := single record List.mem_cons_self
    have later := hypothesis fun other member => single other (List.mem_cons_of_mem _ member)
    rw [carriers_cons, length_contributionsTo_cons, later]
    omega

/-- All records carry a field exactly if there are as many carriers. -/
theorem carriers_eq_length_iff {key : String} {records : List Record} :
    carriers key records = records.length ↔ ∀ record ∈ records, record.carries key = true :=
  List.countP_eq_length

/-! ### Fill rates -/

/-- A fill rate that tells which records carry the field: it is missing if all of them do, and
otherwise it is their percentage. -/
structure FieldSchema.TellsCarriers (field : FieldSchema) (key : String) (records : List Record) :
    Prop where
  eq_none_iff : field.fillRate = none ↔ ∀ record ∈ records, record.carries key = true
  eq_percentage : (¬ ∀ record ∈ records, record.carries key = true) →
    ∃ rate, percentage? (carriers key records) records.length = some rate ∧
      field.fillRate = some rate

/-- A fill rate that is the share of a number of values. -/
structure FieldSchema.RatesValues (field : FieldSchema) (values records : Nat) : Prop where
  eq_none_iff : field.fillRate = none ↔ records ≤ values
  eq_percentage : values < records →
    ∃ rate, percentage? values records = some rate ∧ field.fillRate = some rate

theorem FieldSchema.ratesValues_of_fillRate {field : FieldSchema} {values records : Nat}
    (positive : 0 < records) (short : records < 2 ^ Binary64.precision)
    (rate : field.fillRate = fillRate? values records) : field.RatesValues values records := by
  refine ⟨⟨fun missing => ?_, fun reaches => ?_⟩, fun below => ?_⟩
  · by_contra small
    obtain ⟨number, -, present⟩ := fillRate?_of_lt short (not_le.mp small)
    rw [← rate, missing] at present
    cases present
  · rw [rate, fillRate?_of_le short positive reaches]
  · rw [rate]
    exact fillRate?_of_lt short below

/-- The share of the values tells the carriers if they are all records, or the same share. -/
theorem FieldSchema.RatesValues.tellsCarriers_iff {field : FieldSchema} {key : String}
    {records : List Record}
    (rates : field.RatesValues (contributionsTo key records).length records.length) :
    field.TellsCarriers key records ↔
      (∀ record ∈ records, record.carries key = true) ∨
        ((contributionsTo key records).length < records.length ∧
          percentage? (contributionsTo key records).length records.length =
            percentage? (carriers key records) records.length) := by
  have bound := carriers_le_length key records
  constructor
  · intro tells
    by_cases all : ∀ record ∈ records, record.carries key = true
    · exact Or.inl all
    · obtain ⟨rate, share, present⟩ := tells.eq_percentage all
      have below : (contributionsTo key records).length < records.length := by
        by_contra reaches
        rw [rates.eq_none_iff.mpr (not_lt.mp reaches)] at present
        cases present
      obtain ⟨same, valueShare, samePresent⟩ := rates.eq_percentage below
      rw [present] at samePresent
      exact Or.inr ⟨below, by rw [valueShare, share, samePresent]⟩
  · rintro (all | ⟨below, sameShare⟩)
    · have reaches : records.length ≤ (contributionsTo key records).length := by
        rwa [← carriers_eq_length_iff.mpr all]
      exact ⟨iff_of_true (rates.eq_none_iff.mpr reaches) all, fun lacking => absurd all lacking⟩
    · obtain ⟨rate, share, present⟩ := rates.eq_percentage below
      have lacking : ¬ ∀ record ∈ records, record.carries key = true := by
        rw [← carriers_eq_length_iff]
        omega
      refine ⟨iff_of_false ?_ lacking, fun _ => ⟨rate, sameShare ▸ share, present⟩⟩
      rw [present]
      exact Option.some_ne_none rate

/-- Where no record has several values, the values have the share of the carriers. -/
theorem FieldSchema.RatesValues.tellsCarriers_of_single {field : FieldSchema} {key : String}
    {records : List Record}
    (rates : field.RatesValues (contributionsTo key records).length records.length)
    (single : ∀ record ∈ records, (record.contributionsTo key).length ≤ 1) :
    field.TellsCarriers key records := by
  have same := carriers_eq_length single
  by_cases all : ∀ record ∈ records, record.carries key = true
  · exact rates.tellsCarriers_iff.mpr (Or.inl all)
  · have less : carriers key records < records.length :=
      List.countP_le_length.lt_of_ne (mt carriers_eq_length_iff.mp all)
    rw [same] at less
    exact rates.tellsCarriers_iff.mpr (Or.inr ⟨less, by rw [same]⟩)

/-- **The fill rate is the share of the values** under the key. It tells the carriers where all
records carry the field or the values have the same share as the carriers, and so wherever no
record has several values. -/
theorem InferredType.fillRate_of_ofRecords {limits : InferenceLimits} {records : List Record}
    {inferred : InferredType} (result : InferredType.ofRecords limits records = .ok inferred)
    (short : records.length < 2 ^ 53) {key : String} {field : FieldSchema}
    (found : inferred.fields.get? key = some field) :
    field.RatesValues (contributionsTo key records).length records.length ∧
      (field.TellsCarriers key records ↔
        (∀ record ∈ records, record.carries key = true) ∨
          ((contributionsTo key records).length < records.length ∧
            percentage? (contributionsTo key records).length records.length =
              percentage? (carriers key records) records.length)) ∧
      ((∀ record ∈ records, (record.contributionsTo key).length ≤ 1) →
        field.TellsCarriers key records) := by
  obtain ⟨observation, -, gathered, rfl⟩ :=
    (InferredType.reads_of_ofRecords result).exists_observation found
  have positive : 0 < records.length :=
    List.length_pos_iff.mpr (InferredType.ne_nil_of_ofRecords result)
  have rates : (observation.schema records.length limits).RatesValues
      (contributionsTo key records).length records.length := by
    refine FieldSchema.ratesValues_of_fillRate positive short ?_
    show fillRate? observation.values.length records.length = _
    rw [gathered.values_eq, List.length_map]
  exact ⟨rates, rates.tellsCarriers_iff, rates.tellsCarriers_of_single⟩

/-- Two entries on one of two records hide that the other record does not carry the field. -/
theorem InferredType.fillRate_repeated :
    let records : List Record :=
      [{ fields := [⟨"A", some (.text "x"), .string⟩, ⟨"A", some (.text "y"), .string⟩] }, {}]
    ∃ inferred field, ofRecords {} records = .ok inferred ∧
      inferred.fields.get? "A" = some field ∧ field.fillRate = none ∧
        ¬ (∀ record ∈ records, record.carries "A" = true) ∧
          ¬ field.TellsCarriers "A" records := by
  intro records
  have values : (contributionsTo "A" records).length = 2 := by decide +kernel
  have missing : ¬ ∀ record ∈ records, record.carries "A" = true := by decide +kernel
  obtain ⟨inferred, result, reads⟩ := ofRecords_reads {} (List.cons_ne_nil _ _ : records ≠ [])
  obtain ⟨field, found⟩ := reads.exists_field_iff.mpr (List.ne_nil_of_length_eq_add_one values)
  obtain ⟨rates, tells, -⟩ := fillRate_of_ofRecords result (by decide) found
  refine ⟨inferred, field, result, found, rates.eq_none_iff.mpr values.ge, missing, fun told => ?_⟩
  rcases tells.mp told with all | ⟨below, -⟩
  · exact missing all
  · rw [values] at below
    exact absurd below (Nat.lt_irrefl 2)

end RecordSchema
