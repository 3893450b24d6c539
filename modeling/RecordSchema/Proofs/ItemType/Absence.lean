/-
**Absent values are invisible.**

A field entry may lack a present value. Whoever reads the entries of a record passes such an entry
over, before it could take a slot, add a hint or replace a label:

* `FieldEntry.present?_eq_none_iff` — which entries have no present value.
* `FieldEntry.Thins`, `Record.Thins` — some of these entries are deleted.
* `FieldEntry.Thins.filterMap_present`, `FieldEntry.Thins.findSome?_present` — the present values
  stay, all of them and the first one under a label.
* `reads_alike_of_thins` — the inferred type, the samples, the short name and every lookup are those
  of the records with all their entries.
-/

import Mathlib.Data.List.Forall2
import RecordSchema.ItemType.RecordSet
import RecordSchema.ItemType.Sample
import RecordSchema.Proofs.ItemType.Tally

namespace RecordSchema

/-! ### Absent entries -/

/-- Whether an entry has no present value: it is missing or null, or an empty text or point in time.
-/
def FieldEntry.IsAbsent (entry : FieldEntry) : Prop :=
  entry.value = none ∨ entry.value = some (.unknown .null) ∨ entry.value = some (.text "") ∨
    entry.value = some (.dateTime "")

theorem FieldValue.isPresent_eq_false_iff {value : FieldValue} :
    value.isPresent = false ↔ value = .unknown .null ∨ value = .text "" ∨ value = .dateTime "" := by
  cases value with
  | text content => simp [isPresent]
  | number number => simp [isPresent]
  | boolean truth => simp [isPresent]
  | dateTime content => simp [isPresent]
  | unknown json => cases json <;> simp [isPresent, Json.Value.isNull]

/-- **The entries without a present value** are the absent ones. -/
theorem FieldEntry.present?_eq_none_iff {entry : FieldEntry} :
    entry.present? = none ↔ entry.IsAbsent := by
  unfold present? IsAbsent
  cases entry.value with
  | none => simp
  | some value =>
    rw [Option.filter_some, ite_eq_right_iff]
    simp only [reduceCtorEq, imp_false, Bool.not_eq_true, false_or, Option.some.injEq]
    exact FieldValue.isPresent_eq_false_iff

/-! ### Deleted entries -/

/-- A list of entries after the deletion of some that are absent. -/
inductive FieldEntry.Thins : List FieldEntry → List FieldEntry → Prop where
  | nil : Thins [] []
  | keep (entry : FieldEntry) {entries kept : List FieldEntry} :
      Thins entries kept → Thins (entry :: entries) (entry :: kept)
  | drop {entry : FieldEntry} {entries kept : List FieldEntry} :
      entry.IsAbsent → Thins entries kept → Thins (entry :: entries) kept

namespace FieldEntry.Thins

variable {entries kept : List FieldEntry}

/-- **The present values** stay. -/
theorem filterMap_present (thins : Thins entries kept) :
    (kept.filterMap fun entry => entry.present?.map fun value => (entry, value)) =
      entries.filterMap fun entry => entry.present?.map fun value => (entry, value) := by
  induction thins with
  | nil => rfl
  | keep entry _ hypothesis => rw [List.filterMap_cons, List.filterMap_cons, hypothesis]
  | drop absent _ hypothesis =>
    rw [hypothesis, List.filterMap_cons, present?_eq_none_iff.mpr absent]
    rfl

/-- **The first present value** under a label stays. -/
theorem findSome?_present (thins : Thins entries kept) (label : String) :
    (kept.filter fun entry => entry.label == label).findSome? present? =
      (entries.filter fun entry => entry.label == label).findSome? present? := by
  induction thins with
  | nil => rfl
  | keep entry _ hypothesis =>
    rw [List.filter_cons, List.filter_cons]
    by_cases labelled : (entry.label == label) = true
    · rw [if_pos labelled, if_pos labelled, List.findSome?_cons, List.findSome?_cons, hypothesis]
    · rw [if_neg labelled, if_neg labelled, hypothesis]
  | @drop entry _ _ absent _ hypothesis =>
    rw [hypothesis, List.filter_cons]
    by_cases labelled : (entry.label == label) = true
    · rw [if_pos labelled, List.findSome?_cons, present?_eq_none_iff.mpr absent]
    · rw [if_neg labelled]

end FieldEntry.Thins

/-- A record after the deletion of some absent entries. All else stays. -/
structure Record.Thins (record thinned : Record) : Prop where
  fields : FieldEntry.Thins record.fields thinned.fields
  rest : thinned = { record with fields := thinned.fields }

/-! ### Readers of one record -/

namespace Record.Thins

variable {record thinned : Record} (thins : record.Thins thinned)

include thins

theorem presentEntries_eq : thinned.presentEntries = record.presentEntries :=
  thins.fields.filterMap_present

theorem title_eq : thinned.title = record.title := by
  rw [thins.rest]

theorem fixedValues_eq : thinned.fixedValues = record.fixedValues := by
  rw [thins.rest]
  rfl

theorem contributions_eq : thinned.contributions = record.contributions := by
  rw [contributions, contributions, thins.fixedValues_eq, thins.presentEntries_eq]

theorem statuses_eq : thinned.statuses = record.statuses := by
  rw [statuses, statuses, thins.presentEntries_eq]

theorem identifiers_eq : thinned.identifiers = record.identifiers := by
  rw [identifiers, identifiers, thins.presentEntries_eq]

/-- **A lookup** finds the same value. -/
theorem lookup?_eq (label : String) : thinned.lookup? label = record.lookup? label :=
  thins.fields.findSome?_present label

/-- **A sample** shows the same. -/
theorem sample_eq (limits : SampleLimits) (fields : SortedMap FieldSchema) :
    Sample.ofRecord limits fields thinned = Sample.ofRecord limits fields record := by
  unfold Sample.ofRecord Sample.eligible Sample.titled
  rw [thins.presentEntries_eq, thins.title_eq]

end Record.Thins

/-! ### Readers of several records -/

section Several

variable {records thinned : List Record} (thins : List.Forall₂ Record.Thins records thinned)

include thins

/-- What is read alike off one record is read alike off several. -/
theorem map_eq_of_thins {β : Type} {reading : Record → β}
    (alike : ∀ {record thinner : Record}, record.Thins thinner →
      reading thinner = reading record) :
    thinned.map reading = records.map reading := by
  induction thins with
  | nil => rfl
  | cons head _ hypothesis => rw [List.map_cons, List.map_cons, alike head, hypothesis]

theorem flatMap_eq_of_thins {β : Type} {reading : Record → List β}
    (alike : ∀ {record thinner : Record}, record.Thins thinner →
      reading thinner = reading record) :
    thinned.flatMap reading = records.flatMap reading := by
  rw [List.flatMap_def, List.flatMap_def, map_eq_of_thins thins alike]

/-- **The tally** is the same. -/
theorem Tally.addAll_eq_of_thins (tally : Tally) : tally.addAll thinned = tally.addAll records := by
  have observations :
      (tally.addAll thinned).observations = (tally.addAll records).observations := by
    rw [observations_addAll, observations_addAll,
      flatMap_eq_of_thins thins fun single => single.contributions_eq]
  have statuses : (tally.addAll thinned).statuses = (tally.addAll records).statuses := by
    rw [statuses_addAll, statuses_addAll,
      flatMap_eq_of_thins thins fun single => single.statuses_eq]
  have counts : (tally.addAll thinned).recordCount = (tally.addAll records).recordCount := by
    rw [recordCount_addAll, recordCount_addAll, thins.length_eq]
  cases first : tally.addAll thinned
  cases second : tally.addAll records
  rw [first, second] at observations statuses counts
  cases observations
  cases statuses
  cases counts
  rfl

/-- **Absent values are invisible.** Records without some of their absent entries give the same
inferred type, samples and short name, and every lookup finds the same value. -/
theorem reads_alike_of_thins (limits : InferenceLimits) (scan maxLength : Nat) :
    InferredType.ofRecords limits thinned = InferredType.ofRecords limits records ∧
      (∀ sampleLimits fields,
        Sample.ofRecords sampleLimits fields thinned =
          Sample.ofRecords sampleLimits fields records) ∧
      shortName? scan maxLength thinned = shortName? scan maxLength records ∧
      List.Forall₂ (fun record thinner => ∀ label, thinner.lookup? label = record.lookup? label)
        records thinned := by
  refine ⟨?_, fun sampleLimits fields => ?_, ?_, thins.imp fun _ _ single => single.lookup?_eq⟩
  · unfold InferredType.ofRecords
    rw [Tally.addAll_eq_of_thins thins]
  · unfold Sample.ofRecords
    rw [List.map_take, List.map_take,
      map_eq_of_thins thins fun single => single.sample_eq sampleLimits fields]
  · unfold shortName?
    rw [flatMap_eq_of_thins (List.forall₂_take scan thins) fun single => single.identifiers_eq]

end Several

/-- An empty identifier in front of the identifier changes nothing, though only one entry is shown
and one record is scanned. -/
theorem reads_alike_of_thins_identifier :
    let limits : InferenceLimits := { sampleFieldLimit := 1 }
    let absent : FieldEntry := ⟨"ID", some (.text ""), .number⟩
    let identifier : FieldEntry := ⟨"ID", some (.text "AB-1"), .string⟩
    let records : List Record := [{ fields := [absent, identifier] }]
    let thinned : List Record := [{ fields := [identifier] }]
    InferredType.ofRecords limits thinned = InferredType.ofRecords limits records ∧
      shortName? 1 2 thinned = shortName? 1 2 records ∧
      shortName? 1 2 records = some "AB" := by
  intro limits absent identifier records thinned
  have deleted : FieldEntry.Thins [absent, identifier] [identifier] :=
    .drop (Or.inr (Or.inr (Or.inl rfl))) (.keep identifier .nil)
  have thins : List.Forall₂ Record.Thins records thinned := .cons ⟨deleted, rfl⟩ .nil
  obtain ⟨inferred, -, named, -⟩ := reads_alike_of_thins thins limits 1 2
  exact ⟨inferred, named, by decide +kernel⟩

end RecordSchema
