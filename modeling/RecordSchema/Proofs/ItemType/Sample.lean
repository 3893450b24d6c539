/-
**Samples agree with the inferred fields.**

Inference and the samples walk over the same records on their own. What a sample shows is a value
that was observed, under a key that has a field:

* `Sample.Shows` — the values that a sample may show under a key, with the length that they are
  shortened to.
* `Sample.shows_of_get?_ofRecord` — an entry of a sample shows such a value.
* `Sample.Shows.exists_contribution` — such a value contributes to its key.
* `Sample.backed_of_ofRecords` — so it is among the values that were observed, and an enumerated
  domain lists it. Only the title may be shown although it is rich text.
-/

import RecordSchema.ItemType.Sample
import RecordSchema.Proofs.Field.Domain
import RecordSchema.Proofs.ItemType.Tally

namespace RecordSchema

/-! ### Present values -/

theorem Record.mem_presentEntries_iff {record : Record} {entry : FieldEntry} {value : FieldValue} :
    (entry, value) ∈ record.presentEntries ↔
      entry ∈ record.fields ∧ entry.present? = some value := by
  rw [presentEntries, List.mem_filterMap]
  constructor
  · rintro ⟨source, member, found⟩
    obtain ⟨present, isPresent, same⟩ := Option.map_eq_some_iff.mp found
    cases same
    exact ⟨member, isPresent⟩
  · rintro ⟨member, found⟩
    exact ⟨entry, member, by rw [found]; rfl⟩

theorem FieldEntry.isPresent_of_present? {entry : FieldEntry} {value : FieldValue}
    (found : entry.present? = some value) : value.isPresent = true :=
  (Option.filter_eq_some_iff.mp found).2

namespace Sample

/-! ### What samples show -/

/-- A value that the samples of some records may show under a key, and the length that it is
shortened to: a title, or the value of a field entry. -/
inductive Shows (limits : SampleLimits) (records : List Record) :
    String → FieldValue → Nat → Prop where
  | title {record : Record} {title : String} (member : record ∈ records)
      (titled : record.title = some title) (nonempty : title ≠ "") :
      Shows limits records titleKey (.text title) limits.titleLength
  | entry {record : Record} {entry : FieldEntry} {value : FieldValue} (member : record ∈ records)
      (present : (entry, value) ∈ record.presentEntries) :
      Shows limits records (fieldKey entry.label) value limits.valueLength

variable {limits : SampleLimits} {fields : SortedMap FieldSchema} {records : List Record}
  {key text : String}

/-- The title alone is shown under its key. -/
theorem get?_titled_eq_some_iff {record : Record} :
    (titled limits record).get? key = some text ↔
      key = titleKey ∧ ∃ title, record.title = some title ∧ title ≠ "" ∧
        text = Text.shorten limits.titleLength title := by
  unfold titled
  cases given : record.title.filter (· != "") with
  | none =>
    refine iff_of_false (by simp) ?_
    rintro ⟨-, title, titled, nonempty, -⟩
    rw [titled, Option.filter_some, if_pos (bne_iff_ne.mpr nonempty)] at given
    cases given
  | some title =>
    obtain ⟨titled, nonempty⟩ := Option.filter_eq_some_iff.mp given
    rw [SortedMap.get?_insert, SortedMap.get?_empty, titled]
    constructor
    · intro shown
      split at shown
      case isTrue same =>
        exact ⟨same.symm, title, rfl, bne_iff_ne.mp nonempty, (Option.some.inj shown).symm⟩
      case isFalse => cases shown
    · rintro ⟨rfl, other, same, -, rfl⟩
      rw [if_pos rfl, Option.some.inj same]

/-- **An entry of a sample** shows a value of its record, and only a title is shown for rich text.
-/
theorem shows_of_get?_ofRecord {record : Record} (member : record ∈ records)
    (shown : (ofRecord limits fields record).get? key = some text) :
    (key ≠ titleKey → isRich fields key = false) ∧
      ∃ value length, Shows limits records key value length ∧
        text = Text.shorten length value.canonical := by
  rcases SortedMap.bound_of_get?_foldl_insert shown with atTitle | ⟨⟨entry, value⟩, taken, rfl, rfl⟩
  · obtain ⟨rfl, title, titled, nonempty, rfl⟩ := get?_titled_eq_some_iff.mp atTitle
    exact ⟨fun other => absurd rfl other, _, _, .title member titled nonempty, rfl⟩
  · obtain ⟨present, plain⟩ := List.mem_filter.mp (List.mem_of_mem_take taken)
    rw [Bool.not_eq_true'] at plain
    exact ⟨fun _ => plain, _, _, .entry member present, rfl⟩

/-- **A value that is shown** contributes to its key. -/
theorem Shows.exists_contribution {value : FieldValue} {length : Nat}
    (shows : Shows limits records key value length) :
    value.isPresent = true ∧
      ∃ contribution ∈ contributionsTo key records, contribution.value = value := by
  cases shows with
  | @title record title member titled nonempty =>
    have isPresent : (FieldValue.text title).isPresent = true := by
      simpa [FieldValue.isPresent] using nonempty
    have present : record.presentAttribute? .title = some (.text title) := by
      rw [Record.presentAttribute?, Record.attribute?, titled, Option.map_some,
        Option.filter_some, if_pos isPresent]
    have contributed := mem_contributionsTo_of_attribute member present
    exact ⟨isPresent, _, contributed, rfl⟩
  | @entry record entry value member present =>
    have isPresent := FieldEntry.isPresent_of_present?
      (Record.mem_presentEntries_iff.mp present).2
    exact ⟨isPresent, _, mem_contributionsTo_of_entry member present, rfl⟩

theorem mem_ofRecords_iff {sample : Sample} :
    sample ∈ ofRecords limits fields records ↔
      (∃ record ∈ records.take limits.records, ofRecord limits fields record = sample) ∧
        sample.isEmpty = false := by
  rw [ofRecords, List.mem_filter, List.mem_map, Bool.not_eq_true']

/-- **Samples agree with the inferred fields.** Each key of a sample has a field, which is no rich
text unless it is the title. The text under the key is a present value that was observed of the
field, shortened as titles or as entries are, and an enumerated domain lists that value. -/
theorem backed_of_ofRecords {limits : InferenceLimits} {records : List Record}
    {inferred : InferredType} (result : InferredType.ofRecords limits records = .ok inferred)
    {sample : Sample} (member : sample ∈ ofRecords limits.sampleLimits inferred.fields records)
    {key text : String} (shown : sample.get? key = some text) :
    ∃ field observation value length,
      inferred.fields.get? key = some field ∧
      (key ≠ titleKey → field.dataType ≠ .richText) ∧
      (Tally.start.addAll records).observation? key = some observation ∧
      value ∈ observation.values ∧ value.isPresent = true ∧
      Shows limits.sampleLimits records key value length ∧
      text = Text.shorten length value.canonical ∧
      ∀ listed, field.domain = .enumerated listed → limits.domainLimits.clip value ∈ listed := by
  have reads := InferredType.reads_of_ofRecords result
  obtain ⟨⟨record, taken, rfl⟩, -⟩ := mem_ofRecords_iff.mp member
  obtain ⟨plain, value, length, shows, shortened⟩ :=
    shows_of_get?_ofRecord (List.mem_of_mem_take taken) shown
  obtain ⟨isPresent, contribution, contributed, rfl⟩ := shows.exists_contribution
  obtain ⟨field, found⟩ := reads.exists_field_iff.mpr (List.ne_nil_of_mem contributed)
  obtain ⟨observation, observed, gathered, described⟩ := reads.exists_observation found
  have valueMember : contribution.value ∈ observation.values := by
    rw [gathered.values_eq]
    exact List.mem_map_of_mem contributed
  refine ⟨field, observation, contribution.value, length, found, fun other rich => ?_, observed,
    valueMember, isPresent, shows, shortened, fun listed enumerated => ?_⟩
  · have notRich := plain other
    rw [isRich, found, Option.any_some, rich] at notRich
    cases notRich
  · rw [described] at enumerated
    exact (DomainLimits.mem_enumerated_iff enumerated).mpr ⟨contribution.value, valueMember, rfl⟩

/-- A sample shows the due date of its record, and not the root cause, which is rich text. -/
theorem backed_of_ofRecords_due :
    let records : List Record := [{ title := some "Alarm", fields :=
      [⟨"Root Cause", some (.text "loose"), .string⟩, ⟨"Due Date", some (.text "soon"), .date⟩] }]
    ∃ inferred sample field, InferredType.ofRecords {} records = .ok inferred ∧
      sample ∈ ofRecords (InferenceLimits.sampleLimits {}) inferred.fields records ∧
      sample.get? "Due_Date" = some "soon" ∧ sample.get? "Root_Cause" = none ∧
      inferred.fields.get? "Due_Date" = some field ∧ field.dataType ≠ .richText := by
  intro records
  obtain ⟨inferred, result, -⟩ :=
    InferredType.ofRecords_reads {} (List.cons_ne_nil _ _ : records ≠ [])
  have shown : (InferredType.ofRecords {} records).toOption.map (fun inferred =>
      (ofRecords (InferenceLimits.sampleLimits {}) inferred.fields records).map fun sample =>
        (sample.get? "Due_Date", sample.get? "Root_Cause")) =
          some [(some "soon", none)] := by
    decide +kernel
  rw [result] at shown
  obtain ⟨sample, single, texts⟩ := List.map_eq_singleton_iff.mp (Option.some.inj shown)
  obtain ⟨due, cause⟩ := Prod.mk.inj texts
  have member : sample ∈ ofRecords (InferenceLimits.sampleLimits {}) inferred.fields records := by
    rw [single]
    exact List.mem_cons_self
  obtain ⟨field, -, -, -, found, plain, -⟩ := backed_of_ofRecords result member due
  exact ⟨inferred, sample, field, result, member, due, cause, found, plain (by decide)⟩

end Sample

end RecordSchema
