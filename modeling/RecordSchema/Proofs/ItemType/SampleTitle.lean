/-
**What a sample shows as the title.**

The title of a record is shown under a key that a field entry may have as well. The entries come
after the title, so an entry that is labelled like it is shown in its place.

* `Sample.shown` — the entries that a sample shows.
* `Sample.get?_ofRecord` — under a key, the last entry with this key is shown, and without any the
  title under its own key.
* `Sample.get?_titleKey_ofRecord` — a sample shows the title of its record unless the last entry
  that is labelled like it reads differently.
-/

import RecordSchema.Proofs.ItemType.Sample
import RecordSchema.Proofs.Search

namespace RecordSchema

namespace Sample

/-- The field entries that the sample of a record shows: the first ones that it may show. -/
def shown (limits : SampleLimits) (fields : SortedMap FieldSchema) (record : Record) :
    List (FieldEntry × FieldValue) :=
  (eligible fields record).take limits.fields

variable {limits : SampleLimits} {fields : SortedMap FieldSchema} {record : Record}

/-- **Under a key** the last entry with this key is shown, and only without any the title. -/
theorem get?_ofRecord (limits : SampleLimits) (fields : SortedMap FieldSchema) (record : Record)
    (key : String) :
    (ofRecord limits fields record).get? key =
      (((shown limits fields record).filter fun present =>
          fieldKey present.1.label == key).getLast?.map fun present =>
        Text.shorten limits.valueLength present.2.canonical).or
        ((titled limits record).get? key) :=
  SortedMap.get?_foldl_insert _ _ _ _ key

/-- Only an entry that is labelled like the title has its key. -/
theorem fieldKey_eq_titleKey_iff {label : String} : fieldKey label = titleKey ↔ label = titleKey :=
  fieldKey_eq_iff (by decide) (by decide)

/-- **An entry that is labelled like the title** is shown in its place, if it is the last one. -/
theorem get?_titleKey_of_isLast {last : FieldEntry × FieldValue}
    (isLast :
      IsLast (fun present => present.1.label = titleKey) (shown limits fields record) last) :
    (ofRecord limits fields record).get? titleKey =
      some (Text.shorten limits.valueLength last.2.canonical) := by
  have found : ((shown limits fields record).filter fun present =>
      fieldKey present.1.label == titleKey).getLast? = some last := by
    rw [getLast?_filter_eq_some_iff_isLast]
    simpa only [beq_iff_eq, fieldKey_eq_titleKey_iff] using isLast
  rw [get?_ofRecord, found, Option.map_some, Option.some_or]

section Titled

variable {title : String} (titled : record.title = some title) (nonempty : title ≠ "")

include titled nonempty

/-- **Without such an entry** the title itself is shown. -/
theorem get?_titleKey_of_forall
    (others : ∀ present ∈ shown limits fields record, present.1.label ≠ titleKey) :
    (ofRecord limits fields record).get? titleKey =
      some (Text.shorten limits.titleLength title) := by
  have nothing : ((shown limits fields record).filter fun present =>
      fieldKey present.1.label == titleKey) = [] := by
    apply List.filter_eq_nil_iff.mpr
    intro present member same
    exact others present member (fieldKey_eq_titleKey_iff.mp (beq_iff_eq.mp same))
  have own : (Sample.titled limits record).get? titleKey =
      some (Text.shorten limits.titleLength title) :=
    get?_titled_eq_some_iff.mpr ⟨rfl, title, titled, nonempty, rfl⟩
  rw [get?_ofRecord, nothing, own]
  rfl

end Titled

/-- **The title of a record is shown** exactly if the entry that is shown in its place reads like
it: the last one that is labelled like the title, among the entries that are shown. Without such an
entry the title stays. -/
theorem get?_titleKey_ofRecord (limits : SampleLimits) (fields : SortedMap FieldSchema)
    {record : Record} {title : String} (titled : record.title = some title)
    (nonempty : title ≠ "") :
    ((∀ present ∈ shown limits fields record, present.1.label ≠ titleKey) →
      (ofRecord limits fields record).get? titleKey =
        some (Text.shorten limits.titleLength title)) ∧
    (∀ last, IsLast (fun present => present.1.label = titleKey) (shown limits fields record) last →
      (ofRecord limits fields record).get? titleKey =
        some (Text.shorten limits.valueLength last.2.canonical)) ∧
    ((ofRecord limits fields record).get? titleKey = some (Text.shorten limits.titleLength title) ↔
      ∀ last, IsLast (fun present => present.1.label = titleKey)
          (shown limits fields record) last →
        Text.shorten limits.valueLength last.2.canonical =
          Text.shorten limits.titleLength title) := by
  refine ⟨get?_titleKey_of_forall titled nonempty, fun last => get?_titleKey_of_isLast, ?_, ?_⟩
  · intro own last isLast
    rw [get?_titleKey_of_isLast isLast] at own
    exact Option.some.inj own
  · intro alike
    by_cases labelled : ∃ present ∈ shown limits fields record, present.1.label = titleKey
    · obtain ⟨last, isLast⟩ := exists_isLast labelled
      rw [get?_titleKey_of_isLast isLast, alike last isLast]
    · apply get?_titleKey_of_forall titled nonempty
      intro present member same
      exact labelled ⟨present, member, same⟩

/-- An entry that is labelled like the title is shown instead of it, unless it is the one too many.
-/
theorem get?_titleKey_ofRecord_replaced :
    let record : Record :=
      { title := some "A", fields := [⟨"title", some (.text "B"), .string⟩] }
    record.title = some "A" ∧
      (ofRecord ⟨3, 80, 60, 4⟩ SortedMap.empty record).get? titleKey = some "B" ∧
      (ofRecord ⟨3, 80, 60, 4⟩ SortedMap.empty record).get? titleKey ≠
        some (Text.shorten 80 "A") ∧
      (ofRecord ⟨3, 80, 60, 0⟩ SortedMap.empty record).get? titleKey = some "A" := by
  intro record
  have titled : record.title = some "A" := rfl
  have nonempty : "A" ≠ "" := by decide
  have isLast : IsLast (fun present => present.1.label = titleKey)
      (shown ⟨3, 80, 60, 4⟩ SortedMap.empty record) (_, .text "B") :=
    ⟨[], [], rfl, rfl, fun later member => nomatch member⟩
  obtain ⟨-, replaced, own⟩ :=
    get?_titleKey_ofRecord ⟨3, 80, 60, 4⟩ SortedMap.empty titled nonempty
  obtain ⟨kept, -⟩ :=
    get?_titleKey_ofRecord ⟨3, 80, 60, 0⟩ SortedMap.empty titled nonempty
  refine ⟨titled, replaced _ isLast, ?_, kept fun present member => nomatch member⟩
  intro shows
  exact absurd (own.mp shows _ isLast) (by decide)

end Sample

end RecordSchema
