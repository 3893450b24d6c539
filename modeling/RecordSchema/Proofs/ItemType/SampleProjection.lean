/-
**What the samples of some records show.**

A walk over the entries of a record counts what it shows and stops at a limit. Entries with one key
collapse to the last of them, but each one has counted.

* `Sample.walk_eq_foldl` — the walk shows the first entries among those that may be shown, whatever
  it showed before.
* `Sample.mem_names_ofRecord_iff`, `Sample.isEmpty_ofRecord_iff` — the keys of a sample, and when
  there are none.
* `Sample.Projects` — what the sample of a record shows under each key.
* `Sample.ofRecords_projects` — the samples of the first records, in their order and without the
  empty ones.
-/

import RecordSchema.Proofs.ItemType.SampleTitle

namespace RecordSchema

namespace Sample

variable {limits : SampleLimits} {fields : SortedMap FieldSchema} {record : Record}

/-! ### The walk -/

section Walk

variable {entry : FieldEntry} {rest : List FieldEntry}

theorem eligible_cons_of_rich (rich : isRich fields (fieldKey entry.label) = true) :
    eligible fields { record with fields := entry :: rest } =
      eligible fields { record with fields := rest } := by
  unfold eligible Record.presentEntries
  rw [List.filterMap_cons]
  cases entry.present? with
  | none => rfl
  | some value =>
    rw [Option.map_some]
    exact List.filter_cons_of_neg (by simp [rich])

theorem eligible_cons_of_absent (absent : entry.present? = none) :
    eligible fields { record with fields := entry :: rest } =
      eligible fields { record with fields := rest } := by
  unfold eligible Record.presentEntries
  rw [List.filterMap_cons, absent, Option.map_none]

theorem eligible_cons_of_present (plain : isRich fields (fieldKey entry.label) = false)
    {value : FieldValue} (present : entry.present? = some value) :
    eligible fields { record with fields := entry :: rest } =
      (entry, value) :: eligible fields { record with fields := rest } := by
  unfold eligible Record.presentEntries
  rw [List.filterMap_cons, present, Option.map_some]
  exact List.filter_cons_of_pos (by simp [plain])

end Walk

/-- **The walk** shows the first entries that it may show, as many as the limit leaves room for. -/
theorem walk_eq_foldl (limits : SampleLimits) (fields : SortedMap FieldSchema) (record : Record)
    (count : Nat) (entries : List FieldEntry) (sample : Sample) :
    walk limits fields count entries sample =
      ((eligible fields { record with fields := entries }).take (limits.fields - count)).foldl
        (fun sample present =>
          sample.insert (fieldKey present.1.label)
            (Text.shorten limits.valueLength present.2.canonical))
        sample := by
  induction entries generalizing count sample with
  | nil =>
    have nothing : eligible fields { record with fields := [] } = [] := rfl
    rw [walk, nothing, List.take_nil, List.foldl_nil]
  | cons entry rest hypothesis =>
    unfold walk
    by_cases full : limits.fields ≤ count
    · rw [if_pos full, Nat.sub_eq_zero_of_le full, List.take_zero]
      rfl
    · rw [if_neg full]
      by_cases rich : isRich fields (fieldKey entry.label) = true
      · rw [if_pos rich, hypothesis, eligible_cons_of_rich rich]
      · rw [if_neg rich]
        cases present : entry.present? with
        | none =>
          rw [eligible_cons_of_absent present]
          exact hypothesis count sample
        | some value =>
          -- One entry more is shown, so there is room for one less behind it.
          have room : limits.fields - count = limits.fields - (count + 1) + 1 := by omega
          rw [eligible_cons_of_present (Bool.eq_false_iff.mpr rich) present, room,
            List.take_succ_cons, List.foldl_cons]
          exact hypothesis (count + 1) _

/-- The walk over all entries makes the sample of the record. -/
theorem ofRecord_eq_walk (limits : SampleLimits) (fields : SortedMap FieldSchema)
    (record : Record) :
    ofRecord limits fields record =
      walk limits fields 0 record.fields (titled limits record) :=
  (walk_eq_foldl limits fields record 0 record.fields (titled limits record)).symm

/-! ### What a sample shows -/

/-- Whether a record has a title that a sample can show. -/
def HasTitle (record : Record) : Prop :=
  ∃ title, record.title = some title ∧ title ≠ ""

theorem isSome_get?_titled_iff {key : String} :
    ((titled limits record).get? key).isSome = true ↔ key = titleKey ∧ HasTitle record := by
  rw [Option.isSome_iff_exists]
  constructor
  · rintro ⟨text, shown⟩
    obtain ⟨same, title, given, nonempty, -⟩ := get?_titled_eq_some_iff.mp shown
    exact ⟨same, title, given, nonempty⟩
  · rintro ⟨same, title, given, nonempty⟩
    exact ⟨_, get?_titled_eq_some_iff.mpr ⟨same, title, given, nonempty, rfl⟩⟩

/-- **The keys of a sample** are those of the entries that it shows, and the title's own if there is
a title. -/
theorem mem_names_ofRecord_iff {key : String} :
    key ∈ (ofRecord limits fields record).names ↔
      (∃ present ∈ shown limits fields record, fieldKey present.1.label = key) ∨
        key = titleKey ∧ HasTitle record := by
  rw [SortedMap.mem_names_iff, get?_ofRecord, Option.isSome_or, Bool.or_eq_true, Option.isSome_map,
    List.getLast?_isSome, isSome_get?_titled_iff, ne_eq, List.filter_eq_nil_iff]
  refine or_congr ?_ Iff.rfl
  simp only [Classical.not_forall, Classical.not_not, beq_iff_eq, exists_prop]

/-- The title and the entries up to the limit are all that is shown. -/
theorem size_ofRecord_le (limits : SampleLimits) (fields : SortedMap FieldSchema)
    (record : Record) : (ofRecord limits fields record).size ≤ limits.fields + 1 := by
  let keys := (shown limits fields record).map fun present => fieldKey present.1.label
  have listed : (ofRecord limits fields record).names ⊆ titleKey :: keys := by
    intro key member
    rcases mem_names_ofRecord_iff.mp member with ⟨present, listed, rfl⟩ | ⟨rfl, -⟩
    · exact List.mem_cons_of_mem _ (List.mem_map_of_mem listed)
    · exact List.mem_cons_self
  have bound := (SortedMap.names_nodup _).length_le_of_subset listed
  have taken : keys.length ≤ limits.fields := by
    rw [List.length_map, shown]
    exact List.length_take_le _ _
  rw [SortedMap.names, List.length_map, List.length_cons] at bound
  exact Nat.le_trans bound (Nat.succ_le_succ taken)

/-- A sample is empty if there is neither a title nor an entry to be shown. -/
theorem isEmpty_ofRecord_iff :
    (ofRecord limits fields record).isEmpty = true ↔
      ¬ HasTitle record ∧ shown limits fields record = [] := by
  have nameless : (ofRecord limits fields record).isEmpty = true ↔
      ∀ key, key ∉ (ofRecord limits fields record).names := by
    rw [← List.eq_nil_iff_forall_not_mem, SortedMap.names, List.map_eq_nil_iff]
    exact List.isEmpty_iff
  simp only [nameless, mem_names_ofRecord_iff, not_or, not_and]
  constructor
  · intro nothing
    refine ⟨(nothing titleKey).2 rfl, List.eq_nil_iff_forall_not_mem.mpr fun present listed => ?_⟩
    exact (nothing (fieldKey present.1.label)).1 ⟨present, listed, rfl⟩
  · rintro ⟨untitled, nothing⟩ key
    refine ⟨?_, fun _ => untitled⟩
    rintro ⟨present, listed, -⟩
    rw [nothing] at listed
    cases listed

/-- **Under a key that is not the title's** the last entry with this key is shown. -/
theorem get?_ofRecord_eq_some_iff {key text : String} (other : key ≠ titleKey) :
    (ofRecord limits fields record).get? key = some text ↔
      ∃ last, IsLast (fun present => fieldKey present.1.label = key)
          (shown limits fields record) last ∧
        text = Text.shorten limits.valueLength last.2.canonical := by
  have untitled : (titled limits record).get? key = none := by
    rw [← Option.not_isSome_iff_eq_none, isSome_get?_titled_iff]
    exact fun title => other title.1
  rw [get?_ofRecord, untitled, Option.or_none, Option.map_eq_some_iff]
  refine exists_congr fun last => and_congr ?_ eq_comm
  rw [getLast?_filter_eq_some_iff_isLast]
  simp only [beq_iff_eq]

/-- What a sample shows of a record. -/
structure Projects (limits : SampleLimits) (fields : SortedMap FieldSchema) (record : Record)
    (sample : Sample) : Prop where
  /-- Apart from the title's own, the keys are those of the entries that are shown. -/
  mem_names_iff : ∀ key, key ≠ titleKey →
    (key ∈ sample.names ↔ ∃ present ∈ shown limits fields record, fieldKey present.1.label = key)
  /-- Of several entries with one key the last one is shown. -/
  get?_eq_some_iff : ∀ key text, key ≠ titleKey → (sample.get? key = some text ↔
    ∃ last, IsLast (fun present => fieldKey present.1.label = key)
        (shown limits fields record) last ∧
      text = Text.shorten limits.valueLength last.2.canonical)
  titleKey_mem_names_iff : titleKey ∈ sample.names ↔
    HasTitle record ∨ ∃ present ∈ shown limits fields record, fieldKey present.1.label = titleKey
  size_le : sample.size ≤ limits.fields + 1
  isEmpty_iff : sample.isEmpty = true ↔ ¬ HasTitle record ∧ shown limits fields record = []

theorem projects_ofRecord (limits : SampleLimits) (fields : SortedMap FieldSchema)
    (record : Record) : Projects limits fields record (ofRecord limits fields record) where
  mem_names_iff key other := by
    rw [mem_names_ofRecord_iff]
    exact or_iff_left fun title => other title.1
  get?_eq_some_iff key text other := get?_ofRecord_eq_some_iff other
  titleKey_mem_names_iff := by
    rw [mem_names_ofRecord_iff, or_comm]
    exact or_congr (and_iff_right rfl) Iff.rfl
  size_le := size_ofRecord_le limits fields record
  isEmpty_iff := isEmpty_ofRecord_iff

/-- **The samples of some records** are those of the first records, in their order and without the
empty ones. Each is left by a walk over the entries of its record, and shows what that record has.
-/
theorem ofRecords_projects (limits : SampleLimits) (fields : SortedMap FieldSchema)
    (records : List Record) :
    ofRecords limits fields records =
        ((records.take limits.records).map fun record =>
          walk limits fields 0 record.fields (titled limits record)).filter
            (fun sample => !sample.isEmpty) ∧
      (ofRecords limits fields records).length ≤ limits.records ∧
      (∀ sample ∈ ofRecords limits fields records, sample.isEmpty = false) ∧
      ∀ record, Projects limits fields record
        (walk limits fields 0 record.fields (titled limits record)) := by
  refine ⟨?walks, ?bound, fun sample member => (mem_ofRecords_iff.mp member).2, fun record => ?_⟩
  case walks =>
    simp only [← ofRecord_eq_walk]
    rfl
  case bound =>
    have kept := List.length_filter_le (fun sample : Sample => !sample.isEmpty)
      ((records.take limits.records).map (ofRecord limits fields))
    rw [List.length_map] at kept
    exact Nat.le_trans kept (List.length_take_le _ _)
  · rw [← ofRecord_eq_walk]
    exact projects_ofRecord limits fields record

/-- Two entries with one key are shown as one and still fill a limit of two. -/
example :
    let record : Record := { fields :=
      [⟨"Due Date", some (.text "May"), .string⟩, ⟨"Owner", some (.text ""), .string⟩,
        ⟨"Due_Date", some (.text "June"), .string⟩, ⟨"Owner", some (.text "QA"), .string⟩] }
    (ofRecord ⟨3, 80, 60, 2⟩ SortedMap.empty record).entries = [("Due_Date", "June")] := by
  cbv

end Sample

end RecordSchema
