/-
**Points in time make a field temporal.**

A text is read as a point in time where its entry declares a temporal hint. The data type of the
field is decided much later, from all hints together, and still remembers it:

* `FieldEntry.isTemporal_of_dateTime` — an entry that was read holds a point in time only under a
  temporal hint.
* `Contribution.IsDated` — whether a contribution with a point in time brings such a hint along.
  What the entries of read records contribute does (`isDated_of_mem_contributionsTo`).
* `Observation.Gathers.suggests_datetime` — gathered with its hint, the value speaks for points in
  time.
* `Tally.dataType_of_dateTime` — so the field is one of points in time, or of something stronger.
-/

import RecordSchema.Proofs.Field.DataType

namespace RecordSchema

open Json (Value)

theorem Hint.isTemporal_iff {hint : Hint} :
    hint.isTemporal = true ↔ hint = .date ∨ hint = .datetime := by
  cases hint <;> decide

/-! ### Reading -/

theorem FieldValue.isTemporal_of_observed? {hint : Hint} {json : Value} {content : String}
    (found : observed? hint json = some (.dateTime content)) : hint.isTemporal = true := by
  cases json with
  | string text =>
    simp only [observed?, Option.some.injEq] at found
    split at found
    case isTrue temporal => exact temporal
    case isFalse => cases found
  | null => cases found
  | bool _ => cases found
  | number _ => cases found
  | array _ => cases found
  | object _ => cases found

/-- **A point in time** was read under a temporal hint. -/
theorem FieldEntry.isTemporal_of_dateTime {json : Value} {entry : FieldEntry}
    (read : ofJson? json = some entry) {content : String}
    (valued : entry.value = some (.dateTime content)) : entry.hint.isTemporal = true := by
  simp only [ofJson?, Option.bind_eq_bind, Option.bind_eq_some_iff] at read
  obtain ⟨_, -, label, -, built⟩ := read
  split at built
  case isTrue => cases built
  case isFalse =>
    cases built
    obtain ⟨_, -, found⟩ := Option.bind_eq_some_iff.mp valued
    exact FieldValue.isTemporal_of_observed? found

/-- The field entries of a record were read one by one. -/
theorem Record.exists_ofJson?_of_mem_fields {json : Value} {record : Record}
    (read : ofJson? json = some record) {entry : FieldEntry} (member : entry ∈ record.fields) :
    ∃ element, FieldEntry.ofJson? element = some entry := by
  unfold ofJson? at read
  split at read
  case isTrue =>
    cases read
    obtain ⟨element, -, found⟩ := List.mem_filterMap.mp member
    exact ⟨element, found⟩
  case isFalse => cases read

/-! ### Gathering -/

/-- Whether a contribution with a point in time brings a temporal hint along. -/
def Contribution.IsDated (contribution : Contribution) : Prop :=
  ∀ content, contribution.value = .dateTime content →
    ∃ hint, contribution.hint = some hint ∧ hint.isTemporal = true

section Gathered

variable {records : List Record} {key : String}

/-- Under a key that is no attribute's name, **read records** contribute a point in time together
with its hint. The creation date of a record, a point in time without a hint, has such a name. -/
theorem isDated_of_mem_contributionsTo
    (read : ∀ record ∈ records, ∃ json, Record.ofJson? json = some record)
    (other : ∀ which : FixedAttribute, which.name ≠ key) {contribution : Contribution}
    (member : contribution ∈ contributionsTo key records) : contribution.IsDated := by
  intro content dated
  obtain ⟨record, recordMember, contributed⟩ := List.mem_flatMap.mp member
  rcases List.mem_append.mp contributed with fixed | entered
  · obtain ⟨value, found, -⟩ := Option.map_eq_some_iff.mp (Option.mem_toList.mp fixed)
    obtain ⟨which, called, -⟩ := Option.bind_eq_some_iff.mp found
    have name : which.name = key := by simpa using List.find?_some called
    exact absurd name (other which)
  · obtain ⟨⟨entry, value⟩, listed, rfl⟩ := List.mem_map.mp entered
    obtain ⟨source, sourceMember, present⟩ := List.mem_filterMap.mp (List.mem_filter.mp listed).1
    obtain ⟨found, isPresent, same⟩ := Option.map_eq_some_iff.mp present
    cases same
    have valued : entry.value = some value := (Option.filter_eq_some_iff.mp isPresent).1
    obtain ⟨json, recordRead⟩ := read record recordMember
    obtain ⟨element, entryRead⟩ := Record.exists_ofJson?_of_mem_fields recordRead sourceMember
    exact ⟨entry.hint, rfl,
      FieldEntry.isTemporal_of_dateTime entryRead (valued.trans (congrArg some dated))⟩

/-- **A point in time that was gathered** with its hint speaks for points in time. -/
theorem Observation.Gathers.suggests_datetime {observation : Observation}
    {contributions : List Contribution} (gathered : observation.Gathers key contributions)
    (dated : ∀ contribution ∈ contributions, contribution.IsDated) {content : String}
    (member : .dateTime content ∈ observation.values) (limits : InferenceLimits) :
    observation.Suggests limits .datetime := by
  rw [gathered.values_eq] at member
  obtain ⟨contribution, contributed, valued⟩ := List.mem_map.mp member
  obtain ⟨hint, declared, temporal⟩ := dated contribution contributed content valued
  have gatheredHint : hint ∈ observation.hints := by
    rw [gathered.hints_eq, List.mem_filter, List.any_eq_true]
    exact ⟨Hint.mem_all hint, contribution, contributed, beq_iff_eq.mpr declared⟩
  rcases Hint.isTemporal_iff.mp temporal with rfl | rfl
  · exact Or.inl gatheredHint
  · exact Or.inr gatheredHint

end Gathered

/-! ### Deciding -/

theorem DataType.strength_datetime_le_iff {dataType : DataType} :
    datetime.strength ≤ dataType.strength ↔
      dataType = .datetime ∨ dataType = .number ∨ dataType = .richText := by
  cases dataType <;> decide

/-- **Points in time make a field temporal.** Where one was observed under a key that is no
attribute's name, the data type is that of points in time or a stronger one; and all text that is
observed of a string field is plain. -/
theorem Tally.dataType_of_dateTime (limits : InferenceLimits) {records : List Record}
    (read : ∀ record ∈ records, ∃ json, Record.ofJson? json = some record) {key : String}
    (other : ∀ which : FixedAttribute, which.name ≠ key) {observation : Observation}
    (observed : (start.addAll records).observation? key = some observation) :
    (∀ content, .dateTime content ∈ observation.values →
      observation.dataType limits = .datetime ∨ observation.dataType limits = .number ∨
        observation.dataType limits = .richText) ∧
      (observation.dataType limits = .string →
        ∀ value ∈ observation.values, ∀ content, value.textContent? = some content →
          value = .text content) := by
  have gathered := (observation?_addAll records key).2 observation observed
  have temporal : ∀ content, .dateTime content ∈ observation.values →
      observation.dataType limits = .datetime ∨ observation.dataType limits = .number ∨
        observation.dataType limits = .richText := by
    intro content member
    have suggested := gathered.suggests_datetime
      (fun contribution => isDated_of_mem_contributionsTo read other) member limits
    exact DataType.strength_datetime_le_iff.mp (Observation.strength_le_of_suggests suggested)
  refine ⟨temporal, fun string value member content found => ?_⟩
  rcases FieldValue.eq_of_textContent? found with text | dated
  · exact text
  · have stronger := temporal content (dated ▸ member)
    rw [string] at stronger
    exact absurd stronger (by decide)

/-- A date among other values makes the field temporal, though the later hint is a boolean. -/
theorem Tally.dataType_of_dateTime_due :
    let entry (value hint : String) : Value :=
      .object [("label", .string "Due"), ("value", .string value), ("type", .string hint)]
    let json (value hint : String) : Value := .object [("fields", .array [entry value hint])]
    let records := [json "2024-05-01" "date", json "soon" "boolean"].filterMap Record.ofJson?
    ∃ observation, (start.addAll records).observation? "Due" = some observation ∧
      observation.values.map FieldValue.kind = ["dateTime", "text"] ∧
      observation.hints = [.date, .boolean] ∧
      (observation.dataType {} = .datetime ∨ observation.dataType {} = .number ∨
        observation.dataType {} = .richText) := by
  intro entry json records
  have read : ∀ record ∈ records, ∃ json, Record.ofJson? json = some record := by
    intro record member
    obtain ⟨value, -, found⟩ := List.mem_filterMap.mp member
    exact ⟨value, found⟩
  have other : ∀ which : FixedAttribute, which.name ≠ "Due" := by
    intro which
    cases which <;> decide
  have seen : ((start.addAll records).observation? "Due").map
      (fun observation => (observation.values.map FieldValue.kind, observation.hints)) =
        some (["dateTime", "text"], [.date, .boolean]) := by
    decide +kernel
  obtain ⟨observation, observed, facts⟩ := Option.map_eq_some_iff.mp seen
  obtain ⟨kinds, hints⟩ := Prod.mk.inj facts
  obtain ⟨value, member, kind⟩ : ∃ value ∈ observation.values, value.kind = "dateTime" :=
    List.mem_map.mp (kinds ▸ List.mem_cons_self)
  refine ⟨observation, observed, kinds, hints, ?_⟩
  cases value with
  | dateTime content => exact (dataType_of_dateTime {} read other observed).1 content member
  | _ => simp [FieldValue.kind] at kind

end RecordSchema
