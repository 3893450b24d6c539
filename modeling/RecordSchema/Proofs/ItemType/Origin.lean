/-
**Where the last value of a fixed attribute comes from.**

A record's fixed attributes and its field entries share one space of keys. An entry that is called
like a fixed attribute is observed under the same key, and the origin of a field is that of its last
value:

* `Overridden` — whether that value comes from an entry: behind a record with such an entry, no
  record has the attribute.
* `isCustom_last_iff` — the last contribution under the name of an attribute is custom exactly then.
* `InferredType.origin_of_attribute` — and so is the field, which decides how templates reach it.
-/

import Mathlib.Data.List.Induction
import RecordSchema.Proofs.ItemType.Tally

namespace RecordSchema

/-- Whether a record has a present entry that is called like a fixed attribute. -/
def Record.EntersAs (which : FixedAttribute) (record : Record) : Prop :=
  ∃ present ∈ record.presentEntries, present.1.label = which.name

/-- Whether an entry gives the last value under the name of a fixed attribute: behind a record with
such an entry, no record has the attribute. -/
def Overridden (which : FixedAttribute) (records : List Record) : Prop :=
  ∃ before record after, records = before ++ record :: after ∧ record.EntersAs which ∧
    ∀ later ∈ after, later.presentAttribute? which = none

section Attribute

variable {which : FixedAttribute} {records : List Record} {record : Record}

/-- One more record overrides an attribute by an entry of its own, or leaves it overridden. -/
theorem overridden_concat :
    Overridden which (records ++ [record]) ↔
      record.EntersAs which ∨
        (Overridden which records ∧ record.presentAttribute? which = none) := by
  constructor
  · rintro ⟨before, found, after, split, entered, behind⟩
    rcases after.eq_nil_or_concat with rfl | ⟨earlier, last, rfl⟩
    · obtain ⟨-, same⟩ := List.append_inj' split rfl
      exact Or.inl (List.singleton_inj.mp same ▸ entered)
    · rw [List.concat_eq_append] at split behind
      rw [← List.cons_append, ← List.append_assoc] at split
      obtain ⟨front, same⟩ := List.append_inj' split rfl
      rw [List.singleton_inj.mp same]
      refine Or.inr ⟨⟨before, found, earlier, front, entered, fun later member => ?_⟩, ?_⟩
      · exact behind later (List.mem_append_left _ member)
      · exact behind last (List.mem_append_right _ List.mem_cons_self)
  · rintro (entered | ⟨⟨before, found, after, rfl, entered, behind⟩, absent⟩)
    · exact ⟨records, record, [], rfl, entered, fun later member => nomatch member⟩
    · refine ⟨before, found, after ++ [record], by simp, entered, fun later member => ?_⟩
      rcases List.mem_append.mp member with older | last
      · exact behind later older
      · rw [List.mem_singleton.mp last, absent]

/-! ### The last contribution -/

theorem FixedAttribute.find?_name (which : FixedAttribute) :
    FixedAttribute.all.find? (fun other => other.name == which.name) = some which := by
  cases which <;> decide

/-- Under the name of an attribute, a record contributes the attribute and then the entries that are
called like it. -/
theorem Record.contributionsTo_name (record : Record) (which : FixedAttribute) :
    record.contributionsTo which.name =
      ((record.presentAttribute? which).map (Contribution.ofFixed which.name)).toList ++
        (record.presentEntries.filter fun present => present.1.label == which.name).map
          fun present => Contribution.ofEntry present.1 present.2 := by
  have spaceless : ' ' ∉ which.name.toList := by cases which <;> decide
  have solid : '_' ∉ which.name.toList := by cases which <;> decide
  have entries := record.filter_key_presentEntries spaceless solid
  rw [Record.contributionsTo, which.find?_name, entries, Option.bind_some]

theorem Record.entersAs_iff :
    record.EntersAs which ↔
      (record.presentEntries.filter fun present => present.1.label == which.name) ≠ [] := by
  constructor
  · rintro ⟨present, member, labelled⟩
    exact List.ne_nil_of_mem (List.mem_filter.mpr ⟨member, beq_iff_eq.mpr labelled⟩)
  · intro entered
    obtain ⟨present, member⟩ := List.exists_mem_of_ne_nil _ entered
    obtain ⟨listed, labelled⟩ := List.mem_filter.mp member
    exact ⟨present, listed, beq_iff_eq.mp labelled⟩

/-- **The last contribution of a record** is custom exactly if the record has such an entry. -/
theorem Record.isCustom_last_iff {last : Contribution}
    (isLast : (record.contributionsTo which.name).getLast? = some last) :
    last.isCustom = true ↔ record.EntersAs which := by
  rw [record.contributionsTo_name which, List.getLast?_append, List.getLast?_map] at isLast
  rw [Record.entersAs_iff]
  generalize record.presentEntries.filter (fun present => present.1.label == which.name) = entered
    at isLast
  cases found : entered.getLast? with
  | some present =>
    rw [found, Option.map_some, Option.some_or] at isLast
    rw [← Option.some.inj isLast]
    refine iff_of_true rfl fun nothing => ?_
    rw [nothing] at found
    cases found
  | none =>
    -- Without an entry the attribute itself stands last.
    rw [found, Option.map_none, Option.none_or] at isLast
    obtain ⟨value, -, fixed⟩ := Option.map_eq_some_iff.mp
      (Option.mem_toList.mp (List.mem_of_getLast? isLast))
    rw [← fixed]
    exact iff_of_false Bool.false_ne_true fun nonempty =>
      nonempty (List.getLast?_eq_none_iff.mp found)

/-- A record without contributions has neither the attribute nor such an entry. -/
theorem Record.absent_of_contributionsTo_eq_nil
    (nothing : record.contributionsTo which.name = []) :
    record.presentAttribute? which = none ∧ ¬ record.EntersAs which := by
  rw [record.contributionsTo_name which, List.append_eq_nil_iff, List.map_eq_nil_iff] at nothing
  refine ⟨?_, fun entered => Record.entersAs_iff.mp entered nothing.2⟩
  cases present : record.presentAttribute? which with
  | none => rfl
  | some value =>
    rw [present] at nothing
    cases nothing.1

/-- A record that contributes without such an entry has the attribute. -/
theorem Record.present_of_not_entersAs (contributes : record.contributionsTo which.name ≠ [])
    (without : ¬ record.EntersAs which) : record.presentAttribute? which ≠ none := by
  intro absent
  rw [Record.entersAs_iff, Classical.not_not] at without
  rw [record.contributionsTo_name which, absent, without] at contributes
  exact contributes rfl

/-- **The last contribution** under the name of an attribute is custom exactly if it is overridden.
-/
theorem isCustom_last_iff {last : Contribution}
    (isLast : (contributionsTo which.name records).getLast? = some last) :
    last.isCustom = true ↔ Overridden which records := by
  induction records using List.reverseRecOn with
  | nil => cases isLast
  | append_singleton earlier record hypothesis =>
    have step : contributionsTo which.name (earlier ++ [record]) =
        contributionsTo which.name earlier ++ record.contributionsTo which.name := by
      rw [contributionsTo, List.flatMap_append, List.flatMap_singleton]
      rfl
    rw [step, List.getLast?_append] at isLast
    rw [overridden_concat]
    by_cases nothing : record.contributionsTo which.name = []
    · obtain ⟨absent, without⟩ := Record.absent_of_contributionsTo_eq_nil nothing
      rw [nothing, List.getLast?_nil, Option.none_or] at isLast
      rw [hypothesis isLast, or_iff_right without, and_iff_left absent]
    · obtain ⟨own, ownLast⟩ :=
        Option.ne_none_iff_exists'.mp (mt List.getLast?_eq_none_iff.mp nothing)
      rw [ownLast, Option.some_or] at isLast
      rw [← Option.some.inj isLast, Record.isCustom_last_iff ownLast]
      refine ⟨Or.inl, ?_⟩
      rintro (entered | ⟨-, absent⟩)
      · exact entered
      · exact Classical.byContradiction fun without =>
          Record.present_of_not_entersAs nothing without absent

end Attribute

/-! ### The field of an attribute -/

/-- **The field of a fixed attribute** that some record has is reached like the attribute, unless an
entry overrides it: then it is custom, and reached through the field list. -/
theorem InferredType.origin_of_attribute (limits : InferenceLimits) {records : List Record}
    {which : FixedAttribute} {record : Record} (member : record ∈ records) {value : FieldValue}
    (present : record.presentAttribute? which = some value) :
    ∃ inferred field, InferredType.ofRecords limits records = .ok inferred ∧
      inferred.fields.get? which.name = some field ∧
        (Overridden which records →
          field.isCustom = true ∧ field.access.plain = "fieldValue." ++ which.name) ∧
        (¬ Overridden which records →
          field.isCustom = false ∧ field.access.plain = which.name) := by
  have contributed := List.ne_nil_of_mem (mem_contributionsTo_of_attribute member present)
  have nonempty : records ≠ [] := List.ne_nil_of_mem member
  obtain ⟨inferred, result, reads⟩ := InferredType.ofRecords_reads limits nonempty
  obtain ⟨field, found⟩ := reads.exists_field_iff.mpr contributed
  obtain ⟨observation, -, gathered, rfl⟩ := reads.exists_observation found
  obtain ⟨last, isLast, -, origin⟩ := gathered.last_eq
  have custom : observation.isCustom = true ↔ Overridden which records := by
    rw [origin, isCustom_last_iff isLast]
  have plain : (observation.schema records.length limits).access.plain =
      if observation.isCustom then "fieldValue." ++ which.name else which.name := by
    rw [← gathered.key_eq]
    rfl
  refine ⟨inferred, _, result, found, fun overridden => ?_, fun kept => ?_⟩
  · exact ⟨custom.mpr overridden, plain.trans (if_pos (custom.mpr overridden))⟩
  · exact ⟨Bool.eq_false_iff.mpr (mt custom.mp kept), plain.trans (if_neg (mt custom.mp kept))⟩

/-- An entry called like the title makes the title custom, unless a record with a title follows. -/
theorem InferredType.origin_of_reordered :
    let entered : Record := { title := some "A", fields := [⟨"title", some (.text "B"), .string⟩] }
    let plain : Record := { title := some "C" }
    (∃ inferred field, ofRecords {} [entered, plain] = .ok inferred ∧
      inferred.fields.get? "title" = some field ∧ field.isCustom = false ∧
        field.access.plain = "title") ∧
    ∃ inferred field, ofRecords {} [plain, entered] = .ok inferred ∧
      inferred.fields.get? "title" = some field ∧ field.isCustom = true ∧
        field.access.plain = "fieldValue.title" := by
  intro entered plain
  have titled : plain.presentAttribute? .title = some (.text "C") := by rfl
  have overriding : entered.EntersAs .title := ⟨(_, .text "B"), List.mem_singleton_self _, rfl⟩
  constructor
  · have listed : plain ∈ [entered, plain] := List.mem_cons_of_mem _ List.mem_cons_self
    obtain ⟨inferred, field, result, found, -, kept⟩ := origin_of_attribute {} listed titled
    refine ⟨inferred, field, result, found, kept fun overridden => ?_⟩
    have last : Overridden .title ([entered] ++ [plain]) := overridden
    rcases overridden_concat.mp last with entering | ⟨-, absent⟩
    · obtain ⟨present, listed, -⟩ := entering
      exact nomatch listed
    · rw [titled] at absent
      cases absent
  · have listed : plain ∈ [plain, entered] := List.mem_cons_self
    obtain ⟨inferred, field, result, found, overridden, -⟩ := origin_of_attribute {} listed titled
    refine ⟨inferred, field, result, found, overridden ⟨[plain], entered, [], rfl, overriding, ?_⟩⟩
    exact fun later member => nomatch member

end RecordSchema
