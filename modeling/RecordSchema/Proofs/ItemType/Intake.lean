/-
**Refused values leave no trace.**

A value that is no record is refused before its call has changed anything, so a call that fails
might as well not have been made:

* `Intake.run_forM` — steps that all succeed fold what they do over the tally.
* `Intake.run_addRecord` — a record that is added step by step is added as a whole.
* `Intake.run_addJson` — what one call answers, and the tally behind it.
* `Intake.run_addEach` — the same of a sequence of calls.
* `Intake.addEach_tallies` — the tally behind a sequence is that of the records among its values.
-/

import RecordSchema.ItemType.Intake
import RecordSchema.Proofs.ItemType.Tally
import RecordSchema.Proofs.Record.Malformed

namespace RecordSchema

open Json (Value)

/-! ### Adding several at once -/

namespace Tally

/-- The tally with some contributions. -/
def contributeAll (tally : Tally) (contributions : List Contribution) : Tally :=
  { tally with observations := contributions.foldl contribute tally.observations }

/-- The tally with some present entries: all of them are observed, and then the statuses among them
are noted. -/
def addPresent (tally : Tally) (present : List (FieldEntry × FieldValue)) : Tally :=
  { tally with
    observations := (present.map fun entered =>
      Contribution.ofEntry entered.1 entered.2).foldl contribute tally.observations
    statuses := tally.statuses.insertAll
      ((present.filter fun entered => entered.1.label == statusLabel).map
        fun entered => entered.2.canonical) }

theorem foldl_contributeAll (contributions : List Contribution) (tally : Tally) :
    contributions.foldl (fun tally added => tally.contributeAll [added]) tally =
      tally.contributeAll contributions := by
  induction contributions generalizing tally with
  | nil => rfl
  | cons added rest hypothesis =>
    rw [List.foldl_cons, hypothesis]
    rfl

/-- The statuses of earlier entries may wait until later entries are observed. -/
theorem addPresent_append (tally : Tally) (first second : List (FieldEntry × FieldValue)) :
    tally.addPresent (first ++ second) = (tally.addPresent first).addPresent second := by
  simp only [addPresent, NameSet.insertAll, List.map_append, List.filter_append, List.foldl_append]

/-- Present entries that are added a few at a time are added all. -/
theorem foldl_addPresent {α : Type} (present : α → List (FieldEntry × FieldValue))
    (elements : List α) (tally : Tally) :
    elements.foldl (fun tally element => tally.addPresent (present element)) tally =
      tally.addPresent (elements.flatMap present) := by
  induction elements generalizing tally with
  | nil => rfl
  | cons element rest hypothesis =>
    rw [List.foldl_cons, List.flatMap_cons, addPresent_append, hypothesis]

/-- A record counts once, and its attributes and its present entries are added. -/
theorem add_eq (tally : Tally) (record : Record) :
    tally.add record = (Tally.contributeAll { tally with recordCount := tally.recordCount + 1 }
      (record.fixedValues.map fun named => .ofFixed named.1 named.2)).addPresent
        record.presentEntries := by
  unfold add Record.contributions
  rw [List.foldl_append]
  rfl

end Tally

namespace Intake

/-! ### Adding a record -/

/-- **Steps that all succeed** fold what they do over the tally. -/
theorem run_forM {α : Type} {step : α → Intake Unit} {next : Tally → α → Tally}
    (steps : ∀ element tally, (step element).run tally = .ok () (next tally element))
    (elements : List α) (tally : Tally) :
    (forM elements step).run tally = .ok () (elements.foldl next tally) := by
  induction elements generalizing tally with
  | nil => rfl
  | cons element rest hypothesis =>
    rw [List.forM_cons, EStateM.run_bind, steps]
    exact hypothesis (next tally element)

/-- An entry is added if it is present. -/
theorem run_addEntry (entry : FieldEntry) (tally : Tally) :
    (addEntry entry).run tally =
      .ok () (tally.addPresent (entry.present?.map fun value => (entry, value)).toList) := by
  unfold addEntry
  cases entry.present? with
  | none => rfl
  | some value =>
    by_cases labelled : entry.label = statusLabel
    · simp only [labelled, if_true, Option.map_some, Option.toList_some, Tally.addPresent,
        List.filter_cons, beq_self_eq_true]
      rfl
    · simp only [labelled, if_false, Option.map_some, Option.toList_some, Tally.addPresent,
        List.filter_cons, beq_iff_eq]
      rfl

/-- **A record** that is added step by step is added as a whole. -/
theorem run_addRecord (record : Record) (tally : Tally) :
    (addRecord record).run tally = .ok () (tally.add record) := by
  have observed (named : String × FieldValue) (tally : Tally) :
      (observe (.ofFixed named.1 named.2)).run tally =
        .ok () (tally.contributeAll [.ofFixed named.1 named.2]) := rfl
  have attributes (tally : Tally) :
      (forM record.fixedValues fun named => observe (.ofFixed named.1 named.2)).run tally =
        .ok () (tally.contributeAll
          (record.fixedValues.map fun named => .ofFixed named.1 named.2)) := by
    rw [run_forM observed, ← Tally.foldl_contributeAll, List.foldl_map]
  have entries (tally : Tally) :
      (forM record.fields addEntry).run tally =
        .ok () (tally.addPresent record.presentEntries) := by
    rw [run_forM run_addEntry, Tally.foldl_addPresent, ← List.filterMap_eq_flatMap_toList]
    rfl
  have counted : countRecord.run tally =
      .ok () { tally with recordCount := tally.recordCount + 1 } := rfl
  simp only [Tally.add_eq, addRecord, EStateM.run_bind, counted, attributes, entries]

/-! ### Calls -/

/-- **One call** answers like adding the value, and a refusal leaves the tally behind as it was. -/
theorem run_addJson (value : Value) (tally : Tally) :
    (addJson value).run tally =
      match tally.addJson value with
      | .ok added => .ok () added
      | .error fault => .error fault tally := by
  unfold addJson Tally.addJson
  cases Record.ofJson? value with
  | some record => exact run_addRecord record tally
  | none => rfl

theorem run_addJson_eq_error_iff {value : Value} {tally left : Tally} {fault : InferenceError} :
    (addJson value).run tally = .error fault left ↔
      value.isObject = false ∧ fault = .invalidStructure value.kindName ∧ left = tally := by
  rw [run_addJson, Tally.addJson, ← Record.ofJson?_eq_none_iff]
  cases Record.ofJson? value with
  | some record => simp
  | none => simp [eq_comm]

theorem run_addJson_eq_ok_iff {value : Value} {tally added : Tally} :
    (addJson value).run tally = .ok () added ↔
      ∃ record, Record.ofJson? value = some record ∧ added = tally.add record := by
  rw [run_addJson, Tally.addJson]
  cases Record.ofJson? value with
  | some record => simp [eq_comm]
  | none => simp

/-- Why a value is refused, if it is. -/
def refusal? (value : Value) : Option InferenceError :=
  if value.isObject then none else some (.invalidStructure value.kindName)

/-- A handler starts from the tally that the failed step left behind. -/
theorem run_tryCatch {α : Type} (step : Intake α) (handler : InferenceError → Intake α)
    (tally : Tally) :
    (tryCatch step handler).run tally =
      match step.run tally with
      | .ok answer added => .ok answer added
      | .error fault left => (handler fault).run left := by
  show EStateM.tryCatch step handler tally = _
  unfold EStateM.tryCatch EStateM.run
  cases step tally <;> rfl

/-- A call whose refusal is caught goes on with the tally of the record, or with the one it met. -/
theorem run_attempt (value : Value) (tally : Tally) :
    (attempt value).run tally =
      .ok (refusal? value) (tally.addAll ([value].filterMap Record.ofJson?)) := by
  rw [attempt, run_tryCatch, EStateM.run_bind, run_addJson, Tally.addJson, refusal?,
    ← Record.ofJson?_isSome, List.filterMap_cons]
  cases Record.ofJson? value with
  | some record => rfl
  | none => rfl

/-- **A sequence of calls** answers each of them on its own and adds the records among the values.
-/
theorem run_addEach (values : List Value) (tally : Tally) :
    (addEach values).run tally =
      .ok (values.map refusal?) (tally.addAll (values.filterMap Record.ofJson?)) := by
  unfold addEach
  induction values generalizing tally with
  | nil => rfl
  | cons value rest hypothesis =>
    have joined : tally.addAll ((value :: rest).filterMap Record.ofJson?) =
        (tally.addAll ([value].filterMap Record.ofJson?)).addAll
          (rest.filterMap Record.ofJson?) := by
      rw [Tally.addAll, Tally.addAll, Tally.addAll, ← List.foldl_append, ← List.filterMap_append,
        List.singleton_append]
    simp only [List.mapM_cons, EStateM.run_bind, run_attempt, hypothesis, joined]
    rfl

/-- **A refused call leaves no trace.** A call fails exactly for a value that is no object, with
the name of its kind, and the tally behind it is the one before it; otherwise it adds the record.
After any sequence of calls the tally describes what is inferred from the records among the
values, in their order, and there is no result exactly if no value was an object. -/
theorem addEach_tallies (limits : InferenceLimits) (values : List Value) :
    (∀ tally value fault left,
      (addJson value).run tally = .error fault left ↔
        value.isObject = false ∧ fault = .invalidStructure value.kindName ∧ left = tally) ∧
    (∀ tally value added,
      (addJson value).run tally = .ok () added ↔
        ∃ record, Record.ofJson? value = some record ∧ added = tally.add record) ∧
    ∃ final records,
      (addEach values).run Tally.start = .ok (values.map refusal?) final ∧
      List.Forall₂ (fun value record => Record.ofJson? value = some record)
        (values.filter Value.isObject) records ∧
      final.result limits = InferredType.ofRecords limits records ∧
      (final.result limits = .error .noRecords ↔ ∀ value ∈ values, value.isObject = false) := by
  refine ⟨fun _ _ _ _ => run_addJson_eq_error_iff, fun _ _ _ => run_addJson_eq_ok_iff, _,
    values.filterMap Record.ofJson?, run_addEach values Tally.start,
    forall₂_filterMap Record.ofJson?_isSome values, rfl, ?_⟩
  rw [Tally.result_addAll_eq_noRecords_iff, List.filterMap_eq_nil_iff]
  exact forall₂_congr fun _ _ => Record.ofJson?_eq_none_iff

end Intake

end RecordSchema
