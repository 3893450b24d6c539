/-
**What is observed of a field.**

A record contributes to a field once for each present value that is found under the field's key:
first its fixed attribute of that name, then its field entries in order (`Record.contributions`). An
observation gathers the contributions under one key. Values and hints pile up, while the label and
the origin are those of the last contribution.

* `Observation.mem_hints_add` — a contribution adds its own hint and keeps the others.
-/

import RecordSchema.Field.Key
import RecordSchema.Record.Basic

namespace RecordSchema

/-- One present value of a field on one record. -/
structure Contribution where
  key : String
  value : FieldValue
  /-- The declared hint; fixed attributes have none. -/
  hint : Option Hint
  /-- Whether the value comes from the dynamic field list. -/
  isCustom : Bool
  label : String
  deriving Repr, Inhabited

namespace Contribution

def ofFixed (name : String) (value : FieldValue) : Contribution :=
  ⟨name, value, none, false, name⟩

def ofEntry (entry : FieldEntry) (value : FieldValue) : Contribution :=
  ⟨fieldKey entry.label, value, some entry.hint, true, entry.label⟩

end Contribution

/-- All contributions of a record, in the order of observation. -/
def Record.contributions (record : Record) : List Contribution :=
  (record.fixedValues.map fun named => .ofFixed named.1 named.2) ++
    record.presentEntries.map fun present => .ofEntry present.1 present.2

/-- Everything observed of one field. -/
structure Observation where
  key : String
  /-- The label, as last seen. -/
  label : String
  /-- Whether the last value came from the dynamic field list. -/
  isCustom : Bool
  /-- The values, in the order of observation. -/
  values : List FieldValue := []
  /-- The hints declared beside the values, in the order of `Hint.all`. -/
  hints : List Hint := []
  deriving Repr, Inhabited

namespace Observation

/-- The observation of a field before its first value. -/
def start (contribution : Contribution) : Observation :=
  { key := contribution.key, label := contribution.label, isCustom := contribution.isCustom }

/-- The hints together with one more. -/
def withHint (hints : List Hint) : Option Hint → List Hint
  | none => hints
  | some added => Hint.all.filter fun hint => hint == added || hints.contains hint

/-- Adds a value with its hint, origin and label. -/
def add (observation : Observation) (value : FieldValue) (hint : Option Hint)
    (isCustom : Bool) (label : String) : Observation :=
  { observation with
    label := label
    isCustom := isCustom
    values := observation.values ++ [value]
    hints := withHint observation.hints hint }

/-- The observation after a contribution, where the field may be new. -/
def extend (contribution : Contribution) (observation : Option Observation) : Observation :=
  (observation.getD (start contribution)).add contribution.value contribution.hint
    contribution.isCustom contribution.label

def declares (observation : Observation) (hint : Hint) : Bool :=
  observation.hints.contains hint

/-- A contribution adds its own hint and keeps the others. -/
theorem mem_hints_add {observation : Observation} {value : FieldValue} {hint : Option Hint}
    {isCustom : Bool} {label : String} {wanted : Hint} :
    wanted ∈ (observation.add value hint isCustom label).hints ↔
      hint = some wanted ∨ wanted ∈ observation.hints := by
  show wanted ∈ withHint observation.hints hint ↔ _
  cases hint with
  | none => simp only [withHint, reduceCtorEq, false_or]
  | some added =>
    rw [withHint, List.mem_filter, Bool.or_eq_true, beq_iff_eq, List.contains_iff_mem,
      Option.some.injEq, eq_comm]
    exact and_iff_right (Hint.mem_all wanted)

end Observation

end RecordSchema
