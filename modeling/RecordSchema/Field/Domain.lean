/-
**The domain of a field's values.**

A field with few distinct values is described by all of them in order, any other one by the first
few that were seen. Rich text has no domain.

* `DomainLimits.domainOf` — the domain of a list of values; texts are cut before they are compared.
* `DomainLimits.domainOf_eq_empty_iff` — when there is no domain.
-/

import RecordSchema.Field.Access
import RecordSchema.Record.FieldValue
import RecordSchema.Text.Truncate

namespace RecordSchema

/-- What is known about the values of a field. -/
inductive Domain where
  /-- Every distinct value, ascending. -/
  | enumerated (values : List String)
  /-- A few values, in the order in which they were seen. -/
  | examples (values : List String)
  | empty
  deriving DecidableEq, Repr, Inhabited

namespace Domain

def enumeratedValues : Domain → List String
  | enumerated values => values
  | _ => []

def exampleValues : Domain → List String
  | examples values => values
  | _ => []

def isEmpty : Domain → Bool
  | enumerated values => values.isEmpty
  | examples values => values.isEmpty
  | empty => true

end Domain

structure DomainLimits where
  /-- The largest number of distinct values that are all listed. -/
  maxUniqueValues : Nat
  maxExampleValues : Nat
  /-- Texts are cut to this length. -/
  maxValueLength : Nat
  deriving DecidableEq, Repr, Inhabited

namespace DomainLimits

/-- The text that stands for a value in a domain; only texts are cut. -/
def clip (limits : DomainLimits) (value : FieldValue) : String :=
  match value.textContent? with
  | some text => Text.cut limits.maxValueLength text
  | none => value.canonical

/-- The distinct texts of values, in the order in which they were seen. -/
def distinct (limits : DomainLimits) (values : List FieldValue) : List String :=
  (values.map limits.clip).eraseDups

/-- The domain of a field's values. -/
def domainOf (limits : DomainLimits) (dataType : DataType) (values : List FieldValue) : Domain :=
  if dataType = .richText ∨ values.isEmpty then .empty
  else if (limits.distinct values).length ≤ limits.maxUniqueValues then
    .enumerated (NameSet.ofList (limits.distinct values)).names
  else .examples ((limits.distinct values).take limits.maxExampleValues)

/-- There is no domain exactly for rich text and for a field without values. -/
theorem domainOf_eq_empty_iff (limits : DomainLimits) (dataType : DataType)
    (values : List FieldValue) :
    limits.domainOf dataType values = .empty ↔ dataType = .richText ∨ values = [] := by
  rw [← List.isEmpty_iff]
  unfold domainOf
  by_cases undescribed : dataType = .richText ∨ values.isEmpty = true
  · exact ⟨fun _ => undescribed, fun _ => if_pos undescribed⟩
  · rw [if_neg undescribed]
    refine ⟨fun equal => ?_, fun described => absurd described undescribed⟩
    split at equal <;> cases equal

end DomainLimits

end RecordSchema
