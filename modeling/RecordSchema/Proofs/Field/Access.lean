/-
**No expression reaches two fields.**

The expressions of a custom field start with a word of their own, and those that render a field with
two marks. The other fields are called like fixed attributes, of which none starts in such a way.

* `Access.OriginFits` — the keys of fields by their origin: only a fixed attribute is not custom.
* `Access.plain_ofField_inj`, `Access.rich_ofField_inj` — of two fields of whatever origin, the
  expressions of one form are the same only if the fields have one key.
* `Access.eq_of_mem_expressions` — an expression of any form belongs to one key.
* `Access.nodup_expressions` — the expressions of one field differ.
-/

import Mathlib.Data.List.Nodup
import RecordSchema.Field.Access
import RecordSchema.Record.Basic

namespace RecordSchema

/-- No fixed attribute starts like the expression of a custom field, or like one that renders. -/
theorem FixedAttribute.head?_name (which : FixedAttribute) :
    which.name.toList.head? ≠ some 'f' ∧ which.name.toList.head? ≠ some '~' := by
  cases which <;> decide

namespace Access

/-- All expressions that reach a field. -/
def expressions (access : Access) : List String :=
  access.plain :: access.rich.toList

/-- Whether a field of an origin may have a key: only the fixed attributes are not custom. -/
def OriginFits (key : String) (isCustom : Bool) : Prop :=
  isCustom = false → ∃ which : FixedAttribute, which.name = key

/-! ### How expressions start -/

theorem head?_append {mark : String} {char : Char} (starts : mark.toList.head? = some char)
    (key : String) : (mark ++ key).toList.head? = some char := by
  rw [String.toList_append, List.head?_append, starts, Option.some_or]

/-- What starts like the expression of a custom field is no fixed attribute. -/
theorem append_ne_name {mark : String} (starts : mark.toList.head? = some 'f') (key : String)
    (which : FixedAttribute) : mark ++ key ≠ which.name := by
  intro same
  have first := head?_append starts key
  rw [same] at first
  exact which.head?_name.1 first

/-- An expression that renders a custom field has the marks of all expressions that render. -/
theorem contentMark_append (key : String) :
    "~~fieldContent." ++ key = "~~" ++ ("fieldContent." ++ key) := by
  rw [← String.append_assoc]
  rfl

section Forms

variable {key other : String} {isCustom isOther : Bool} {dataType otherType : DataType}

theorem head?_plain_ne (fits : OriginFits key isCustom) :
    (ofField key isCustom dataType).plain.toList.head? ≠ some '~' := by
  cases isCustom with
  | true =>
    have first : ("fieldValue." ++ key).toList.head? = some 'f' := head?_append rfl key
    show ("fieldValue." ++ key).toList.head? ≠ some '~'
    rw [first]
    decide
  | false =>
    obtain ⟨which, rfl⟩ := fits rfl
    exact which.head?_name.2

theorem mem_rich_ofField_iff {text : String} :
    text ∈ (ofField key isCustom dataType).rich ↔
      dataType = .richText ∧ text = if isCustom then "~~fieldContent." ++ key else "~~" ++ key := by
  unfold ofField
  by_cases isRich : dataType = .richText
  · simp [isRich, eq_comm]
  · simp [isRich]

theorem head?_rich {text : String} (rich : text ∈ (ofField key isCustom dataType).rich) :
    text.toList.head? = some '~' := by
  obtain ⟨-, rfl⟩ := mem_rich_ofField_iff.mp rich
  cases isCustom with
  | true => exact head?_append rfl key
  | false => exact head?_append rfl key

/-! ### Expressions of two fields -/

variable (fits : OriginFits key isCustom) (otherFits : OriginFits other isOther)

include fits otherFits

/-- **The plain expressions** of two fields are the same only if the fields have one key. -/
theorem plain_ofField_inj
    (same : (ofField key isCustom dataType).plain = (ofField other isOther otherType).plain) :
    key = other := by
  cases isCustom with
  | true =>
    cases isOther with
    | true => exact (String.append_right_inj "fieldValue.").mp same
    | false =>
      obtain ⟨which, rfl⟩ := otherFits rfl
      exact absurd same (append_ne_name rfl key which)
  | false =>
    cases isOther with
    | true =>
      obtain ⟨which, rfl⟩ := fits rfl
      exact absurd same.symm (append_ne_name rfl other which)
    | false => exact same

/-- **The rendering expressions** of two fields are the same only if the fields have one key. -/
theorem rich_ofField_inj {text : String} (rich : text ∈ (ofField key isCustom dataType).rich)
    (also : text ∈ (ofField other isOther otherType).rich) : key = other := by
  obtain ⟨-, rfl⟩ := mem_rich_ofField_iff.mp rich
  obtain ⟨-, same⟩ := mem_rich_ofField_iff.mp also
  cases isCustom with
  | true =>
    cases isOther with
    | true => exact (String.append_right_inj "~~fieldContent.").mp same
    | false =>
      obtain ⟨which, rfl⟩ := otherFits rfl
      rw [if_pos rfl, if_neg Bool.false_ne_true, contentMark_append,
        String.append_right_inj] at same
      exact absurd same (append_ne_name rfl key which)
  | false =>
    cases isOther with
    | true =>
      obtain ⟨which, rfl⟩ := fits rfl
      rw [if_neg Bool.false_ne_true, if_pos rfl, contentMark_append,
        String.append_right_inj] at same
      exact absurd same.symm (append_ne_name rfl other which)
    | false => exact (String.append_right_inj "~~").mp same

/-- **An expression belongs to one key.** -/
theorem eq_of_mem_expressions {text : String}
    (member : text ∈ (ofField key isCustom dataType).expressions)
    (also : text ∈ (ofField other isOther otherType).expressions) : key = other := by
  rw [expressions, List.mem_cons, Option.mem_toList] at member also
  rcases member with plain | rich
  · rcases also with alsoPlain | alsoRich
    · exact plain_ofField_inj fits otherFits (plain.symm.trans alsoPlain)
    · exact absurd (plain ▸ head?_rich alsoRich) (head?_plain_ne fits)
  · rcases also with alsoPlain | alsoRich
    · exact absurd (alsoPlain ▸ head?_rich rich) (head?_plain_ne otherFits)
    · exact rich_ofField_inj fits otherFits rich alsoRich

omit otherFits in
/-- The expressions of one field differ. -/
theorem nodup_expressions (dataType : DataType) :
    (ofField key isCustom dataType).expressions.Nodup := by
  rw [expressions, List.nodup_cons]
  refine ⟨fun member => ?_, ?_⟩
  · exact head?_plain_ne fits (head?_rich (Option.mem_toList.mp member))
  · cases (ofField key isCustom dataType).rich with
    | none => exact List.nodup_nil
    | some text => exact List.nodup_singleton text

end Forms

end Access

end RecordSchema
