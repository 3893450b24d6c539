/-
**The grammar of expressions.**

An expression selects a type by the mark `type:` with a spelling of the type's name behind it, and
white space may stand around both. A name is spelled between quotes, or as it is where it has no
quotes at its two ends.

* `Spells` — the two spellings of a name.
* `spells_iff` — taking a pair of quotes away, if there is one, gives the name that is spelled.
* `Selects` — the expressions that select a type.
* `typeName?_eq_some_iff_selects` — these are exactly the ones that are read, and every other
  expression selects nothing.
-/

import RecordSchema.Proofs.Source.Expression
import RecordSchema.Proofs.Text.Blank

namespace RecordSchema

open Query (unquoted? typeNameOf?)

/-! ### Spellings of a name -/

/-- How a name is spelled behind the mark of an expression. -/
inductive Spells : String → String → Prop where
  | quoted (name : String) : Spells name ("\"" ++ name ++ "\"")
  | bare {name : String} (unenclosed : ¬ Enclosed name) : Spells name name

theorem toList_quoted (name : String) :
    ("\"" ++ name ++ "\"").toList = '"' :: (name.toList ++ ['"']) := by
  simp

/-- **A spelling** is read by taking a pair of quotes away, if there is one. -/
theorem spells_iff {name spelling : String} :
    Spells name spelling ↔
      (unquoted? spelling.toList).getD spelling.toList = name.toList := by
  constructor
  · intro spells
    cases spells with
    | quoted =>
      rw [toList_quoted, Query.unquoted?_eq_some_iff.mpr rfl]
      rfl
    | bare unenclosed =>
      have whole : unquoted? name.toList = none := by
        apply Option.eq_none_iff_forall_ne_some.mpr
        exact fun body enclosed => unenclosed (enclosed_iff.mpr ⟨body, enclosed⟩)
      rw [whole]
      rfl
  · intro read
    cases found : unquoted? spelling.toList with
    | some body =>
      rw [found] at read
      have split := Query.unquoted?_eq_some_iff.mp found
      have quoted : spelling = "\"" ++ name ++ "\"" := by
        apply String.toList_inj.mp
        rw [toList_quoted, split, ← read]
        rfl
      rw [quoted]
      exact .quoted name
    | none =>
      rw [found] at read
      have same : spelling = name := String.toList_inj.mp read
      subst same
      refine .bare fun enclosed => ?_
      obtain ⟨body, unquoted⟩ := enclosed_iff.mp enclosed
      rw [found] at unquoted
      cases unquoted

/-! ### Expressions -/

/-- Whether an expression selects a type: less the white space at its ends it is the mark with a
spelling of the name, which is not empty. -/
structure Selects (expression name : String) : Prop where
  nonempty : name ≠ ""
  spelled : ∃ spelling, Spells name spelling ∧
    Text.Strips expression.toList ("type:" ++ spelling).toList

theorem selects_iff {expression name : String} :
    Selects expression name ↔ typeNameOf? expression.toList = some name.toList := by
  rw [typeNameOf?_eq_some_iff]
  constructor
  · rintro ⟨nonempty, spelling, spells, strips⟩
    rw [Text.strips_iff, String.toList_append] at strips
    exact ⟨mt String.toList_eq_nil_iff.mp nonempty, spelling.toList, strips, spells_iff.mp spells⟩
  · rintro ⟨nonempty, spelling, trimmed, read⟩
    have spelled : (String.ofList spelling).toList = spelling := String.toList_ofList
    refine ⟨mt String.toList_eq_nil_iff.mpr nonempty, String.ofList spelling, ?_, ?_⟩
    · rw [spells_iff, spelled]
      exact read
    · rw [Text.strips_iff, String.toList_append, spelled]
      exact trimmed

/-- **The expressions that are read** are exactly those of the grammar, each as the name that it
spells. Every other expression selects nothing. -/
theorem typeName?_eq_some_iff_selects (query : Query) :
    (∀ name, query.typeName? = some name ↔ Selects query.expression name) ∧
      (query.typeName? = none ↔ ∀ name, ¬ Selects query.expression name) := by
  have reads : ∀ name, query.typeName? = some name ↔ Selects query.expression name := by
    intro name
    rw [typeName?_eq_some_iff, selects_iff]
  refine ⟨reads, ?_⟩
  rw [Option.eq_none_iff_forall_ne_some]
  exact forall_congr' fun name => not_congr (reads name)

/-- A quote that stands alone is a name, and two of them enclose none. -/
example :
    ({ expression := " type:\" ", maxResults := 1 } : Query).typeName? = some "\"" ∧
      ({ expression := " type:\"\" ", maxResults := 1 } : Query).typeName? = none := by
  decide +kernel

end RecordSchema
