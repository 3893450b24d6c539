/-
**The expression for a type, read back.**

A name with white space stands between quotes in its expression, and every other name stands there
as it is. Reading takes away a pair of quotes in either case, so a name without white space that
stands between quotes of its own loses them.

* `SelfQuoted` — the names that lose their quotes; they are `Enclosed` and have no white space.
* `typeNameOf?_eq_some_iff` — what is read from an expression.
* `typeName?_typeExpression` and `typeName?_ne_of_selfQuoted` — what an expression selects, for all
  other names and for these.
* `typeExpression_selects_iff` — an expression selects the name it was made of, and only records
  with that name as their tag, exactly where the name is none of these.
-/

import RecordSchema.Source.Store

namespace RecordSchema

open Query (after? unquoted? typeNameOf?)

/-! ### Names between quotes -/

/-- A name without white space that stands between quotes of its own. -/
structure SelfQuoted (name : String) : Prop where
  solid : ∀ char ∈ name.toList, Text.isBlank char = false
  two_le : 2 ≤ name.length
  opened : name.toList.head? = some '"'
  closed : name.toList.getLast? = some '"'

/-- A text has two quotes at its ends exactly if it can be unquoted. -/
theorem unquoted?_isSome_iff {text : List Char} :
    (∃ body, unquoted? text = some body) ↔
      2 ≤ text.length ∧ text.head? = some '"' ∧ text.getLast? = some '"' := by
  refine ⟨fun given => ?_, fun given => ?_⟩
  · obtain ⟨body, enclosed⟩ := given
    rw [Query.unquoted?_eq_some_iff] at enclosed
    subst enclosed
    refine ⟨by simp, rfl, ?_⟩
    rw [← List.cons_append, List.getLast?_concat]
  · obtain ⟨long, opened, closed⟩ := given
    cases text with
    | nil => cases opened
    | cons char rest =>
      have first : char = '"' := by simpa using opened
      have nonempty : rest ≠ [] := by
        intro empty
        simp [empty] at long
      have last : rest.getLast nonempty = '"' := by
        rw [List.getLast?_cons, List.getLast?_eq_some_getLast nonempty] at closed
        simpa using closed
      refine ⟨rest.dropLast, Query.unquoted?_eq_some_iff.mpr ?_⟩
      rw [first, ← last, List.dropLast_concat_getLast]

/-- Whether a text has quotes at its two ends. -/
structure Enclosed (text : String) : Prop where
  two_le : 2 ≤ text.length
  opened : text.toList.head? = some '"'
  closed : text.toList.getLast? = some '"'

theorem enclosed_iff {text : String} :
    Enclosed text ↔ ∃ body, unquoted? text.toList = some body := by
  rw [unquoted?_isSome_iff, String.length_toList]
  constructor
  · rintro ⟨two_le, opened, closed⟩
    exact ⟨two_le, opened, closed⟩
  · rintro ⟨two_le, opened, closed⟩
    exact ⟨two_le, opened, closed⟩

/-- Among the names without white space, those between quotes are the ones that can be unquoted. -/
theorem selfQuoted_iff {name : String} :
    SelfQuoted name ↔
      (∀ char ∈ name.toList, Text.isBlank char = false) ∧
        ∃ body, unquoted? name.toList = some body := by
  rw [← enclosed_iff]
  constructor
  · rintro ⟨solid, two_le, opened, closed⟩
    exact ⟨solid, two_le, opened, closed⟩
  · rintro ⟨solid, two_le, opened, closed⟩
    exact ⟨solid, two_le, opened, closed⟩

/-! ### Reading an expression -/

/-- **What is read** from the characters of an expression is what stands behind the mark, once it is
trimmed and unquoted, unless that is empty. -/
theorem typeNameOf?_eq_some_iff {expression name : List Char} :
    typeNameOf? expression = some name ↔
      name ≠ [] ∧ ∃ spelling, Text.trim expression = typeMark.toList ++ spelling ∧
        (unquoted? spelling).getD spelling = name := by
  unfold typeNameOf?
  constructor
  · intro found
    split at found
    · cases found
    · rename_i spelling marked
      dsimp only at found
      split at found
      · cases found
      · rename_i filled
        cases found
        exact ⟨fun empty => filled (List.isEmpty_iff.mpr empty), spelling,
          Query.after?_eq_some_iff.mp marked, rfl⟩
  · rintro ⟨nonempty, spelling, trimmed, rfl⟩
    rw [Query.after?_eq_some_iff.mpr trimmed]
    dsimp only
    rw [if_neg fun empty => nonempty (List.isEmpty_iff.mp empty)]

theorem typeName?_eq_some_iff {query : Query} {name : String} :
    query.typeName? = some name ↔ typeNameOf? query.expression.toList = some name.toList := by
  unfold Query.typeName?
  rw [Option.map_eq_some_iff]
  constructor
  · rintro ⟨chars, found, rfl⟩
    rw [found, String.toList_ofList]
  · intro found
    exact ⟨name.toList, found, String.ofList_toList⟩

theorem trim_marked {spelling : List Char}
    (back : ∀ char ∈ spelling.getLast?, Text.isBlank char = false) :
    Text.trim (typeMark.toList ++ spelling) = typeMark.toList ++ spelling := by
  refine Text.trim_eq_self (fun char first => ?_) fun char last => ?_
  · have mark : char = 't' := by simpa [typeMark] using first.symm
    rw [mark]
    decide
  · rw [List.getLast?_append] at last
    cases closing : spelling.getLast? with
    | none =>
      rw [closing] at last
      have mark : char = ':' := by simpa [typeMark] using last.symm
      rw [mark]
      decide
    | some final =>
      rw [closing] at last
      have same : final = char := by simpa using last
      exact same ▸ back final closing

/-- **Behind the mark** a name is read from a spelling that does not end with white space. -/
theorem typeNameOf?_marked_iff {spelling name : List Char}
    (back : ∀ char ∈ spelling.getLast?, Text.isBlank char = false) :
    typeNameOf? (typeMark.toList ++ spelling) = some name ↔
      name ≠ [] ∧ (unquoted? spelling).getD spelling = name := by
  rw [typeNameOf?_eq_some_iff, trim_marked back]
  simp only [List.append_cancel_left_eq, exists_eq_left']

theorem toList_typeExpression_of_blank {name : String}
    (blank : name.toList.any Text.isBlank = true) :
    (typeExpression name).toList = typeMark.toList ++ ('"' :: (name.toList ++ ['"'])) := by
  unfold typeExpression
  rw [if_pos blank]
  simp

theorem toList_typeExpression_of_solid {name : String}
    (solid : ∀ char ∈ name.toList, Text.isBlank char = false) :
    (typeExpression name).toList = typeMark.toList ++ name.toList := by
  have noBlank : ¬ name.toList.any Text.isBlank = true := by
    rw [List.any_eq_true]
    rintro ⟨char, member, blank⟩
    rw [solid char member] at blank
    cases blank
  unfold typeExpression
  rw [if_neg noBlank, String.toList_append]

/-- A name without white space is read from its expression as it is, less quotes of its own. -/
theorem typeNameOf?_typeExpression_of_solid {name : String} {read : List Char}
    (solid : ∀ char ∈ name.toList, Text.isBlank char = false) :
    typeNameOf? (typeExpression name).toList = some read ↔
      read ≠ [] ∧ (unquoted? name.toList).getD name.toList = read := by
  rw [toList_typeExpression_of_solid solid]
  exact typeNameOf?_marked_iff fun char last => solid char (List.mem_of_getLast? last)

/-- **Reading undoes writing** for every name that is not between quotes of its own. -/
theorem typeName?_typeExpression {name : String} (limit : Nat) (nonempty : name ≠ "")
    (plain : ¬ SelfQuoted name) :
    ({ expression := typeExpression name, maxResults := limit } : Query).typeName? = some name := by
  have filled : name.toList ≠ [] := mt String.toList_eq_nil_iff.mp nonempty
  rw [typeName?_eq_some_iff]
  -- The quotes of a blank name are those that reading takes away; a solid name has none to lose.
  by_cases blank : name.toList.any Text.isBlank = true
  · have enclosed : unquoted? ('"' :: (name.toList ++ ['"'])) = some name.toList :=
      Query.unquoted?_eq_some_iff.mpr rfl
    have back : ∀ char ∈ ('"' :: (name.toList ++ ['"'])).getLast?,
        Text.isBlank char = false := by
      intro char last
      rw [← List.cons_append, List.getLast?_concat] at last
      cases last
      decide
    rw [toList_typeExpression_of_blank blank, typeNameOf?_marked_iff back, enclosed]
    exact ⟨filled, rfl⟩
  · have solid : ∀ char ∈ name.toList, Text.isBlank char = false := fun char member =>
      Bool.eq_false_iff.mpr fun isBlank => blank (List.any_eq_true.mpr ⟨char, member, isBlank⟩)
    have open? : unquoted? name.toList = none :=
      Option.eq_none_iff_forall_ne_some.mpr fun body enclosed =>
        plain (selfQuoted_iff.mpr ⟨solid, body, enclosed⟩)
    rw [typeNameOf?_typeExpression_of_solid solid, open?]
    exact ⟨filled, rfl⟩

/-- The expression for the empty name selects nothing. -/
theorem typeName?_typeExpression_empty (limit : Nat) :
    ({ expression := typeExpression "", maxResults := limit } : Query).typeName? = none := by
  have nothing : typeNameOf? (typeExpression "").toList = none := by decide
  unfold Query.typeName?
  rw [nothing, Option.map_none]

/-- **Reading takes the quotes away** from a name between quotes of its own. -/
theorem typeName?_ne_of_selfQuoted {name : String} (limit : Nat) (quoted : SelfQuoted name) :
    ({ expression := typeExpression name, maxResults := limit } : Query).typeName? ≠ some name := by
  obtain ⟨solid, body, enclosed⟩ := selfQuoted_iff.mp quoted
  -- What is left is two characters short of the name.
  have shorter : name.toList ≠ body := by
    intro same
    have longer := congrArg List.length (Query.unquoted?_eq_some_iff.mp enclosed)
    simp only [same, List.length_cons, List.length_append, List.length_nil] at longer
    omega
  intro selected
  rw [typeName?_eq_some_iff, typeNameOf?_typeExpression_of_solid solid, enclosed] at selected
  exact shorter selected.2.symm

/-! ### The selected records -/

/-- Every record that a query brings has the tag that the query selects. -/
theorem typeTag?_of_mem_answer {store : Store} {query : Query} {page : Page}
    (answered : store.answer query = .ok page) {record : Json.Value}
    (member : record ∈ page.records) : typeTag? record = query.typeName? := by
  unfold Store.answer at answered
  split at answered
  · cases answered
  · rename_i typeName selected
    split at answered
    · cases answered
    · cases answered
      have tagged : record ∈ store.tagged typeName :=
        List.mem_of_mem_drop (List.mem_of_mem_take member)
      rw [selected]
      exact beq_iff_eq.mp (List.mem_filter.mp tagged).2

/-- **An expression selects the name it was made of**, and its query brings records with that name
as their tag, exactly if the name is not between quotes of its own. -/
theorem typeExpression_selects_iff (name : String) (limit : Nat) :
    (({ expression := typeExpression name, maxResults := limit } : Query).typeName? = some name ↔
        name ≠ "" ∧ ¬ SelfQuoted name) ∧
      ∀ (store : Store) (page : Page),
        store.answer { expression := typeExpression name, maxResults := limit } = .ok page →
          ∀ record ∈ page.records, (typeTag? record = some name ↔ ¬ SelfQuoted name) := by
  have selects : ({ expression := typeExpression name, maxResults := limit } : Query).typeName? =
      some name ↔ name ≠ "" ∧ ¬ SelfQuoted name := by
    constructor
    · intro selected
      refine ⟨?_, fun quoted => typeName?_ne_of_selfQuoted limit quoted selected⟩
      rintro rfl
      rw [typeName?_typeExpression_empty] at selected
      cases selected
    · rintro ⟨nonempty, plain⟩
      exact typeName?_typeExpression limit nonempty plain
  refine ⟨selects, fun store page answered record member => ?_⟩
  rw [typeTag?_of_mem_answer answered member, selects]
  refine ⟨fun both => both.2, fun plain => ⟨?_, plain⟩⟩
  rintro rfl
  unfold Store.answer at answered
  rw [typeName?_typeExpression_empty] at answered
  cases answered

/-- Under the name `"a"`, quotes included, the query brings the records of the type `a`. -/
theorem typeExpression_selects_other :
    SelfQuoted "\"a\"" ∧
      ({ expression := typeExpression "\"a\"", maxResults := 1 } : Query).typeName? ≠
        some "\"a\"" ∧
      ∃ (store : Store) (page : Page),
        store.answer { expression := typeExpression "\"a\"", maxResults := 1 } = .ok page ∧
          page.records ≠ [] ∧ ∀ record ∈ page.records, typeTag? record ≠ some "\"a\"" := by
  have solid : ∀ char ∈ ['"', 'a', '"'], Text.isBlank char = false :=
    List.forall_mem_cons.mpr ⟨rfl, List.forall_mem_cons.mpr ⟨rfl,
      List.forall_mem_singleton.mpr rfl⟩⟩
  have quoted : SelfQuoted "\"a\"" := ⟨solid, by decide, rfl, rfl⟩
  have selects := typeExpression_selects_iff "\"a\"" 1
  let store : Store := { records := [.object [("type", .string "a")]] }
  have answered : store.answer { expression := typeExpression "\"a\"", maxResults := 1 } =
    .ok { records := store.records, total := some 1 } := rfl
  refine ⟨quoted, fun selected => (selects.1.mp selected).2 quoted, store, _, answered,
    List.cons_ne_nil _ _, fun record member tagged => ?_⟩
  exact (selects.2 store _ answered record member).mp tagged quoted

end RecordSchema
