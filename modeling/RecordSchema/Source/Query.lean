/-
**Queries for the records of a type.**

A type is selected by `type:` in front of its name, which stands between quotes where it holds white
space.

* `typeExpression` — the expression for a type.
* `Query.typeName?` — the type that an expression selects.
* `Query.after?_eq_some_iff`, `Query.unquoted?_eq_some_iff` — what stands behind a front, and what
  stands between two quotes.
-/

import RecordSchema.Text.Blank

namespace RecordSchema

/-- What an expression for a type starts with. -/
def typeMark : String := "type:"

/-- The expression that selects every record of a type. -/
def typeExpression (typeName : String) : String :=
  if typeName.toList.any Text.isBlank then typeMark ++ "\"" ++ typeName ++ "\""
  else typeMark ++ typeName

/-- A query for a window of the matching records. -/
structure Query where
  expression : String
  /-- The version that is asked for; without one, all versions are. -/
  versionId : Option String := none
  startAt : Nat := 0
  maxResults : Nat
  deriving DecidableEq, Repr, Inhabited

namespace Query

/-- What follows a front, if the characters start with it. -/
def after? : List Char → List Char → Option (List Char)
  | [], chars => some chars
  | _ :: _, [] => none
  | wanted :: others, char :: rest => if char = wanted then after? others rest else none

/-- The characters between two quotes at the ends. -/
def unquoted? : List Char → Option (List Char)
  | [] => none
  | char :: rest =>
    match rest.reverse with
    | [] => none
    | last :: body => if char = '"' ∧ last = '"' then some body.reverse else none

theorem after?_eq_some_iff {front text rest : List Char} :
    after? front text = some rest ↔ text = front ++ rest := by
  induction front generalizing text with
  | nil => simp [after?]
  | cons wanted others hypothesis =>
    cases text with
    | nil => simp [after?]
    | cons char remaining =>
      unfold after?
      by_cases same : char = wanted
      · rw [if_pos same, hypothesis, same]
        simp
      · simp [same]

theorem unquoted?_eq_some_iff {text body : List Char} :
    unquoted? text = some body ↔ text = '"' :: (body ++ ['"']) := by
  cases text with
  | nil => simp [unquoted?]
  | cons char rest =>
    unfold unquoted?
    cases reversed : rest.reverse with
    | nil =>
      have empty : rest = [] := List.reverse_eq_nil_iff.mp reversed
      simp [empty]
    | cons last front =>
      have restored : rest = front.reverse ++ [last] := by
        rw [← List.reverse_reverse rest, reversed, List.reverse_cons]
      subst restored
      dsimp only
      rw [reversed]
      dsimp only
      by_cases quotes : char = '"' ∧ last = '"'
      · rw [if_pos quotes, quotes.1, quotes.2]
        simp
      · rw [if_neg quotes]
        refine ⟨fun found => absurd found (by simp), fun equal => absurd ?_ quotes⟩
        have parts := List.cons.inj equal
        exact ⟨parts.1, (List.append_inj' parts.2 rfl).2 |> List.cons.inj |>.1⟩

/-- The name of a type, as characters, that an expression selects. -/
def typeNameOf? (expression : List Char) : Option (List Char) :=
  match after? typeMark.toList (Text.trim expression) with
  | none => none
  | some rest =>
    let name := (unquoted? rest).getD rest
    if name.isEmpty then none else some name

/-- The type that the query selects, if it selects one. -/
def typeName? (query : Query) : Option String :=
  (typeNameOf? query.expression.toList).map String.ofList

end Query

end RecordSchema
