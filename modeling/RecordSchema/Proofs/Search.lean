/-
**The first and the last element with a property.**

* `find?_eq_some_iff_isFirst` — a search finds the first one, and `findSome?_eq_some_iff_isFirst`
  what the first one answers.
* `getLast?_filter_eq_some_iff_isLast` — the last one stands at the end of the filtered list.
* `exists_isLast` — there is a last one if there is any.
-/

namespace RecordSchema

variable {α : Type}

/-- Whether an element of a list has a property that no element in front of it has. -/
def IsFirst (property : α → Prop) (elements : List α) (element : α) : Prop :=
  ∃ before after, elements = before ++ element :: after ∧ property element ∧
    ∀ earlier ∈ before, ¬ property earlier

/-- Whether an element of a list has a property that no element behind it has. -/
def IsLast (property : α → Prop) (elements : List α) (element : α) : Prop :=
  ∃ before after, elements = before ++ element :: after ∧ property element ∧
    ∀ later ∈ after, ¬ property later

variable {test : α → Bool} {elements : List α} {element : α}

theorem isLast_reverse_iff {property : α → Prop} :
    IsLast property elements.reverse element ↔ IsFirst property elements element := by
  constructor
  · rintro ⟨before, after, split, has, without⟩
    refine ⟨after.reverse, before.reverse, ?_, has, ?_⟩
    · rw [← List.reverse_reverse elements, split]
      simp
    · intro earlier member
      exact without earlier (List.mem_reverse.mp member)
  · rintro ⟨before, after, split, has, without⟩
    refine ⟨after.reverse, before.reverse, ?_, has, ?_⟩
    · rw [split]
      simp
    · intro later member
      exact without later (List.mem_reverse.mp member)

/-- A search finds the first element that passes its test. -/
theorem find?_eq_some_iff_isFirst :
    elements.find? test = some element ↔
      IsFirst (fun other => test other = true) elements element := by
  rw [List.find?_eq_some_iff_append, IsFirst]
  constructor
  · rintro ⟨has, before, after, split, without⟩
    refine ⟨before, after, split, has, fun earlier member => ?_⟩
    have fails := without earlier member
    simpa using fails
  · rintro ⟨before, after, split, has, without⟩
    refine ⟨has, before, after, split, fun earlier member => ?_⟩
    have fails := without earlier member
    simpa using fails

/-- A search for an answer finds that of the first element that has one. -/
theorem findSome?_eq_some_iff_isFirst {β : Type} {answer? : α → Option β} {answer : β} :
    elements.findSome? answer? = some answer ↔
      ∃ element, IsFirst (fun other => ∃ given, answer? other = some given) elements element ∧
        answer? element = some answer := by
  rw [List.findSome?_eq_some_iff]
  constructor
  · rintro ⟨before, element, after, split, found, without⟩
    refine ⟨element, ⟨before, after, split, ⟨answer, found⟩, ?_⟩, found⟩
    rintro earlier member ⟨given, answered⟩
    rw [without earlier member] at answered
    cases answered
  · rintro ⟨element, ⟨before, after, split, -, without⟩, found⟩
    refine ⟨before, element, after, split, found, fun earlier member => ?_⟩
    apply Option.eq_none_iff_forall_ne_some.mpr
    exact fun given answered => without earlier member ⟨given, answered⟩

/-- The last element that passes a test is the last one of those that do. -/
theorem getLast?_filter_eq_some_iff_isLast :
    (elements.filter test).getLast? = some element ↔
      IsLast (fun other => test other = true) elements element := by
  rw [List.getLast?_filter, find?_eq_some_iff_isFirst, ← isLast_reverse_iff, List.reverse_reverse]

/-- There is a last element with a property if there is any. -/
theorem exists_isLast {property : α → Prop} (present : ∃ element ∈ elements, property element) :
    ∃ last, IsLast property elements last := by
  induction elements with
  | nil =>
    obtain ⟨element, member, -⟩ := present
    cases member
  | cons head rest hypothesis =>
    by_cases later : ∃ element ∈ rest, property element
    · obtain ⟨last, before, after, rfl, has, without⟩ := hypothesis later
      exact ⟨last, head :: before, after, rfl, has, without⟩
    · obtain ⟨element, member, has⟩ := present
      rcases List.mem_cons.mp member with rfl | behind
      · exact ⟨element, [], rest, rfl, has, fun other listed also => later ⟨other, listed, also⟩⟩
      · exact absurd ⟨element, behind, has⟩ later

end RecordSchema
