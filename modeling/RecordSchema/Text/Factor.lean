/-
**Factors of a text.**

`occursIn` searches a pattern at every place of a text.

* `occursIn_iff` — a pattern occurs exactly if the text is some front, the pattern and some back.
* `occursIn_toList_iff` — the same for strings.
-/

namespace RecordSchema.Text

/-- Whether the pattern starts at some place of the text. -/
def occursIn (pattern : List Char) : List Char → Bool
  | [] => pattern.isEmpty
  | char :: rest => pattern.isPrefixOf (char :: rest) || occursIn pattern rest

theorem occursIn_cons (pattern : List Char) (char : Char) (rest : List Char) :
    occursIn pattern (char :: rest) =
      (pattern.isPrefixOf (char :: rest) || occursIn pattern rest) := rfl

/-- A pattern occurs exactly if the text is some front, the pattern and some back. -/
theorem occursIn_iff {pattern text : List Char} :
    occursIn pattern text = true ↔ ∃ front back, text = front ++ pattern ++ back := by
  induction text with
  | nil => simp [occursIn]
  | cons char rest hypothesis =>
    rw [occursIn_cons, Bool.or_eq_true, List.isPrefixOf_iff_prefix, hypothesis]
    constructor
    · rintro (⟨back, equal⟩ | ⟨front, back, equal⟩)
      · exact ⟨[], back, by simp [equal]⟩
      · exact ⟨char :: front, back, by simp [equal]⟩
    · rintro ⟨front, back, equal⟩
      cases front with
      | nil => exact Or.inl ⟨back, by simpa using equal.symm⟩
      | cons first others =>
        simp only [List.cons_append, List.cons.injEq] at equal
        exact Or.inr ⟨others, back, equal.2⟩

theorem occursIn_toList_iff {pattern text : String} :
    occursIn pattern.toList text.toList = true ↔
      ∃ front back, text = front ++ pattern ++ back := by
  rw [occursIn_iff]
  constructor
  · rintro ⟨front, back, equal⟩
    refine ⟨String.ofList front, String.ofList back, ?_⟩
    rw [← String.toList_inj, String.toList_append, String.toList_append, String.toList_ofList,
      String.toList_ofList, equal]
  · rintro ⟨front, back, rfl⟩
    exact ⟨front.toList, back.toList, by rw [String.toList_append, String.toList_append]⟩

end RecordSchema.Text
