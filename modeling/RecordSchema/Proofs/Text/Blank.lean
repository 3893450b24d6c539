/-
**Texts without the white space at their ends.**

* `Strips` — a text is another one less the white space around it.
* `exists_trimFront` — what trimming the front takes away, and what it leaves.
* `strips_iff` — trimming a text gives the one text of this kind.
-/

import RecordSchema.Text.Blank

namespace RecordSchema.Text

/-- Whether a text is what is left of another one without the white space at both ends. -/
structure Strips (text core : List Char) : Prop where
  around : ∃ front back, text = front ++ core ++ back ∧
    (∀ char ∈ front, isBlank char = true) ∧ ∀ char ∈ back, isBlank char = true
  head_solid : ∀ char ∈ core.head?, isBlank char = false
  last_solid : ∀ char ∈ core.getLast?, isBlank char = false

variable {text core : List Char}

/-! ### One end -/

theorem trimFront_append {front rest : List Char} (blank : ∀ char ∈ front, isBlank char = true)
    (solid : ∀ char ∈ rest.head?, isBlank char = false) : trimFront (front ++ rest) = rest := by
  unfold trimFront
  rw [List.dropWhile_append_of_pos blank]
  cases rest with
  | nil => rfl
  | cons char others => simp [solid char rfl]

/-- Trimming the front takes white space away and leaves none there. -/
theorem exists_trimFront (chars : List Char) :
    ∃ front, chars = front ++ trimFront chars ∧ (∀ char ∈ front, isBlank char = true) ∧
      ∀ char ∈ (trimFront chars).head?, isBlank char = false := by
  refine ⟨chars.takeWhile isBlank, List.takeWhile_append_dropWhile.symm, ?_, ?_⟩
  · exact List.all_eq_true.mp List.all_takeWhile
  · intro char first
    have solid := List.head?_dropWhile_not isBlank chars
    rw [show (chars.dropWhile isBlank).head? = some char from first] at solid
    exact solid

/-! ### Both ends -/

/-- There is only one text of this kind. -/
theorem Strips.trim_eq (strips : Strips text core) : trim text = core := by
  obtain ⟨⟨front, back, rfl, frontBlank, backBlank⟩, headSolid, lastSolid⟩ := strips
  unfold trim
  cases core with
  | nil =>
    -- Nothing but white space: the front takes it all.
    have blank : ∀ char ∈ front ++ back, isBlank char = true := by
      intro char member
      rcases List.mem_append.mp member with inFront | inBack
      · exact frontBlank char inFront
      · exact backBlank char inBack
    have nothing : trimFront (front ++ back ++ []) = [] := trimFront_append blank (by simp)
    rw [List.append_nil] at nothing ⊢
    rw [nothing]
    rfl
  | cons first others =>
    have frontTrimmed : trimFront (front ++ (first :: others ++ back)) = first :: others ++ back :=
      trimFront_append frontBlank headSolid
    have backTrimmed : trimFront (back.reverse ++ (first :: others).reverse) =
        (first :: others).reverse := by
      apply trimFront_append
      · exact fun char member => backBlank char (List.mem_reverse.mp member)
      · rwa [List.head?_reverse]
    rw [List.append_assoc, frontTrimmed, List.reverse_append, backTrimmed, List.reverse_reverse]

theorem strips_trim (text : List Char) : Strips text (trim text) := by
  obtain ⟨front, frontSplit, frontBlank, frontSolid⟩ := exists_trimFront text
  obtain ⟨back, backSplit, backBlank, backSolid⟩ := exists_trimFront (trimFront text).reverse
  have middle : trimFront text = trim text ++ back.reverse := by
    unfold trim
    rw [← List.reverse_append, ← backSplit, List.reverse_reverse]
  refine ⟨⟨front, back.reverse, ?_, frontBlank, ?_⟩, fun char first => ?_, ?_⟩
  · rw [List.append_assoc, ← middle]
    exact frontSplit
  · exact fun char member => backBlank char (List.mem_reverse.mp member)
  · -- What is left starts like the text without the white space at its front.
    apply frontSolid
    rw [middle, List.head?_append, Option.mem_def.mp first]
    rfl
  · unfold trim
    rwa [List.getLast?_reverse]

/-- **Trimming** takes the white space at both ends away, and nothing else. -/
theorem strips_iff : Strips text core ↔ trim text = core := by
  constructor
  · exact Strips.trim_eq
  · rintro rfl
    exact strips_trim text

end RecordSchema.Text
