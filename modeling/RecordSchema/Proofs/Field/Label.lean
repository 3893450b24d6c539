/-
**Labels that read alike.**

Whether a label names narrative content shows in its lower case with spaces for underscores. Only
the ASCII letters, the space and the underscore matter for that, and the key of a field keeps what
the label says.

* `Respelling` — the changes of a character that leave what a label says: the case of an ASCII
  letter, an underscore for a space and a space for an underscore.
* `occursIn_lowerBehind` — a phrase occurs in the Unicode lower case of a label exactly if it occurs
  in the folded label.
* `narrativeLabel_reads_key` — the verdict on a label is that on its lower case; it is the same for
  all labels with one key, and a part that names narrative content is enough.
-/

import Mathlib.Data.List.Forall2
import RecordSchema.Field.Key
import RecordSchema.Field.Narrative
import RecordSchema.Proofs.Text.LowerCase

namespace RecordSchema

open Text (LowersTo exists_lowerBehind_cons lower lowerBehind occursIn occursIn_cons occursIn_iff)

/-- A character of a phrase: a space stands for an underscore. -/
def phraseChar (char : Char) : Char :=
  if char = '_' then ' ' else char

/-- The changes of a character that do not count in a label. Only ASCII letters have another case
here. -/
inductive Respelling : Char → Char → Prop
  | same (char : Char) : Respelling char char
  | upper (char : Char) : Respelling char char.toUpper
  | lower (char : Char) : Respelling char char.toLower
  | space : Respelling '_' ' '
  | underscore : Respelling ' ' '_'

/-- Whether a label is another one with some of its characters respelled. -/
def Respells (label other : String) : Prop :=
  List.Forall₂ Respelling label.toList other.toList

/-! ### Folded characters -/

/-- What holds of all code points below 128 holds of the ASCII characters. -/
theorem of_ascii (holds : Char → Prop) (checked : ∀ code < 128, holds (Char.ofNat code))
    {char : Char} (within : char.toNat < 128) : holds char := by
  have found := checked char.toNat within
  rwa [Char.ofNat_toNat] at found

/-- Beyond ASCII no letter has another case. -/
theorem toLower_beyond {char : Char} (beyond : 128 ≤ char.toNat) : char.toLower = char := by
  refine dif_neg fun capital => ?_
  have small : char.toNat ≤ 90 := UInt32.le_iff_toNat_le.mp capital.2
  omega

theorem toUpper_beyond {char : Char} (beyond : 128 ≤ char.toNat) : char.toUpper = char := by
  refine dif_neg fun letter => ?_
  have small : char.toNat ≤ 122 := UInt32.le_iff_toNat_le.mp letter.2
  omega

theorem phraseChar_beyond {char : Char} (beyond : 128 ≤ char.toNat) :
    phraseChar char = char := by
  refine if_neg ?_
  rintro rfl
  exact absurd beyond (by decide)

/-- Beyond ASCII nothing is folded. -/
theorem foldLabelChar_beyond {char : Char} (beyond : 128 ≤ char.toNat) :
    foldLabelChar char = char := by
  have apart : char ≠ '_' := by
    rintro rfl
    exact absurd beyond (by decide)
  rw [foldLabelChar, if_neg apart, toLower_beyond beyond]

theorem foldLabelChar_eq (char : Char) : foldLabelChar char = phraseChar char.toLower := by
  by_cases within : char.toNat < 128
  · refine of_ascii (fun char => foldLabelChar char = phraseChar char.toLower) ?_ within
    decide +kernel
  · have beyond : 128 ≤ char.toNat := Nat.le_of_not_lt within
    rw [foldLabelChar_beyond beyond, toLower_beyond beyond, phraseChar_beyond beyond]

theorem foldLabelChar_toUpper (char : Char) : foldLabelChar char.toUpper = foldLabelChar char := by
  by_cases within : char.toNat < 128
  · refine of_ascii (fun char => foldLabelChar char.toUpper = foldLabelChar char) ?_ within
    decide +kernel
  · rw [toUpper_beyond (Nat.le_of_not_lt within)]

theorem foldLabelChar_toLower (char : Char) : foldLabelChar char.toLower = foldLabelChar char := by
  by_cases within : char.toNat < 128
  · refine of_ascii (fun char => foldLabelChar char.toLower = foldLabelChar char) ?_ within
    decide +kernel
  · rw [toLower_beyond (Nat.le_of_not_lt within)]

/-- A respelled character is folded to the same one. -/
theorem Respelling.fold_eq {char other : Char} (respelling : Respelling char other) :
    foldLabelChar other = foldLabelChar char := by
  cases respelling with
  | same => rfl
  | upper => exact foldLabelChar_toUpper char
  | lower => exact foldLabelChar_toLower char
  | space => rfl
  | underscore => rfl

/-! ### Phrases in the lower case -/

/-- A text that the lower case beyond ASCII can neither complete nor break: its characters are those
of ASCII without the letter of the Kelvin sign, and no `i` ends it. -/
structure IsPhrase (phrase : List Char) : Prop where
  within : ∀ char ∈ phrase, char.toNat < 128
  no_kelvin : 'k' ∉ phrase
  last_ne : phrase.getLast? ≠ some 'i'

theorem isPhrase_of_mem {phrase : String} (member : phrase ∈ narrativePhrases) :
    IsPhrase phrase.toList := by
  have within : (narrativePhrases.all fun phrase =>
      phrase.toList.all fun char => decide (char.toNat < 128)) = true := by decide +kernel
  have no_kelvin : ∀ phrase ∈ narrativePhrases, 'k' ∉ phrase.toList := by decide +kernel
  have last_ne : ∀ phrase ∈ narrativePhrases, phrase.toList.getLast? ≠ some 'i' := by
    decide +kernel
  refine ⟨fun char inPhrase => ?_, no_kelvin phrase member, last_ne phrase member⟩
  have allWithin := List.all_eq_true.mp within phrase member
  exact of_decide_eq_true (List.all_eq_true.mp allWithin char inPhrase)

theorem ne_empty_of_mem {phrase : String} (member : phrase ∈ narrativePhrases) :
    phrase.toList ≠ [] := by
  have ne_empty : ∀ phrase ∈ narrativePhrases, phrase.toList ≠ [] := by decide +kernel
  exact ne_empty phrase member

theorem isPrefixOf_of_ne {first char : Char} (apart : first ≠ char) (others rest : List Char) :
    (first :: others).isPrefixOf (char :: rest) = false := by
  rw [List.isPrefixOf_cons_cons, beq_false_of_ne apart, Bool.false_and]

namespace IsPhrase

variable {first : Char} {others : List Char}

theorem tail (isPhrase : IsPhrase (first :: others)) : IsPhrase others := by
  refine ⟨fun char member => ?_, fun member => ?_, fun last => ?_⟩
  · exact isPhrase.within char (List.mem_cons_of_mem first member)
  · exact isPhrase.no_kelvin (List.mem_cons_of_mem first member)
  · apply isPhrase.last_ne
    rw [List.getLast?_cons, last]
    rfl

theorem ne_of_beyond (isPhrase : IsPhrase (first :: others)) {char : Char}
    (beyond : 128 ≤ char.toNat) : first ≠ char := by
  rintro rfl
  have within := isPhrase.within first (List.mem_cons_self ..)
  omega

theorem ne_kelvin (isPhrase : IsPhrase (first :: others)) : first ≠ 'k' := by
  rintro rfl
  exact isPhrase.no_kelvin (List.mem_cons_self ..)

/-- The two characters from the dotted capital I start no match: a phrase ends behind its `i` or
goes on in ASCII. -/
theorem isPrefixOf_dotted (isPhrase : IsPhrase (first :: others)) (rest : List Char) :
    (first :: others).isPrefixOf ('i' :: '\u0307' :: rest) = false := by
  rw [List.isPrefixOf_cons_cons, Bool.and_eq_false_iff]
  cases others with
  | nil =>
    left
    refine beq_false_of_ne ?_
    rintro rfl
    exact isPhrase.last_ne rfl
  | cons second others =>
    right
    have apart : second ≠ '\u0307' := isPhrase.tail.ne_of_beyond (by decide)
    exact isPrefixOf_of_ne apart others rest

/-- No match starts at what becomes of a character beyond ASCII. -/
theorem isPrefixOf_of_beyond (isPhrase : IsPhrase (first :: others)) {char : Char}
    {small : List Char} (beyond : 128 ≤ char.toNat) (lowers : LowersTo char small)
    (rest : List Char) :
    (first :: others).isPrefixOf (small.map phraseChar ++ rest) = false := by
  cases lowers with
  | ascii within => omega
  | kelvin => exact isPrefixOf_of_ne isPhrase.ne_kelvin others rest
  | dotted => exact isPhrase.isPrefixOf_dotted rest
  | other _ small_beyond =>
    rw [List.map_singleton, phraseChar_beyond small_beyond]
    exact isPrefixOf_of_ne (isPhrase.ne_of_beyond small_beyond) others rest

end IsPhrase

section Occurrences

variable (endsWord : List Char → List Char → Bool) {phrase : List Char}

/-- A phrase starts the lower case of a text exactly if it starts the folded text. -/
theorem isPrefixOf_lowerBehind (isPhrase : IsPhrase phrase) (front text : List Char) :
    phrase.isPrefixOf ((lowerBehind endsWord front text).map phraseChar) =
      phrase.isPrefixOf (text.map foldLabelChar) := by
  induction text generalizing phrase front with
  | nil => rfl
  | cons char rest hypothesis =>
    cases phrase with
    | nil => rw [List.isPrefixOf_nil_left, List.isPrefixOf_nil_left]
    | cons first others =>
      obtain ⟨small, lowers, equal⟩ := exists_lowerBehind_cons endsWord front char rest
      rw [equal, List.map_append, List.map_cons]
      by_cases within : char.toNat < 128
      · rw [lowers.eq_of_lt within, foldLabelChar_eq, List.map_singleton, List.singleton_append,
          List.isPrefixOf_cons_cons, List.isPrefixOf_cons_cons, hypothesis isPhrase.tail]
      · have beyond : 128 ≤ char.toNat := Nat.le_of_not_lt within
        rw [isPhrase.isPrefixOf_of_beyond beyond lowers, foldLabelChar_beyond beyond]
        exact (isPrefixOf_of_ne (isPhrase.ne_of_beyond beyond) _ _).symm

/-- **A phrase in the lower case.** What the lower case beyond ASCII adds to a text is never part of
a phrase, and what it changes never was. -/
theorem occursIn_lowerBehind (isPhrase : IsPhrase phrase) (ne_empty : phrase ≠ [])
    (front text : List Char) :
    occursIn phrase ((lowerBehind endsWord front text).map phraseChar) =
      occursIn phrase (text.map foldLabelChar) := by
  induction text generalizing front with
  | nil => rfl
  | cons char rest hypothesis =>
    have start := isPrefixOf_lowerBehind endsWord isPhrase front (char :: rest)
    obtain ⟨small, lowers, equal⟩ := exists_lowerBehind_cons endsWord front char rest
    rw [equal, List.map_append, List.map_cons] at start ⊢
    rw [occursIn_cons, ← start, ← hypothesis (front ++ [char])]
    cases lowers with
    | dotted beyond =>
      -- The second character of this form starts no phrase.
      obtain ⟨first, others, rfl⟩ := List.exists_cons_of_ne_nil ne_empty
      have apart : first ≠ '\u0307' := isPhrase.ne_of_beyond (by decide)
      show occursIn (first :: others) ('i' :: '\u0307' :: _) = _
      rw [occursIn_cons, occursIn_cons, isPrefixOf_of_ne apart, Bool.false_or]
      rfl
    | ascii => rfl
    | kelvin => rfl
    | other => rfl

end Occurrences

/-! ### Verdicts -/

/-- **The verdict in lower case.** -/
theorem isNarrativeLabel_iff_lower (endsWord : List Char → List Char → Bool) (label : String) :
    isNarrativeLabel label = true ↔
      ∃ phrase ∈ narrativePhrases, ∃ front back,
        (lower endsWord label.toList).map phraseChar = front ++ phrase.toList ++ back := by
  unfold isNarrativeLabel lower
  rw [List.any_eq_true]
  refine exists_congr fun phrase => and_congr_right fun member => ?_
  rw [← occursIn_lowerBehind endsWord (isPhrase_of_mem member) (ne_empty_of_mem member) [],
    occursIn_iff]

/-- Respelled labels are folded alike. -/
theorem map_foldLabelChar_eq {chars others : List Char}
    (respelled : List.Forall₂ Respelling chars others) :
    others.map foldLabelChar = chars.map foldLabelChar := by
  induction respelled with
  | nil => rfl
  | cons respelling _ hypothesis =>
    rw [List.map_cons, List.map_cons, respelling.fold_eq, hypothesis]

theorem isNarrativeLabel_of_respells {label other : String} (respells : Respells label other) :
    isNarrativeLabel other = isNarrativeLabel label := by
  unfold isNarrativeLabel
  rw [map_foldLabelChar_eq respells]

theorem respelling_keyChar (char : Char) : Respelling char (keyChar char) := by
  unfold keyChar
  split
  · subst char
    exact .underscore
  · exact .same char

/-- The key of a label is a respelling of it. -/
theorem respells_fieldKey (label : String) : Respells label (fieldKey label) := by
  unfold Respells
  rw [toList_fieldKey, List.forall₂_map_right_iff, List.forall₂_same]
  exact fun char _ => respelling_keyChar char

theorem isNarrativeLabel_fieldKey (label : String) :
    isNarrativeLabel (fieldKey label) = isNarrativeLabel label :=
  isNarrativeLabel_of_respells (respells_fieldKey label)

/-- A label with a narrative part is narrative. -/
theorem isNarrativeLabel_append {label : String} (narrative : isNarrativeLabel label = true)
    (front back : String) : isNarrativeLabel (front ++ label ++ back) = true := by
  unfold isNarrativeLabel at narrative ⊢
  obtain ⟨phrase, member, occurs⟩ := List.any_eq_true.mp narrative
  refine List.any_eq_true.mpr ⟨phrase, member, ?_⟩
  obtain ⟨before, behind, equal⟩ := occursIn_iff.mp occurs
  rw [String.toList_append, String.toList_append, List.map_append, List.map_append, equal]
  refine occursIn_iff.mpr ⟨front.toList.map foldLabelChar ++ before,
    behind ++ back.toList.map foldLabelChar, ?_⟩
  simp only [List.append_assoc]

/-- **The verdict reads the key.** A label names narrative content exactly if one of the phrases
occurs in its lower case with spaces for underscores, whatever form the capital sigma takes there.
The key of the label has the same verdict, and so has each label that differs in underscores and in
the case of ASCII letters only, and each label with the same key. A label with a narrative part is
narrative. -/
theorem narrativeLabel_reads_key (label : String) :
    (∀ endsWord, isNarrativeLabel label = true ↔
      ∃ phrase ∈ narrativePhrases, ∃ front back,
        (lower endsWord label.toList).map phraseChar = front ++ phrase.toList ++ back) ∧
      isNarrativeLabel (fieldKey label) = isNarrativeLabel label ∧
      (∀ other, Respells label other → isNarrativeLabel other = isNarrativeLabel label) ∧
      (∀ other, fieldKey other = fieldKey label →
        isNarrativeLabel other = isNarrativeLabel label) ∧
      ∀ front back, isNarrativeLabel label = true →
        isNarrativeLabel (front ++ label ++ back) = true := by
  refine ⟨fun endsWord => isNarrativeLabel_iff_lower endsWord label,
    isNarrativeLabel_fieldKey label, fun other => isNarrativeLabel_of_respells, ?_, ?_⟩
  · intro other sameKey
    rw [← isNarrativeLabel_fieldKey, sameKey, isNarrativeLabel_fieldKey]
  · exact fun front back narrative => isNarrativeLabel_append narrative front back

/-- The label `Root Cause` among its respellings, under its key and inside a longer label whose
first and last characters have a lower case beyond ASCII. -/
theorem narrativeLabel_reads_key_rootCause :
    Respells "Root Cause" "rOOT_CAUSE" ∧
      isNarrativeLabel "rOOT_CAUSE" = isNarrativeLabel "Root Cause" ∧
      fieldKey "Root_Cause" = fieldKey "Root Cause" ∧
      isNarrativeLabel "Root_Cause" = isNarrativeLabel "Root Cause" ∧
      isNarrativeLabel ("Σ" ++ "Root Cause" ++ "İ") = true := by
  obtain ⟨-, -, respelled, sameKey, part⟩ := narrativeLabel_reads_key "Root Cause"
  have respells : Respells "Root Cause" "rOOT_CAUSE" :=
    .cons (.lower 'R') <| .cons (.upper 'o') <| .cons (.upper 'o') <| .cons (.upper 't') <|
      .cons .underscore <| .cons (.same 'C') <| .cons (.upper 'a') <| .cons (.upper 'u') <|
        .cons (.upper 's') <| .cons (.upper 'e') .nil
  have keys : fieldKey "Root_Cause" = fieldKey "Root Cause" := by
    rw [← String.toList_inj, toList_fieldKey, toList_fieldKey]
    decide
  exact ⟨respells, respelled _ respells, keys, sameKey _ keys, part _ _ (by decide +kernel)⟩

end RecordSchema
