/-
**Lower case and ASCII.**

What of the lower case of a text can be an ASCII character.

* `LowersTo` — the forms of the lower case of a character: the small letter of an ASCII character, a
  character beyond ASCII, and two that come from beyond ASCII and have an ASCII letter.
* `lowersTo_lowerChar` — the lower case of a character has one of these forms.
* `exists_lowerBehind_cons` — and so has what becomes of a character within a text, whatever the
  rule about the ends of words.
-/

import RecordSchema.Text.LowerCase

namespace RecordSchema.Text

/-- The forms of the lower case of a character. -/
inductive LowersTo (char : Char) : List Char → Prop
  | ascii (within : char.toNat < 128) : LowersTo char [char.toLower]
  | kelvin (beyond : 128 ≤ char.toNat) : LowersTo char ['k']
  | dotted (beyond : 128 ≤ char.toNat) : LowersTo char ['i', '\u0307']
  | other {small : Char} (beyond : 128 ≤ char.toNat) (small_beyond : 128 ≤ small.toNat) :
      LowersTo char [small]

/-- An ASCII character has the one form. -/
theorem LowersTo.eq_of_lt {char : Char} {small : List Char} (lowers : LowersTo char small)
    (within : char.toNat < 128) : small = [char.toLower] := by
  cases lowers with
  | ascii => rfl
  | kelvin beyond => omega
  | dotted beyond => omega
  | other beyond => omega

/-! ### Code points -/

/-- A small letter of a run is a character beyond ASCII. -/
theorem CaseRun.isStretch_lowered {run : CaseRun} {code : Nat} (covered : run.covers code = true) :
    IsStretch (run.lowered code) (run.lowered code) := by
  simp only [covers, Bool.and_eq_true, decide_eq_true_eq] at covered
  have stretch := run.isStretch_small
  unfold IsStretch lowered at *
  omega

theorem isStretch_toNat {char : Char} (beyond : 128 ≤ char.toNat) :
    IsStretch char.toNat char.toNat := by
  have valid : char.toNat.isValidChar := char.valid
  unfold Nat.isValidChar at valid
  unfold IsStretch
  omega

theorem toNat_ofNat_of_isStretch {code : Nat} (stretch : IsStretch code code) :
    (Char.ofNat code).toNat = code := by
  have valid : code.isValidChar := by
    unfold IsStretch at stretch
    unfold Nat.isValidChar
    omega
  rw [show Char.ofNat code = Char.ofNatAux code valid from dif_pos valid]
  rfl

/-- Beyond ASCII the lower case of a code point is a character beyond ASCII. -/
theorem isStretch_lowerCode {code : Nat} (stretch : IsStretch code code) :
    IsStretch (lowerCode code) (lowerCode code) := by
  unfold lowerCode
  cases found : lowerRuns.find? fun run => run.covers code with
  | none => exact stretch
  | some run =>
    have covered : run.covers code = true := by simpa using List.find?_some found
    exact CaseRun.isStretch_lowered covered

/-! ### Characters and texts -/

/-- **The lower case of a character** has ASCII characters in few cases. -/
theorem lowersTo_lowerChar (char : Char) : LowersTo char (lowerChar char) := by
  unfold lowerChar
  by_cases within : char.toNat < 128
  · rw [if_pos within]
    exact .ascii within
  · have beyond : 128 ≤ char.toNat := Nat.le_of_not_lt within
    rw [if_neg within]
    split
    · exact .kelvin beyond
    · split
      · exact .dotted beyond
      · have stretch := isStretch_lowerCode (isStretch_toNat beyond)
        refine .other beyond ?_
        rw [toNat_ofNat_of_isStretch stretch]
        exact stretch.1

/-- The first character of a text leaves its own lower case in front of that of the others. -/
theorem exists_lowerBehind_cons (endsWord : List Char → List Char → Bool) (front : List Char)
    (char : Char) (rest : List Char) :
    ∃ small, LowersTo char small ∧
      lowerBehind endsWord front (char :: rest) =
        small ++ lowerBehind endsWord (front ++ [char]) rest := by
  by_cases sigma : char = 'Σ'
  · refine ⟨[if endsWord front rest then 'ς' else 'σ'], ?_, ?_⟩
    · subst sigma
      refine .other (by decide) ?_
      split <;> decide
    · rw [lowerBehind, if_pos sigma]
  · refine ⟨lowerChar char, lowersTo_lowerChar char, ?_⟩
    rw [lowerBehind, if_neg sigma]

end RecordSchema.Text
