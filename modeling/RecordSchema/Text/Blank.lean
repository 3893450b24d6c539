/-
**White space.**

The Unicode property White_Space, and texts without it at their ends.

* `trim_eq_self` — a text with no white space at its ends is its own trimmed text.
-/

namespace RecordSchema.Text

/-- The closed ranges of code points that are white space. -/
def blankRanges : List (Nat × Nat) :=
  [(0x09, 0x0D), (0x20, 0x20), (0x85, 0x85), (0xA0, 0xA0), (0x1680, 0x1680), (0x2000, 0x200A),
   (0x2028, 0x2029), (0x202F, 0x202F), (0x205F, 0x205F), (0x3000, 0x3000)]

/-- Whether a character is white space. -/
def isBlank (char : Char) : Bool :=
  blankRanges.any fun range => decide (range.1 ≤ char.toNat) && decide (char.toNat ≤ range.2)

/-- The characters without the white space at their front. -/
def trimFront (chars : List Char) : List Char :=
  chars.dropWhile isBlank

/-- The characters without the white space at both ends. -/
def trim (chars : List Char) : List Char :=
  (trimFront (trimFront chars).reverse).reverse

/-- A text with no white space at its ends is its own trimmed text. -/
theorem trim_eq_self {chars : List Char} (front : ∀ char ∈ chars.head?, isBlank char = false)
    (back : ∀ char ∈ chars.getLast?, isBlank char = false) : trim chars = chars := by
  have frontKept : trimFront chars = chars := by
    unfold trimFront
    cases chars with
    | nil => rfl
    | cons char rest => simp [front char (by simp)]
  unfold trim
  rw [frontKept]
  unfold trimFront
  cases reversed : chars.reverse with
  | nil => simpa using congrArg List.reverse reversed.symm
  | cons char rest =>
    have last : chars.getLast? = some char := by
      rw [← List.head?_reverse, reversed]
      rfl
    rw [List.dropWhile_cons_of_neg (by simp [back char (by simp [last])]), ← reversed,
      List.reverse_reverse]

end RecordSchema.Text
