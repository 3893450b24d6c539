/-
**Shortened texts and their limit.**

The three dots that mark a cut are written in full, so a limit below three is exceeded.

* `Text.Shortens` — what a shortened text is: the text itself, or a front of it with the dots.
* `Text.length_shorten_of_lt` — a text beyond the limit is shortened to the limit, or to the dots
  alone.
* `Text.shorten_within_iff` — a shortened text is of this kind, and the limits that every shortened
  text keeps to are those with room for the dots.
* `Text.shorten_collapses` — a text shortened again and again is the text shortened once, to the
  least of the limits.
-/

import RecordSchema.Config.Inference
import RecordSchema.Text.Truncate

namespace RecordSchema.Text

/-- What a text within a limit may be shortened to, and how long that is. -/
structure Shortens (limit : Nat) (text shortened : String) : Prop where
  /-- A text within the limit stays as it is. -/
  whole : text.length ≤ limit → shortened = text
  /-- Of a longer text a front stays, with the dots behind it. -/
  marked : limit < text.length → ∃ front, shortened = front ++ ellipsis ∧
    front.toList <+: text.toList ∧ front.length = limit - ellipsis.length
  length_of_lt : limit < text.length → shortened.length = max limit ellipsis.length
  length_le_iff : shortened.length ≤ limit ↔ text.length ≤ limit ∨ ellipsis.length ≤ limit

variable {limit : Nat} {text : String}

theorem length_cut (limit : Nat) (text : String) :
    (cut limit text).length = min limit text.length := by
  rw [← String.length_toList, toList_cut, List.length_take, String.length_toList]

theorem shorten_of_lt (long : limit < text.length) :
    shorten limit text = cut (limit - ellipsis.length) text ++ ellipsis :=
  if_neg (Nat.not_le.mpr long)

/-- **A text beyond the limit** is shortened to the limit, or to the dots alone. -/
theorem length_shorten_of_lt (long : limit < text.length) :
    (shorten limit text).length = max limit ellipsis.length := by
  rw [shorten_of_lt long, String.length_append, length_cut]
  omega

theorem length_shorten_le_iff :
    (shorten limit text).length ≤ limit ↔ text.length ≤ limit ∨ ellipsis.length ≤ limit := by
  by_cases short : text.length ≤ limit
  · rw [shorten_of_length_le short]
    simp [short]
  · rw [length_shorten_of_lt (Nat.not_le.mp short), Nat.max_le, or_iff_right short]
    exact and_iff_right (Nat.le_refl limit)

theorem shortens_shorten (limit : Nat) (text : String) :
    Shortens limit text (shorten limit text) := by
  refine ⟨shorten_of_length_le, fun long => ?_, length_shorten_of_lt, length_shorten_le_iff⟩
  refine ⟨cut (limit - ellipsis.length) text, shorten_of_lt long, ?_, ?_⟩
  · rw [toList_cut]
    exact List.take_prefix _ _
  · rw [length_cut]
    omega

/-- **The limits that are kept.** A shortened text is the text itself, or a front of it with the
dots; it keeps to the limit unless it is cut where the dots do not fit. So the limits that every
text keeps to are those with room for the dots. -/
theorem shorten_within_iff (limit : Nat) :
    (∀ text, Shortens limit text (shorten limit text)) ∧
      ((∀ text, (shorten limit text).length ≤ limit) ↔ ellipsis.length ≤ limit) := by
  refine ⟨shortens_shorten limit, ?_, ?_⟩
  · intro within
    -- A text of one character more than the limit is cut.
    let long := String.ofList (List.replicate (limit + 1) 'x')
    have longer : limit < long.length := by simp [long]
    have fits := length_shorten_le_iff.mp (within long)
    exact fits.resolve_left (Nat.not_le.mpr longer)
  · intro room text
    exact length_shorten_le_iff.mpr (Or.inr room)

/-- Under limits without a fault, a title is shortened to the three dots where two characters are
allowed. -/
theorem shorten_beyond_limit :
    let limits : InferenceLimits := { sampleTitleLength := 2 }
    limits.fault? = none ∧ shorten limits.sampleTitleLength "abc" = ellipsis ∧
      ¬ (shorten limits.sampleTitleLength "abc").length ≤ limits.sampleTitleLength := by
  intro limits
  obtain ⟨shortens, -⟩ := shorten_within_iff limits.sampleTitleLength
  obtain ⟨front, marked, -, empty⟩ := (shortens "abc").marked (by decide)
  refine ⟨by decide, ?_, ?_⟩
  · have nothing : front = "" := String.length_eq_zero_iff.mp empty
    rw [marked, nothing]
    rfl
  · rw [(shortens "abc").length_le_iff]
    decide

/-! ### Shortening again -/

/-- What stays of a cut text and its dots under a limit that reaches no dot. -/
theorem cut_shorten_of_lt {kept : Nat} (long : limit < text.length)
    (beforeDots : kept ≤ limit - ellipsis.length) :
    cut kept (shorten limit text) = cut kept text := by
  rw [← String.toList_inj, toList_cut, toList_cut, shorten_of_lt long, String.toList_append,
    toList_cut]
  have enough : kept ≤ (text.toList.take (limit - ellipsis.length)).length := by
    rw [List.length_take, String.length_toList]
    omega
  rw [List.take_append_of_le_length enough, List.take_take, Nat.min_eq_left beforeDots]

/-- **A shortened text under a second limit** is the text under the smaller limit. -/
theorem shorten_shorten (first second : Nat) (text : String) :
    shorten second (shorten first text) = shorten (min first second) text := by
  by_cases short : text.length ≤ first
  · -- The first limit takes nothing away, so it counts only where it is the smaller one.
    rw [shorten_of_length_le short]
    by_cases order : second ≤ first
    · rw [Nat.min_eq_right order]
    · have smaller : first ≤ second := Nat.le_of_not_le order
      rw [Nat.min_eq_left smaller, shorten_of_length_le short,
        shorten_of_length_le (Nat.le_trans short smaller)]
  · have long : first < text.length := Nat.not_le.mp short
    have length := length_shorten_of_lt long
    by_cases within : max first ellipsis.length ≤ second
    · -- The second limit has room for the cut text with its dots.
      have smaller : first ≤ second := by omega
      rw [shorten_of_length_le (by omega), Nat.min_eq_left smaller]
    · -- Both limits cut: the dots of the first cut go with what the second one takes away.
      have again : second < (shorten first text).length := by omega
      have longer : min first second < text.length := by omega
      have sameFront : min first second - ellipsis.length = second - ellipsis.length := by omega
      rw [shorten_of_lt again, shorten_of_lt longer, cut_shorten_of_lt long (by omega), sameFront]

/-- Shortening to one limit after the other is shortening to the least of them. -/
theorem foldl_shorten (limits : List Nat) (first : Nat) (text : String) :
    limits.foldl (fun shortened limit => shorten limit shortened) (shorten first text) =
      shorten (limits.foldl min first) text := by
  induction limits generalizing first with
  | nil => rfl
  | cons second others hypothesis =>
    rw [List.foldl_cons, List.foldl_cons, shorten_shorten]
    exact hypothesis (min first second)

/-- **Repeated shortening collapses.** Two limits, of any size and in any order, act like the
smaller one, and leave what a text may be shortened to within that one. So a limit changes nothing a
second time, and a row of limits acts like the least of them. -/
theorem shorten_collapses (text : String) :
    (∀ first second, shorten second (shorten first text) = shorten (min first second) text ∧
      Shortens (min first second) text (shorten second (shorten first text))) ∧
      (∀ limit, shorten limit (shorten limit text) = shorten limit text) ∧
      ∀ (first : Nat) (limits : List Nat),
        limits.foldl (fun shortened limit => shorten limit shortened) (shorten first text) =
          shorten (limits.foldl min first) text := by
  refine ⟨fun first second => ?_, fun limit => ?_, fun first limits => ?_⟩
  · rw [shorten_shorten]
    exact ⟨rfl, shortens_shorten (min first second) text⟩
  · rw [shorten_shorten, Nat.min_self]
  · exact foldl_shorten limits first text

end RecordSchema.Text
