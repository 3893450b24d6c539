/-
**The key of a field.**

Fields are found under their label with underscores for spaces.

* `not_mem_fieldKey` — a key has no space.
* `fieldKey_eq_iff` — a label without spaces and underscores is the only label with its key.
-/

namespace RecordSchema

/-- A character of a key: an underscore stands for a space. -/
def keyChar (char : Char) : Char :=
  if char = ' ' then '_' else char

/-- The key under which a label's values are gathered. -/
def fieldKey (label : String) : String :=
  label.map keyChar

theorem keyChar_ne_space (char : Char) : keyChar char ≠ ' ' := by
  unfold keyChar
  split
  · decide
  · assumption

theorem keyChar_of_ne_space {char : Char} (other : char ≠ ' ') : keyChar char = char :=
  if_neg other

@[simp] theorem toList_fieldKey (label : String) :
    (fieldKey label).toList = label.toList.map keyChar := by
  simp [fieldKey]

/-- A key has no space. -/
theorem not_mem_fieldKey (label : String) : ' ' ∉ (fieldKey label).toList := by
  rw [toList_fieldKey, List.mem_map]
  rintro ⟨char, _, equal⟩
  exact keyChar_ne_space char equal

/-- A label without a space is its own key. -/
theorem fieldKey_eq_self {label : String} (spaceless : ' ' ∉ label.toList) :
    fieldKey label = label := by
  rw [← String.toList_inj, toList_fieldKey]
  refine (List.map_congr_left fun char member => ?_).trans (List.map_id _)
  exact keyChar_of_ne_space fun equal => spaceless (equal ▸ member)

/-- A label without spaces and underscores is the only label with its key. -/
theorem fieldKey_eq_iff {key : String} (spaceless : ' ' ∉ key.toList) (solid : '_' ∉ key.toList)
    {label : String} : fieldKey label = key ↔ label = key := by
  constructor
  · intro same
    have labelSpaceless : ' ' ∉ label.toList := by
      intro space
      apply solid
      rw [← same, toList_fieldKey]
      exact List.mem_map.mpr ⟨' ', space, rfl⟩
    rw [← same, fieldKey_eq_self labelSpaceless]
  · rintro rfl
    exact fieldKey_eq_self spaceless

end RecordSchema
