/-
**Markup in texts.**

The tags are listed once more here, as the spellings of an expression: an element is a listed name
in angle brackets, and the start of a line break is enough. An expression is searched at every place
of a text.

* `mem_matches'_markupExpression` — the expression has the listed tags for its words and no others.
* `hasMarkup_iff` — markup is found exactly where one of the tags is part of the text.
* `markup_found_anywhere` — both for texts and for lists of values, where the first ones are
  searched.
-/

import Mathlib.Computability.RegularExpressions
import RecordSchema.Field.Narrative

namespace RecordSchema

open Text (occursIn occursIn_iff occursIn_toList_iff)

/-- The names of the elements whose opening tags mark a text. -/
def elementNames : List String :=
  ["p", "ul", "ol", "li", "strong", "em", "div", "span"]

/-- The tags that mark a text. -/
inductive IsMarkupTag : String → Prop
  | element {name : String} (listed : name ∈ elementNames) : IsMarkupTag ("<" ++ name ++ ">")
  | lineBreak : IsMarkupTag "<br"

/-- Whether a tag is part of a text. -/
def CarriesMarkup (text : String) : Prop :=
  ∃ front tag back, IsMarkupTag tag ∧ text = front ++ tag ++ back

/-! ### The expression -/

/-- The expression that stands for one text. -/
def exactly (text : List Char) : RegularExpression Char :=
  text.foldr (fun char rest => .char char * rest) 1

/-- The expression that stands for each of some texts. -/
def oneOf (texts : List String) : RegularExpression Char :=
  texts.foldr (fun text others => exactly text.toList + others) 0

/-- The expression for the tags: an element's name in angle brackets, or the start of a line
break. -/
def markupExpression : RegularExpression Char :=
  exactly ['<'] * oneOf elementNames * exactly ['>'] + exactly ['<', 'b', 'r']

/-- Whether an expression matches at some place of a text. -/
def IsMatch (expression : RegularExpression Char) (text : List Char) : Prop :=
  ∃ front found back, found ∈ expression.matches' ∧ text = front ++ found ++ back

theorem mem_matches'_exactly {word text : List Char} :
    word ∈ (exactly text).matches' ↔ word = text := by
  induction text generalizing word with
  | nil => exact Iff.rfl
  | cons char rest hypothesis =>
    show word ∈ (RegularExpression.char char * exactly rest).matches' ↔ _
    rw [RegularExpression.matches'_mul, RegularExpression.matches'_char, Language.mem_mul]
    constructor
    · rintro ⟨_, rfl, others, member, rfl⟩
      rw [hypothesis.mp member]
      rfl
    · rintro rfl
      exact ⟨[char], rfl, rest, hypothesis.mpr rfl, rfl⟩

theorem mem_matches'_oneOf {word : List Char} {texts : List String} :
    word ∈ (oneOf texts).matches' ↔ ∃ text ∈ texts, word = text.toList := by
  induction texts with
  | nil =>
    show word ∈ (0 : RegularExpression Char).matches' ↔ _
    rw [RegularExpression.matches'_zero]
    simp
  | cons text others hypothesis =>
    show word ∈ (exactly text.toList + oneOf others).matches' ↔ _
    rw [RegularExpression.matches'_add, Language.mem_add, mem_matches'_exactly, hypothesis,
      List.exists_mem_cons_iff]

/-- **The words of the expression** are the tags. -/
theorem mem_matches'_markupExpression {word : List Char} :
    word ∈ markupExpression.matches' ↔ ∃ tag, IsMarkupTag tag ∧ word = tag.toList := by
  unfold markupExpression
  rw [RegularExpression.matches'_add, Language.mem_add, RegularExpression.matches'_mul,
    RegularExpression.matches'_mul, mem_matches'_exactly]
  constructor
  · rintro (bracketed | rfl)
    · obtain ⟨_, opened, closing, closes, rfl⟩ := Language.mem_mul.mp bracketed
      obtain ⟨opening, opens, name, named, rfl⟩ := Language.mem_mul.mp opened
      rw [mem_matches'_exactly] at opens closes
      obtain ⟨text, listed, rfl⟩ := mem_matches'_oneOf.mp named
      refine ⟨"<" ++ text ++ ">", .element listed, ?_⟩
      rw [opens, closes, String.toList_append, String.toList_append]
      rfl
    · exact ⟨"<br", .lineBreak, rfl⟩
  · rintro ⟨tag, isTag, rfl⟩
    cases isTag with
    | @element name listed =>
      left
      have opened : ['<'] ++ name.toList ∈
          (exactly ['<']).matches' * (oneOf elementNames).matches' :=
        Language.append_mem_mul (mem_matches'_exactly.mpr rfl)
          (mem_matches'_oneOf.mpr ⟨name, listed, rfl⟩)
      rw [String.toList_append, String.toList_append]
      exact Language.append_mem_mul opened (mem_matches'_exactly.mpr rfl)
    | lineBreak => exact Or.inr rfl

/-! ### The search -/

theorem isMarkupTag_iff {tag : String} : IsMarkupTag tag ↔ tag ∈ markupTags := by
  have tags : markupTags = elementNames.map (fun name => "<" ++ name ++ ">") ++ ["<br"] := by
    decide +kernel
  rw [tags, List.mem_append, List.mem_map, List.mem_singleton]
  constructor
  · rintro (listed | _)
    · exact Or.inl ⟨_, listed, rfl⟩
    · exact Or.inr rfl
  · rintro (⟨name, listed, rfl⟩ | rfl)
    · exact .element listed
    · exact .lineBreak

/-- **Markup** is found exactly where a tag is part of the text. -/
theorem hasMarkup_iff {text : String} : hasMarkup text = true ↔ CarriesMarkup text := by
  unfold hasMarkup CarriesMarkup
  rw [List.any_eq_true]
  constructor
  · rintro ⟨tag, listed, occurs⟩
    obtain ⟨front, back, equal⟩ := occursIn_toList_iff.mp occurs
    exact ⟨front, tag, back, isMarkupTag_iff.mpr listed, equal⟩
  · rintro ⟨front, tag, back, isTag, equal⟩
    exact ⟨tag, isMarkupTag_iff.mp isTag, occursIn_toList_iff.mpr ⟨front, back, equal⟩⟩

/-- The expression matches somewhere exactly where a tag is part of the text. -/
theorem isMatch_markupExpression_iff {text : String} :
    IsMatch markupExpression text.toList ↔ CarriesMarkup text := by
  constructor
  · rintro ⟨front, found, back, member, equal⟩
    obtain ⟨tag, isTag, rfl⟩ := mem_matches'_markupExpression.mp member
    obtain ⟨before, behind, split⟩ :=
      occursIn_toList_iff.mp (occursIn_iff.mpr ⟨front, back, equal⟩)
    exact ⟨before, tag, behind, isTag, split⟩
  · rintro ⟨front, tag, back, isTag, rfl⟩
    refine ⟨front.toList, tag.toList, back.toList,
      mem_matches'_markupExpression.mpr ⟨tag, isTag, rfl⟩, ?_⟩
    rw [String.toList_append, String.toList_append]

theorem isNarrativeText_iff {minLength : Nat} {text : String} :
    isNarrativeText minLength text = true ↔ CarriesMarkup text ∨ minLength < text.length := by
  unfold isNarrativeText
  rw [Bool.or_eq_true, hasMarkup_iff, decide_eq_true_eq]

theorem FieldValue.textContent?_eq_some_iff {value : FieldValue} {content : String} :
    value.textContent? = some content ↔ value = .text content ∨ value = .dateTime content := by
  constructor
  · exact eq_of_textContent?
  · rintro (rfl | rfl)
    · rfl
    · rfl

/-- **Narrative values.** One of the first values is a text or a point in time, and its content
looks narrative. -/
theorem hasNarrativeValue_iff {scanLimit minLength : Nat} {values : List FieldValue} :
    hasNarrativeValue scanLimit minLength values = true ↔
      ∃ value ∈ values.take scanLimit, ∃ content,
        (value = .text content ∨ value = .dateTime content) ∧
          (CarriesMarkup content ∨ minLength < content.length) := by
  unfold hasNarrativeValue
  rw [List.any_eq_true]
  constructor
  · rintro ⟨content, member, narrative⟩
    obtain ⟨value, scanned, found⟩ := List.mem_filterMap.mp member
    exact ⟨value, scanned, content, FieldValue.textContent?_eq_some_iff.mp found,
      isNarrativeText_iff.mp narrative⟩
  · rintro ⟨value, scanned, content, holds, narrative⟩
    have found := FieldValue.textContent?_eq_some_iff.mpr holds
    exact ⟨content, List.mem_filterMap.mpr ⟨value, scanned, found⟩,
      isNarrativeText_iff.mpr narrative⟩

/-- **Markup is found anywhere, and nothing else is.** A text has markup exactly if it is some
front, a tag and some back, which is where the expression for the tags matches at some place. Some
values look narrative exactly if among the first ones a text or a point in time has markup or is too
long. -/
theorem markup_found_anywhere :
    (∀ text, hasMarkup text = true ↔
      ∃ front tag back, IsMarkupTag tag ∧ text = front ++ tag ++ back) ∧
      (∀ text, hasMarkup text = true ↔ IsMatch markupExpression text.toList) ∧
      ∀ scanLimit minLength values, hasNarrativeValue scanLimit minLength values = true ↔
        ∃ value ∈ values.take scanLimit, ∃ content,
          (value = .text content ∨ value = .dateTime content) ∧
            ((∃ front tag back, IsMarkupTag tag ∧ content = front ++ tag ++ back) ∨
              minLength < content.length) := by
  refine ⟨fun text => hasMarkup_iff, fun text => ?_, fun scanLimit minLength values => ?_⟩
  · rw [hasMarkup_iff, isMatch_markupExpression_iff]
  · exact hasNarrativeValue_iff

/-- Neither capitals nor attributes are looked through, and a tag may follow a broken one. -/
example : hasMarkup "<P> <p id> < p>" = false ∧ hasMarkup "<s<strong>" = true := by
  decide +kernel

end RecordSchema
