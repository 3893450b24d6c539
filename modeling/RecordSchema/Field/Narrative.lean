/-
**Narrative fields.**

A field is long-form text when its label names narrative content, or when one of its first values
carries markup or is very long.

* `isNarrativeLabel` — the verdict on a label, which ignores the case of its letters and does not
  tell spaces from underscores.
* `hasMarkup` — whether one of the listed tags occurs in a text.
* `hasNarrativeValue` — the verdict on a list of values.
-/

import RecordSchema.Record.FieldValue
import RecordSchema.Text.Factor

namespace RecordSchema

open Text (occursIn)

/-- The phrases that mark the label of a narrative field. -/
def narrativePhrases : List String :=
  ["description", "rationale", "notes", "content", "details", "summary", "comment", "justification",
    "analysis", "resolution", "root cause", "impact", "mitigation", "verification",
    "acceptance criteria"]

/-- A character as it is compared with the phrases: in lower case, and a space for an underscore.
Only the ASCII letters change their case. Of all other characters two have an ASCII letter in their
lower case: the Kelvin sign has a `k`, which no phrase holds, and the dotted capital I has an `i` in
front of a combining dot, where no phrase ends. -/
def foldLabelChar (char : Char) : Char :=
  if char = '_' then ' ' else char.toLower

/-- Whether a field's label or key names narrative content. -/
def isNarrativeLabel (label : String) : Bool :=
  narrativePhrases.any fun phrase => occursIn phrase.toList (label.toList.map foldLabelChar)

/-- The tags that mark a text; any continuation may follow the last one. -/
def markupTags : List String :=
  ["<p>", "<ul>", "<ol>", "<li>", "<strong>", "<em>", "<div>", "<span>", "<br"]

/-- Whether one of the tags occurs in a text. -/
def hasMarkup (text : String) : Bool :=
  markupTags.any fun tag => occursIn tag.toList text.toList

/-- Whether a text looks narrative: it carries markup or has more than `minLength` characters. -/
def isNarrativeText (minLength : Nat) (text : String) : Bool :=
  hasMarkup text || decide (minLength < text.length)

/-- Whether one of the first values is a text that looks narrative. -/
def hasNarrativeValue (scanLimit minLength : Nat) (values : List FieldValue) : Bool :=
  ((values.take scanLimit).filterMap FieldValue.textContent?).any (isNarrativeText minLength)

end RecordSchema
