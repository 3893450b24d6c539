/-
**Shortened texts.**

Lengths count characters. `cut` keeps the first characters of a text, and `shorten` also marks the
cut with three dots that count towards the limit while it has room for them.

* `shorten_of_length_le` — a text within the limit stays as it is.
-/

namespace RecordSchema.Text

/-- The first `limit` characters of a text. -/
def cut (limit : Nat) (text : String) : String :=
  String.ofList (text.toList.take limit)

/-- What marks a cut. -/
def ellipsis : String := "..."

/-- The text within a limit, with a mark where characters are missing. -/
def shorten (limit : Nat) (text : String) : String :=
  if text.length ≤ limit then text else cut (limit - ellipsis.length) text ++ ellipsis

@[simp] theorem toList_cut (limit : Nat) (text : String) :
    (cut limit text).toList = text.toList.take limit :=
  String.toList_ofList

/-- A text within the limit stays as it is. -/
theorem shorten_of_length_le {limit : Nat} {text : String} (short : text.length ≤ limit) :
    shorten limit text = text :=
  if_pos short

end RecordSchema.Text
