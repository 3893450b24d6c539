/-
**Writing JSON.**

`Value.compact` writes a value without spaces and `Value.pretty` on indented lines; both write the
members of an object in the order in which they are listed.

* `Value.quoted` — the text of a string: only the quote, the backslash and the characters below the
  space are escaped.
-/

import RecordSchema.Json.Value

namespace RecordSchema.Json.Value

/-- The escape of a character inside a string, where it needs one. -/
def escape? (char : Char) : Option String :=
  if char = '"' then some "\\\""
  else if char = '\\' then some "\\\\"
  else if char = '\x08' then some "\\b"
  else if char = '\x0c' then some "\\f"
  else if char = '\n' then some "\\n"
  else if char = '\r' then some "\\r"
  else if char = '\t' then some "\\t"
  else if char.toNat < 0x20 then
    let digits := Nat.toDigits 16 char.toNat
    some ("\\u" ++ zeros (4 - digits.length) ++ String.ofList digits)
  else none

def quoted (text : String) : String :=
  "\"" ++ String.join (text.toList.map fun char => (escape? char).getD (String.singleton char)) ++
    "\""

/-! ### On one line -/

mutual

def compact : Value → String
  | .null => "null"
  | .bool value => if value then "true" else "false"
  | .number value => value.text
  | .string text => quoted text
  | .array elements => "[" ++ ",".intercalate (compactElements elements) ++ "]"
  | .object members => "\x7b" ++ ",".intercalate (compactMembers members) ++ "\x7d"

def compactElements : List Value → List String
  | [] => []
  | element :: rest => compact element :: compactElements rest

def compactMembers : List (String × Value) → List String
  | [] => []
  | (name, value) :: rest => (quoted name ++ ":" ++ compact value) :: compactMembers rest

end

/-! ### On indented lines -/

/-- The start of a line at a depth: two spaces for each level. -/
def lineStart (depth : Nat) : String :=
  "\n" ++ String.ofList (List.replicate (2 * depth) ' ')

mutual

/-- The value on indented lines, starting in a line of the given depth. -/
def prettyAt (depth : Nat) : Value → String
  | .array elements =>
    if elements.isEmpty then "[]"
    else "[" ++ ",".intercalate (prettyElements (depth + 1) elements) ++ lineStart depth ++ "]"
  | .object members =>
    if members.isEmpty then "\x7b\x7d"
    else "\x7b" ++ ",".intercalate (prettyMembers (depth + 1) members) ++ lineStart depth ++ "\x7d"
  | .null => "null"
  | .bool value => if value then "true" else "false"
  | .number value => value.text
  | .string text => quoted text

/-- The elements of an array, each on lines of its own. -/
def prettyElements (depth : Nat) : List Value → List String
  | [] => []
  | element :: rest => (lineStart depth ++ prettyAt depth element) :: prettyElements depth rest

/-- The members of an object, each on lines of its own. -/
def prettyMembers (depth : Nat) : List (String × Value) → List String
  | [] => []
  | (name, value) :: rest =>
    (lineStart depth ++ quoted name ++ ": " ++ prettyAt depth value) :: prettyMembers depth rest

end

/-- The value on indented lines. -/
def pretty (value : Value) : String :=
  prettyAt 0 value

end RecordSchema.Json.Value
