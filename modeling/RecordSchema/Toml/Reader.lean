/-
**Reading TOML documents.**

* `value?` — a value; arrays and in-line tables nest less deep than `nestingLimit`.
* `read?` — the settings of a document.

The loops over elements, members and lines run for at most as many steps as the text has characters,
since each of their steps takes one.
-/

import RecordSchema.Toml.Scan
import RecordSchema.Toml.Tree

namespace RecordSchema.Toml

/-! ### Values -/

/-- A value that is no array and no in-line table. -/
def simpleValue? (text : List Char) : Option (Node × List Char) :=
  match text with
  | 't' :: 'r' :: 'u' :: 'e' :: rest => some (.boolean true, rest)
  | 'f' :: 'a' :: 'l' :: 's' :: 'e' :: rest => some (.boolean false, rest)
  | _ =>
    match string? text with
    | some (content, rest) => some (.text content, rest)
    | none =>
      match dateTime? text with
      | some rest => some (.dateTime, rest)
      | none =>
        match float? text with
        | some rest => some (.float, rest)
        | none => (integer? text).map fun (value, rest) => (.integer value, rest)

/-- The elements of an array up to its closing bracket, last one first; a comma may follow the last
element. -/
def elements? (element : Scanner Node) (done : List Node) : Nat → Scanner (List Node)
  | 0, _ => none
  | fuel + 1, text =>
    match skipGap false text with
    | ']' :: rest => some (done, rest)
    | start =>
      match element start with
      | none => none
      | some (node, after) =>
        match skipGap false after with
        | ',' :: rest => elements? element (node :: done) fuel rest
        | ']' :: rest => some (node :: done, rest)
        | _ => none

/-- One member of an in-line table: its key, an equals sign and its value. -/
def member? (element : Scanner Node) (text : List Char) :
    Option ((List String × Node) × List Char) :=
  match keyPath? text with
  | some (path, '=' :: rest) =>
    (element (skipBlanks rest)).map fun (node, after) => ((path, node), after)
  | _ => none

/-- The members of an in-line table up to its closing brace; no comma may follow the last member. -/
def members? (element : Scanner Node) (table : Table) : Nat → Scanner Table
  | 0, _ => none
  | fuel + 1, text =>
    match member? element text with
    | none => none
    | some ((path, node), after) =>
      match Table.addValue? path node table with
      | none => none
      | some extended =>
        match skipBlanks after with
        | ',' :: rest => members? element extended fuel rest
        | '\x7d' :: rest => some (extended, rest)
        | _ => none

/-- A value within a number of levels. -/
def value? : Nat → Scanner Node
  | 0, _ => none
  | 1, text => simpleValue? text
  | level + 2, text =>
    match text with
    | '[' :: rest =>
      (elements? (value? (level + 1)) [] (rest.length + 1) rest).map fun (elements, after) =>
        (.array elements.reverse, after)
    | '\x7b' :: rest =>
      match skipBlanks rest with
      | '\x7d' :: after => some (.table .inline [], after)
      | start =>
        (members? (value? (level + 1)) [] (start.length + 1) start).map fun (members, after) =>
          (.table .inline members, after)
    | _ => simpleValue? text

/-! ### Documents -/

/-- A document up to some line: its tables, and the header that the next lines belong to. -/
structure Progress where
  root : Table
  header : List String

/-- Reads the header of a table between single brackets, without the first one. -/
def tableHeader? (progress : Progress) (text : List Char) : Option (Progress × List Char) := do
  let (path, after) ← keyPath? text
  let rest ← lineEnd? (← char? ']' after)
  let root ← Table.addHeader? path progress.root
  return (⟨root, path⟩, rest)

/-- Reads the header of an element of an array of tables, without its first two brackets. -/
def elementHeader? (progress : Progress) (text : List Char) : Option (Progress × List Char) := do
  let (path, after) ← keyPath? text
  let rest ← lineEnd? (← char? ']' (← char? ']' after))
  let root ← Table.addElement? path progress.root
  return (⟨root, path⟩, rest)

/-- Reads the line of a key and its value. -/
def keyValue? (progress : Progress) (text : List Char) : Option (Progress × List Char) := do
  let (path, after) ← keyPath? text
  let (node, afterValue) ← value? nestingLimit (skipBlanks (← char? '=' after))
  let rest ← lineEnd? afterValue
  let root ← Table.addValueAt? progress.header path node progress.root
  return ({ progress with root := root }, rest)

/-- Reads one line without the blanks at its front. -/
def line? (progress : Progress) (text : List Char) : Option (Progress × List Char) :=
  match text with
  | '[' :: '[' :: rest => elementHeader? progress rest
  | '[' :: rest => tableHeader? progress rest
  | _ =>
    if text.head? = some '#' ∨ (newline? text).isSome then
      (lineEnd? text).map fun rest => (progress, rest)
    else keyValue? progress text

/-- Reads the lines of a document, in at most `fuel` steps. -/
def lines? (progress : Progress) : Nat → List Char → Option Progress
  | 0, _ => none
  | fuel + 1, text =>
    match skipBlanks text with
    | [] => some progress
    | start =>
      match line? progress start with
      | none => none
      | some (next, rest) => lines? next fuel rest

/-- The characters of a document without a byte order mark at its front. -/
def unmarked : List Char → List Char
  | '\ufeff' :: rest => rest
  | text => text

def read? (text : String) : Option Setting :=
  let chars := unmarked text.toList
  (lines? ⟨[], []⟩ (chars.length + 1) chars).map fun progress =>
    (Node.table .header progress.root).toSetting

end RecordSchema.Toml
