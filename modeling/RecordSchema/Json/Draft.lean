/-
**JSON documents as they are written.**

A `Draft` keeps what a reader may still refuse or drop: repeated members, number literals of any
size and strings without content. `Draft.read` checks the grammar of a text and nothing else. It
runs over the lexemes with a stack of open containers, one step a lexeme.

* `Draft.value?` — the value of a draft: its strings have content, its numbers are finite and its
  containers nest within the given room. The last of several members under one name stays.
* `Draft.select?` — the part of a draft that a `Shape` declares. A declared member may occur once;
  the value of an undeclared member is dropped without any check.
* `Value.read` — reads a text in one go.
-/

import RecordSchema.Json.Lexeme

namespace RecordSchema.Json

/-- A JSON document as it is written. -/
inductive Draft where
  | null
  | bool (value : Bool)
  | number (literal : Literal)
  | string (content : Option String)
  | array (elements : List Draft)
  | object (members : List (Option String × Draft))
  deriving Inhabited

/-! ### Reading -/

namespace Draft

/-- A container whose end has not been read, with its finished parts, last one first. -/
inductive Open where
  | elements (done : List Draft)
  | members (done : List (Option String × Draft)) (name : Option String)

/-- What may follow the lexemes read so far. -/
inductive Expected where
  | value
  /-- A value or the end of an array. -/
  | firstElement
  /-- A name or the end of an object. -/
  | firstName
  | name
  | colon (name : Option String)
  /-- A comma, the end of the container or the end of the text; the value is complete. -/
  | after (value : Draft)

/-- The state between two lexemes: the open containers, innermost first, and what is expected. -/
structure Reading where
  stack : List Open
  expected : Expected

/-- The state behind a lexeme at a place where a value may start. -/
def Reading.start (stack : List Open) : Lexeme → Option Reading
  | .null => some ⟨stack, .after .null⟩
  | .bool value => some ⟨stack, .after (.bool value)⟩
  | .number literal => some ⟨stack, .after (.number literal)⟩
  | .string content => some ⟨stack, .after (.string content)⟩
  | .openBracket => some ⟨.elements [] :: stack, .firstElement⟩
  | .openBrace => some ⟨.members [] none :: stack, .firstName⟩
  | _ => none

/-- The state behind a lexeme that follows a complete value. -/
def Reading.follow (value : Draft) : List Open → Lexeme → Option Reading
  | .elements done :: outer, .comma => some ⟨.elements (value :: done) :: outer, .value⟩
  | .elements done :: outer, .closeBracket => some ⟨outer, .after (.array (value :: done).reverse)⟩
  | .members done name :: outer, .comma =>
    some ⟨.members ((name, value) :: done) none :: outer, .name⟩
  | .members done name :: outer, .closeBrace =>
    some ⟨outer, .after (.object ((name, value) :: done).reverse)⟩
  | _, _ => none

/-- One step of reading. -/
def Reading.step (reading : Reading) (lexeme : Lexeme) : Option Reading :=
  match reading.expected, lexeme with
  | .value, other => Reading.start reading.stack other
  | .firstElement, .closeBracket => some ⟨reading.stack.tail, .after (.array [])⟩
  | .firstElement, other => Reading.start reading.stack other
  | .firstName, .closeBrace => some ⟨reading.stack.tail, .after (.object [])⟩
  | .firstName, .string content => some ⟨reading.stack, .colon content⟩
  | .name, .string content => some ⟨reading.stack, .colon content⟩
  | .colon name, .colon =>
    match reading.stack with
    | .members done _ :: outer => some ⟨.members done name :: outer, .value⟩
    | _ => none
  | .after value, other => Reading.follow value reading.stack other
  | _, _ => none

/-- The complete document, where nothing is open. -/
def Reading.finish (reading : Reading) : Option Draft :=
  match reading.stack, reading.expected with
  | [], .after value => some value
  | _, _ => none

/-- Reads a text that holds one document. -/
def read (text : String) : Option Draft := do
  let lexemes ← Lexeme.scan text
  let reading ← lexemes.foldlM Reading.step ⟨[], .value⟩
  reading.finish

/-! ### The value of a draft -/

/-- Containers may nest this deep. -/
def depthLimit : Nat := 127

mutual

/-- The value of a draft whose containers nest within `room` levels. -/
def value? (room : Nat) : Draft → Option Value
  | .null => some .null
  | .bool value => some (.bool value)
  | .number literal => literal.value?.map .number
  | .string content => content.map .string
  | .array elements =>
    match room with
    | 0 => none
    | inner + 1 => (elementValues? inner elements).map .array
  | .object members =>
    match room with
    | 0 => none
    | inner + 1 => (memberValues? inner members []).map .object

/-- The values of the elements of an array. -/
def elementValues? (room : Nat) : List Draft → Option (List Value)
  | [] => some []
  | element :: rest =>
    match value? room element with
    | none => none
    | some value => (elementValues? room rest).map (value :: ·)

/-- Binds the values of members to ordered members, from first to last. -/
def memberValues? (room : Nat) :
    List (Option String × Draft) → List (String × Value) → Option (List (String × Value))
  | [], ordered => some ordered
  | (name, member) :: rest, ordered =>
    match name, value? room member with
    | some name, some value => memberValues? room rest (Entries.insert name value ordered)
    | _, _ => none

end

/-! ### The declared part of a draft -/

/-- Which parts of a document are declared. -/
inductive Shape where
  /-- Everything. -/
  | whole
  /-- Named members, given as an object or as an array in order of declaration. -/
  | fields (declared : List (String × Shape))
  /-- An array of elements of one shape. -/
  | list (element : Shape)
  /-- An object whose members have one shape, under any names. -/
  | table (element : Shape)

/-- Whether a draft is of the kind that a shape describes. -/
def Shape.admits : Shape → Draft → Bool
  | .whole, _ => true
  | .fields _, .object _ => true
  | .fields _, .array _ => true
  | .list _, .array _ => true
  | .table _, .object _ => true
  | _, _ => false

/-- The shape of a declared member. -/
def fieldShape? (name : String) : List (String × Shape) → Option Shape
  | [] => none
  | (declared, shape) :: rest => if declared = name then some shape else fieldShape? name rest

mutual

/-- The value of the declared part of a draft. Where draft and shape are of different kinds, the
whole value stands. -/
def select? (shape : Shape) (room : Nat) : Draft → Option Value
  | .null => some .null
  | .bool value => some (.bool value)
  | .number literal => literal.value?.map .number
  | .string content => content.map .string
  | .array elements =>
    match room with
    | 0 => none
    | inner + 1 =>
      match shape with
      | .fields declared => (selectInOrder? declared inner elements).map .array
      | .list element => (selectElements? element inner elements).map .array
      | _ => (selectElements? .whole inner elements).map .array
  | .object members =>
    match room with
    | 0 => none
    | inner + 1 =>
      match shape with
      | .fields declared => (selectFields? declared inner members []).map .object
      | .table element => (selectMembers? element inner members []).map .object
      | _ => (selectMembers? .whole inner members []).map .object

/-- The elements of an array, all of one shape. -/
def selectElements? (shape : Shape) (room : Nat) : List Draft → Option (List Value)
  | [] => some []
  | element :: rest =>
    match select? shape room element with
    | none => none
    | some value => (selectElements? shape room rest).map (value :: ·)

/-- The elements of an array that gives fields in order of declaration; a surplus is refused. -/
def selectInOrder? (declared : List (String × Shape)) (room : Nat) :
    List Draft → Option (List Value)
  | [] => some []
  | element :: rest =>
    match declared with
    | [] => none
    | (_, shape) :: later =>
      match select? shape room element with
      | none => none
      | some value => (selectInOrder? later room rest).map (value :: ·)

/-- Binds the members of an object, all of one shape; the last one under a name stays. Each of them
has to be of the kind that the shape describes, also one that is replaced. -/
def selectMembers? (shape : Shape) (room : Nat) :
    List (Option String × Draft) → List (String × Value) → Option (List (String × Value))
  | [], ordered => some ordered
  | (name, member) :: rest, ordered =>
    match name, select? shape room member with
    | some name, some value =>
      if shape.admits member then selectMembers? shape room rest (Entries.insert name value ordered)
      else none
    | _, _ => none

/-- Binds the declared members of an object; a second one under a declared name is refused. -/
def selectFields? (declared : List (String × Shape)) (room : Nat) :
    List (Option String × Draft) → List (String × Value) → Option (List (String × Value))
  | [], ordered => some ordered
  | (none, _) :: _, _ => none
  | (some name, member) :: rest, ordered =>
    match fieldShape? name declared with
    | none => selectFields? declared room rest ordered
    | some shape =>
      match Entries.find? name ordered, select? shape room member with
      | none, some value => selectFields? declared room rest (Entries.insert name value ordered)
      | _, _ => none

end

end Draft

/-- Reads a text that holds one value. -/
def Value.read (text : String) : Option Value := do
  (← Draft.read text).value? Draft.depthLimit

end RecordSchema.Json
