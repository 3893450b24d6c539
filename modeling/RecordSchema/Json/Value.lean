/-
**JSON values.**

A number is an integer or a 64-bit floating-point number, and never both: `1` and `1.0` differ. The
members of an object are listed. In a value that was read, their names go up strictly
(`Value.canonical` brings any value to that form); a document that is printed keeps the order in
which its members were declared.

* `Value.member?_object` — what a member look-up on an object answers.
-/

import RecordSchema.Binary64.Text
import RecordSchema.SortedMap

namespace RecordSchema.Json

inductive Number where
  | integer (value : Int)
  | binary (value : Binary64)
  deriving DecidableEq, Repr, Inhabited

inductive Value where
  | null
  | bool (value : Bool)
  | number (value : Number)
  | string (text : String)
  | array (elements : List Value)
  | object (members : List (String × Value))
  deriving Repr, Inhabited

/-! ### Numbers -/

namespace Number

/-- Floating-point numbers from `0.00001` up to `10 ^ 16` are written positionally and keep a tail
`.0`; all others have an exponent with an explicit sign. -/
def layout : DecimalLayout where
  positionalFrom := -5
  positionalBelow := 16
  wholeTail := ".0"
  exponentMark := "e"
  plusSign := "+"

/-- The canonical text of a number. -/
def text : Number → String
  | .integer value => toString value
  | .binary value => value.text layout

/-- The number of things that an integer counts: it is not negative and has at most 64 bits. -/
def count? : Number → Option Nat
  | .integer value => if 0 ≤ value ∧ value < Nat.pow 2 64 then some value.toNat else none
  | .binary _ => none

/-- The nearest floating-point number. -/
def toBinary64 : Number → Binary64
  | .integer value => (Binary64.ofInt? value).getD default
  | .binary value => value

end Number

/-! ### Looking into values -/

namespace Value

def kindName : Value → String
  | .null => "null"
  | .bool _ => "boolean"
  | .number _ => "number"
  | .string _ => "string"
  | .array _ => "array"
  | .object _ => "object"

def isObject : Value → Bool
  | .object _ => true
  | _ => false

def isNull : Value → Bool
  | .null => true
  | _ => false

def elements? : Value → Option (List Value)
  | .array elements => some elements
  | _ => none

def text? : Value → Option String
  | .string text => some text
  | _ => none

def bool? : Value → Option Bool
  | .bool value => some value
  | _ => none

/-- The count that a number states. -/
def count? : Value → Option Nat
  | .number value => value.count?
  | _ => none

/-- The member of an object under a name; other values have no members. -/
def member? (name : String) : Value → Option Value
  | .object members => Entries.find? name members
  | _ => none

@[simp] theorem member?_object (name : String) (members : List (String × Value)) :
    (Value.object members).member? name = Entries.find? name members := rfl

def ofTexts (texts : List String) : Value :=
  .array (texts.map .string)

def ofNat (count : Nat) : Value :=
  .number (.integer count)

/-- A text, or null in its absence. -/
def ofText? (text : Option String) : Value :=
  (text.map .string).getD .null

/-! ### Canonical form -/

mutual

/-- The value with the members of every object ordered by name, where the last of several members
under one name stays. -/
def canonical : Value → Value
  | .array elements => .array (canonicalElements elements)
  | .object members => .object (canonicalMembers members [])
  | other => other

def canonicalElements : List Value → List Value
  | [] => []
  | element :: rest => canonical element :: canonicalElements rest

/-- Binds the members in canonical form to ordered members, from first to last. -/
def canonicalMembers : List (String × Value) → List (String × Value) → List (String × Value)
  | [], ordered => ordered
  | (name, value) :: rest, ordered =>
    canonicalMembers rest (Entries.insert name (canonical value) ordered)

end

end Value

end RecordSchema.Json
