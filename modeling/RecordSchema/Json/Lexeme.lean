/-
**The lexemes of a JSON text.**

`Lexeme.scan` cuts a text into punctuation, words, number literals and strings, and refuses what is
none of them.

* `Quoted.scan` — a string up to its closing quote. Escapes that name half of a surrogate pair are
  well formed here; the content of such a string is `none`, since no text has that character.
* `Quoted.scan_length` — a string ends in front of a shorter text.
-/

import RecordSchema.Json.Literal

namespace RecordSchema.Json

/-! ### Strings -/

namespace Quoted

/-- A part of a string: a character, or the UTF-16 unit that an escape names. -/
inductive Piece where
  | char (value : Char)
  | unit (code : Nat)
  deriving DecidableEq, Repr

def hexDigit? (char : Char) : Option Nat :=
  if '0' ≤ char ∧ char ≤ '9' then some (char.toNat - '0'.toNat)
  else if 'a' ≤ char ∧ char ≤ 'f' then some (char.toNat - 'a'.toNat + 10)
  else if 'A' ≤ char ∧ char ≤ 'F' then some (char.toNat - 'A'.toNat + 10)
  else none

/-- The number that four hexadecimal digits write. -/
def hexUnit? (first second third fourth : Char) : Option Nat := do
  let high := (← hexDigit? first) * 16 + (← hexDigit? second)
  let low := (← hexDigit? third) * 16 + (← hexDigit? fourth)
  return high * 256 + low

/-- The character behind a one-letter escape. -/
def escaped? (letter : Char) : Option Char :=
  if letter = '"' ∨ letter = '\\' ∨ letter = '/' then some letter
  else if letter = 'b' then some '\x08'
  else if letter = 'f' then some '\x0c'
  else if letter = 'n' then some '\n'
  else if letter = 'r' then some '\r'
  else if letter = 't' then some '\t'
  else none

/-- The parts of a string up to its closing quote, last part first, and the text behind the quote.
-/
def scan (pieces : List Piece) : List Char → Option (List Piece × List Char)
  | [] => none
  | '\\' :: 'u' :: first :: second :: third :: fourth :: rest =>
    match hexUnit? first second third fourth with
    | some code => scan (.unit code :: pieces) rest
    | none => none
  | '\\' :: letter :: rest =>
    match escaped? letter with
    | some char => scan (.char char :: pieces) rest
    | none => none
  | char :: rest =>
    if char = '"' then some (pieces, rest)
    else if char = '\\' ∨ char.toNat < 0x20 then none
    else scan (.char char :: pieces) rest

/-- A string ends in front of a shorter text. -/
theorem scan_length {pieces result : List Piece} {text rest : List Char}
    (scanned : scan pieces text = some (result, rest)) : rest.length < text.length := by
  fun_induction scan pieces text with
  | case1 => simp at scanned
  | case2 pieces first second third fourth after code _ hypothesis =>
    have := hypothesis scanned
    simp only [List.length_cons]
    omega
  | case3 => simp at scanned
  | case4 pieces letter after _ char _ hypothesis =>
    have := hypothesis scanned
    simp only [List.length_cons]
    omega
  | case5 => simp at scanned
  | case6 pieces after _ _ =>
    cases scanned
    simp
  | case7 => simp at scanned
  | case8 pieces char after _ _ _ _ hypothesis =>
    have := hypothesis scanned
    simp only [List.length_cons]
    omega

/-- Whether a unit opens a surrogate pair. -/
def isHigh (code : Nat) : Bool :=
  decide (0xD800 ≤ code) && decide (code < 0xDC00)

/-- Whether a unit closes a surrogate pair. -/
def isLow (code : Nat) : Bool :=
  decide (0xDC00 ≤ code) && decide (code < 0xE000)

/-- The characters that parts write, given the characters in front of them, last one first; half of
a surrogate pair writes none. -/
def characters? (done : List Char) : List Piece → Option (List Char)
  | [] => some done.reverse
  | .char value :: rest => characters? (value :: done) rest
  | .unit high :: .unit low :: rest =>
    if isHigh high then
      if isLow low then
        characters? (Char.ofNat (0x10000 + (high - 0xD800) * 0x400 + (low - 0xDC00)) :: done) rest
      else none
    else if isLow high then none
    else characters? (Char.ofNat high :: done) (.unit low :: rest)
  | .unit code :: rest =>
    if isHigh code || isLow code then none else characters? (Char.ofNat code :: done) rest

end Quoted

/-! ### Lexemes -/

/-- The smallest parts of a JSON text. -/
inductive Lexeme where
  | openBracket
  | closeBracket
  | openBrace
  | closeBrace
  | comma
  | colon
  | null
  | bool (value : Bool)
  | number (literal : Literal)
  /-- A string; `none` where it holds half of a surrogate pair. -/
  | string (content : Option String)
  deriving DecidableEq, Repr

namespace Lexeme

/-- Whether a character only divides lexemes. -/
def isBlank (char : Char) : Bool :=
  char == ' ' || char == '\t' || char == '\n' || char == '\r'

/-- A lexeme of one character. -/
def punctuation? (char : Char) : Option Lexeme :=
  if char = '[' then some .openBracket
  else if char = ']' then some .closeBracket
  else if char = '\x7b' then some .openBrace
  else if char = '\x7d' then some .closeBrace
  else if char = ',' then some .comma
  else if char = ':' then some .colon
  else none

/-- Whether a character occurs in words and number literals. -/
def isRun (char : Char) : Bool :=
  char.isAlphanum || char == '-' || char == '+' || char == '.'

/-- The lexeme that a run of letters, digits, signs and points writes. -/
def ofRun? (run : List Char) : Option Lexeme :=
  if run = "null".toList then some .null
  else if run = "true".toList then some (.bool true)
  else if run = "false".toList then some (.bool false)
  else (Literal.ofChars? run).map .number

/-- The lexemes of a text behind those already found, which are listed last one first. -/
def scanFrom (found : List Lexeme) (text : List Char) : Option (List Lexeme) :=
  match text with
  | [] => some found.reverse
  | char :: rest =>
    if isBlank char then scanFrom found rest
    else if char = '"' then
      match _scanned : Quoted.scan [] rest with
      | some (pieces, after) =>
        let content := (Quoted.characters? [] pieces.reverse).map String.ofList
        scanFrom (.string content :: found) after
      | none => none
    else
      match punctuation? char with
      | some lexeme => scanFrom (lexeme :: found) rest
      | none =>
        match ofRun? (char :: rest.takeWhile isRun) with
        | some lexeme => scanFrom (lexeme :: found) (rest.dropWhile isRun)
        | none => none
termination_by text.length
decreasing_by
  · simp
  · have := Quoted.scan_length _scanned
    simp only [List.length_cons]
    omega
  · simp
  · have := (List.dropWhile_sublist isRun (l := rest)).length_le
    simp only [List.length_cons]
    omega

def scan (text : String) : Option (List Lexeme) :=
  scanFrom [] text.toList

end Lexeme

end RecordSchema.Json
