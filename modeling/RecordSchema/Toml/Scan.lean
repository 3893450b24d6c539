/-
**The lexical parts of a TOML document.**

A scanner takes a part from the front of a text and answers with its meaning and the rest.

* `basicString?`, `literalString?` and their multi-line forms — the four kinds of strings.
* `integer?`, `float?`, `dateTime?` — numbers and points in time.
* `keyPath?` — a dotted key.
-/

import RecordSchema.Binary64.Basic
import RecordSchema.Json.Lexeme

namespace RecordSchema.Toml

/-- Takes a part from the front of a text. -/
abbrev Scanner (α : Type) := List Char → Option (α × List Char)

/-! ### Blanks, lines and comments -/

/-- Whether a character is a blank within a line. -/
def isBlank (char : Char) : Bool :=
  char == ' ' || char == '\t'

/-- The text behind the blanks at its front. -/
def skipBlanks (text : List Char) : List Char :=
  text.dropWhile isBlank

/-- The text behind the line break at its front. -/
def newline? : List Char → Option (List Char)
  | '\n' :: rest => some rest
  | '\r' :: '\n' :: rest => some rest
  | _ => none

/-- Whether a character may stand in a comment: a tab or no control character. -/
def isPrintable (char : Char) : Bool :=
  char == '\t' || (decide (0x20 ≤ char.toNat) && decide (char.toNat ≠ 0x7F))

/-- The text behind the end of a line, where blanks and a comment may precede the line break. The
end of the document ends its last line. -/
def lineEnd? (text : List Char) : Option (List Char) :=
  let uncommented :=
    match skipBlanks text with
    | '#' :: rest => rest.dropWhile isPrintable
    | other => other
  match uncommented with
  | [] => some []
  | other => newline? other

/-- The text behind blanks, line breaks and comments; the flag tells that a comment is open. -/
def skipGap : Bool → List Char → List Char
  | _, [] => []
  | _, '\n' :: rest => skipGap false rest
  | _, '\r' :: '\n' :: rest => skipGap false rest
  | true, char :: rest => if isPrintable char then skipGap true rest else char :: rest
  | false, char :: rest =>
    if isBlank char then skipGap false rest
    else if char = '#' then skipGap true rest
    else char :: rest

/-! ### Strings -/

/-- The number that hexadecimal digits write. -/
def hexNumber? (digits : List Char) : Option Nat :=
  digits.foldlM
    (fun value char => (Json.Quoted.hexDigit? char).map fun digit => value * 16 + digit) 0

/-- The character of a code point, if it is one. -/
def scalar? (code : Nat) : Option Char :=
  if code.isValidChar then some (Char.ofNat code) else none

/-- The character that hexadecimal digits name. -/
def hexChar? (digits : List Char) : Option Char :=
  (hexNumber? digits).bind scalar?

/-- The character behind an escape of one letter. -/
def escaped? (letter : Char) : Option Char :=
  if letter = 'b' then some '\x08'
  else if letter = 't' then some '\t'
  else if letter = 'n' then some '\n'
  else if letter = 'f' then some '\x0c'
  else if letter = 'r' then some '\r'
  else if letter = '"' then some '"'
  else if letter = '\\' then some '\\'
  else none

/-- What follows the opening quote of a string with escapes; `done` is its content so far, last
character first. -/
def basicString? (done : List Char) : Scanner String
  | [] => none
  | '\\' :: 'u' :: a :: b :: c :: d :: rest =>
    match hexChar? [a, b, c, d] with
    | some char => basicString? (char :: done) rest
    | none => none
  | '\\' :: 'U' :: a :: b :: c :: d :: e :: f :: g :: h :: rest =>
    match hexChar? [a, b, c, d, e, f, g, h] with
    | some char => basicString? (char :: done) rest
    | none => none
  | '\\' :: letter :: rest =>
    match escaped? letter with
    | some char => basicString? (char :: done) rest
    | none => none
  | char :: rest =>
    if char = '"' then some (String.ofList done.reverse, rest)
    else if char = '\\' then none
    else if isPrintable char then basicString? (char :: done) rest
    else none

/-- What follows the opening quote of a string without escapes. -/
def literalString? (done : List Char) : Scanner String
  | [] => none
  | char :: rest =>
    if char = '\'' then some (String.ofList done.reverse, rest)
    else if isPrintable char then literalString? (char :: done) rest
    else none

/-- The end of a multi-line string behind its first three closing quotes: up to two more quotes in
front of the closing ones belong to the content. -/
def closeMultiline (quote : Char) (done rest : List Char) : String × List Char :=
  match rest with
  | first :: second :: more =>
    if first = quote ∧ second = quote then (String.ofList (quote :: quote :: done).reverse, more)
    else if first = quote then (String.ofList (quote :: done).reverse, second :: more)
    else (String.ofList done.reverse, rest)
  | [only] =>
    if only = quote then (String.ofList (quote :: done).reverse, [])
    else (String.ofList done.reverse, rest)
  | [] => (String.ofList done.reverse, [])

/-- Whether only blanks stand in front of the next line break. -/
def endsLine (text : List Char) : Bool :=
  (newline? (skipBlanks text)).isSome

/-- What follows the opening quotes of a multi-line string with escapes. A backslash at the end of a
line drops everything up to the next character that is neither blank nor line break; the flag tells
that this goes on. -/
def basicLines? : Bool → List Char → Scanner String
  | _, _, [] => none
  | true, done, '\n' :: rest => basicLines? true done rest
  | true, done, ' ' :: rest => basicLines? true done rest
  | true, done, '\t' :: rest => basicLines? true done rest
  | true, done, '\r' :: '\n' :: rest => basicLines? true done rest
  | _, done, '"' :: '"' :: '"' :: rest => some (closeMultiline '"' done rest)
  | _, done, '\n' :: rest => basicLines? false ('\n' :: done) rest
  | _, done, '\r' :: '\n' :: rest => basicLines? false ('\n' :: done) rest
  | _, done, '\\' :: 'u' :: a :: b :: c :: d :: rest =>
    match hexChar? [a, b, c, d] with
    | some char => basicLines? false (char :: done) rest
    | none => none
  | _, done, '\\' :: 'U' :: a :: b :: c :: d :: e :: f :: g :: h :: rest =>
    match hexChar? [a, b, c, d, e, f, g, h] with
    | some char => basicLines? false (char :: done) rest
    | none => none
  | _, done, '\\' :: letter :: rest =>
    if endsLine (letter :: rest) then basicLines? true done (letter :: rest)
    else
      match escaped? letter with
      | some char => basicLines? false (char :: done) rest
      | none => none
  | _, done, char :: rest =>
    if char = '\\' then none
    else if isPrintable char then basicLines? false (char :: done) rest
    else none

/-- What follows the opening quotes of a multi-line string without escapes. -/
def literalLines? (done : List Char) : Scanner String
  | [] => none
  | '\'' :: '\'' :: '\'' :: rest => some (closeMultiline '\'' done rest)
  | '\n' :: rest => literalLines? ('\n' :: done) rest
  | '\r' :: '\n' :: rest => literalLines? ('\n' :: done) rest
  | char :: rest => if isPrintable char then literalLines? (char :: done) rest else none

/-- The text behind a line break, or the text itself without one. -/
def withoutNewline (text : List Char) : List Char :=
  (newline? text).getD text

/-- A string of any kind, from its opening quote. -/
def string? : Scanner String
  | '"' :: '"' :: '"' :: rest => basicLines? false [] (withoutNewline rest)
  | '"' :: rest => basicString? [] rest
  | '\'' :: '\'' :: '\'' :: rest => literalLines? [] (withoutNewline rest)
  | '\'' :: rest => literalString? [] rest
  | _ => none

/-! ### Keys -/

/-- Whether a character may stand in a key without quotes. -/
def isBare (char : Char) : Bool :=
  char.isAlphanum || char == '-' || char == '_'

def simpleKey? : Scanner String
  | '"' :: rest => basicString? [] rest
  | '\'' :: rest => literalString? [] rest
  | text =>
    match text.takeWhile isBare with
    | [] => none
    | bare => some (String.ofList bare, text.dropWhile isBare)

/-- A key has fewer parts than this, and values nest less deep. -/
def nestingLimit : Nat := 80

/-- The parts of a dotted key, in at most `fuel` steps; blanks may stand around each part. -/
def keyParts? : Nat → Scanner (List String)
  | 0, _ => none
  | fuel + 1, text =>
    match simpleKey? (skipBlanks text) with
    | none => none
    | some (part, after) =>
      match skipBlanks after with
      | '.' :: rest => (keyParts? fuel rest).map fun (parts, last) => (part :: parts, last)
      | rest => some ([part], rest)

def keyPath? (text : List Char) : Option (List String × List Char) :=
  (keyParts? (text.length + 1) text).filter fun (parts, _) => decide (parts.length < nestingLimit)

/-! ### Numbers -/

/-- The digits behind the first one, where single underscores may divide digits. -/
def moreDigits (isDigit : Char → Bool) : List Char → List Char × List Char
  | [] => ([], [])
  | '_' :: char :: rest =>
    if isDigit char then
      let (digits, after) := moreDigits isDigit rest
      (char :: digits, after)
    else ([], '_' :: char :: rest)
  | char :: rest =>
    if isDigit char then
      let (digits, after) := moreDigits isDigit rest
      (char :: digits, after)
    else ([], char :: rest)

/-- Digits that may start with any digit. -/
def digits? (isDigit : Char → Bool) : Scanner (List Char)
  | [] => none
  | char :: rest =>
    if isDigit char then
      let (digits, after) := moreDigits isDigit rest
      some (char :: digits, after)
    else none

/-- The number that digits write in a base. -/
def number (base : Nat) (digits : List Char) : Nat :=
  digits.foldl (fun value char => value * base + (Json.Quoted.hexDigit? char).getD 0) 0

/-- The sign at the front of a number: whether it is a minus. -/
def sign : List Char → Bool × List Char
  | '-' :: rest => (true, rest)
  | '+' :: rest => (false, rest)
  | text => (false, text)

/-- A decimal integer without its sign; a zero stands alone. -/
def unsigned? : Scanner (List Char)
  | '0' :: rest => some (['0'], rest)
  | text => digits? Char.isDigit text

/-- An integer with 64 bits: decimal with an optional sign, or without sign in base 16, 8 or 2. -/
def integer? (text : List Char) : Option (Int × List Char) := do
  let based (base : Nat) (isDigit : Char → Bool) (rest : List Char) : Option (Int × List Char) := do
    let (digits, after) ← digits? isDigit rest
    if number base digits < Nat.pow 2 63 then some (number base digits, after) else none
  match text with
  | '0' :: 'x' :: rest => based 16 (fun char => (Json.Quoted.hexDigit? char).isSome) rest
  | '0' :: 'o' :: rest => based 8 (fun char => decide ('0' ≤ char) && decide (char ≤ '7')) rest
  | '0' :: 'b' :: rest => based 2 (fun char => char == '0' || char == '1') rest
  | _ =>
    let (negative, rest) := sign text
    let (digits, after) ← unsigned? rest
    let size := number 10 digits
    if negative then
      if size ≤ Nat.pow 2 63 then some (-(size : Int), after) else none
    else
      if size < Nat.pow 2 63 then some ((size : Int), after) else none

/-- Whether `digits * 10 ^ exponent` rounds to a finite number. Far from the largest number the
count of digits decides. -/
def isFinite (digits : Nat) (exponent : Int) : Bool :=
  let leading : Int := Ratio.digitCount 10 digits + exponent
  if digits = 0 ∨ leading < -400 then true
  else if 400 < leading then false
  else
    let (top, bottom) := Ratio.scaled 10 exponent digits 1
    (Binary64.round false top bottom).isSome

def fraction? : Scanner (List Char)
  | '.' :: rest => digits? Char.isDigit rest
  | _ => none

def exponent? : Scanner Int
  | char :: rest =>
    if char = 'e' ∨ char = 'E' then do
      let (negative, unsignedPart) := sign rest
      let (digits, after) ← digits? Char.isDigit unsignedPart
      let size : Int := number 10 digits
      some (if negative then -size else size, after)
    else none
  | [] => none

/-- A float: the text behind it. A positive one has to be finite. -/
def float? (text : List Char) : Option (List Char) := do
  let (negative, rest) := sign text
  match rest with
  | 'i' :: 'n' :: 'f' :: after => some after
  | 'n' :: 'a' :: 'n' :: after => some after
  | _ =>
    let (whole, afterWhole) ← unsigned? rest
    let (fraction, afterFraction) ←
      match fraction? afterWhole with
      | some (fraction, after) => some (some fraction, after)
      | none => some (none, afterWhole)
    let (exponent, after) ←
      match exponent? afterFraction with
      | some (exponent, after) => some (some exponent, after)
      | none => some (none, afterFraction)
    if fraction.isNone ∧ exponent.isNone then none
    else
      let places := fraction.getD []
      let finite := isFinite (number 10 (whole ++ places)) (exponent.getD 0 - places.length)
      if negative ∨ finite then some after else none

/-! ### Dates and times -/

/-- A number of exactly two digits within bounds. -/
def twoDigits? (low high : Nat) : Scanner Nat
  | first :: second :: rest =>
    if first.isDigit ∧ second.isDigit then
      let value := number 10 [first, second]
      if low ≤ value ∧ value ≤ high then some (value, rest) else none
    else none
  | _ => none

/-- The text behind a character, if the text starts with it. -/
def char? (wanted : Char) : List Char → Option (List Char)
  | char :: rest => if char = wanted then some rest else none
  | [] => none

def monthLength (year month : Nat) : Nat :=
  if month = 2 then
    if year % 4 = 0 ∧ (year % 100 ≠ 0 ∨ year % 400 = 0) then 29 else 28
  else if month = 4 ∨ month = 6 ∨ month = 9 ∨ month = 11 then 30
  else 31

/-- A date: the text behind it. -/
def date? : List Char → Option (List Char)
  | a :: b :: c :: d :: rest => do
    if [a, b, c, d].all Char.isDigit then
      let (month, afterMonth) ← twoDigits? 1 12 (← char? '-' rest)
      let (day, after) ← twoDigits? 1 31 (← char? '-' afterMonth)
      if day ≤ monthLength (number 10 [a, b, c, d]) month then some after else none
    else none
  | _ => none

/-- A time of day, perhaps with a fraction of a second: the text behind it. -/
def time? (text : List Char) : Option (List Char) := do
  let (_, afterHour) ← twoDigits? 0 23 text
  let (_, afterMinute) ← twoDigits? 0 59 (← char? ':' afterHour)
  let (_, after) ← twoDigits? 0 60 (← char? ':' afterMinute)
  match after with
  | '.' :: digit :: rest => if digit.isDigit then some (rest.dropWhile Char.isDigit) else some after
  | _ => some after

/-- An offset from universal time: the text behind it. -/
def offset? : List Char → Option (List Char)
  | char :: rest =>
    if char = 'Z' ∨ char = 'z' then some rest
    else if char = '+' ∨ char = '-' then do
      let (_, afterHour) ← twoDigits? 0 23 rest
      let (_, after) ← twoDigits? 0 59 (← char? ':' afterHour)
      some after
    else none
  | [] => none

/-- What may follow a date: a time with an optional offset. -/
def timeOfDate? : List Char → Option (List Char)
  | char :: rest =>
    if char = 'T' ∨ char = 't' ∨ char = ' ' then do
      let after ← time? rest
      some ((offset? after).getD after)
    else none
  | [] => none

/-- A date, a time or both: the text behind it. -/
def dateTime? (text : List Char) : Option (List Char) :=
  match date? text with
  | some after => some ((timeOfDate? after).getD after)
  | none => time? text

end RecordSchema.Toml
