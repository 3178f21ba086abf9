import InfixCalculator.Decimal.FreeForm
import InfixCalculator.Text.Hexadecimal
import InfixCalculator.Toml.Value

/-!
# TOML scalars

Each reader takes one scalar off the front of a text and returns it with the rest, or fails. Strings
come in four forms: basic strings with escapes and literal strings without, each on one line or on
several. Numbers may have underscores between their digits, and a whole number in decimal has a
limit to its length. Dates and times must exist.
-/

set_option autoImplicit false

namespace InfixCalculator

namespace Toml

/-- A reader takes a value off the front of a text, or fails. -/
abbrev Reader (α : Type) := Text → Option (α × Text)

/-- Why a document cannot be read. -/
inductive Failure where
  /-- It is not well formed. -/
  | malformed
  /-- A whole number has too many digits. -/
  | integerTooLong
  /-- Values are nested too deep. -/
  | nestingTooDeep
deriving DecidableEq

/-- What must be there for a document to be well formed. -/
def required {α : Type} : Option α → Except Failure α
  | some result => .ok result
  | none => .error .malformed

instance : MonadLift Option (Except Failure) := ⟨required⟩

/-- A control character other than the tab; it may stand in no string and no comment. -/
def isControl (c : Char) : Bool := (c.toNat < 32 && c ≠ '\t') || c.toNat = 127

/-- A space or a tab. -/
def isSpace (c : Char) : Bool := c = ' ' || c = '\t'

/-- A space, a tab or a line feed. -/
def isSpaceOrLine (c : Char) : Bool := isSpace c || c = '\n'

/-- The rest of a text after a prefix it must start with. -/
def expect (start : Text) (text : Text) : Option Text :=
  if start.isPrefixOf text then some (text.drop start.length) else none

/-! ## Strings -/

/-- A character in front of what a reader returns. -/
def prepend (c : Option Char) (result : Option (Text × Text)) : Option (Text × Text) := do
  let c ← c
  let (text, rest) ← result
  some (c :: text, rest)

/-- The character that a letter after a backslash stands for. -/
def escape? : Char → Option Char
  | 'b' => some '\x08'
  | 't' => some '\t'
  | 'n' => some '\n'
  | 'f' => some '\x0c'
  | 'r' => some '\r'
  | '"' => some '"'
  | '\\' => some '\\'
  | _ => none

/-- A basic string on one line, after its opening quote. -/
def basicString : Reader Text
  | [] => none
  | '"' :: rest => some ([], rest)
  | '\\' :: 'u' :: a :: b :: c :: d :: rest =>
      prepend (Text.hexChar? [a, b, c, d]) (basicString rest)
  | '\\' :: 'U' :: a :: b :: c :: d :: e :: f :: g :: h :: rest =>
    prepend (Text.hexChar? [a, b, c, d, e, f, g, h]) (basicString rest)
  | '\\' :: e :: rest => prepend (escape? e) (basicString rest)
  | c :: rest => if isControl c || c = '\\' then none else prepend (some c) (basicString rest)

/-- Up to two quotes directly after the three that close a string on several lines; they belong to
the string. -/
def extraQuotes (quote : Char) (rest : Text) : Text × Text :=
  let extra := (rest.take 2).takeWhile (· = quote)
  (extra, rest.drop extra.length)

/-- What is skipped at the end of a line inside a basic string on several lines. -/
inductive Skipping where
  /-- Nothing. -/
  | nothing
  /-- Spaces up to the end of the line. -/
  | toLineEnd
  /-- Spaces and line ends. -/
  | blank
deriving DecidableEq

/-- A basic string on several lines, after its opening quotes. A backslash at the end of a line
skips the line end and all blanks after it. -/
def longBasicString : Skipping → Reader Text
  | _, [] => none
  | .toLineEnd, c :: rest =>
    if c = '\n' then longBasicString .blank rest
    else if isSpace c then longBasicString .toLineEnd rest
    else none
  | .blank, ' ' :: rest => longBasicString .blank rest
  | .blank, '\t' :: rest => longBasicString .blank rest
  | .blank, '\n' :: rest => longBasicString .blank rest
  | _, '"' :: '"' :: '"' :: rest => some (extraQuotes '"' rest)
  | _, '\\' :: 'u' :: a :: b :: c :: d :: rest =>
    prepend (Text.hexChar? [a, b, c, d]) (longBasicString .nothing rest)
  | _, '\\' :: 'U' :: a :: b :: c :: d :: e :: f :: g :: h :: rest =>
    prepend (Text.hexChar? [a, b, c, d, e, f, g, h]) (longBasicString .nothing rest)
  | _, '\\' :: '\n' :: rest => longBasicString .blank rest
  | _, '\\' :: e :: rest =>
    if isSpace e then longBasicString .toLineEnd rest
    else prepend (escape? e) (longBasicString .nothing rest)
  | _, c :: rest =>
    if (isControl c && c ≠ '\n') || c = '\\' then none
    else prepend (some c) (longBasicString .nothing rest)

/-- A literal string on one line, after its opening quote. -/
def literalString : Reader Text
  | [] => none
  | '\'' :: rest => some ([], rest)
  | c :: rest => if isControl c then none else prepend (some c) (literalString rest)

/-- A literal string on several lines, after its opening quotes. -/
def longLiteralString : Reader Text
  | [] => none
  | '\'' :: '\'' :: '\'' :: rest => some (extraQuotes '\'' rest)
  | c :: rest =>
    if isControl c && c ≠ '\n' then none else prepend (some c) (longLiteralString rest)

/-- The text after a line feed that may come first. -/
def dropLineFeed : Text → Text
  | '\n' :: rest => rest
  | text => text

/-- A string of any form. -/
def stringValue : Reader Text
  | '"' :: '"' :: '"' :: rest => longBasicString .nothing (dropLineFeed rest)
  | '"' :: rest => basicString rest
  | '\'' :: '\'' :: '\'' :: rest => longLiteralString (dropLineFeed rest)
  | '\'' :: rest => literalString rest
  | _ => none

/-! ## Numbers -/

/-- Digits with single underscores between them, after the first digit. -/
def moreDigits (isDigit : Char → Bool) : Text → Text × Text
  | [] => ([], [])
  | '_' :: d :: rest =>
    if isDigit d then
      let (digits, rest) := moreDigits isDigit rest
      (d :: digits, rest)
    else ([], '_' :: d :: rest)
  | c :: rest =>
    if isDigit c then
      let (digits, rest) := moreDigits isDigit rest
      (c :: digits, rest)
    else ([], c :: rest)

/-- At least one digit, with single underscores between digits. -/
def digitRun (isDigit : Char → Bool) : Reader Text
  | [] => none
  | c :: rest =>
    if isDigit c then
      let (digits, rest) := moreDigits isDigit rest
      some (c :: digits, rest)
    else none

/-- A whole number in base two, eight or sixteen, after its leading zero. -/
def prefixedInteger : Reader Int
  | mark :: rest => do
    let base ← [('x', 16), ('o', 8), ('b', 2)].lookup mark
    let isDigit (c : Char) : Bool :=
      match Text.hexDigit? c with
      | some value => value < base
      | none => false
    let (digits, rest) ← digitRun isDigit rest
    let values ← digits.mapM Text.hexDigit?
    let magnitude : Nat := values.foldl (fun n digit => base * n + digit) 0
    some (magnitude, rest)
  | [] => none

/-- The whole part of a decimal number: zero, or digits of which the first is not zero. -/
def wholePart : Reader Text
  | '0' :: rest => some (['0'], rest)
  | text => digitRun Char.isDigit text

/-- A point with digits after it, if there is one. -/
def fractionPart (text : Text) : Text × Text :=
  match text with
  | '.' :: rest =>
    match digitRun Char.isDigit rest with
    | some (digits, rest) => ('.' :: digits, rest)
    | none => ([], text)
  | _ => ([], text)

/-- A sign, if there is one. -/
def signPart : Text → Text × Text
  | '+' :: rest => (['+'], rest)
  | '-' :: rest => (['-'], rest)
  | rest => ([], rest)

/-- An exponent, if there is one. -/
def exponentPart (text : Text) : Text × Text :=
  match text with
  | mark :: rest =>
    if mark = 'e' ∨ mark = 'E' then
      let (sign, rest) := signPart rest
      match digitRun Char.isDigit rest with
      | some (digits, rest) => ('e' :: sign ++ digits, rest)
      | none => ([], text)
    else ([], text)
  | [] => ([], text)

/-- The most digits that a whole number in decimal may have. -/
def digitLimit : Nat := 4300

/-- A number in decimal: a float if it has a point or an exponent, otherwise a whole number. -/
def decimalNumber (text : Text) : Except Failure (Value × Text) := do
  let (sign, rest) := signPart text
  let (whole, rest) ← wholePart rest
  let (fraction, rest) := fractionPart rest
  let (exponent, rest) := exponentPart rest
  if fraction = [] ∧ exponent = [] then
    if digitLimit < whole.length then .error .integerTooLong
    else
      let magnitude : Int := Nat.ofDigitChars 10 whole 0
      .ok (.integer (if sign = ['-'] then -magnitude else magnitude), rest)
  else
    let value ← FreeForm.read? (sign ++ whole ++ fraction ++ exponent)
    .ok (.float value, rest)

/-- An infinity or no number, with an optional sign. -/
def specialFloat : Reader Value := fun text => do
  let (sign, rest) := signPart text
  let name := rest.take 3
  if name = "inf".toList ∨ name = "nan".toList then
    let value ← FreeForm.read? (sign ++ name)
    some (.float value, rest.drop 3)
  else none

/-- A number of any form. -/
def numberValue (text : Text) : Except Failure (Value × Text) :=
  let based :=
    match text with
    | '0' :: rest => prefixedInteger rest
    | _ => none
  match based with
  | some (value, rest) => .ok (.integer value, rest)
  | none =>
    match decimalNumber text with
    | .error .malformed => required (specialFloat text)
    | result => result

/-! ## Dates and times -/

/-- A number of exactly `count` digits in a range. -/
def fixedDigits (count low high : Nat) : Reader Nat := fun text =>
  let digits := text.take count
  let value := Nat.ofDigitChars 10 digits 0
  if digits.length = count ∧ digits.all Char.isDigit ∧ low ≤ value ∧ value ≤ high then
    some (value, text.drop count)
  else none

/-- The number of days of a month. -/
def daysInMonth (year month : Nat) : Nat :=
  if month = 2 then
    if (year % 4 = 0 ∧ year % 100 ≠ 0) ∨ year % 400 = 0 then 29 else 28
  else if month = 4 ∨ month = 6 ∨ month = 9 ∨ month = 11 then 30
  else 31

/-- The text after a time of day. -/
def skipTime (text : Text) : Option Text := do
  let (_, rest) ← fixedDigits 2 0 23 text
  let rest ← expect [':'] rest
  let (_, rest) ← fixedDigits 2 0 59 rest
  let rest ← expect [':'] rest
  let (_, rest) ← fixedDigits 2 0 59 rest
  match rest with
  | '.' :: c :: after => if c.isDigit then some (after.dropWhile Char.isDigit) else some rest
  | _ => some rest

/-- The text after a distance from universal time, if there is one. -/
def skipOffset (text : Text) : Text :=
  let offset : Option Text :=
    match text with
    | 'Z' :: rest => some rest
    | 'z' :: rest => some rest
    | sign :: rest => do
      if sign = '+' ∨ sign = '-' then
        let (_, rest) ← fixedDigits 2 0 23 rest
        let rest ← expect [':'] rest
        let (_, rest) ← fixedDigits 2 0 59 rest
        some rest
      else none
    | [] => none
  offset.getD text

/-- The text after a time of day that follows a date, if there is one. -/
def skipTimeAfterDate (text : Text) : Text :=
  match text with
  | mark :: rest =>
    if mark = 'T' ∨ mark = 't' ∨ mark = ' ' then
      match skipTime rest with
      | some rest => skipOffset rest
      | none => text
    else text
  | [] => text

/-- The year, month and day that a text starts with. -/
def date? (text : Text) : Option ((Nat × Nat × Nat) × Text) := do
  let (year, rest) ← fixedDigits 4 0 9999 text
  let rest ← expect ['-'] rest
  let (month, rest) ← fixedDigits 2 1 12 rest
  let rest ← expect ['-'] rest
  let (day, rest) ← fixedDigits 2 1 31 rest
  some ((year, month, day), rest)

/-- A date, a time, or both; `none` if the text starts with neither, and `some none` if it starts
with a date that does not exist. -/
def moment? (text : Text) : Option (Option (Value × Text)) :=
  let written (rest : Text) : Value × Text :=
    (.moment (text.take (text.length - rest.length)), rest)
  match date? text with
  | some ((year, month, day), rest) =>
    if 1 ≤ year ∧ day ≤ daysInMonth year month then some (some (written (skipTimeAfterDate rest)))
    else some none
  | none => (skipTime text).map fun rest => some (written rest)

end Toml

end InfixCalculator
