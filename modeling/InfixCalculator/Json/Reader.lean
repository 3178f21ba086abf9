import InfixCalculator.Decimal.FreeForm
import InfixCalculator.Json

/-!
# Reading JSON

Reads back an object of strings and numbers. Blanks may stand between the pieces of an object, a
string may use every escape, and a number is an optional minus, digits, and perhaps a point with
digits and an exponent. Codes that stand for no character are refused.
-/

set_option autoImplicit false

namespace InfixCalculator

namespace Json

/-- A character that may stand between the pieces of an object. -/
def isSpacing (c : Char) : Bool := c = ' ' || c = '\t' || c = '\n' || c = '\r'

/-- A text without the blanks at its front. -/
def skipSpacing (text : Text) : Text := text.dropWhile isSpacing

/-! ## Strings -/

/-- The character that a letter after a backslash stands for. -/
def escaped? : Char → Option Char
  | '"' => some '"'
  | '\\' => some '\\'
  | '/' => some '/'
  | 'b' => some '\x08'
  | 'f' => some '\x0c'
  | 'n' => some '\n'
  | 'r' => some '\r'
  | 't' => some '\t'
  | _ => none

/-- The characters of a string up to its closing quote, and what follows it. -/
def readCharacters : Text → Option (Text × Text)
  | [] => none
  | '"' :: rest => some ([], rest)
  | '\\' :: 'u' :: a :: b :: c :: d :: rest => do
    let code ← Text.hexChar? [a, b, c, d]
    let (text, rest) ← readCharacters rest
    some (code :: text, rest)
  | '\\' :: letter :: rest => do
    let c ← escaped? letter
    let (text, rest) ← readCharacters rest
    some (c :: text, rest)
  | c :: rest => do
    if c.toNat < 32 ∨ c = '\\' then none
    else
      let (text, rest) ← readCharacters rest
      some (c :: text, rest)

/-- A string at the front of a text, and what follows it. -/
def readString : Text → Option (Text × Text)
  | '"' :: rest => readCharacters rest
  | _ => none

/-! ## Numbers -/

/-- The text behind the digits at its front, of which there must be one. -/
def skipDigits : Text → Option Text
  | [] => none
  | c :: rest => if c.isDigit then some (rest.dropWhile Char.isDigit) else none

/-- The text behind a minus, if it starts with one. -/
def skipMinus : Text → Text
  | '-' :: rest => rest
  | text => text

/-- The text behind the whole part of a number: a zero alone, or digits. -/
def skipWhole : Text → Option Text
  | '0' :: rest => some rest
  | text => skipDigits text

/-- The text behind a point with digits, if it starts with a point. -/
def skipFraction : Text → Option Text
  | '.' :: rest => skipDigits rest
  | text => some text

/-- The text behind the sign and the digits of an exponent. -/
def skipPower : Text → Option Text
  | '+' :: rest => skipDigits rest
  | '-' :: rest => skipDigits rest
  | text => skipDigits text

/-- The text behind an exponent, if it starts with the mark of one. -/
def skipExponent : Text → Option Text
  | 'e' :: rest => skipPower rest
  | 'E' :: rest => skipPower rest
  | text => some text

/-- Whether a text is a number: an optional minus, digits of which the first is no superfluous zero,
and perhaps a point with digits and an exponent. -/
def isNumber (text : Text) : Bool :=
  ((skipWhole (skipMinus text)).bind fun rest => (skipFraction rest).bind skipExponent) = some []

/-- A character that a number may contain. -/
def isNumberPart (c : Char) : Bool :=
  c.isDigit || c = '-' || c = '+' || c = '.' || c = 'e' || c = 'E'

/-- A number at the front of a text, and what follows it. -/
def readNumber (text : Text) : Option (Binary64 × Text) :=
  let shown := text.takeWhile isNumberPart
  if isNumber shown then
    (FreeForm.read? shown).map fun value => (value, text.dropWhile isNumberPart)
  else none

/-! ## Objects -/

/-- A value at the front of a text, and what follows it. -/
def readValue : Text → Option (Json × Text)
  | '"' :: rest => (readCharacters rest).map fun (text, rest) => (string text, rest)
  | text => (readNumber text).map fun (value, rest) => (number value, rest)

/-- The text after a character that it must start with, blanks around the character left out. -/
def expect (c : Char) (text : Text) : Option Text :=
  match skipSpacing text with
  | d :: rest => if d = c then some (skipSpacing rest) else none
  | [] => none

/-- An entry at the front of a text, and what follows it. -/
def readEntry (text : Text) : Option ((Text × Json) × Text) := do
  let (key, rest) ← readString text
  let rest ← expect ':' rest
  let (value, rest) ← readValue rest
  some ((key, value), rest)

/-- The entries of an object up to its closing brace, at most `fuel` of them, and what follows
it. -/
def readEntries : Nat → Text → Option (List (Text × Json) × Text)
  | 0, _ => none
  | fuel + 1, text => do
    let (entry, rest) ← readEntry text
    match expect ',' rest with
    | some rest =>
      let (entries, rest) ← readEntries fuel rest
      some (entry :: entries, rest)
    | none =>
      let rest ← expect '}' rest
      some ([entry], rest)

/-- The entries of the object that a text consists of. -/
def read? (text : Text) : Option (List (Text × Json)) := do
  let rest ← expect '{' text
  match expect '}' rest with
  | some [] => some []
  | _ =>
    let (entries, rest) ← readEntries rest.length rest
    if rest = [] then some entries else none

end Json

end InfixCalculator
