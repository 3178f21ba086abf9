import InfixCalculator.Decimal.Notation
import InfixCalculator.Text.Quoted

/-!
# JSON output

An object of strings and numbers is written with one entry a line, indented by two spaces. In a
string the quote, the backslash and the control characters are escaped; every other character stands
for itself. Numbers are written in their natural form.
-/

set_option autoImplicit false

namespace InfixCalculator

/-- A value in a JSON object. -/
inductive Json where
  /-- A string. -/
  | string (text : Text)
  /-- A finite number. -/
  | number (value : Binary64)
deriving DecidableEq

namespace Json

/-- A character inside a string. -/
def escapeChar (c : Char) : Text :=
  if c = '"' ∨ c = '\\' then ['\\', c]
  else if c = '\n' then ['\\', 'n']
  else if c = '\r' then ['\\', 'r']
  else if c = '\t' then ['\\', 't']
  else if c.toNat = 8 then ['\\', 'b']
  else if c.toNat = 12 then ['\\', 'f']
  else if c.toNat < 32 then '\\' :: 'u' :: Text.hex 4 c.toNat
  else [c]

/-- A string between quotes. -/
def writeString (text : Text) : Text := '"' :: text.flatMap escapeChar ++ ['"']

/-- A value. -/
def write : Json → Text
  | string text => writeString text
  | number value => value.natural

/-- An entry of an object. -/
def writeEntry (entry : Text × Json) : Text :=
  "  ".toList ++ writeString entry.1 ++ ": ".toList ++ entry.2.write

/-- An object, one entry a line. -/
def writeObject (entries : List (Text × Json)) : Text :=
  '{' :: '\n' :: Text.join ",\n".toList (entries.map writeEntry) ++ ['\n', '}']

end Json

end InfixCalculator
