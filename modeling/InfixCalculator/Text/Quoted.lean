import InfixCalculator.Text.Hexadecimal
import InfixCalculator.Text.Printable

/-!
# Quoted text

A text shown inside a message stands between single quotes, or between double quotes if it holds a
single quote and no double one. The backslash and the quote in use are escaped with a backslash, the
line and tab characters have a letter each, and any other character that is not printable is given
by its code in two, four or eight hexadecimal digits.
-/

set_option autoImplicit false

namespace InfixCalculator

namespace Text

/-- A character between quotes. -/
def escapeChar (quote c : Char) : Text :=
  if c = quote ∨ c = '\\' then ['\\', c]
  else if c = '\n' then ['\\', 'n']
  else if c = '\r' then ['\\', 'r']
  else if c = '\t' then ['\\', 't']
  else if isPrintable c then [c]
  else if c.toNat < 0x100 then '\\' :: 'x' :: hex 2 c.toNat
  else if c.toNat < 0x10000 then '\\' :: 'u' :: hex 4 c.toNat
  else '\\' :: 'U' :: hex 8 c.toNat

/-- The quote that a text is put between. -/
def quoteFor (text : Text) : Char := if '\'' ∈ text ∧ '"' ∉ text then '"' else '\''

/-- The text between quotes. -/
def quoted (text : Text) : Text :=
  let quote := quoteFor text
  quote :: text.flatMap (escapeChar quote) ++ [quote]

end Text

end InfixCalculator
