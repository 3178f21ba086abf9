/-!
# Text

A text is a list of characters, so positions and lengths count characters and every scanner recurses
on the data. This module holds the small vocabulary that the other modules share: membership in a
table of code point ranges, joining, and the digits of a whole number.
-/

set_option autoImplicit false

namespace InfixCalculator

/-- A text, as the list of its characters. -/
abbrev Text := List Char

namespace Text

/-- Whether a character lies in one of the ranges of a table, both ends included. -/
def inRanges (ranges : List (Nat × Nat)) (c : Char) : Bool :=
  ranges.any fun range => range.1 ≤ c.toNat && c.toNat ≤ range.2

/-- The texts one after another, with a separator between neighbours. -/
def join (separator : Text) : List Text → Text
  | [] => []
  | [last] => last
  | first :: second :: rest => first ++ separator ++ join separator (second :: rest)

/-- The decimal digits of a whole number. -/
def ofNat (n : Nat) : Text := Nat.toDigits 10 n

/-- A whole number in decimal, with a minus if it is below zero. -/
def ofInt (n : Int) : Text := if n < 0 then '-' :: ofNat n.natAbs else ofNat n.natAbs

end Text

end InfixCalculator
