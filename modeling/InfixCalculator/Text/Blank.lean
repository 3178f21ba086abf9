import InfixCalculator.Text.Basic

/-!
# White space

The blank characters are those with the white-space property, together with the four information
separators. `compact` removes them all, `strip` only those at both ends.
-/

set_option autoImplicit false

namespace InfixCalculator

namespace Text

/-- The code points of blank characters. -/
def blankRanges : List (Nat × Nat) :=
  [(0x9, 0xD), (0x1C, 0x20), (0x85, 0x85), (0xA0, 0xA0), (0x1680, 0x1680), (0x2000, 0x200A),
   (0x2028, 0x2029), (0x202F, 0x202F), (0x205F, 0x205F), (0x3000, 0x3000)]

/-- A white-space character. -/
def isBlank (c : Char) : Bool := inRanges blankRanges c

/-- The text without its blank characters. -/
def compact (text : Text) : Text := text.filter (!isBlank ·)

/-- The text without the blank characters at its end. -/
def stripEnd (text : Text) : Text := (text.reverse.dropWhile isBlank).reverse

/-- The text without the blank characters at its ends. -/
def strip (text : Text) : Text := stripEnd (text.dropWhile isBlank)

theorem mem_compact {text : Text} {c : Char} : c ∈ compact text ↔ c ∈ text ∧ isBlank c = false := by
  simp [compact]

theorem compact_append (s t : Text) : compact (s ++ t) = compact s ++ compact t :=
  List.filter_append ..

end Text

end InfixCalculator
