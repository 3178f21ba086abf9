import InfixCalculator.Decimal.Basic
import InfixCalculator.Text.Basic

/-!
# Numerals

A numeral is what an expression may contain for a number: digits with an optional point that may be
followed by digits, or a point followed by at least one digit. Digits are `0` to `9`. A literal is a
numeral with an optional minus in front.

`Numeral.scan` takes the longest numeral off the front of a text, and `Numeral.isNumeral` tells
whether a whole text is one.
-/

set_option autoImplicit false

namespace InfixCalculator

namespace Numeral

/-- A character that a numeral may contain. -/
def isPart (c : Char) : Bool := c.isDigit || c = '.'

/-- The longest numeral at the front of a text, and the rest of the text. -/
def scan (text : Text) : Option (Text × Text) :=
  let whole := text.takeWhile Char.isDigit
  let rest := text.dropWhile Char.isDigit
  match rest with
  | '.' :: after =>
    let fraction := after.takeWhile Char.isDigit
    if whole = [] ∧ fraction = [] then none
    else some (whole ++ '.' :: fraction, after.dropWhile Char.isDigit)
  | _ => if whole = [] then none else some (whole, rest)

/-- Nothing is lost in scanning. -/
theorem append_of_scan {text numeral rest : Text} (h : scan text = some (numeral, rest)) :
    numeral ++ rest = text := by
  unfold scan at h
  dsimp only at h
  split at h
  · rename_i after found
    split at h
    · cases h
    · cases h
      rw [List.append_assoc, List.cons_append, List.takeWhile_append_dropWhile, ← found,
        List.takeWhile_append_dropWhile]
  · split at h
    · cases h
    · cases h
      exact List.takeWhile_append_dropWhile

/-- A numeral is not empty. -/
theorem ne_nil_of_scan {text numeral rest : Text} (h : scan text = some (numeral, rest)) :
    numeral ≠ [] := by
  unfold scan at h
  dsimp only at h
  split at h
  · split at h
    · cases h
    · cases h; simp
  · split at h
    · cases h
    · rename_i nonempty
      cases h; exact nonempty

/-- Scanning makes progress. -/
theorem length_lt_of_scan {text numeral rest : Text} (h : scan text = some (numeral, rest)) :
    rest.length < text.length := by
  have := ne_nil_of_scan h
  have := List.length_pos_iff.2 this
  rw [← append_of_scan h, List.length_append]
  omega

/-- Whether a text is a numeral: digits with at most one point among them, and at least one
digit. -/
def isNumeral (text : Text) : Bool :=
  text.all isPart && text.count '.' ≤ 1 && text.any Char.isDigit

/-- A numeral holds digits and points only. -/
theorem not_mem_of_isNumeral {text : Text} (h : isNumeral text = true) {c : Char}
    (other : isPart c = false) : c ∉ text := by
  intro member
  simp only [isNumeral, Bool.and_eq_true, List.all_eq_true] at h
  have := h.1.1 c member
  rw [other] at this
  cases this

/-- The decimal that a numeral stands for. -/
def toDecimal (text : Text) : Decimal :=
  let fraction := (text.dropWhile (· ≠ '.')).drop 1
  ⟨Nat.ofDigitChars 10 (text.filter Char.isDigit) 0, -(fraction.length : Int)⟩

end Numeral

/-! ## Literals -/

namespace Literal

/-- A literal without its sign, and whether the sign was there. -/
def splitSign : Text → Bool × Text
  | '-' :: rest => (true, rest)
  | text => (false, text)

/-- Whether a text is a numeral with an optional minus in front. -/
def isLiteral (text : Text) : Bool := Numeral.isNumeral (splitSign text).2

/-- The number that a literal stands for; an infinity when it is past the end. -/
def toBinary64 (text : Text) : Binary64 :=
  let (negative, numeral) := splitSign text
  match (Numeral.toDecimal numeral).round with
  | some magnitude => .finite negative magnitude
  | none => .infinite negative

end Literal

/-- A text that is a numeral with an optional minus in front. -/
structure Literal where
  /-- The literal as it is written. -/
  text : Text
  /-- It is a numeral with an optional minus. -/
  valid : Literal.isLiteral text = true

end InfixCalculator
