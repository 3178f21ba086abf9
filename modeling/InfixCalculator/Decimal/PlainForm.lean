import InfixCalculator.Decimal.Notation

/-!
# The shape of the plain form

A number has one plain form. It has no exponent, no zero in front of its other digits, none behind
the last digit after the point, no point without digits after it, and zero has no sign.
`IsPlainForm` is that shape, told without the numbers that are written in it.
-/

set_option autoImplicit false

namespace InfixCalculator

namespace Decimal

/-- The digits in front of the point: a zero alone, or digits of which the first is no zero. -/
inductive WholePart : Text → Prop where
  /-- A zero alone. -/
  | zero : WholePart ['0']
  /-- Digits of which the first is no zero. -/
  | digits {first : Char} {rest : Text} (digit : first.isDigit = true) (nonzero : first ≠ '0')
      (valid : rest.all Char.isDigit = true) : WholePart (first :: rest)

/-- The point and the digits behind it: nothing at all, or digits of which the last is no zero. -/
inductive FractionPart : Text → Prop where
  /-- Nothing at all. -/
  | none : FractionPart []
  /-- A point, and digits of which the last is no zero. -/
  | digits {front : Text} {last : Char} (valid : front.all Char.isDigit = true)
      (digit : last.isDigit = true) (nonzero : last ≠ '0') :
      FractionPart ('.' :: front ++ [last])

/-- The shape of a plain form. -/
def IsPlainForm (text : Text) : Prop :=
  ∃ (negative : Bool) (whole fraction : Text),
    text = Binary64.withSign negative (whole ++ fraction) ∧ WholePart whole ∧ FractionPart fraction
      ∧ (negative = true → whole ++ fraction ≠ ['0'])

end Decimal

end InfixCalculator
