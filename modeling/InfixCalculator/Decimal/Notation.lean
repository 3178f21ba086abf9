import InfixCalculator.Decimal.Shortest
import InfixCalculator.Text.Basic

/-!
# How numbers are written

A number is written from the shortest decimal of its magnitude, in one of two ways.

The *plain* form is positional however large or small the number is, so that it can be put into an
expression and read as digits with an optional point: no exponent, no point without digits after it,
and zero without a sign.

The *natural* form is positional with at least one digit after the point when the leading digit
stands for a power of ten from `10 ^ (-4)` to `10 ^ 15`, and otherwise scientific with a signed
exponent of at least two digits. It shows the sign of zero.
-/

set_option autoImplicit false

namespace InfixCalculator

namespace Decimal

/-- The digits of the coefficient. -/
def digits (d : Decimal) : Text := Text.ofNat d.coefficient

/-- The digits around a point that leaves `whole` of them before it; zeros fill what is missing. -/
def placePoint (digits : Text) (fraction : Nat) : Text :=
  let padded := List.replicate (fraction + 1 - digits.length) '0' ++ digits
  let whole := padded.length - fraction
  padded.take whole ++ '.' :: padded.drop whole

/-- Positional notation. -/
def positional (d : Decimal) : Text :=
  if 0 ≤ d.exponent then
    if d.coefficient = 0 then ['0'] else d.digits ++ List.replicate d.exponent.toNat '0'
  else placePoint d.digits (-d.exponent).toNat

/-- The power of ten that the leading digit stands for. -/
def leadingExponent (d : Decimal) : Int := d.exponent + d.digits.length - 1

/-- A power of ten after the mark: its sign and at least two digits. -/
def exponentText (e : Int) : Text :=
  let digits := Text.ofNat e.natAbs
  (if e < 0 then '-' else '+') :: (if digits.length < 2 then '0' :: digits else digits)

/-- Scientific notation. -/
def scientific (d : Decimal) : Text :=
  let mantissa :=
    match d.digits with
    | first :: second :: rest => first :: '.' :: second :: rest
    | digits => digits
  mantissa ++ 'e' :: exponentText d.leadingExponent

/-- Positional notation with at least one digit after the point. -/
def pointed (d : Decimal) : Text :=
  if 0 ≤ d.exponent then d.positional ++ ['.', '0'] else d.positional

/-- Positional notation for leading digits from `10 ^ (-4)` to `10 ^ 15`, scientific for others. -/
def natural (d : Decimal) : Text :=
  if -4 ≤ d.leadingExponent ∧ d.leadingExponent < 16 then d.pointed else d.scientific

end Decimal

namespace Binary64

/-- A minus in front of what is written for a negative number. -/
def withSign (negative : Bool) (text : Text) : Text := if negative then '-' :: text else text

@[simp] theorem withSign_false (text : Text) : withSign false text = text := rfl

@[simp] theorem withSign_true (text : Text) : withSign true text = '-' :: text := rfl

/-- The plain form: positional, without an exponent. -/
def plain (x : Binary64) : Text :=
  match x.normalizeZero with
  | finite negative magnitude => withSign negative magnitude.shortest.positional
  | infinite negative => withSign negative "Infinity".toList
  | notANumber => "NaN".toList

/-- The natural form: positional in the middle range, scientific outside it. -/
def natural : Binary64 → Text
  | finite negative magnitude => withSign negative magnitude.shortest.natural
  | infinite negative => withSign negative "inf".toList
  | notANumber => "nan".toList

end Binary64

end InfixCalculator
