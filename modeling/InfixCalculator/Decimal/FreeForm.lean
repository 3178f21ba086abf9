import InfixCalculator.Decimal.Basic
import InfixCalculator.Text.Blank
import InfixCalculator.Text.DecimalDigit

/-!
# Numbers in free form

The widest form in which a number is read: blanks around it, an optional sign, then either digits
with an optional point and an optional exponent, or a name for infinity or for no number, in any
case. A single underscore may stand between two digits, and the digits of every script are accepted.
The information separators, although blank, may not stand around a number.
-/

set_option autoImplicit false

namespace InfixCalculator

namespace FreeForm

/-- A blank that may stand around a number: any but the information separators. -/
def isPadding (c : Char) : Bool := Text.isBlank c && !(0x1C ≤ c.toNat && c.toNat ≤ 0x1F)

/-- The text without the padding at its ends. -/
def trim (text : Text) : Text := ((text.dropWhile isPadding).reverse.dropWhile isPadding).reverse

/-- Writes the digits of every script with `0` to `9`. -/
def plainDigits (text : Text) : Text :=
  text.map fun c =>
    match Text.digitValue? c with
    | some value => Nat.digitChar value
    | none => c

/-- Removes the underscores between digits; fails if one stands elsewhere. -/
def dropUnderscores : Text → Option Text
  | [] => some []
  | ['_'] => none
  | '_' :: _ :: _ => none
  | c :: '_' :: d :: rest =>
    if c.isDigit && d.isDigit then (dropUnderscores (d :: rest)).map (c :: ·) else none
  | c :: rest => (dropUnderscores rest).map (c :: ·)

/-- A whole number with an optional sign. -/
def signedWhole? (text : Text) : Option Int :=
  let read (digits : Text) : Option Nat :=
    if digits ≠ [] ∧ digits.all Char.isDigit then some (Nat.ofDigitChars 10 digits 0) else none
  match text with
  | '-' :: digits => (read digits).map fun n => -(n : Int)
  | '+' :: digits => (read digits).map Int.ofNat
  | digits => (read digits).map Int.ofNat

/-- Digits with an optional point and an optional exponent after a small `e`. -/
def decimal? (text : Text) : Option Decimal :=
  let mantissa := text.takeWhile fun c => c.isDigit || c = '.'
  let whole := mantissa.takeWhile Char.isDigit
  let fraction := (mantissa.dropWhile Char.isDigit).drop 1
  let exponent? :=
    match text.drop mantissa.length with
    | [] => some 0
    | mark :: rest => if mark = 'e' then signedWhole? rest else none
  if whole ++ fraction ≠ [] ∧ fraction.all Char.isDigit then
    exponent?.map fun e =>
      ⟨Nat.ofDigitChars 10 (whole ++ fraction) 0, e - fraction.length⟩
  else none

/-- The nearest magnitude. An exponent past a limit may put the decimal far outside the range of
magnitudes, and then no power of ten is computed. -/
def round (limit : Nat) (d : Decimal) : Option Magnitude :=
  let size := d.exponent + (Text.ofNat d.coefficient).length
  if d.exponent.natAbs ≤ limit then d.round
  else if d.coefficient = 0 ∨ size < -400 then some .zero
  else if 400 < size then none
  else d.round

/-- The number without its sign, the letters being small. -/
def unsigned? (text : Text) : Option Binary64 :=
  if text = "inf".toList ∨ text = "infinity".toList then some (.infinite false)
  else if text = "nan".toList then some .notANumber
  else
    (decimal? text).map fun d =>
      match round text.length d with
      | some magnitude => .finite false magnitude
      | none => .infinite false

/-- The number with its sign, the letters being small. -/
def signed? : Text → Option Binary64
  | '-' :: rest => (unsigned? rest).map Binary64.neg
  | '+' :: rest => unsigned? rest
  | rest => unsigned? rest

/-- The number that a text stands for, if it stands for one. -/
def read? (text : Text) : Option Binary64 := do
  let stripped ← dropUnderscores (plainDigits (trim text))
  signed? (stripped.map Char.toLower)

end FreeForm

end InfixCalculator
