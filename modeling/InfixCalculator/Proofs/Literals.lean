import InfixCalculator.Decimal.Notation
import InfixCalculator.Expression.Phrase
import InfixCalculator.Reduction.Flat

/-!
# Literals and the numbers they are written for

Every literal is a numeral with or without a minus (`Literal.exists_withSign`), and the number it
stands for is the magnitude of the numeral with that sign (`Literal.toBinary64_withSign`).

The plain form of a finite number is a literal (`Binary64.isLiteral_plain`) that stands for the
number itself, with zero positive (`Binary64.toBinary64_plain`). The digits are those of the
shortest decimal; placing the point among them, and filling in zeros, moves factors of ten between
the coefficient and the exponent and so keeps the magnitude.
-/

set_option autoImplicit false

namespace InfixCalculator

/-! ## Spans of characters -/

namespace Text

variable {p : Char → Bool} {front rest : Text}

/-- A span goes on to the first character that does not belong to it. -/
theorem takeWhile_span (inside : ∀ c ∈ front, p c = true)
    (outside : ∀ c ∈ rest.head?, p c = false) :
    (front ++ rest).takeWhile p = front := by
  rw [List.takeWhile_append_of_pos inside]
  cases rest with
  | nil => exact List.append_nil front
  | cons c rest =>
    rw [List.takeWhile_cons_of_neg (by simp [outside c rfl]), List.append_nil]

/-- What follows a span is left as it is. -/
theorem dropWhile_span (inside : ∀ c ∈ front, p c = true)
    (outside : ∀ c ∈ rest.head?, p c = false) :
    (front ++ rest).dropWhile p = rest := by
  rw [List.dropWhile_append_of_pos inside]
  cases rest with
  | nil => rfl
  | cons c rest => exact List.dropWhile_cons_of_neg (by simp [outside c rfl])

end Text

/-! ## The characters of numerals -/

namespace Numeral

theorem isPart_minus : isPart '-' = false := by decide

theorem isPart_plus : isPart '+' = false := by decide

theorem isPart_open : isPart '(' = false := by decide

theorem isPart_close : isPart ')' = false := by decide

/-- A part of a numeral is no parenthesis. -/
theorem ne_parenthesis_of_isPart {c : Char} (part : isPart c = true) : c ≠ '(' ∧ c ≠ ')' := by
  constructor <;> rintro rfl <;> cases part

/-- An operator symbol is no part of a numeral. -/
theorem isPart_symbol (op : Operator) : isPart op.symbol = false := by
  cases op <;> decide

theorem isPart_of_mem {text : Text} (numeral : isNumeral text = true) {c : Char}
    (member : c ∈ text) : isPart c = true := by
  cases part : isPart c with
  | true => rfl
  | false => exact absurd member (not_mem_of_isNumeral numeral part)

theorem ne_nil_of_isNumeral {text : Text} (numeral : isNumeral text = true) : text ≠ [] := by
  rintro rfl
  cases numeral

/-- A numeral starts with one of its parts. -/
theorem exists_cons_of_isNumeral {text : Text} (numeral : isNumeral text = true) :
    ∃ c rest, text = c :: rest ∧ isPart c = true := by
  obtain ⟨c, rest, rfl⟩ := List.exists_cons_of_ne_nil (ne_nil_of_isNumeral numeral)
  exact ⟨c, rest, rfl, isPart_of_mem numeral List.mem_cons_self⟩

end Numeral

/-! ## Signs of literals -/

namespace Literal

theorem ext {x y : Literal} (same : x.text = y.text) : x = y := by
  cases x
  cases y
  cases same
  rfl

/-- A numeral is a literal without a sign. -/
theorem splitSign_numeral {numeral : Text} (valid : Numeral.isNumeral numeral = true) :
    splitSign numeral = (false, numeral) := by
  obtain ⟨c, rest, rfl, part⟩ := Numeral.exists_cons_of_isNumeral valid
  unfold splitSign
  split
  · rename_i same
    cases same
    rw [Numeral.isPart_minus] at part
    cases part
  · rfl

theorem splitSign_withSign (negative : Bool) {numeral : Text}
    (valid : Numeral.isNumeral numeral = true) :
    splitSign (Binary64.withSign negative numeral) = (negative, numeral) := by
  cases negative with
  | false => exact splitSign_numeral valid
  | true => rfl

theorem isLiteral_withSign (negative : Bool) {numeral : Text}
    (valid : Numeral.isNumeral numeral = true) :
    isLiteral (Binary64.withSign negative numeral) = true := by
  rw [isLiteral, splitSign_withSign negative valid]
  exact valid

/-- A numeral with a minus in front of it or not. -/
def ofNumeral (negative : Bool) (numeral : Text) (valid : Numeral.isNumeral numeral = true) :
    Literal :=
  ⟨Binary64.withSign negative numeral, isLiteral_withSign negative valid⟩

/-- **Every literal is a signed numeral.** -/
theorem exists_withSign {text : Text} (literal : isLiteral text = true) :
    ∃ negative numeral, Numeral.isNumeral numeral = true
      ∧ text = Binary64.withSign negative numeral := by
  unfold isLiteral splitSign at literal
  split at literal
  · rename_i rest
    exact ⟨true, rest, literal, rfl⟩
  · exact ⟨false, text, literal, rfl⟩

theorem exists_ofNumeral (x : Literal) :
    ∃ negative numeral, ∃ valid : Numeral.isNumeral numeral = true,
      x = ofNumeral negative numeral valid := by
  obtain ⟨negative, numeral, valid, same⟩ := exists_withSign x.valid
  exact ⟨negative, numeral, valid, ext same⟩

/-- Whether a literal is written with a minus. -/
def hasSign (x : Literal) : Bool := (splitSign x.text).1

/-- The literal with its minus dropped, or with a minus if it has none. -/
def opposite (x : Literal) : Literal := ofNumeral (!x.hasSign) (splitSign x.text).2 x.valid

@[simp] theorem text_ofNumeral (negative : Bool) {numeral : Text}
    (valid : Numeral.isNumeral numeral = true) :
    (ofNumeral negative numeral valid).text = Binary64.withSign negative numeral := rfl

@[simp] theorem hasSign_ofNumeral (negative : Bool) {numeral : Text}
    (valid : Numeral.isNumeral numeral = true) :
    (ofNumeral negative numeral valid).hasSign = negative := by
  rw [hasSign, text_ofNumeral, splitSign_withSign negative valid]

@[simp] theorem opposite_ofNumeral (negative : Bool) {numeral : Text}
    (valid : Numeral.isNumeral numeral = true) :
    opposite (ofNumeral negative numeral valid) = ofNumeral (!negative) numeral valid := by
  apply ext
  unfold opposite
  simp only [hasSign_ofNumeral, text_ofNumeral, splitSign_withSign negative valid]

/-! ## The number of a literal -/

/-- A magnitude with a sign, or the infinity with that sign. -/
def signed (negative : Bool) : Option Magnitude → Binary64
  | some magnitude => .finite negative magnitude
  | none => .infinite negative

/-- The number of a literal is the magnitude of its numeral with its sign. -/
theorem toBinary64_withSign (negative : Bool) {numeral : Text}
    (valid : Numeral.isNumeral numeral = true) :
    toBinary64 (Binary64.withSign negative numeral)
      = signed negative (Numeral.toDecimal numeral).round := by
  unfold toBinary64
  rw [splitSign_withSign negative valid]
  dsimp only
  cases (Numeral.toDecimal numeral).round <;> rfl

theorem neg_signed (negative : Bool) (magnitude : Option Magnitude) :
    -signed negative magnitude = signed (!negative) magnitude := by
  cases magnitude <;> rfl

theorem isNegative_signed (negative : Bool) (magnitude : Option Magnitude) :
    (signed negative magnitude).isNegative = negative := by
  cases magnitude <;> rfl

/-- The opposite literal stands for the opposite number. -/
theorem toBinary64_opposite (x : Literal) :
    toBinary64 x.opposite.text = -toBinary64 x.text := by
  obtain ⟨negative, numeral, valid, rfl⟩ := exists_ofNumeral x
  rw [opposite_ofNumeral, text_ofNumeral, text_ofNumeral, toBinary64_withSign _ valid,
    toBinary64_withSign _ valid, neg_signed]

/-- A literal has a minus exactly when its number has one. -/
theorem isNegative_toBinary64 (x : Literal) : (toBinary64 x.text).isNegative = x.hasSign := by
  obtain ⟨negative, numeral, valid, rfl⟩ := exists_ofNumeral x
  rw [text_ofNumeral, hasSign_ofNumeral, toBinary64_withSign _ valid, isNegative_signed]

end Literal

/-- A literal is read as its number, unless that is past the finite numbers. -/
theorem parseNumber_of_isLiteral {text : Text} (literal : Literal.isLiteral text = true) :
    parseNumber text
      = if (Literal.toBinary64 text).isFinite then .ok (Literal.toBinary64 text)
        else .error (.unlocated (.literalTooLarge text)) := by
  unfold parseNumber
  rw [if_pos literal]

/-! ## Digits -/

namespace Text

theorem all_isDigit_ofNat (n : Nat) : (ofNat n).all Char.isDigit = true :=
  List.all_eq_true.2 fun _ member => Nat.isDigit_of_mem_toDigits (by decide) (by decide) member

theorem all_isDigit_zeros (k : Nat) : (List.replicate k '0').all Char.isDigit = true :=
  List.all_eq_true.2 fun _ member => by rw [List.eq_of_mem_replicate member]; decide

theorem ofDigitChars_ofNat (n : Nat) : Nat.ofDigitChars 10 (ofNat n) 0 = n :=
  Nat.ofDigitChars_ten_toDigits

end Text

namespace Numeral

/-- The first point of a text that starts with digits stands behind them. -/
theorem dropWhile_point_digits {digits : Text} (valid : digits.all Char.isDigit = true)
    (rest : Text) : (digits ++ rest).dropWhile (· ≠ '.') = rest.dropWhile (· ≠ '.') := by
  apply List.dropWhile_append_of_pos
  intro c member
  have digit := List.all_eq_true.1 valid c member
  simp only [decide_eq_true_eq]
  rintro rfl
  exact absurd digit (by decide)

/-- A row of digits stands for the whole number that it shows. -/
theorem toDecimal_digits {digits : Text} (valid : digits.all Char.isDigit = true) :
    toDecimal digits = ⟨Nat.ofDigitChars 10 digits 0, 0⟩ := by
  have none : digits.dropWhile (· ≠ '.') = [] := by
    rw [← List.append_nil digits, dropWhile_point_digits valid]
    rfl
  unfold toDecimal
  rw [none, List.filter_eq_self.2 (List.all_eq_true.1 valid)]
  rfl

/-- Digits around a point stand for the whole number of all of them, scaled down. -/
theorem toDecimal_pointed {digits fraction : Text} (valid : digits.all Char.isDigit = true)
    (validFraction : fraction.all Char.isDigit = true) :
    toDecimal (digits ++ '.' :: fraction)
      = ⟨Nat.ofDigitChars 10 (digits ++ fraction) 0, -(fraction.length : Int)⟩ := by
  unfold toDecimal
  rw [dropWhile_point_digits valid, List.dropWhile_cons_of_neg (by simp), List.filter_append,
    List.filter_cons_of_neg (by decide), List.filter_eq_self.2 (List.all_eq_true.1 valid),
    List.filter_eq_self.2 (List.all_eq_true.1 validFraction)]
  rfl

end Numeral

/-! ## The plain form -/

namespace Decimal

/-- The digits of the coefficient with zeros in front, so that a point leaves one of them before
it. -/
def paddedDigits (d : Decimal) (fraction : Nat) : Text :=
  List.replicate (fraction + 1 - d.digits.length) '0' ++ d.digits

theorem length_paddedDigits (d : Decimal) (fraction : Nat) :
    fraction < (d.paddedDigits fraction).length := by
  rw [paddedDigits, List.length_append, List.length_replicate]
  omega

theorem all_isDigit_paddedDigits (d : Decimal) (fraction : Nat) :
    (d.paddedDigits fraction).all Char.isDigit = true := by
  rw [paddedDigits, List.all_append, Text.all_isDigit_zeros, Bool.true_and]
  exact Text.all_isDigit_ofNat _

theorem ofDigitChars_paddedDigits (d : Decimal) (fraction : Nat) :
    Nat.ofDigitChars 10 (d.paddedDigits fraction) 0 = d.coefficient := by
  rw [paddedDigits, Nat.ofDigitChars_append, Nat.ofDigitChars_replicate_zero, Nat.mul_zero]
  exact Text.ofDigitChars_ofNat _

/-- A decimal with a fraction is written with a point among the padded digits. -/
theorem exists_positional {d : Decimal} (negative : d.exponent < 0) :
    ∃ whole fraction, d.positional = whole ++ '.' :: fraction ∧ whole ≠ []
      ∧ whole ++ fraction = d.paddedDigits (-d.exponent).toNat
      ∧ fraction.length = (-d.exponent).toNat := by
  have padded := length_paddedDigits d (-d.exponent).toNat
  refine ⟨(d.paddedDigits (-d.exponent).toNat).take
      ((d.paddedDigits (-d.exponent).toNat).length - (-d.exponent).toNat),
    (d.paddedDigits (-d.exponent).toNat).drop
      ((d.paddedDigits (-d.exponent).toNat).length - (-d.exponent).toNat), ?_, ?_, ?_, ?_⟩
  · rw [positional, if_neg (by omega)]
    rfl
  · intro empty
    have := congrArg List.length empty
    rw [List.length_take, List.length_nil] at this
    omega
  · exact List.take_append_drop _ _
  · rw [List.length_drop]
    omega

/-- Positional notation is a numeral. -/
theorem isNumeral_positional (d : Decimal) : Numeral.isNumeral d.positional = true := by
  apply Numeral.isNumeral_of_derives
  by_cases nonneg : 0 ≤ d.exponent
  · rw [positional, if_pos nonneg]
    split
    · exact .whole (by decide) (by decide)
    · refine .whole ?_ ?_
      · exact List.append_ne_nil_of_left_ne_nil Nat.toDigits_ne_nil _
      · rw [List.all_append, Text.all_isDigit_zeros, Bool.and_true]
        exact Text.all_isDigit_ofNat _
  · obtain ⟨whole, fraction, same, nonempty, digits, -⟩ := exists_positional (d := d) (by omega)
    have valid := all_isDigit_paddedDigits d (-d.exponent).toNat
    rw [← digits, List.all_append, Bool.and_eq_true] at valid
    rw [same]
    exact .pointed nonempty valid.1 valid.2

/-- Positional notation with a fraction stands for the decimal that it is written for. -/
theorem toDecimal_positional {d : Decimal} (fraction : d.exponent < 0) :
    Numeral.toDecimal d.positional = d := by
  obtain ⟨whole, behind, same, -, digits, length⟩ := exists_positional fraction
  have valid := all_isDigit_paddedDigits d (-d.exponent).toNat
  rw [← digits, List.all_append, Bool.and_eq_true] at valid
  rw [same, Numeral.toDecimal_pointed valid.1 valid.2, digits, ofDigitChars_paddedDigits, length]
  obtain ⟨n, e⟩ := d
  simp only [Decimal.mk.injEq, true_and] at fraction ⊢
  omega

/-- Positional notation has the magnitude of the decimal that it is written for. -/
theorem round_toDecimal_positional (d : Decimal) :
    (Numeral.toDecimal d.positional).round = d.round := by
  by_cases nonneg : 0 ≤ d.exponent
  · rw [positional, if_pos nonneg]
    split
    · rename_i zero
      obtain ⟨n, e⟩ := d
      cases zero
      rw [Numeral.toDecimal_digits (by decide)]
      exact (round_zero 0).trans (round_zero e).symm
    · have valid : (d.digits ++ List.replicate d.exponent.toNat '0').all Char.isDigit = true := by
        rw [List.all_append, Text.all_isDigit_zeros, Bool.and_true]
        exact Text.all_isDigit_ofNat _
      have value : Nat.ofDigitChars 10 (d.digits ++ List.replicate d.exponent.toNat '0') 0
          = d.coefficient * powerOfTen d.exponent.toNat := by
        rw [Nat.ofDigitChars_append, Nat.ofDigitChars_replicate_zero, Nat.mul_comm]
        exact congrArg (· * _) (Text.ofDigitChars_ofNat _)
      rw [Numeral.toDecimal_digits valid, value, round, round, if_pos nonneg]
      simp only [Int.toNat_zero, powerOfTen_zero, Nat.mul_one, if_true, Int.le_refl]
  · rw [toDecimal_positional (by omega)]

end Decimal

namespace Binary64

/-- The plain form of a finite number is the positional notation of a magnitude with the sign of the
number. -/
theorem exists_plain {x : Binary64} (finite : x.isFinite = true) :
    ∃ negative magnitude, x.normalizeZero = .finite negative magnitude
      ∧ x.plain = withSign negative magnitude.shortest.positional := by
  rw [← isFinite_normalizeZero] at finite
  unfold plain
  generalize x.normalizeZero = y at finite
  cases y with
  | finite negative magnitude => exact ⟨negative, magnitude, rfl, rfl⟩
  | infinite negative => cases finite
  | notANumber => cases finite

/-- The plain form of a finite number is a literal. -/
theorem isLiteral_plain {x : Binary64} (finite : x.isFinite = true) :
    Literal.isLiteral x.plain = true := by
  obtain ⟨negative, magnitude, -, same⟩ := exists_plain finite
  rw [same]
  exact Literal.isLiteral_withSign negative (Decimal.isNumeral_positional _)

/-- **The plain form reads back** as the number it was written for, with zero positive. -/
theorem toBinary64_plain {x : Binary64} (finite : x.isFinite = true) :
    Literal.toBinary64 x.plain = x.normalizeZero := by
  obtain ⟨negative, magnitude, value, same⟩ := exists_plain finite
  rw [same, value, Literal.toBinary64_withSign negative (Decimal.isNumeral_positional _),
    Decimal.round_toDecimal_positional, Magnitude.round_shortest]
  rfl

end Binary64

end InfixCalculator
