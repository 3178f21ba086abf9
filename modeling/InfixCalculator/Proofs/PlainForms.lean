import InfixCalculator.Decimal.PlainForm
import InfixCalculator.Proofs.Literals

/-!
# Plain forms

The plain form of a finite number has the shape of a plain form (`Binary64.isPlainForm_plain`), and
reading it gives the number back, with zero positive (`Binary64.parseNumber_plain`). So the plain
form is the same for two numbers only when they are equal up to the sign of zero, and writing what
was read gives the text back (`Binary64.plain_canonical`).

No zero is superfluous because the shortest decimal of a magnitude has none: its coefficient does
not end in zero (`Decimal.IsStripped`), and the digits of a whole number do not begin with one.
Which of the two matters depends on where the point falls. In front of all digits or among them the
last digit ends the fraction; behind them there is no fraction, and the zeros that fill the place up
to the point stay.
-/

set_option autoImplicit false

namespace InfixCalculator

/-! ## The digits of a whole number -/

namespace Text

/-- The digits of a whole number above zero do not begin with a zero. -/
theorem exists_ofNat_cons {n : Nat} (pos : n ≠ 0) :
    ∃ first rest, ofNat n = first :: rest ∧ first.isDigit = true ∧ first ≠ '0'
      ∧ rest.all Char.isDigit = true := by
  induction n using Nat.strongRecOn with
  | ind n ih =>
    by_cases small : n < 10
    · refine ⟨Nat.digitChar n, [], Nat.toDigits_of_lt_base small, ?_, ?_, rfl⟩
      · rw [Nat.isDigit_digitChar, decide_eq_true small]
      · simpa using pos
    · obtain ⟨first, rest, digits, digit, nonzero, valid⟩ := ih (n / 10) (by omega) (by omega)
      have last : (Nat.digitChar (n % 10)).isDigit = true := by
        rw [Nat.isDigit_digitChar, decide_eq_true (Nat.mod_lt n (by decide))]
      refine ⟨first, rest ++ [Nat.digitChar (n % 10)], ?_, digit, nonzero, by simp [valid, last]⟩
      rw [ofNat, Nat.toDigits_of_base_le (by decide) (by omega)]
      exact congrArg (· ++ [Nat.digitChar (n % 10)]) digits

/-- The digits of a whole number that is no multiple of ten do not end in a zero. -/
theorem exists_ofNat_concat {n : Nat} (last : n % 10 ≠ 0) :
    ∃ front last, ofNat n = front ++ [last] ∧ front.all Char.isDigit = true ∧ last.isDigit = true
      ∧ last ≠ '0' := by
  have digit : (Nat.digitChar (n % 10)).isDigit = true := by
    rw [Nat.isDigit_digitChar, decide_eq_true (Nat.mod_lt n (by decide))]
  have nonzero : Nat.digitChar (n % 10) ≠ '0' := by simpa using last
  by_cases small : n < 10
  · refine ⟨[], Nat.digitChar (n % 10), ?_, rfl, digit, nonzero⟩
    rw [ofNat, Nat.toDigits_of_lt_base small, Nat.mod_eq_of_lt small]
    rfl
  · exact ⟨ofNat (n / 10), Nat.digitChar (n % 10), Nat.toDigits_of_base_le (by decide) (by omega),
      all_isDigit_ofNat _, digit, nonzero⟩

end Text

/-! ## Decimals without superfluous zeros -/

namespace Decimal

/-- A decimal whose coefficient does not end in zero, or zero itself with exponent zero. -/
def IsStripped (d : Decimal) : Prop := d = ⟨0, 0⟩ ∨ d.coefficient % 10 ≠ 0

/-- A logarithm's worth of steps is enough to strip all zeros. -/
theorem coefficient_stripZerosFuel {fuel n : Nat} (pos : n ≠ 0) (enough : n < Nat.pow 2 (fuel + 1))
    (e : Int) : (stripZerosFuel fuel n e).coefficient % 10 ≠ 0 := by
  induction fuel generalizing n e with
  | zero =>
    have two : Nat.pow 2 (0 + 1) = 2 := rfl
    have one : n = 1 := by omega
    rw [stripZerosFuel, one]
    show 1 % 10 ≠ 0
    decide
  | succ fuel ih =>
    unfold stripZerosFuel
    split
    · have double : Nat.pow 2 (fuel + 1 + 1) = Nat.pow 2 (fuel + 1) * 2 := rfl
      have fewer : n / 10 < Nat.pow 2 (fuel + 1) := by omega
      exact ih (by omega) fewer (e + 1)
    · assumption

theorem isStripped_stripZeros (d : Decimal) : d.stripZeros.IsStripped := by
  unfold stripZeros
  split
  · exact .inl rfl
  · rename_i pos
    exact .inr (coefficient_stripZerosFuel pos Nat.lt_log2_self d.exponent)

end Decimal

/-- The decimal that a magnitude is written from has no superfluous zeros. -/
theorem Magnitude.isStripped_shortest (m : Magnitude) : m.shortest.IsStripped :=
  Decimal.isStripped_stripZeros _

/-! ## The shape of positional notation -/

namespace Decimal

/-- Positional notation of a whole number above zero. -/
theorem exists_parts_whole {d : Decimal} (pos : d.coefficient ≠ 0) (whole : 0 ≤ d.exponent) :
    WholePart d.positional ∧ d.positional ≠ ['0'] := by
  obtain ⟨first, rest, digits, digit, nonzero, valid⟩ := Text.exists_ofNat_cons pos
  have same : d.positional = first :: (rest ++ List.replicate d.exponent.toNat '0') := by
    rw [positional, if_pos whole, if_neg pos, Decimal.digits, digits, List.cons_append]
  rw [same]
  refine ⟨.digits digit nonzero ?_, ?_⟩
  · rw [List.all_append, valid, Text.all_isDigit_zeros]
    rfl
  · intro zero
    exact nonzero (List.cons.inj zero).1

/-- The digits in front of the point: some of those of the coefficient, or a zero that was filled
in. -/
theorem wholePart_take {d : Decimal} (pos : d.coefficient ≠ 0) (fraction : Nat) :
    WholePart ((d.paddedDigits fraction).take ((d.paddedDigits fraction).length - fraction)) := by
  obtain ⟨first, rest, digits, digit, nonzero, valid⟩ := Text.exists_ofNat_cons pos
  by_cases among : fraction < d.digits.length
  · have padded : d.paddedDigits fraction = first :: rest := by
      rw [paddedDigits, Nat.sub_eq_zero_of_le among]
      exact digits
    obtain ⟨k, some⟩ : ∃ k, (first :: rest).length - fraction = k + 1 := by
      rw [Decimal.digits, digits] at among
      exact ⟨(first :: rest).length - fraction - 1, by omega⟩
    rw [padded, some, List.take_succ_cons]
    refine .digits digit nonzero (List.all_eq_true.2 fun c member => ?_)
    exact List.all_eq_true.1 valid c (List.mem_of_mem_take member)
  · have one : (d.paddedDigits fraction).length - fraction = 1 := by
      rw [paddedDigits, List.length_append, List.length_replicate]
      omega
    have filled : fraction + 1 - d.digits.length = (fraction - d.digits.length) + 1 := by omega
    rw [one, paddedDigits, filled, List.replicate_succ, List.cons_append, List.take_succ_cons,
      List.take_zero]
    exact .zero

/-- The digits behind the point end in the last digit of the coefficient. -/
theorem fractionPart_drop {d : Decimal} (last : d.coefficient % 10 ≠ 0) {fraction : Nat}
    (pos : fraction ≠ 0) :
    FractionPart ('.' :: (d.paddedDigits fraction).drop
      ((d.paddedDigits fraction).length - fraction)) := by
  have longer := length_paddedDigits d fraction
  have valid := all_isDigit_paddedDigits d fraction
  obtain ⟨front, c, digits, -, digit, nonzero⟩ := Text.exists_ofNat_concat last
  have split : d.paddedDigits fraction
      = (List.replicate (fraction + 1 - d.digits.length) '0' ++ front) ++ [c] := by
    rw [paddedDigits, Decimal.digits, digits, List.append_assoc]
  rw [split] at longer valid ⊢
  rw [List.length_append, List.length_singleton] at longer ⊢
  rw [List.drop_append_of_le_length (by omega), ← List.cons_append]
  rw [List.all_append, Bool.and_eq_true] at valid
  refine .digits (List.all_eq_true.2 fun b member => ?_) digit nonzero
  exact List.all_eq_true.1 valid.1 b (List.mem_of_mem_drop member)

/-- **Positional notation has no superfluous zeros** when the decimal has none. -/
theorem exists_parts {d : Decimal} (stripped : d.IsStripped) :
    ∃ whole fraction, d.positional = whole ++ fraction ∧ WholePart whole ∧ FractionPart fraction
      ∧ (d.coefficient ≠ 0 → whole ++ fraction ≠ ['0']) := by
  rcases stripped with rfl | last
  · exact ⟨['0'], [], rfl, .zero, .none, fun pos => absurd rfl pos⟩
  have pos : d.coefficient ≠ 0 := by omega
  by_cases whole : 0 ≤ d.exponent
  · obtain ⟨part, other⟩ := exists_parts_whole pos whole
    refine ⟨d.positional, [], by rw [List.append_nil], part, .none, fun _ => ?_⟩
    rwa [List.append_nil]
  · have places : (-d.exponent).toNat ≠ 0 := by omega
    refine ⟨_, _, ?_, wholePart_take pos (-d.exponent).toNat, fractionPart_drop last places,
      fun _ => ?_⟩
    · rw [positional, if_neg whole]
      rfl
    · intro zero
      have member : '.' ∈ ['0'] := by
        rw [← zero]
        simp
      exact absurd member (by decide)

end Decimal

/-! ## Plain forms of numbers -/

/-- Only the magnitude nothing is written from the decimal zero. -/
theorem Magnitude.coefficient_shortest {m : Magnitude} (pos : m ≠ .zero) :
    m.shortest.coefficient ≠ 0 := by
  have back := round_shortest m
  generalize m.shortest = d at back
  obtain ⟨n, e⟩ := d
  rintro rfl
  rw [Decimal.round_zero] at back
  exact pos (Option.some.inj back).symm

namespace Binary64

variable {x y : Binary64}

/-- The plain form of a finite number has no exponent and no superfluous zeros or signs. -/
theorem isPlainForm_plain (finite : x.isFinite = true) : Decimal.IsPlainForm x.plain := by
  obtain ⟨negative, magnitude, value, same⟩ := exists_plain finite
  obtain ⟨whole, fraction, parts, wholePart, fractionPart, nonzero⟩ :=
    Decimal.exists_parts magnitude.isStripped_shortest
  refine ⟨negative, whole, fraction, by rw [same, parts], wholePart, fractionPart, ?_⟩
  rintro rfl
  refine nonzero (Magnitude.coefficient_shortest ?_)
  rintro rfl
  exact normalizeZero_ne_negativeZero x value

/-- Reading the plain form of a finite number never fails. -/
theorem parseNumber_plain (finite : x.isFinite = true) :
    parseNumber x.plain = .ok x.normalizeZero := by
  have back : (Literal.toBinary64 x.plain).isFinite = true := by
    rw [toBinary64_plain finite, isFinite_normalizeZero, finite]
  rw [parseNumber_of_isLiteral (isLiteral_plain finite), if_pos back, toBinary64_plain finite]

theorem plain_normalizeZero (x : Binary64) : x.normalizeZero.plain = x.plain := by
  rw [plain, plain, normalizeZero_normalizeZero]

theorem isZero_normalizeZero (x : Binary64) : x.normalizeZero.isZero = x.isZero := by
  cases zero : x.isZero with
  | true => rw [normalizeZero_of_isZero zero, isZero_zero]
  | false => rw [normalizeZero_of_not_isZero zero, zero]

/-- Numbers are equal when they are the same, or both are zero. -/
theorem normalizeZero_eq_iff :
    x.normalizeZero = y.normalizeZero ↔ x = y ∨ (x.isZero = true ∧ y.isZero = true) := by
  constructor
  · intro same
    have zeros : x.isZero = y.isZero := by
      rw [← isZero_normalizeZero x, same, isZero_normalizeZero]
    cases zero : x.isZero with
    | true => exact .inr ⟨rfl, zeros ▸ zero⟩
    | false =>
      rw [normalizeZero_of_not_isZero zero, normalizeZero_of_not_isZero (zeros ▸ zero)] at same
      exact .inl same
  · rintro (rfl | ⟨zero, zero'⟩)
    · rfl
    · rw [normalizeZero_of_isZero zero, normalizeZero_of_isZero zero']

/-- Finite numbers are written alike exactly when they are equal. -/
theorem plain_eq_plain_iff (finite : x.isFinite = true) (finite' : y.isFinite = true) :
    x.plain = y.plain ↔ x.normalizeZero = y.normalizeZero := by
  constructor
  · intro same
    rw [← toBinary64_plain finite, same, toBinary64_plain finite']
  · intro same
    rw [← plain_normalizeZero, same, plain_normalizeZero]

/-- **Writing a number plainly and reading it are inverse** on plain forms. The plain form of a
finite number has the shape of one; it reads back as the number with zero positive; what is read is
written in the same form again; and two finite numbers are written alike only when they are
equal. -/
theorem plain_canonical (finite : x.isFinite = true) :
    Decimal.IsPlainForm x.plain
      ∧ parseNumber x.plain = .ok x.normalizeZero
      ∧ (parseNumber x.plain).map plain = .ok x.plain
      ∧ ∀ y : Binary64, y.isFinite = true → x.plain = y.plain →
        x = y ∨ (x.isZero = true ∧ y.isZero = true) := by
  have back := parseNumber_plain finite
  refine ⟨isPlainForm_plain finite, back, ?_, ?_⟩
  · rw [back]
    exact congrArg Except.ok (plain_normalizeZero x)
  · intro y finite' same
    exact normalizeZero_eq_iff.1 ((plain_eq_plain_iff finite finite').1 same)

/-- A number to which it applies: its first digit stands for a power of ten that the natural form
shows by an exponent. -/
theorem plain_canonical_small :
    ∃ x : Binary64, x.natural = "-1.25e-05".toList ∧ x.isFinite = true
      ∧ Decimal.IsPlainForm x.plain
      ∧ parseNumber x.plain = .ok x.normalizeZero
      ∧ (parseNumber x.plain).map plain = .ok x.plain
      ∧ ∀ y : Binary64, y.isFinite = true → x.plain = y.plain →
        x = y ∨ (x.isZero = true ∧ y.isZero = true) := by
  refine ⟨Literal.toBinary64 "-0.0000125".toList, ?_, ?_, plain_canonical ?_⟩
  · decide +kernel
  · decide +kernel
  · decide +kernel

end Binary64

end InfixCalculator
