import InfixCalculator.Operator
import InfixCalculator.Proofs.Literals

/-!
# Arithmetic on small whole numbers is exact

A whole number of at most `2 ^ 53` is a magnitude (`Magnitude.representable_whole`), so sums,
differences and products that come to such a number are not rounded. An operator applied to whole
numbers gives the whole number of the usual arithmetic (`Operator.apply_add`,
`Operator.apply_subtract`, `Operator.apply_multiply`), and a row of digits the whole number that it
shows (`Literal.toBinary64_digits`). Zero may have either sign on the way; at the end it is
positive, and then a small whole number has one form only (`Binary64.normalizeZero_eq_ofInt`).
-/

set_option autoImplicit false

namespace InfixCalculator

namespace Magnitude

/-- The limit `2 ^ 53`, up to which every whole number is a magnitude. -/
def wholeLimit : Nat := 1 <<< 53

theorem representable_whole {n : Nat} (small : n ≤ wholeLimit) :
    Representable (n * unitsPerOne) := by
  constructor
  · refine Nat.lt_of_le_of_lt (Nat.mul_le_mul_right unitsPerOne small) ?_
    decide +kernel
  · unfold unitsPerOne
    exact spacing_dvd_mul_one_shiftLeft small _

/-- A small whole number, as a magnitude. -/
def whole (n : Nat) (small : n ≤ wholeLimit) : Magnitude :=
  ⟨n * unitsPerOne, representable_whole small⟩

theorem units_whole {n : Nat} (small : n ≤ wholeLimit) :
    (whole n small).units = n * unitsPerOne := by
  rw [whole]

/-- A quotient that is a small whole number is not rounded. -/
theorem ofQuotient?_whole {n : Nat} (small : n ≤ wholeLimit) {den : Nat} (pos : 0 < den) :
    ofQuotient? (n * unitsPerOne * den) den = some (whole n small) :=
  ofQuotient?_units (whole n small) pos

end Magnitude

namespace Binary64

open Magnitude (unitsPerOne wholeLimit unitsPerOne_pos)

/-! ## Whole numbers -/

/-- A natural number with a minus or without. -/
def signedNat (negative : Bool) (n : Nat) : Int := if negative then -(n : Int) else n

/-- The whole number that a number is; it has no meaning for numbers with a fraction. -/
def toInt : Binary64 → Int
  | finite negative magnitude => signedNat negative (magnitude.units / unitsPerOne)
  | _ => 0

/-- A number is the whole number `n`. -/
def Is (x : Binary64) (n : Int) : Prop :=
  ∃ negative magnitude k, x = finite negative magnitude ∧ magnitude.units = k * unitsPerOne
    ∧ signedNat negative k = n

@[simp] theorem signedNat_false (n : Nat) : signedNat false n = n := rfl

@[simp] theorem signedNat_true (n : Nat) : signedNat true n = -(n : Int) := rfl

theorem natAbs_signedNat (negative : Bool) (n : Nat) : (signedNat negative n).natAbs = n := by
  cases negative <;> simp

theorem neg_signedNat (negative : Bool) (n : Nat) :
    -signedNat negative n = signedNat (!negative) n := by
  cases negative <;> simp

theorem signedNat_mul (negative negative' : Bool) (n m : Nat) :
    signedNat negative n * signedNat negative' m = signedNat (negative ^^ negative') (n * m) := by
  cases negative <;> cases negative'
  · exact (Int.natCast_mul n m).symm
  · rw [signedNat_false, signedNat_true, Int.mul_neg, ← Int.natCast_mul]
    rfl
  · rw [signedNat_false, signedNat_true, Int.neg_mul, ← Int.natCast_mul]
    rfl
  · rw [signedNat_true, signedNat_true, Int.neg_mul_neg, ← Int.natCast_mul]
    rfl

theorem signedUnits_eq_signedNat (negative : Bool) (magnitude : Magnitude) :
    signedUnits negative magnitude = signedNat negative magnitude.units := rfl

theorem signedUnits_mul (negative : Bool) {magnitude : Magnitude} {n : Nat}
    (units : magnitude.units = n * unitsPerOne) :
    signedUnits negative magnitude = signedNat negative n * unitsPerOne := by
  have times := signedNat_mul negative false n unitsPerOne
  rw [Bool.xor_false, signedNat_false] at times
  rw [signedUnits_eq_signedNat, units, times]

theorem Is.isFinite {x : Binary64} {n : Int} (is : x.Is n) : x.isFinite = true := by
  obtain ⟨negative, magnitude, k, rfl, -, -⟩ := is
  rfl

theorem Is.neg {x : Binary64} {n : Int} (is : x.Is n) : (-x).Is (-n) := by
  obtain ⟨negative, magnitude, k, rfl, units, rfl⟩ := is
  exact ⟨!negative, magnitude, k, rfl, units, (neg_signedNat negative k).symm⟩

theorem Is.normalizeZero {x : Binary64} {n : Int} (is : x.Is n) : x.normalizeZero.Is n := by
  by_cases zero : x.isZero = true
  · obtain ⟨negative, magnitude, k, rfl, units, rfl⟩ := is
    have none : k = 0 := by
      have nothing : magnitude.units = 0 := by simpa [isZero] using zero
      rw [nothing] at units
      exact (Nat.mul_eq_zero.1 units.symm).resolve_right (Nat.ne_of_gt unitsPerOne_pos)
    subst none
    rw [normalizeZero_of_isZero zero]
    exact ⟨false, .zero, 0, rfl, (Nat.zero_mul _).symm, by cases negative <;> rfl⟩
  · rw [normalizeZero_of_not_isZero (by simpa using zero)]
    exact is

theorem ofQuotient_of_eq_some (negative : Bool) {num den : Nat} {magnitude : Magnitude}
    (rounded : Magnitude.ofQuotient? num den = some magnitude) :
    ofQuotient negative num den = finite negative magnitude := by
  unfold ofQuotient
  rw [rounded]

/-- A small whole number, rounded, is itself. -/
theorem is_ofQuotient (negative : Bool) {n : Nat} (small : n ≤ wholeLimit) {den : Nat}
    (pos : 0 < den) :
    (ofQuotient negative (n * unitsPerOne * den) den).Is (signedNat negative n) :=
  ⟨negative, .whole n small, n,
    ofQuotient_of_eq_some negative (Magnitude.ofQuotient?_whole small pos),
    Magnitude.units_whole small, rfl⟩

/-! ## Sums, differences and products -/

theorem finite_add (s t : Bool) (a b : Magnitude) :
    finite s a + finite t b
      = if signedUnits s a + signedUnits t b = 0 then finite (s && t) .zero
        else ofQuotient (decide (signedUnits s a + signedUnits t b < 0))
          (signedUnits s a + signedUnits t b).natAbs 1 := rfl

theorem finite_mul (s t : Bool) (a b : Magnitude) :
    finite s a * finite t b = ofQuotient (s ^^ t) (a.units * b.units) unitsPerOne := by
  show Binary64.mul (finite s a) (finite t b) = _
  rw [Binary64.mul]

theorem Is.add {x y : Binary64} {n m : Int} (isX : x.Is n) (isY : y.Is m)
    (small : (n + m).natAbs ≤ wholeLimit) : (x + y).Is (n + m) := by
  obtain ⟨s, a, k, rfl, unitsX, rfl⟩ := isX
  obtain ⟨t, b, l, rfl, unitsY, rfl⟩ := isY
  generalize total : signedNat s k + signedNat t l = sum at small
  have pos : (0 : Int) < unitsPerOne := Int.natCast_pos.2 unitsPerOne_pos
  have units : signedUnits s a + signedUnits t b = sum * unitsPerOne := by
    rw [signedUnits_mul s unitsX, signedUnits_mul t unitsY, ← Int.add_mul, total]
  rw [finite_add, units]
  split
  · rename_i zero
    obtain rfl : sum = 0 := (Int.mul_eq_zero.1 zero).resolve_right (Int.ne_of_gt pos)
    exact ⟨s && t, .zero, 0, rfl, (Nat.zero_mul _).symm, by cases s <;> cases t <;> rfl⟩
  · have magnitude : (sum * unitsPerOne).natAbs = sum.natAbs * unitsPerOne * 1 := by
      rw [Int.natAbs_mul, Int.natAbs_natCast, Nat.mul_one]
    have sign : signedNat (decide (sum * unitsPerOne < 0)) sum.natAbs = sum := by
      have below : sum * unitsPerOne < 0 ↔ sum < 0 := by
        rw [← Int.not_le, ← Int.not_le, Int.mul_nonneg_iff_of_pos_right pos]
      simp only [below, signedNat, decide_eq_true_eq]
      split <;> omega
    have rounded := is_ofQuotient (decide (sum * unitsPerOne < 0)) small Nat.one_pos
    rw [magnitude]
    rwa [sign] at rounded

theorem Is.sub {x y : Binary64} {n m : Int} (isX : x.Is n) (isY : y.Is m)
    (small : (n - m).natAbs ≤ wholeLimit) : (x - y).Is (n - m) := by
  rw [sub_eq_add_neg, Int.sub_eq_add_neg]
  exact isX.add isY.neg small

theorem Is.mul {x y : Binary64} {n m : Int} (isX : x.Is n) (isY : y.Is m)
    (small : (n * m).natAbs ≤ wholeLimit) : (x * y).Is (n * m) := by
  obtain ⟨s, a, k, rfl, unitsX, rfl⟩ := isX
  obtain ⟨t, b, l, rfl, unitsY, rfl⟩ := isY
  rw [signedNat_mul, natAbs_signedNat] at small
  have units : a.units * b.units = k * l * unitsPerOne * unitsPerOne := by
    rw [unitsX, unitsY, Nat.mul_mul_mul_comm, Nat.mul_assoc (k * l)]
  rw [finite_mul, units, signedNat_mul]
  exact is_ofQuotient (s ^^ t) small unitsPerOne_pos

/-! ## One form for each whole number -/

theorem Is.toInt_eq {x : Binary64} {n : Int} (is : x.Is n) : x.toInt = n := by
  obtain ⟨negative, magnitude, k, rfl, units, rfl⟩ := is
  rw [toInt, units, Nat.mul_div_cancel k unitsPerOne_pos]

theorem Is.isWhole {x : Binary64} {n : Int} (is : x.Is n) : x.Is x.toInt := by
  rw [is.toInt_eq]
  exact is

/-- **A small whole number has one form** once zero is positive. -/
theorem Is.normalizeZero_eq_ofInt {x : Binary64} {n : Int} (is : x.Is n)
    (small : n.natAbs ≤ wholeLimit) : x.normalizeZero = ofInt n := by
  obtain ⟨negative, magnitude, k, rfl, units, rfl⟩ := is
  rw [natAbs_signedNat] at small
  have rounded (sign : Bool) : ofQuotient sign (k * unitsPerOne) 1 = finite sign magnitude := by
    have whole := Magnitude.ofQuotient?_whole small Nat.one_pos
    rw [Nat.mul_one] at whole
    rw [ofQuotient_of_eq_some sign whole,
      Magnitude.ext ((Magnitude.units_whole small).trans units.symm)]
  unfold ofInt
  rw [natAbs_signedNat, rounded]
  by_cases zero : k = 0
  · have nothing : magnitude.units = 0 := by rw [units, zero, Nat.zero_mul]
    have none : magnitude = .zero := Magnitude.ext nothing
    subst zero none
    rw [normalizeZero_of_isZero (by simp [isZero, nothing])]
    cases negative <;> rfl
  · have something : magnitude.units ≠ 0 := by
      rw [units]
      exact Nat.mul_ne_zero zero (Nat.ne_of_gt unitsPerOne_pos)
    have sign : decide (signedNat negative k < 0) = negative := by
      cases negative with
      | false =>
        rw [signedNat_false, decide_eq_false_iff_not]
        omega
      | true =>
        rw [signedNat_true, decide_eq_true_iff]
        omega
    rw [normalizeZero_of_not_isZero (by simp [isZero, something]), sign]

end Binary64

/-! ## Operators and numerals -/

open Magnitude (wholeLimit)

namespace Operator

variable {x y : Binary64} {n m : Int}

theorem apply_of_compute {op : Operator} {value : Binary64} (computed : op.compute x y = .ok value)
    (is : value.Is n) : ∃ z, op.apply x y = .ok z ∧ z.Is n := by
  refine ⟨value.normalizeZero, ?_, is.normalizeZero⟩
  unfold apply
  rw [computed]
  dsimp only
  rw [if_pos is.isFinite]

theorem apply_add (isX : x.Is n) (isY : y.Is m) (small : (n + m).natAbs ≤ wholeLimit) :
    ∃ z, apply .add x y = .ok z ∧ z.Is (n + m) :=
  apply_of_compute rfl (isX.add isY small)

theorem apply_subtract (isX : x.Is n) (isY : y.Is m) (small : (n - m).natAbs ≤ wholeLimit) :
    ∃ z, apply .subtract x y = .ok z ∧ z.Is (n - m) :=
  apply_of_compute rfl (isX.sub isY small)

theorem apply_multiply (isX : x.Is n) (isY : y.Is m) (small : (n * m).natAbs ≤ wholeLimit) :
    ∃ z, apply .multiply x y = .ok z ∧ z.Is (n * m) :=
  apply_of_compute rfl (isX.mul isY small)

end Operator

/-- A row of digits that shows a small whole number stands for it. -/
theorem Literal.toBinary64_digits {digits : Text} (nonempty : digits ≠ [])
    (valid : digits.all Char.isDigit = true)
    (small : Nat.ofDigitChars 10 digits 0 ≤ wholeLimit) :
    (toBinary64 digits).Is (Nat.ofDigitChars 10 digits 0 : Nat) := by
  have numeral := Numeral.isNumeral_of_derives (.whole nonempty valid)
  have rounded : (Numeral.toDecimal digits).round = some (.whole _ small) := by
    rw [Numeral.toDecimal_digits valid, Decimal.round, if_pos (Int.le_refl 0)]
    have whole := Magnitude.ofQuotient?_whole small Nat.one_pos
    rw [Nat.mul_one] at whole
    simpa only [Int.toNat_zero, Decimal.powerOfTen_zero, Nat.mul_one] using whole
  have value := toBinary64_withSign false numeral
  rw [rounded] at value
  exact ⟨false, .whole _ small, _, value, Magnitude.units_whole small, rfl⟩

end InfixCalculator
