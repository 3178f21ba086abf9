import InfixCalculator.Binary64.Basic

/-!
# Decimals

A decimal is a whole number times a power of ten. Its binary64 magnitude is the nearest one, found
by exact arithmetic and one rounding, and depends on the value of the decimal alone: moving a factor
of ten between the coefficient and the exponent changes nothing (`round_shift`).
-/

set_option autoImplicit false

namespace InfixCalculator

namespace Magnitude

/-- Rounding depends on the quotient alone. -/
theorem roundQuotient_mul_right (num den : Nat) {k : Nat} (pos : 0 < k) :
    roundQuotient (num * k) (den * k) = roundQuotient num den := by
  unfold roundQuotient
  dsimp only
  rw [Nat.mul_div_mul_right _ _ pos, Nat.mul_mod_mul_right]
  have less : 2 * (num % den * k) < den * k ↔ 2 * (num % den) < den := by
    rw [← Nat.mul_assoc]; exact Nat.mul_lt_mul_right pos
  have equal : 2 * (num % den * k) = den * k ↔ 2 * (num % den) = den := by
    rw [← Nat.mul_assoc]; exact Nat.mul_right_cancel_iff pos
  simp only [less, equal]

theorem roundUnits_mul_right (num den : Nat) {k : Nat} (pos : 0 < k) :
    roundUnits (num * k) (den * k) = roundUnits num den := by
  unfold roundUnits
  dsimp only
  rw [Nat.mul_div_mul_right _ _ pos, Nat.mul_right_comm den k, roundQuotient_mul_right _ _ pos]

/-- The nearest magnitude depends on the quotient alone. -/
theorem ofQuotient?_mul_right (num den : Nat) {k : Nat} (pos : 0 < k) :
    ofQuotient? (num * k) (den * k) = ofQuotient? num den := by
  unfold ofQuotient?
  simp only [roundUnits_mul_right num den pos]

end Magnitude

/-- The number `coefficient * 10 ^ exponent`. -/
structure Decimal where
  /-- The whole number that is scaled. -/
  coefficient : Nat
  /-- The power of ten it is scaled by. -/
  exponent : Int
deriving DecidableEq, Repr

namespace Decimal

/-- Ten multiplied by itself `k` times. -/
def powerOfTen (k : Nat) : Nat := Nat.pow 10 k

theorem powerOfTen_zero : powerOfTen 0 = 1 := rfl

theorem powerOfTen_succ (k : Nat) : powerOfTen (k + 1) = powerOfTen k * 10 := rfl

theorem powerOfTen_pos (k : Nat) : 0 < powerOfTen k := Nat.pow_pos (show 0 < 10 by decide)

/-- The nearest binary64 magnitude, or nothing when it is past the end. -/
def round (d : Decimal) : Option Magnitude :=
  if 0 ≤ d.exponent then
    Magnitude.ofQuotient? (d.coefficient * powerOfTen d.exponent.toNat * Magnitude.unitsPerOne) 1
  else
    Magnitude.ofQuotient? (d.coefficient * Magnitude.unitsPerOne) (powerOfTen (-d.exponent).toNat)

/-- A factor of ten moves freely between the coefficient and the exponent. -/
theorem round_shift (n : Nat) (e : Int) : round ⟨n * 10, e⟩ = round ⟨n, e + 1⟩ := by
  unfold round
  by_cases nonneg : 0 ≤ e
  · have succ : (e + 1).toNat = e.toNat + 1 := by omega
    simp only [nonneg, show 0 ≤ e + 1 by omega, if_true, succ, powerOfTen_succ]
    rw [Nat.mul_comm (powerOfTen e.toNat) 10, ← Nat.mul_assoc n]
  · by_cases last : e = -1
    · subst last
      simp only [show ¬(0 : Int) ≤ -1 by omega, show (0 : Int) ≤ -1 + 1 by omega, if_true, if_false,
        show (-(-1) : Int).toNat = 1 from rfl, show ((-1 : Int) + 1).toNat = 0 from rfl,
        powerOfTen_zero, powerOfTen_succ 0, Nat.mul_one, Nat.one_mul]
      rw [Nat.mul_right_comm n 10,
        ← Magnitude.ofQuotient?_mul_right (n * Magnitude.unitsPerOne) 1 (show 0 < 10 by decide),
        Nat.one_mul]
    · have succ : (-e).toNat = (-(e + 1)).toNat + 1 := by omega
      simp only [nonneg, show ¬(0 ≤ e + 1) by omega, if_false, succ, powerOfTen_succ]
      rw [Nat.mul_right_comm n 10, Magnitude.ofQuotient?_mul_right _ _ (by decide)]

/-- Moves trailing zeros of a positive coefficient into the exponent, at most `fuel` of them. -/
def stripZerosFuel : Nat → Nat → Int → Decimal
  | 0, n, e => ⟨n, e⟩
  | fuel + 1, n, e => if n % 10 = 0 then stripZerosFuel fuel (n / 10) (e + 1) else ⟨n, e⟩

/-- The same value with no trailing zero in the coefficient; zero is written with exponent zero. -/
def stripZeros (d : Decimal) : Decimal :=
  if d.coefficient = 0 then ⟨0, 0⟩ else stripZerosFuel d.coefficient.log2 d.coefficient d.exponent

theorem round_stripZerosFuel (fuel n : Nat) (e : Int) :
    round (stripZerosFuel fuel n e) = round ⟨n, e⟩ := by
  induction fuel generalizing n e with
  | zero => rfl
  | succ fuel ih =>
    unfold stripZerosFuel
    split
    · rename_i divides
      rw [ih, ← round_shift, Nat.div_mul_cancel (Nat.dvd_of_mod_eq_zero divides)]
    · rfl

theorem round_zero (e : Int) : round ⟨0, e⟩ = some .zero := by
  have zero (den : Nat) (pos : 0 < den) : Magnitude.ofQuotient? 0 den = some .zero := by
    simpa [Magnitude.zero] using Magnitude.ofQuotient?_units Magnitude.zero pos
  unfold round
  split
  · simpa using zero 1 (by decide)
  · simpa using zero _ (powerOfTen_pos (-e).toNat)

/-- Stripping zeros keeps the magnitude that a decimal stands for. -/
theorem round_stripZeros (d : Decimal) : d.stripZeros.round = d.round := by
  unfold stripZeros
  split
  · rename_i zero
    obtain ⟨n, e⟩ := d
    cases zero
    rw [round_zero, round_zero]
  · exact round_stripZerosFuel _ _ _

end Decimal

end InfixCalculator
