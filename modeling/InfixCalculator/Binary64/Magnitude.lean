/-!
# Finite binary64 magnitudes

Every finite binary64 magnitude is a whole number of least units, where the least unit is the
smallest positive magnitude `2 ^ (-1074)`. Not every whole number of units is a magnitude: a number
with more than 53 significant binary digits must be a multiple of the spacing at its size, and the
magnitudes end below `2 ^ 2098` units.

Keeping the units themselves makes every operation exact first and rounded once. The one rounding
function takes a quotient of two whole numbers to the nearest magnitude, a tie going to the even
neighbour, and reports when the nearest multiple is past the end. `representable_roundUnits` says
that what it produces is a magnitude, and `roundUnits_of_representable` that a magnitude is left as
it is.
-/

set_option autoImplicit false

namespace InfixCalculator

namespace Magnitude

/-- The number of least units in one. -/
def unitsPerOne : Nat := 1 <<< 1074

/-- The first power of two, in least units, that is past the finite magnitudes. -/
def unitBound : Nat := 1 <<< 2098

/-- The gap between neighbouring magnitudes at the size of `n` units: one unit up to 53 binary
digits, and doubling with every further digit. -/
def spacing (n : Nat) : Nat := 1 <<< (n.log2 - 52)

/-- A number of units that is a magnitude: within the bound and on the grid of its size. -/
def Representable (n : Nat) : Prop := n < unitBound ∧ spacing n ∣ n

instance (n : Nat) : Decidable (Representable n) := inferInstanceAs (Decidable (_ ∧ _))

theorem one_shiftLeft_pos (k : Nat) : 0 < 1 <<< k := by
  rw [Nat.one_shiftLeft]; exact Nat.two_pow_pos k

theorem unitsPerOne_pos : 0 < unitsPerOne := one_shiftLeft_pos _

theorem unitBound_pos : 0 < unitBound := one_shiftLeft_pos _

theorem spacing_pos (n : Nat) : 0 < spacing n := one_shiftLeft_pos _

theorem representable_zero : Representable 0 := ⟨unitBound_pos, Nat.dvd_zero _⟩

end Magnitude

open Magnitude in
/-- A finite binary64 magnitude, as a number of least units. -/
structure Magnitude where
  /-- How many least units the magnitude holds. -/
  units : Nat
  /-- The units lie on the grid of their size. -/
  representable : Representable units

namespace Magnitude

theorem ext {a b : Magnitude} (h : a.units = b.units) : a = b := by
  cases a; cases b; cases h; rfl

instance : DecidableEq Magnitude := fun a b =>
  if h : a.units = b.units then isTrue (ext h) else isFalse fun e => h (e ▸ rfl)

instance : Inhabited Magnitude := ⟨⟨0, representable_zero⟩⟩

/-- The magnitude nothing. -/
def zero : Magnitude := ⟨0, representable_zero⟩

/-! ## Rounding a quotient -/

/-- The whole number nearest to `num / den`; halfway between two, the even one. -/
def roundQuotient (num den : Nat) : Nat :=
  let quotient := num / den
  let twice := 2 * (num % den)
  if twice < den ∨ (twice = den ∧ quotient % 2 = 0) then quotient else quotient + 1

/-- The multiple of the local spacing nearest to `num / den` units. -/
def roundUnits (num den : Nat) : Nat :=
  let gap := spacing (num / den)
  roundQuotient num (den * gap) * gap

theorem roundQuotient_le (num den : Nat) : roundQuotient num den ≤ num / den + 1 := by
  unfold roundQuotient
  dsimp only
  split
  · exact Nat.le_succ _
  · exact Nat.le_refl _

theorem roundQuotient_of_dvd {num den : Nat} (h : den ∣ num) (pos : 0 < den) :
    roundQuotient num den = num / den := by
  unfold roundQuotient
  dsimp only
  rw [Nat.mod_eq_zero_of_dvd h]
  simp [pos]

/-- At most `2 ^ 53` multiples of a power of two are on the grid of their own size. -/
theorem spacing_dvd_mul_one_shiftLeft {r : Nat} (h : r ≤ 1 <<< 53) (k : Nat) :
    spacing (r * 1 <<< k) ∣ r * 1 <<< k := by
  unfold spacing
  rw [Nat.one_shiftLeft] at h
  rw [Nat.one_shiftLeft, Nat.one_shiftLeft]
  by_cases zero : r = 0
  · subst zero; simp
  have nonzero : r * 2 ^ k ≠ 0 := Nat.mul_ne_zero zero (Nat.ne_of_gt (Nat.two_pow_pos k))
  rcases Nat.lt_or_eq_of_le h with less | equal
  · have size : (r * 2 ^ k).log2 < 53 + k := by
      rw [Nat.log2_lt nonzero, Nat.pow_add]
      exact Nat.mul_lt_mul_of_pos_right less (Nat.two_pow_pos k)
    exact Nat.dvd_trans (Nat.pow_dvd_pow 2 (by omega)) (Nat.dvd_mul_left _ _)
  · rw [equal, ← Nat.pow_add, Nat.log2_two_pow]
    exact Nat.pow_dvd_pow 2 (by omega)

/-- Rounding to the spacing at the quotient's size leaves at most `2 ^ 53` multiples of it. -/
theorem roundQuotient_spacing_le (num den : Nat) :
    roundQuotient num (den * spacing (num / den)) ≤ 1 <<< 53 := by
  refine Nat.le_trans (roundQuotient_le _ _) ?_
  rw [← Nat.div_div_eq_div_mul]
  generalize num / den = q
  have : q / spacing q < 1 <<< 53 := by
    rw [Nat.div_lt_iff_lt_mul (spacing_pos q)]
    by_cases zero : q = 0
    · subst zero; exact Nat.mul_pos (one_shiftLeft_pos _) (spacing_pos _)
    · unfold spacing
      rw [Nat.one_shiftLeft, Nat.one_shiftLeft, ← Nat.pow_add, ← Nat.log2_lt zero]
      omega
  omega

/-- What rounding produces is on the grid. -/
theorem spacing_dvd_roundUnits (num den : Nat) :
    spacing (roundUnits num den) ∣ roundUnits num den :=
  spacing_dvd_mul_one_shiftLeft (roundQuotient_spacing_le num den) _

/-- What rounding produces is a magnitude, unless it is past the end. -/
theorem representable_roundUnits {num den : Nat} (h : roundUnits num den < unitBound) :
    Representable (roundUnits num den) :=
  ⟨h, spacing_dvd_roundUnits num den⟩

/-- A magnitude rounds to itself, over any denominator. -/
theorem roundUnits_of_representable {n : Nat} (h : Representable n) {den : Nat} (pos : 0 < den) :
    roundUnits (n * den) den = n := by
  unfold roundUnits
  dsimp only
  rw [Nat.mul_div_cancel _ pos, Nat.mul_comm n den]
  rw [roundQuotient_of_dvd (Nat.mul_dvd_mul_left den h.2) (Nat.mul_pos pos (spacing_pos n)),
    Nat.mul_div_mul_left _ _ pos, Nat.div_mul_cancel h.2]

/-- The magnitude nearest to `num / den` least units, or nothing when it is past the end. -/
def ofQuotient? (num den : Nat) : Option Magnitude :=
  if h : roundUnits num den < unitBound then
    some ⟨roundUnits num den, representable_roundUnits h⟩
  else
    none

/-- A magnitude rounds to itself. -/
theorem ofQuotient?_units (m : Magnitude) {den : Nat} (pos : 0 < den) :
    ofQuotient? (m.units * den) den = some m := by
  unfold ofQuotient?
  have same := roundUnits_of_representable m.representable pos
  rw [dif_pos (by rw [same]; exact m.representable.1)]
  exact congrArg some (ext same)

end Magnitude

end InfixCalculator
