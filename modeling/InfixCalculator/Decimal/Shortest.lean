import InfixCalculator.Decimal.Basic

/-!
# The shortest decimal of a magnitude

A magnitude is printed with the fewest digits that read back to it, and among equally long ones with
those nearest to it. For each length from one to seventeen digits the two neighbours of the
magnitude on that decimal grid are tried; the test is the reader itself. Should none of them read
back, the exact decimal value is used, so the result reads back in every case (`round_shortest`).
-/

set_option autoImplicit false

namespace InfixCalculator

namespace Decimal

/-- The number of decimal digits of a positive whole number. The logarithm gives it up to one, and
comparing with a power of ten settles it. -/
def digitCount (n : Nat) : Nat :=
  let estimate := n.log2 * 30103 / 100000
  if n < powerOfTen estimate then estimate
  else if n < powerOfTen (estimate + 1) then estimate + 1
  else estimate + 2

end Decimal

namespace Magnitude

/-- A power of five that makes the least unit a whole number of `10 ^ (-1074)`. -/
def fivesPerUnit : Nat := Nat.pow 5 1074

/-- The exact decimal value. -/
def toDecimal (m : Magnitude) : Decimal := ⟨m.units * fivesPerUnit, -1074⟩

/-- Whether a decimal is read as this magnitude. -/
def ReadsBack (m : Magnitude) (d : Decimal) : Prop := d.round = some m

instance (m : Magnitude) (d : Decimal) : Decidable (m.ReadsBack d) :=
  inferInstanceAs (Decidable (_ = _))

/-- The decimal of `length` digits nearest to the magnitude, if one reads back to it. Of the two
neighbours on the grid the only one that reads back is taken, or the nearer of both; halfway, the
one with the even coefficient. -/
def nearestOfLength? (m : Magnitude) (total length : Nat) : Option Decimal :=
  let exact := m.toDecimal.coefficient
  let grid := Decimal.powerOfTen (total - length)
  let exponent : Int := (total : Int) - length - 1074
  let low : Decimal := ⟨exact / grid, exponent⟩
  let high : Decimal := ⟨exact / grid + 1, exponent⟩
  let twice := 2 * (exact % grid)
  let lowIsNearer := twice < grid ∨ (twice = grid ∧ low.coefficient % 2 = 0)
  if m.ReadsBack low ∧ (lowIsNearer ∨ ¬m.ReadsBack high) then some low
  else if m.ReadsBack high then some high
  else none

/-- The fewest digits that read back to the magnitude. -/
def shortest (m : Magnitude) : Decimal :=
  let total := Decimal.digitCount m.toDecimal.coefficient
  (((List.range' 1 17).findSome? (m.nearestOfLength? total)).getD m.toDecimal).stripZeros

/-! ## Reading back -/

theorem pow_five_mul_one_shiftLeft (k : Nat) :
    Nat.pow 5 k * 1 <<< k = Decimal.powerOfTen k := by
  rw [Nat.one_shiftLeft]
  exact (Nat.mul_pow 5 2 k).symm

theorem fivesPerUnit_mul_unitsPerOne : fivesPerUnit * unitsPerOne = Decimal.powerOfTen 1074 := by
  unfold fivesPerUnit unitsPerOne
  generalize 1074 = k
  exact pow_five_mul_one_shiftLeft k

/-- The exact decimal value reads back. -/
theorem round_toDecimal (m : Magnitude) : m.toDecimal.round = some m := by
  unfold toDecimal Decimal.round
  simp only [show ¬(0 : Int) ≤ -1074 by decide, if_false,
    show (-(-1074) : Int).toNat = 1074 from rfl]
  rw [Nat.mul_assoc, fivesPerUnit_mul_unitsPerOne]
  exact ofQuotient?_units m (Decimal.powerOfTen_pos _)

theorem readsBack_of_nearestOfLength? {m : Magnitude} {total length : Nat} {d : Decimal}
    (h : m.nearestOfLength? total length = some d) : m.ReadsBack d := by
  unfold nearestOfLength? at h
  dsimp only at h
  split at h
  · rename_i low
    cases h; exact low.1
  · split at h
    · rename_i high
      cases h; exact high
    · cases h

/-- **The printed decimal reads back** to the magnitude it was chosen for. -/
theorem round_shortest (m : Magnitude) : m.shortest.round = some m := by
  unfold shortest
  dsimp only
  rw [Decimal.round_stripZeros]
  generalize found : List.findSome? _ _ = result
  cases result with
  | none => exact round_toDecimal m
  | some d =>
    obtain ⟨length, _, chosen⟩ := List.exists_of_findSome?_eq_some found
    exact readsBack_of_nearestOfLength? chosen

end Magnitude

end InfixCalculator
