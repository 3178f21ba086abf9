import InfixCalculator.Proofs.Engines
import InfixCalculator.Proofs.WholeNumbers

/-!
# What operators give

An operator fails in two ways only. It divides by zero (`Operator.dividesByZero`), or the number
that it comes to (`Operator.value`) is not finite; otherwise it gives that number, with zero
positive (`Operator.kinds_apply`).

A power of magnitudes is at least zero, whichever way it is computed
(`Binary64.isAtLeastZero_powerOfAbs`), and a base below zero is raised without its sign unless the
exponent is whole. So no operator gives the number that is none to finite operands, and a root of a
negative number is the opposite of the root without the sign (`Operator.apply_closed`).
-/

set_option autoImplicit false

namespace InfixCalculator

/-! ## Opposite numbers -/

namespace Binary64

/-- The opposite of a number, with zero positive. -/
def opposite (x : Binary64) : Binary64 := (-x).normalizeZero

theorem isZero_neg (x : Binary64) : (-x).isZero = x.isZero := by
  cases x <;> rfl

/-- Zero has only one opposite, whatever its sign is. -/
theorem opposite_normalizeZero (x : Binary64) : x.normalizeZero.opposite = x.opposite := by
  cases zero : x.isZero with
  | false => rw [normalizeZero_of_not_isZero zero]
  | true =>
    have negated : (-x).isZero = true := (isZero_neg x).trans zero
    rw [normalizeZero_of_isZero zero, opposite, opposite, normalizeZero_of_isZero negated]
    exact normalizeZero_of_isZero ((isZero_neg _).trans isZero_zero)

/-- Twice the opposite is the number itself, when it is not negative zero. -/
theorem opposite_opposite {x : Binary64} (canonical : x.IsCanonical) : x.opposite.opposite = x := by
  calc x.opposite.opposite
      = (-x).opposite := opposite_normalizeZero (-x)
    _ = x.normalizeZero := congrArg normalizeZero (neg_neg x)
    _ = x := normalizeZero_of_isCanonical canonical

end Binary64

/-! ## Powers of magnitudes -/

namespace Binary64

theorem isAtLeastZero_ofQuotient (num den : Nat) :
    (ofQuotient false num den).isAtLeastZero = true := by
  unfold ofQuotient
  generalize Magnitude.ofQuotient? num den = rounded
  cases rounded <;> rfl

theorem isAtLeastZero_one : one.isAtLeastZero = true := by
  have sign : decide ((1 : Int) < 0) = false := rfl
  rw [one, ofInt, sign]
  exact isAtLeastZero_ofQuotient _ _

theorem isAtLeastZero_ofDyadicPower (odd : Nat) (exponent : Int) (reciprocal : Bool) :
    (ofDyadicPower odd exponent reciprocal).isAtLeastZero = true := by
  rw [ofDyadicPower]
  split <;> dsimp only <;> split <;> exact isAtLeastZero_ofQuotient _ _

theorem all_exactPower? (x : Dyadic) (p : Nat) (reciprocal : Bool) :
    (exactPower? x p reciprocal).all isAtLeastZero = true := by
  -- the bounds in the conditions have branches of their own, which matter to no result
  refine iteInduction (motive := fun found : Option Binary64 => found.all isAtLeastZero = true)
    (fun _ => rfl) (fun _ => ?_)
  refine iteInduction (motive := fun found : Option Binary64 => found.all isAtLeastZero = true)
    (fun _ => rfl) (fun _ => ?_)
  exact iteInduction (motive := fun found : Option Binary64 => found.all isAtLeastZero = true)
    (fun _ => isAtLeastZero_ofDyadicPower _ _ _) (fun _ => rfl)

theorem isAtLeastZero_of_exactPower? {x : Dyadic} {p : Nat} {reciprocal : Bool} {z : Binary64}
    (found : exactPower? x p reciprocal = some z) : z.isAtLeastZero = true := by
  have all := all_exactPower? x p reciprocal
  rw [found] at all
  exact all

theorem isAtLeastZero_powerWithin (bits : Nat) (x : Dyadic) (p halvings : Nat) (reciprocal : Bool) :
    (powerWithin bits x p halvings reciprocal).1.isAtLeastZero = true := by
  refine iteInduction (motive := fun found : Binary64 × Bool => found.1.isAtLeastZero = true)
    (fun _ => rfl) (fun _ => ?_)
  refine iteInduction (motive := fun found : Binary64 × Bool => found.1.isAtLeastZero = true)
    (fun _ => rfl) (fun _ => ?_)
  show (ofDyadicPower _ _ false).isAtLeastZero = true
  exact isAtLeastZero_ofDyadicPower _ _ _

theorem isAtLeastZero_approximatePower (x : Dyadic) (p halvings : Nat) (reciprocal : Bool) :
    (approximatePower x p halvings reciprocal).isAtLeastZero = true := by
  rw [approximatePower]
  split
  · exact isAtLeastZero_powerWithin _ _ _ _ _
  · dsimp only
    split <;> exact isAtLeastZero_powerWithin _ _ _ _ _

theorem isAtLeastZero_powerMagnitude (x y : Magnitude) (reciprocal : Bool) :
    (powerMagnitude x y reciprocal).isAtLeastZero = true := by
  -- an exact power where there is one, and an approximation everywhere else
  simp only [powerMagnitude]
  split
  · split
    · exact isAtLeastZero_of_exactPower? ‹_›
    · exact isAtLeastZero_approximatePower _ _ _ _
  · split
    · split
      · exact isAtLeastZero_of_exactPower? ‹_›
      · exact isAtLeastZero_approximatePower _ _ _ _
    · exact isAtLeastZero_approximatePower _ _ _ _

/-- A power of finite numbers without their signs is at least zero. -/
theorem isAtLeastZero_powerOfAbs (s t : Bool) (x y : Magnitude) :
    (powerOfAbs (finite s x) (finite t y)).isAtLeastZero = true := by
  rw [powerOfAbs]
  split
  · split <;> rfl
  · split
    · exact isAtLeastZero_one
    · exact isAtLeastZero_powerMagnitude x y t

/-! ## Results that are numbers -/

theorem exists_eq_finite {x : Binary64} (is_ : x.isFinite = true) : ∃ s a, x = finite s a := by
  cases x with
  | finite s a => exact ⟨s, a, rfl⟩
  | _ => cases is_

theorem ofQuotient_ne_notANumber (negative : Bool) (num den : Nat) :
    ofQuotient negative num den ≠ notANumber := by
  unfold ofQuotient
  generalize Magnitude.ofQuotient? num den = rounded
  cases rounded <;> simp

theorem neg_ne_notANumber {x : Binary64} (number : x ≠ notANumber) : -x ≠ notANumber := by
  intro none
  refine number ?_
  rw [← neg_neg x, none]
  rfl

theorem ne_notANumber_of_isAtLeastZero {x : Binary64} (atLeast : x.isAtLeastZero = true) :
    x ≠ notANumber := by
  rintro rfl
  cases atLeast

/-- A number below zero is a magnitude with a minus, or an infinity. -/
theorem exists_of_isBelowZero {x : Binary64} (below : x.isBelowZero = true) :
    (∃ a : Magnitude, a.units ≠ 0 ∧ x = finite true a) ∨ x = infinite true := by
  cases x with
  | finite negative a =>
    obtain ⟨rfl, some_⟩ : negative = true ∧ a.units ≠ 0 := by simpa [isBelowZero] using below
    exact .inl ⟨a, some_, rfl⟩
  | infinite negative =>
    obtain rfl : negative = true := below
    exact .inr rfl
  | notANumber => cases below

section

variable {x : Binary64} (below : x.isBelowZero = true)

include below

theorem abs_of_isBelowZero : x.abs = -x := by
  rcases exists_of_isBelowZero below with ⟨a, -, rfl⟩ | rfl <;> rfl

theorem isAtLeastZero_neg : (-x).isAtLeastZero = true := by
  rcases exists_of_isBelowZero below with ⟨a, -, rfl⟩ | rfl <;> rfl

theorem isAtLeastZero_eq_false : x.isAtLeastZero = false := by
  rcases exists_of_isBelowZero below with ⟨a, some_, rfl⟩ | rfl
  · simp [isAtLeastZero, some_]
  · rfl

theorem isZero_eq_false : x.isZero = false := by
  rcases exists_of_isBelowZero below with ⟨a, some_, rfl⟩ | rfl
  · simp [isZero, some_]
  · rfl

end

/-- A power of finite numbers is a number, if the exponent is whole or the base at least zero. -/
theorem power_ne_notANumber {x y : Binary64} (finiteX : x.isFinite = true)
    (finiteY : y.isFinite = true) (real : (y.isWhole || x.isAtLeastZero) = true) :
    x.power y ≠ notANumber := by
  have unit := ne_notANumber_of_isAtLeastZero isAtLeastZero_one
  unfold power
  by_cases nothing : y.isZero = true
  · rw [if_pos nothing]
    exact unit
  by_cases same : x = one
  · rw [if_neg nothing, if_pos same]
    exact unit
  rw [if_neg nothing, if_neg same]
  have fine : ¬(x.isBelowZero && !y.isWhole) = true := by
    intro root
    obtain ⟨below, fraction⟩ := Bool.and_eq_true_iff.1 root
    rw [isAtLeastZero_eq_false below, Bool.or_false] at real
    rw [real] at fraction
    cases fraction
  obtain ⟨s, a, rfl⟩ := exists_eq_finite finiteX
  obtain ⟨t, b, rfl⟩ := exists_eq_finite finiteY
  have size := ne_notANumber_of_isAtLeastZero (isAtLeastZero_powerOfAbs s t a b)
  cases s with
  | false => exact size
  | true =>
    dsimp only
    rw [if_neg fine]
    split
    · exact neg_ne_notANumber size
    · exact size

theorem finite_div (s t : Bool) (a : Magnitude) {b : Magnitude} (nonzero : b.units ≠ 0) :
    finite s a / finite t b = ofQuotient (s ^^ t) (a.units * Magnitude.unitsPerOne) b.units := by
  show Binary64.div (finite s a) (finite t b) = _
  rw [Binary64.div, if_neg nonzero]

/-- A sum of finite numbers is a number. -/
theorem finite_add_ne_notANumber (s t : Bool) (a b : Magnitude) :
    finite s a + finite t b ≠ notANumber := by
  rw [finite_add]
  split
  · simp
  · exact ofQuotient_ne_notANumber _ _ _

end Binary64

namespace Operator

open Binary64 (ofQuotient_ne_notANumber)

/-! ## The ways to fail -/

/-- Whether an operator divides by zero: by the divisor, or by a negative power of zero. -/
def dividesByZero : Operator → Binary64 → Binary64 → Bool
  | power, x, y => x.isZero && y.isFinite && y.isBelowZero
  | divide, _, y => y.isZero
  | _, _, _ => false

/-- The number that an operator comes to, if it does not divide by zero. -/
def value : Operator → Binary64 → Binary64 → Binary64
  | power, x, y => if y.isWhole || x.isAtLeastZero then x.power y else -(x.abs.power y)
  | divide, x, y => x / y
  | multiply, x, y => x * y
  | subtract, x, y => x - y
  | add, x, y => x + y

/-- What an operator can result in before the result is checked. -/
inductive Computed (op : Operator) (x y : Binary64) : Except ArithmeticFault Binary64 → Prop where
  /-- A division by zero. -/
  | divisionByZero (zero : op.dividesByZero x y = true) {fault : ArithmeticFault}
      (kind : fault.kind = .divisionByZero) : Computed op x y (.error fault)
  /-- A number that is found to be too large at once. -/
  | overflow (nonzero : op.dividesByZero x y = false) (large : (op.value x y).isFinite = false)
      {fault : ArithmeticFault} (kind : fault.kind = .numericOverflow) :
        Computed op x y (.error fault)
  /-- A number. -/
  | number (nonzero : op.dividesByZero x y = false) : Computed op x y (.ok (op.value x y))

theorem computed_raise (x y : Binary64) : Computed power x y (raise x y) := by
  have raised : raise x y
      = if power.dividesByZero x y then .error (.zeroToNegativePower y)
        else if x.isFinite && y.isFinite && !(power.value x y).isFinite then .error
          (.powerOverflow x y)
        else .ok (power.value x y) := rfl
  rw [raised]
  cases zero : power.dividesByZero x y with
  | true => exact .divisionByZero zero rfl
  | false =>
    rw [if_neg Bool.false_ne_true]
    split
    · rename_i large
      have tooLarge : (power.value x y).isFinite = false := by
        simpa using (Bool.and_eq_true_iff.1 large).2
      exact .overflow zero tooLarge rfl
    · exact .number zero

theorem computed_compute (op : Operator) (x y : Binary64) : Computed op x y (op.compute x y) := by
  cases op with
  | power => exact computed_raise x y
  | divide =>
    rw [compute]
    split
    · rename_i zero
      have divides : divide.dividesByZero x y = true := zero
      exact .divisionByZero divides rfl
    · rename_i nonzero
      exact .number (Bool.eq_false_iff.2 nonzero)
  | multiply => exact .number rfl
  | subtract => exact .number rfl
  | add => exact .number rfl

/-- **The two ways in which an operator fails:** it divides by zero, or it comes to a number that is
not finite. -/
theorem kinds_apply (op : Operator) (x y : Binary64) :
    (op.apply x y).mapError ArithmeticFault.kind
      = if op.dividesByZero x y then .error .divisionByZero
        else if (op.value x y).isFinite then .ok (op.value x y).normalizeZero
          else .error .numericOverflow := by
  have course := computed_compute op x y
  rw [apply]
  generalize op.compute x y = result at course
  cases course with
  | divisionByZero zero kind =>
    rw [if_pos zero]
    exact congrArg Except.error kind
  | overflow nonzero large kind =>
    rw [nonzero, large]
    exact congrArg Except.error kind
  | number nonzero =>
    rw [nonzero]
    cases finite : (op.value x y).isFinite <;> simp [finite] <;> rfl

/-- A fault of a kind, told by the kinds alone. -/
theorem exists_fault_iff {result : Except ArithmeticFault Binary64} {kind : Diagnostic.Kind} :
    (∃ fault, result = .error fault ∧ fault.kind = kind)
      ↔ result.mapError ArithmeticFault.kind = .error kind := by
  constructor
  · rintro ⟨fault, rfl, rfl⟩
    rfl
  · intro failed
    cases result with
    | ok z => cases failed
    | error fault => exact ⟨fault, rfl, Except.error.inj failed⟩

/-- A division by zero is told by its kind. -/
theorem exists_divisionByZero_iff {op : Operator} {x y : Binary64} :
    (∃ fault, op.apply x y = .error fault ∧ fault.kind = .divisionByZero)
      ↔ op.dividesByZero x y = true := by
  rw [exists_fault_iff, kinds_apply]
  split
  · rename_i zero
    exact iff_of_true rfl zero
  · rename_i nonzero
    split <;> simp [nonzero]

/-! ## Finite operands -/

/-- An operator on finite numbers that does not divide by zero comes to a number. -/
theorem value_ne_notANumber {op : Operator} {x y : Binary64} (finiteX : x.isFinite = true)
    (finiteY : y.isFinite = true) (nonzero : op.dividesByZero x y = false) :
      op.value x y ≠ .notANumber := by
  obtain ⟨s, a, rfl⟩ := Binary64.exists_eq_finite finiteX
  obtain ⟨t, b, rfl⟩ := Binary64.exists_eq_finite finiteY
  cases op with
  | power =>
    rw [value]
    split
    · rename_i real
      exact Binary64.power_ne_notANumber rfl rfl real
    · exact Binary64.neg_ne_notANumber (Binary64.power_ne_notANumber rfl rfl (Bool.or_true _))
  | divide =>
    have some_ : ¬b.units = 0 := by simpa [dividesByZero, Binary64.isZero] using nonzero
    rw [value, Binary64.finite_div s t a some_]
    exact ofQuotient_ne_notANumber _ _ _
  | multiply =>
    rw [value, Binary64.finite_mul]
    exact ofQuotient_ne_notANumber _ _ _
  | subtract => exact Binary64.finite_add_ne_notANumber s (!t) a b
  | add => exact Binary64.finite_add_ne_notANumber s t a b

/-- The power of a number below zero with an exponent that is not whole is taken without the
sign. -/
theorem value_power_of_isBelowZero {x y : Binary64} (below : x.isBelowZero = true)
    (fraction : y.isWhole = false) :
    power.value x y = -power.value (-x) y := by
  rw [value, value, fraction, Binary64.isAtLeastZero_eq_false below,
    Binary64.isAtLeastZero_neg below, Binary64.abs_of_isBelowZero below]
  rfl

theorem dividesByZero_power_of_isBelowZero {x y : Binary64} (below : x.isBelowZero = true) :
    power.dividesByZero x y = false := by
  rw [dividesByZero, Binary64.isZero_eq_false below]
  rfl

theorem kinds_apply_power_of_isBelowZero {x y : Binary64} (below : x.isBelowZero = true)
    (fraction : y.isWhole = false) :
    (power.apply x y).mapError ArithmeticFault.kind
      = ((power.apply (-x) y).map Binary64.opposite).mapError ArithmeticFault.kind := by
  have nonzero : power.dividesByZero (-x) y = false := by
    rw [dividesByZero, Binary64.isZero_neg]
    exact dividesByZero_power_of_isBelowZero below
  rw [mapError_of_map, kinds_apply, kinds_apply, dividesByZero_power_of_isBelowZero below, nonzero,
    value_power_of_isBelowZero below fraction, Binary64.isFinite_neg]
  split
  · rename_i wrong
    cases wrong
  · split
    · exact congrArg Except.ok (Binary64.opposite_normalizeZero _).symm
    · rfl

/-- **Operators are closed over the finite numbers with zero positive.** On all numbers an operator
gives such a number, or it fails with a division by zero or with an overflow. On finite numbers what
it comes to is a number, and it fails with a division by zero just when the divisor is zero or zero
is raised to a power below zero. The power of a number below zero with an exponent that is not whole
is the opposite of the power without the sign. -/
theorem apply_closed (op : Operator) (x y : Binary64) :
    ((∃ z, op.apply x y = .ok z ∧ z.isFinite = true ∧ z ≠ .finite true .zero)
        ∨ ∃ fault, op.apply x y = .error fault
          ∧ (fault.kind = .divisionByZero ∨ fault.kind = .numericOverflow))
      ∧ (x.isFinite = true → y.isFinite = true →
        op.compute x y ≠ .ok .notANumber
        ∧ ((∃ fault, op.apply x y = .error fault ∧ fault.kind = .divisionByZero)
          ↔ op = divide ∧ y.isZero = true ∨ op = power ∧ x.isZero = true ∧ y.isBelowZero = true))
      ∧ (x.isBelowZero = true → y.isWhole = false →
        (power.apply x y).mapError ArithmeticFault.kind
          = ((power.apply (-x) y).map fun z => (-z).normalizeZero).mapError
            ArithmeticFault.kind) := by
  refine ⟨?_, fun finiteX finiteY => ⟨?_, ?_⟩, kinds_apply_power_of_isBelowZero⟩
  · cases applied : op.apply x y with
    | ok z => exact .inl ⟨z, rfl, isCanonical_of_apply applied⟩
    | error fault => exact .inr ⟨fault, rfl, fault.kind_eq⟩
  · intro computed
    have course := computed_compute op x y
    rw [computed] at course
    generalize none : Binary64.notANumber = result at course
    cases course with
    | number nonzero => exact value_ne_notANumber finiteX finiteY nonzero none.symm
  · rw [exists_divisionByZero_iff]
    cases op <;> simp [dividesByZero, finiteY]

/-- Numbers to which all of it applies: the root of a number below zero. -/
theorem apply_closed_root :
    let x := Binary64.ofInt (-4)
    let y := Literal.toBinary64 ".5".toList
    power.apply x y = .ok (Binary64.ofInt (-2))
      ∧ power.compute x y ≠ .ok .notANumber
      ∧ (power.apply x y).mapError ArithmeticFault.kind
        = ((power.apply (-x) y).map fun z => (-z).normalizeZero).mapError ArithmeticFault.kind := by
  intro x y
  have closed := apply_closed power x y
  have number := (closed.2.1 (by decide +kernel) (by decide +kernel)).1
  have opposite := closed.2.2 (by decide +kernel) (by decide +kernel)
  exact ⟨toOption_eq_some.1 (by decide +kernel), number, opposite⟩

end Operator

end InfixCalculator
