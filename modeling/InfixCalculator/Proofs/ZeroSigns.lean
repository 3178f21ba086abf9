import InfixCalculator.Proofs.Arithmetic
import InfixCalculator.Proofs.PlainForms

/-!
# Signs of zeros

The two zeros differ in a sign, and arithmetic passes it on: a product or a quotient of a zero is a
zero of one sign or the other, and so is an odd power. Apart from that the two zeros do the same in
every operation, unless the operation divides by zero (`Binary64.add_zeros`, `Binary64.mul_zeros`,
`Binary64.div_zeros`, `Binary64.power_zeros`).

An operator makes a zero positive at the end, and its messages show a dividend with its zero
positive and other operands only where they are no zeros. So nothing that is seen of it depends on
the sign of a zero (`Operator.observed_zeros`).
-/

set_option autoImplicit false

namespace InfixCalculator

namespace Binary64

/-! ## Zeros in arithmetic -/

theorem eq_zero_of_isZero {x : Binary64} (nothing : x.isZero = true) : ∃ s, x = finite s .zero := by
  cases x with
  | finite s a =>
    have units : a.units = 0 := by simpa [isZero] using nothing
    exact ⟨s, congrArg (finite s) (Magnitude.ext units)⟩
  | _ => cases nothing

theorem isZero_finite_zero (s : Bool) : (finite s .zero).isZero = true := rfl

theorem normalizeZero_finite_zero (s : Bool) : (finite s .zero).normalizeZero = zero :=
  normalizeZero_of_isZero (isZero_finite_zero s)

theorem plain_zeros (s t : Bool) : (finite s .zero).plain = (finite t .zero).plain := by
  rw [plain, plain, normalizeZero_finite_zero, normalizeZero_finite_zero]

theorem signedUnits_zero (s : Bool) : signedUnits s .zero = 0 := by
  cases s <;> rfl

theorem ofQuotient_zero (s : Bool) {den : Nat} (pos : 0 < den) :
    ofQuotient s 0 den = finite s .zero := by
  have rounded := Magnitude.ofQuotient?_units Magnitude.zero pos
  rw [show Magnitude.zero.units = 0 from rfl, Nat.zero_mul] at rounded
  exact ofQuotient_of_eq_some s rounded

/-- A sum does not depend on the sign of a zero, but for the sign of a zero that it is. -/
theorem add_zeros (s t : Bool) (x : Binary64) :
    (finite s .zero + x).normalizeZero = (finite t .zero + x).normalizeZero
      ∧ (x + finite s .zero).normalizeZero = (x + finite t .zero).normalizeZero := by
  cases x with
  | finite u a =>
    rw [finite_add, finite_add, finite_add, finite_add, signedUnits_zero, signedUnits_zero]
    constructor <;> split
    · exact (normalizeZero_finite_zero _).trans (normalizeZero_finite_zero _).symm
    · rfl
    · exact (normalizeZero_finite_zero _).trans (normalizeZero_finite_zero _).symm
    · rfl
  | _ => exact ⟨rfl, rfl⟩

/-- A product does not depend on the sign of a zero, but for the sign of a zero that it is. -/
theorem mul_zeros (s t : Bool) (x : Binary64) :
    (finite s .zero * x).normalizeZero = (finite t .zero * x).normalizeZero
      ∧ (x * finite s .zero).normalizeZero = (x * finite t .zero).normalizeZero := by
  cases x with
  | finite u a =>
    have nothing (v : Bool) : (ofQuotient v 0 Magnitude.unitsPerOne).normalizeZero = zero := by
      rw [ofQuotient_zero v Magnitude.unitsPerOne_pos, normalizeZero_finite_zero]
    rw [finite_mul, finite_mul, finite_mul, finite_mul, show Magnitude.zero.units = 0 from rfl,
      Nat.zero_mul, Nat.mul_zero]
    exact ⟨(nothing _).trans (nothing _).symm, (nothing _).trans (nothing _).symm⟩
  | _ => exact ⟨rfl, rfl⟩

/-- A quotient of a zero does not depend on its sign, but for its own. -/
theorem div_zeros (s t : Bool) {x : Binary64} (nonzero : x.isZero = false) :
    (finite s .zero / x).normalizeZero = (finite t .zero / x).normalizeZero := by
  cases x with
  | finite u a =>
    have some_ : a.units ≠ 0 := by simpa [isZero] using nonzero
    rw [finite_div s u .zero some_, finite_div t u .zero some_,
      show Magnitude.zero.units = 0 from rfl, Nat.zero_mul,
      ofQuotient_zero _ (Nat.pos_of_ne_zero some_), ofQuotient_zero _ (Nat.pos_of_ne_zero some_),
      normalizeZero_finite_zero, normalizeZero_finite_zero]
  | infinite u => exact (normalizeZero_finite_zero _).trans (normalizeZero_finite_zero _).symm
  | notANumber => rfl

theorem finite_zero_ne_one (s : Bool) : finite s .zero ≠ one := by
  intro same
  have unit : one.isZero = false := by decide +kernel
  rw [← same] at unit
  cases unit

theorem power_of_isZero (x : Binary64) {y : Binary64} (nothing : y.isZero = true) :
    x.power y = one := by
  unfold power
  rw [if_pos nothing]

/-- A power of a zero is a zero, when the exponent is above zero. -/
theorem isZero_power_zero (s : Bool) {b : Magnitude} (nonzero : b.units ≠ 0) :
    ((finite s .zero).power (finite false b)).isZero = true := by
  have size : powerOfAbs (finite s .zero) (finite false b) = zero := rfl
  have some_ : ¬(finite false b).isZero = true := by simpa [isZero] using nonzero
  unfold power
  rw [if_neg some_, if_neg (finite_zero_ne_one s)]
  cases s with
  | false =>
    dsimp only
    rw [size]
    rfl
  | true =>
    have none : ¬((finite true .zero).isBelowZero && !(finite false b).isWhole) = true := by
      simp [isBelowZero, Magnitude.zero]
    dsimp only
    rw [if_neg none, size]
    split <;> rfl

theorem power_zero_of_not_isFinite (s t : Bool) {y : Binary64} (infinite_ : y.isFinite = false) :
    (finite s .zero).power y = (finite t .zero).power y := by
  unfold power
  rw [if_neg (finite_zero_ne_one s), if_neg (finite_zero_ne_one t)]
  cases y with
  | finite => cases infinite_
  | _ => cases s <;> cases t <;> rfl

/-- A power of a zero does not depend on its sign, but for its own, unless the exponent is finite
and below zero. -/
theorem power_zeros (s t : Bool) {y : Binary64} (above : (y.isFinite && y.isBelowZero) = false) :
    ((finite s .zero).power y).normalizeZero = ((finite t .zero).power y).normalizeZero
      ∧ (y.isFinite = true → ((finite s .zero).power y).isFinite = true) := by
  cases finite_ : y.isFinite with
  | false => exact ⟨congrArg normalizeZero (power_zero_of_not_isFinite s t finite_), nofun⟩
  | true =>
    cases nothing : y.isZero with
    | true =>
      have unit : one.isFinite = true := by decide +kernel
      rw [power_of_isZero _ nothing, power_of_isZero _ nothing]
      exact ⟨rfl, fun _ => unit⟩
    | false =>
      obtain ⟨u, b, rfl⟩ := exists_eq_finite finite_
      have some_ : b.units ≠ 0 := by simpa [isZero] using nothing
      obtain rfl : u = false := by simpa [isFinite, isBelowZero, some_] using above
      have zeroS := isZero_power_zero s some_
      obtain ⟨v, power⟩ := eq_zero_of_isZero zeroS
      rw [normalizeZero_of_isZero zeroS, normalizeZero_of_isZero (isZero_power_zero t some_), power]
      exact ⟨rfl, fun _ => rfl⟩

end Binary64

/-! ## Zeros under operators -/

namespace Operator

/-- What is seen of an operator that is applied: its result, or the kind of error and the
message. -/
def observed (op : Operator) (x y : Binary64) : Except (Diagnostic.Kind × Text) Binary64 :=
  (op.apply x y).mapError fun fault => (fault.kind, fault.message)

/-- Results that cannot be told apart: numbers but for the sign of a zero, and faults but for what
is not shown. -/
inductive Alike : Except ArithmeticFault Binary64 → Except ArithmeticFault Binary64 → Prop where
  /-- Two numbers that are equal when zeros are made positive. -/
  | number {v w : Binary64} (same : v.normalizeZero = w.normalizeZero) : Alike (.ok v) (.ok w)
  /-- Two faults of one kind with one message. -/
  | fault {f g : ArithmeticFault} (kind : f.kind = g.kind) (message : f.message = g.message) :
    Alike (.error f) (.error g)

theorem Alike.refl (result : Except ArithmeticFault Binary64) : Alike result result := by
  cases result with
  | ok v => exact .number rfl
  | error f => exact .fault rfl rfl

theorem observed_eq {op : Operator} {x y x' y' : Binary64}
    (alike : Alike (op.compute x y) (op.compute x' y')) :
    op.observed x y = op.observed x' y' := by
  rw [observed, observed, apply, apply]
  generalize op.compute x y = first at alike
  generalize op.compute x' y' = second at alike
  cases alike with
  | @number v w same =>
    dsimp only
    rw [← Binary64.isFinite_normalizeZero v, ← Binary64.isFinite_normalizeZero w, same]
  | fault kind message => exact congrArg Except.error (Prod.ext kind message)

/-- A zero is raised as it is, unless the exponent is finite and below zero. -/
theorem raise_zero (s : Bool) {y : Binary64} (above : (y.isFinite && y.isBelowZero) = false) :
    raise (.finite s .zero) y = .ok ((Binary64.finite s .zero).power y) := by
  have atLeast : (Binary64.finite s .zero).isAtLeastZero = true := by cases s <;> rfl
  have small : y.isFinite = true → ((Binary64.finite s .zero).power y).isFinite = true :=
    (Binary64.power_zeros s s above).2
  have allowed : ¬((Binary64.finite s .zero).isZero && y.isFinite && y.isBelowZero) = true := by
    rw [Binary64.isZero_finite_zero, Bool.true_and, above]
    exact Bool.false_ne_true
  rw [raise, if_neg allowed, atLeast, Bool.or_true, if_pos rfl]
  refine if_neg ?_
  intro large
  obtain ⟨finite_, infinite_⟩ : y.isFinite = true
    ∧ ((Binary64.finite s .zero).power y).isFinite = false := by
    simpa [Binary64.isFinite] using large
  rw [small finite_] at infinite_
  cases infinite_

theorem message_divisionByZero (s t : Bool) :
    (ArithmeticFault.divisionByZero (.finite s .zero)).message
      = (ArithmeticFault.divisionByZero (.finite t .zero)).message :=
  congrArg (fun dividend =>
    "Division by zero: ".toList ++ dividend ++ "/0".toList) (Binary64.plain_zeros s t)

theorem compute_divide {x y : Binary64} (nonzero : y.isZero = false) :
    divide.compute x y = .ok (x / y) := by
  rw [compute, nonzero, if_neg Bool.false_ne_true]

theorem compute_divide_by_zero {x y : Binary64} (zero : y.isZero = true) :
    divide.compute x y = .error (.divisionByZero x) := by
  rw [compute, zero, if_pos rfl]

/-- To the power of a zero every number is one. -/
theorem raise_to_zero (x : Binary64) (s : Bool) : raise x (.finite s .zero) = .ok .one := by
  have level : (Binary64.finite s .zero).isBelowZero = false := by cases s <;> rfl
  have whole : (Binary64.finite s .zero).isWhole = true := by
    simp [Binary64.isWhole, Magnitude.zero]
  have unit : Binary64.one.isFinite = true := by decide +kernel
  rw [raise, level, whole, Bool.and_false, if_neg Bool.false_ne_true, Bool.true_or, if_pos rfl,
    Binary64.power_of_isZero x (Binary64.isZero_finite_zero s)]
  dsimp only
  rw [unit, Bool.not_true, Bool.and_false, if_neg Bool.false_ne_true]

theorem alike_left (op : Operator) (s t : Bool) (y : Binary64) :
    Alike (op.compute (.finite s .zero) y) (op.compute (.finite t .zero) y) := by
  cases op with
  | power =>
    cases above : y.isFinite && y.isBelowZero with
    | false =>
      rw [compute, compute, raise_zero s above, raise_zero t above]
      exact .number (Binary64.power_zeros s t above).1
    | true =>
      have failed (u : Bool) : raise (.finite u .zero) y = .error (.zeroToNegativePower y) :=
        if_pos above
      rw [compute, compute, failed, failed]
      exact .refl _
  | divide =>
    cases zero : y.isZero with
    | false =>
      rw [compute_divide zero, compute_divide zero]
      exact .number (Binary64.div_zeros s t zero)
    | true =>
      rw [compute_divide_by_zero zero, compute_divide_by_zero zero]
      exact .fault rfl (message_divisionByZero s t)
  | multiply => exact .number (Binary64.mul_zeros s t y).1
  | subtract => exact .number (Binary64.add_zeros s t (-y)).1
  | add => exact .number (Binary64.add_zeros s t y).1

theorem alike_right (op : Operator) (x : Binary64) (s t : Bool) :
    Alike (op.compute x (.finite s .zero)) (op.compute x (.finite t .zero)) := by
  cases op with
  | power =>
    rw [compute, compute, raise_to_zero, raise_to_zero]
    exact .refl _
  | divide =>
    rw [compute_divide_by_zero (Binary64.isZero_finite_zero s),
      compute_divide_by_zero (Binary64.isZero_finite_zero t)]
    exact .refl _
  | multiply => exact .number (Binary64.mul_zeros s t x).2
  | subtract => exact .number (Binary64.add_zeros (!s) (!t) x).2
  | add => exact .number (Binary64.add_zeros s t x).2

/-- **The sign of a zero operand is not seen:** an operator gives the same number, or an error of
the same kind with the same message, when the zeros among its operands are made positive. -/
theorem observed_zeros (op : Operator) (x y : Binary64) :
    op.observed x y = op.observed x.normalizeZero y.normalizeZero := by
  have left : op.observed x y = op.observed x.normalizeZero y := by
    cases nothing : x.isZero with
    | false => rw [Binary64.normalizeZero_of_not_isZero nothing]
    | true =>
      obtain ⟨s, rfl⟩ := Binary64.eq_zero_of_isZero nothing
      rw [Binary64.normalizeZero_finite_zero]
      exact observed_eq (alike_left op s false y)
  have right : op.observed x.normalizeZero y = op.observed x.normalizeZero y.normalizeZero := by
    cases nothing : y.isZero with
    | false => rw [Binary64.normalizeZero_of_not_isZero nothing]
    | true =>
      obtain ⟨t, rfl⟩ := Binary64.eq_zero_of_isZero nothing
      rw [Binary64.normalizeZero_finite_zero]
      exact observed_eq (alike_right op x.normalizeZero t false)
  exact left.trans right

end Operator

end InfixCalculator
