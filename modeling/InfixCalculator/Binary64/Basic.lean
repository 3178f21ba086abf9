import InfixCalculator.Binary64.Magnitude

/-!
# Binary64 numbers and their arithmetic

A number is a signed magnitude, a signed infinity or the number that is none. Each operation on two
finite numbers is carried out exactly on the units and then rounded once; a magnitude past the end
becomes an infinity. Zero has a sign: an exact zero result is positive, except that the sum of two
negative zeros is negative, and products and quotients take the sign of their operands.

Subtraction is addition of the negated number, so `x - y` and `x + (-y)` are the same by definition.
-/

set_option autoImplicit false

namespace InfixCalculator

/-- A binary64 number. -/
inductive Binary64 where
  /-- A finite number, given by its sign and its magnitude. -/
  | finite (negative : Bool) (magnitude : Magnitude)
  /-- An infinity, given by its sign. -/
  | infinite (negative : Bool)
  /-- The result of an operation that has none. -/
  | notANumber
deriving DecidableEq, Inhabited

namespace Binary64

/-- Positive zero. -/
def zero : Binary64 := finite false .zero

/-- The signed number nearest to `num / den` least units. -/
def ofQuotient (negative : Bool) (num den : Nat) : Binary64 :=
  match Magnitude.ofQuotient? num den with
  | some magnitude => finite negative magnitude
  | none => infinite negative

/-- The number nearest to a whole number. -/
def ofInt (n : Int) : Binary64 :=
  ofQuotient (decide (n < 0)) (n.natAbs * Magnitude.unitsPerOne) 1

/-- One. -/
def one : Binary64 := ofInt 1

/-! ## Kinds of numbers -/

/-- Neither an infinity nor the number that is none. -/
def isFinite : Binary64 → Bool
  | finite _ _ => true
  | _ => false

/-- A zero of either sign. -/
def isZero : Binary64 → Bool
  | finite _ magnitude => magnitude.units = 0
  | _ => false

/-- Strictly below zero. -/
def isBelowZero : Binary64 → Bool
  | finite negative magnitude => negative && magnitude.units ≠ 0
  | infinite negative => negative
  | notANumber => false

/-- Zero of either sign, or above it. -/
def isAtLeastZero : Binary64 → Bool
  | finite negative magnitude => !negative || magnitude.units = 0
  | infinite negative => !negative
  | notANumber => false

/-- A finite number without a fractional part. -/
def isWhole : Binary64 → Bool
  | finite _ magnitude => magnitude.units % Magnitude.unitsPerOne = 0
  | _ => false

/-- The sign of a number: whether it is written with a minus. -/
def isNegative : Binary64 → Bool
  | finite negative _ => negative
  | infinite negative => negative
  | notANumber => false

/-- A finite number that is not negative zero. -/
def IsCanonical (x : Binary64) : Prop := x.isFinite ∧ x ≠ finite true .zero

/-! ## Operations -/

/-- The number with the opposite sign. -/
def neg : Binary64 → Binary64
  | finite negative magnitude => finite (!negative) magnitude
  | infinite negative => infinite (!negative)
  | notANumber => notANumber

instance : Neg Binary64 := ⟨neg⟩

/-- The number without its sign. -/
def abs : Binary64 → Binary64
  | finite _ magnitude => finite false magnitude
  | infinite _ => infinite false
  | notANumber => notANumber

/-- Takes both zeros to positive zero and leaves every other number as it is. -/
def normalizeZero (x : Binary64) : Binary64 := if x.isZero then zero else x

/-- The units of a finite number with its sign. -/
def signedUnits (negative : Bool) (magnitude : Magnitude) : Int :=
  if negative then -(magnitude.units : Int) else magnitude.units

/-- The sum of two numbers. -/
def add : Binary64 → Binary64 → Binary64
  | finite s a, finite t b =>
    let total := signedUnits s a + signedUnits t b
    if total = 0 then finite (s && t) .zero else ofQuotient (decide (total < 0)) total.natAbs 1
  | notANumber, _ => notANumber
  | _, notANumber => notANumber
  | infinite s, infinite t => if s = t then infinite s else notANumber
  | infinite s, finite _ _ => infinite s
  | finite _ _, infinite t => infinite t

instance : Add Binary64 := ⟨add⟩

/-- The difference of two numbers. -/
def sub (x y : Binary64) : Binary64 := x + -y

instance : Sub Binary64 := ⟨sub⟩

/-- The product of two numbers. -/
def mul : Binary64 → Binary64 → Binary64
  | finite s a, finite t b => ofQuotient (s ^^ t) (a.units * b.units) Magnitude.unitsPerOne
  | notANumber, _ => notANumber
  | _, notANumber => notANumber
  | infinite s, infinite t => infinite (s ^^ t)
  | infinite s, finite t b => if b.units = 0 then notANumber else infinite (s ^^ t)
  | finite s a, infinite t => if a.units = 0 then notANumber else infinite (s ^^ t)

instance : Mul Binary64 := ⟨mul⟩

/-- The quotient of two numbers. -/
def div : Binary64 → Binary64 → Binary64
  | finite s a, finite t b =>
    if b.units = 0 then
      if a.units = 0 then notANumber else infinite (s ^^ t)
    else ofQuotient (s ^^ t) (a.units * Magnitude.unitsPerOne) b.units
  | notANumber, _ => notANumber
  | _, notANumber => notANumber
  | infinite _, infinite _ => notANumber
  | infinite s, finite t _ => infinite (s ^^ t)
  | finite s _, infinite t => finite (s ^^ t) .zero

instance : Div Binary64 := ⟨div⟩

/-! ## Small facts -/

theorem sub_eq_add_neg (x y : Binary64) : x - y = x + -y := rfl

theorem neg_neg (x : Binary64) : - -x = x := by
  cases x <;> simp [Neg.neg, neg]

theorem normalizeZero_of_isZero {x : Binary64} (h : x.isZero) : x.normalizeZero = zero := by
  simp [normalizeZero, h]

theorem normalizeZero_of_not_isZero {x : Binary64} (h : x.isZero = false) :
    x.normalizeZero = x := by
  simp [normalizeZero, h]

theorem isZero_zero : zero.isZero = true := by
  simp [zero, isZero, Magnitude.zero]

theorem normalizeZero_normalizeZero (x : Binary64) :
    x.normalizeZero.normalizeZero = x.normalizeZero := by
  by_cases h : x.isZero
  · rw [normalizeZero_of_isZero h, normalizeZero_of_isZero isZero_zero]
  · have same := normalizeZero_of_not_isZero (x := x) (by simpa using h)
    rw [same, same]

theorem normalizeZero_ne_negativeZero (x : Binary64) :
    x.normalizeZero ≠ finite true .zero := by
  by_cases h : x.isZero
  · rw [normalizeZero_of_isZero h]; simp [zero]
  · rw [normalizeZero_of_not_isZero (by simpa using h)]
    rintro rfl
    simp [isZero, Magnitude.zero] at h

theorem isFinite_normalizeZero (x : Binary64) : x.normalizeZero.isFinite = x.isFinite := by
  by_cases h : x.isZero
  · rw [normalizeZero_of_isZero h]
    cases x <;> simp_all [zero, isZero, isFinite]
  · rw [normalizeZero_of_not_isZero (by simpa using h)]

end Binary64

end InfixCalculator
