import InfixCalculator.Binary64.Basic

/-!
# Powers of binary64 numbers

`x ^ y` is the binary64 number nearest to the exact power. A positive finite base is split into an
odd number and a power of two, and a finite exponent into an odd number of binary fractions.

When the exact power is a fraction of reasonable size it is computed as one and rounded once; this
covers every power that is itself a binary64 number or lies halfway between two. All other powers
are irrational, or too long to be near such a point, so they are approximated: `exp (y * ln x)` is
computed with fixed-point series together with a bound on its error, and the precision grows until
both ends of the error interval round to the same number.

So every power is correctly rounded here. Other implementations of powers need not be: a
mathematical library may be off in the last place, as some are on `95.97 ^ 2` and on `10 ^ 23`. What
is proved of powers in general uses their signs and their special cases, and not how they are
rounded.

The special cases follow the usual rules: anything to the power zero is one, one to any power is
one, a negative base needs a whole exponent, and zeros and infinities keep the sign of the base
exactly when the exponent is odd.
-/

set_option autoImplicit false

namespace InfixCalculator

namespace Binary64

/-! ## Splitting a number into an odd part and a power of two -/

/-- Divides by two while the number is even, at most `fuel` times, and counts the halvings. -/
def halveEven : Nat → Nat → Nat × Nat
  | 0, n => (n, 0)
  | fuel + 1, n =>
    if n % 2 = 0 ∧ n ≠ 0 then
      let (odd, twos) := halveEven fuel (n / 2)
      (odd, twos + 1)
    else (n, 0)

/-- The odd part of a positive number and the number of twos it contains. -/
def oddPart (n : Nat) : Nat × Nat := halveEven n.log2 n

/-- A positive number `odd * 2 ^ exponent`. -/
structure Dyadic where
  /-- The odd factor. -/
  odd : Nat
  /-- The exponent of the power of two. -/
  exponent : Int

/-- A positive magnitude as an odd number times a power of two. -/
def Dyadic.ofMagnitude (m : Magnitude) : Dyadic :=
  let (odd, twos) := oddPart m.units
  ⟨odd, (twos : Int) - 1074⟩

/-! ## Exact square roots -/

/-- Newton's iteration for the whole square root, from above. -/
def squareRootFrom : Nat → Nat → Nat → Nat
  | 0, _, guess => guess
  | fuel + 1, n, guess =>
    let next := (guess + n / guess) / 2
    if next < guess then squareRootFrom fuel n next else guess

/-- The whole square root of a number, rounded down. -/
def squareRoot (n : Nat) : Nat :=
  if n = 0 then 0 else squareRootFrom (n.log2 + 2) n (1 <<< (n.log2 / 2 + 1))

/-- The square root of a dyadic number, when that is dyadic too. -/
def Dyadic.squareRoot? (x : Dyadic) : Option Dyadic :=
  let root := squareRoot x.odd
  if root * root = x.odd ∧ x.exponent % 2 = 0 then some ⟨root, x.exponent / 2⟩ else none

/-- Takes square roots of the base while the exponent `p / 2 ^ halvings` has a fraction and the root
is exact; the power stays the same. Returns the base reached and the halvings left. -/
def Dyadic.extractRoots (x : Dyadic) : Nat → Dyadic × Nat
  | 0 => (x, 0)
  | halvings + 1 =>
    match x.squareRoot? with
    | some root => root.extractRoots halvings
    | none => (x, halvings + 1)

/-! ## Exact powers -/

/-- The magnitude nearest to `odd * 2 ^ exponent` or to its reciprocal. -/
def ofDyadicPower (odd : Nat) (exponent : Int) (reciprocal : Bool) : Binary64 :=
  if reciprocal then
    let shift := 1074 - exponent
    if 0 ≤ shift then ofQuotient false (1 <<< shift.toNat) odd
    else ofQuotient false 1 (odd <<< (-shift).toNat)
  else
    let shift := exponent + 1074
    if 0 ≤ shift then ofQuotient false (odd <<< shift.toNat) 1
    else ofQuotient false odd (1 <<< (-shift).toNat)

/-- The power with the whole exponent `p`, negated if `reciprocal`, when its exact value is out of
range or short enough to be computed; nothing otherwise. -/
def exactPower? (x : Dyadic) (p : Nat) (reciprocal : Bool) : Option Binary64 :=
  let low : Int := x.odd.log2 + x.exponent
  let high : Int := if x.odd = 1 then low else low + 1
  -- the power of two that bounds the result from below, and the one from above
  let below : Int := if reciprocal then -(p * high) else p * low
  let above : Int := if reciprocal then -(p * low) else p * high
  if 1024 ≤ below then some (infinite false)
  else if above < -1075 then some zero
  else if x.odd = 1 ∨ p * (x.odd.log2 + 1) ≤ 4096 then
    some (ofDyadicPower (Nat.pow x.odd p) (x.exponent * p) reciprocal)
  else none

/-! ## Approximate powers -/

/-- Adds `term / (2 * i + 1)` for `i` from `index` on, the term shrinking by the factor `ratio` at
each step; numbers are scaled by `2 ^ bits`. -/
def oddSeries (bits ratio : Nat) : Nat → Nat → Nat → Nat → Nat
  | 0, _, _, sum => sum
  | fuel + 1, index, term, sum =>
    if term = 0 then sum
    else
      oddSeries bits ratio fuel (index + 1) ((term * ratio) >>> bits)
        (sum + term / (2 * index + 1))

/-- Twice the inverse hyperbolic tangent of `z`, both scaled by `2 ^ bits`. -/
def twiceArtanh (bits z : Nat) : Nat := 2 * oddSeries bits ((z * z) >>> bits) bits 0 z 0

/-- The natural logarithm of two, scaled by `2 ^ bits`. -/
def logTwo (bits : Nat) : Nat := twiceArtanh bits (1 <<< bits / 3)

/-- The natural logarithm of a positive dyadic number, scaled by `2 ^ bits`. With `x = f * 2 ^ k`
and `f` from one up to two, it is `k * ln 2 + 2 * artanh ((f - 1) / (f + 1))`. -/
def Dyadic.log (bits : Nat) (x : Dyadic) : Int :=
  let size := x.odd.log2
  let one := 1 <<< bits
  let f := (x.odd <<< bits) >>> size
  let fraction := twiceArtanh bits ((f - one) * one / (f + one))
  (x.exponent + size) * logTwo bits + fraction

/-- Adds the terms of the exponential series from `term` on; numbers are scaled by `2 ^ bits`. -/
def exponentialSeries (bits x : Nat) : Nat → Nat → Nat → Nat → Nat
  | 0, _, _, sum => sum
  | fuel + 1, index, term, sum =>
    if term = 0 then sum
    else
      exponentialSeries bits x fuel (index + 1) ((term * x) >>> bits / (index + 1)) (sum + term)

/-- The exponential of a number from zero up to one, scaled by `2 ^ bits`. -/
def exponential (bits x : Nat) : Nat := exponentialSeries bits x bits 0 (1 <<< bits) 0

/-- The magnitude nearest to `scaled * 2 ^ (shift - bits)`. -/
def ofScaled (bits scaled : Nat) (shift : Int) : Binary64 :=
  ofDyadicPower scaled (shift - bits) false

/-- The power computed with `bits` binary places: the number nearest to it, and whether the error
bound leaves no doubt about that. -/
def powerWithin (bits : Nat) (x : Dyadic) (p halvings : Nat) (reciprocal : Bool) :
    Binary64 × Bool :=
  let product := x.log bits * p
  let scaled := (if reciprocal then -product else product) / (1 <<< halvings : Nat)
  let two := logTwo bits
  let twos := scaled / two
  if 1100 < twos then (infinite false, true)
  else if twos < -1200 then (zero, true)
  else
    let fraction := exponential bits (scaled % two).toNat
    let margin := 1 <<< 80
    let low := ofScaled bits (fraction - margin) twos
    let high := ofScaled bits (fraction + margin) twos
    (low, low = high)

/-- The power computed with growing precision, until the error bound leaves no doubt. -/
def approximatePower (x : Dyadic) (p halvings : Nat) (reciprocal : Bool) : Binary64 :=
  let first := powerWithin 320 x p halvings reciprocal
  if first.2 then first.1
  else
    let second := powerWithin 640 x p halvings reciprocal
    if second.2 then second.1 else (powerWithin 1280 x p halvings reciprocal).1

/-! ## Powers -/

/-- A positive base other than one to a finite exponent other than zero, given as magnitudes and the
sign of the exponent. -/
def powerMagnitude (x y : Magnitude) (reciprocal : Bool) : Binary64 :=
  let (p, twos) := oddPart y.units
  let base := Dyadic.ofMagnitude x
  if 1074 ≤ twos then
    let whole := p <<< (twos - 1074)
    match exactPower? base whole reciprocal with
    | some result => result
    | none => approximatePower base whole 0 reciprocal
  else
    let (root, halvings) := base.extractRoots (1074 - twos)
    if halvings = 0 then
      match exactPower? root p reciprocal with
      | some result => result
      | none => approximatePower root p 0 reciprocal
    else
      approximatePower root p halvings reciprocal

/-- A whole number that is odd. -/
def isOdd : Binary64 → Bool
  | finite _ magnitude =>
    magnitude.units % Magnitude.unitsPerOne = 0 ∧ magnitude.units / Magnitude.unitsPerOne % 2 = 1
  | _ => false

/-- The power of two numbers without the sign of the base, when neither is the number that is none
and the exponent is not zero. -/
def powerOfAbs : Binary64 → Binary64 → Binary64
  | finite _ x, finite negative y =>
    if x.units = 0 then (if negative then infinite false else zero)
    else if x.units = Magnitude.unitsPerOne then one
    else powerMagnitude x y negative
  | finite _ x, infinite negative =>
    if x.units = Magnitude.unitsPerOne then one
    else if (Magnitude.unitsPerOne < x.units) = !negative then infinite false else zero
  | infinite _, finite negative _ => if negative then zero else infinite false
  | infinite _, infinite negative => if negative then zero else infinite false
  | notANumber, _ => notANumber
  | _, notANumber => notANumber

/-- The power `x ^ y`. -/
def power (x y : Binary64) : Binary64 :=
  if y.isZero then one
  else if x = one then one
  else
    match x, y with
    | notANumber, _ => notANumber
    | _, notANumber => notANumber
    | finite true _, finite _ _ =>
      if x.isBelowZero && !y.isWhole then notANumber
      else if y.isOdd then -powerOfAbs x y else powerOfAbs x y
    | infinite true, _ => if y.isOdd then -powerOfAbs x y else powerOfAbs x y
    | _, _ => powerOfAbs x y

end Binary64

end InfixCalculator
