import InfixCalculator.Expression.Phrase

/-!
# The whole-number value of an expression

An expression of whole numerals, products, sums and differences has a value by the usual rules of
arithmetic: products first, sums and differences from left to right, and a minus in front of an
operand negates it. While an expression grows to the right its value has two parts, what has been
summed up and the product that may still grow (`Running`); the value is their sum.

The same expression with every minus taken for a plus bounds all values that can appear while it is
evaluated, in any order of its sums. `Bounded` says that this bound stays within a limit for an
expression and for every part of it.
-/

set_option autoImplicit false

namespace InfixCalculator

namespace Phrase

/-- The value of a chain that can still grow to the right. -/
structure Running (α : Type) where
  /-- The sum of the products that are complete. -/
  sum : α
  /-- The product that the last operand belongs to. -/
  product : α

/-- The value of a whole chain. -/
def Running.total {α : Type} [Add α] (r : Running α) : α := r.sum + r.product

/-- A chain with one more operator and operand; only products, sums and differences are known. -/
def Running.extend (r : Running Int) : Operator → Int → Option (Running Int)
  | .multiply, x => some ⟨r.sum, r.product * x⟩
  | .add, x => some ⟨r.total, x⟩
  | .subtract, x => some ⟨r.total, -x⟩
  | _, _ => none

/-- The value of a row of digits; other numerals have none. -/
def wholeNumeral (text : Text) : Option Nat :=
  if text.all Char.isDigit then some (Nat.ofDigitChars 10 text 0) else none

/-- The running value of a phrase, if it is made of whole numerals, products, sums and
differences. -/
def running : {role : Role} → Phrase role → Option (Running Int)
  | _, numeral text _ => (wholeNumeral text).map fun (n : Nat) => ⟨0, n⟩
  | _, group inner => inner.running.map fun r => ⟨0, r.total⟩
  | _, first negated operand =>
    operand.running.map fun r => ⟨0, if negated then -r.total else r.total⟩
  | _, next front op operand =>
    match front.running, operand.running with
    | some r, some x => r.extend op x.total
    | _, _ => none

/-- The whole-number value of a phrase. -/
def wholeValue {role : Role} (phrase : Phrase role) : Option Int := phrase.running.map Running.total

/-- The running value of a phrase with every minus taken for a plus; a numeral with a point and an
operator that is no product, sum or difference count for nothing. -/
def size : {role : Role} → Phrase role → Running Nat
  | _, numeral text _ => ⟨0, (wholeNumeral text).getD 0⟩
  | _, group inner => ⟨0, inner.size.total⟩
  | _, first _ operand => operand.size
  | _, next front .multiply operand =>
    ⟨front.size.sum, front.size.product * operand.size.total⟩
  | _, next front _ operand => ⟨front.size.total, operand.size.total⟩

/-- The size of every part of a phrase stays within a limit: of every numeral, of every group, and
of every product that is still growing. A sum with a product behind it is no part: in `1+2*3` there
is no `1+2`. -/
def PartsBounded (limit : Nat) : {role : Role} → Phrase role → Prop
  | _, phrase@(numeral _ _) => phrase.size.total ≤ limit
  | _, group inner => inner.PartsBounded limit ∧ inner.size.total ≤ limit
  | _, first _ operand => operand.PartsBounded limit
  | _, phrase@(next front _ operand) =>
    front.PartsBounded limit ∧ operand.PartsBounded limit ∧ phrase.size.product ≤ limit

/-- The size of a phrase and of every part of it stays within a limit. -/
def Bounded (limit : Nat) {role : Role} (phrase : Phrase role) : Prop :=
  phrase.PartsBounded limit ∧ phrase.size.total ≤ limit

instance decidablePartsBounded (limit : Nat) :
    {role : Role} → (phrase : Phrase role) → Decidable (phrase.PartsBounded limit)
  | _, numeral text valid => inferInstanceAs (Decidable ((numeral text valid).size.total ≤ limit))
  | _, group inner =>
    have := decidablePartsBounded limit inner
    inferInstanceAs (Decidable (inner.PartsBounded limit ∧ inner.size.total ≤ limit))
  | _, first _ operand => decidablePartsBounded limit operand
  | _, next front op operand =>
    have := decidablePartsBounded limit front
    have := decidablePartsBounded limit operand
    inferInstanceAs (Decidable (front.PartsBounded limit ∧ operand.PartsBounded limit
      ∧ (next front op operand).size.product ≤ limit))

instance (limit : Nat) {role : Role} (phrase : Phrase role) : Decidable (phrase.Bounded limit) :=
  inferInstanceAs (Decidable (_ ∧ _))

/-- The size of `1+1*0` and of its parts is at most one, although the size of `1+1` is two. -/
example :
    let digit (c : Char) (valid : [c].all Char.isDigit = true) : Phrase .operand :=
      numeral [c] (.whole (List.cons_ne_nil c []) valid)
    Bounded 1 (next (next (first false (digit '1' rfl)) .add (digit '1' rfl)) .multiply
      (digit '0' rfl)) := by
  decide

end Phrase

end InfixCalculator
