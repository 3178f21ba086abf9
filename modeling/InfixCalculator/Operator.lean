import InfixCalculator.Binary64.Power
import InfixCalculator.Text.Basic

/-!
# Operators

The five binary operators, from the one applied first to the one applied last. Every operator is
left associative. Subtraction comes before addition: a minus at the start of an expression is the
sign of its first operand, and applying every subtraction before any addition keeps that reading
unambiguous.

Applying an operator gives a finite number that is not negative zero, or one of four faults.
-/

set_option autoImplicit false

namespace InfixCalculator

/-- A binary operator. -/
inductive Operator where
  /-- Raising to a power. -/
  | power
  /-- Division. -/
  | divide
  /-- Multiplication. -/
  | multiply
  /-- Subtraction. -/
  | subtract
  /-- Addition. -/
  | add
deriving DecidableEq, Repr

/-- What can go wrong when an operator is applied. -/
inductive ArithmeticFault where
  /-- The divisor is zero. -/
  | divisionByZero (dividend : Binary64)
  /-- Zero is raised to a power below zero. -/
  | zeroToNegativePower (exponent : Binary64)
  /-- The power of two finite numbers is too large. -/
  | powerOverflow (base exponent : Binary64)
  /-- The result is an infinity or no number. -/
  | notFinite (operator : Operator) (result : Binary64)
deriving DecidableEq

namespace Operator

/-- The operators in the order in which they are applied. -/
def all : List Operator := [power, divide, multiply, subtract, add]

/-- The character an operator is written with. -/
def symbol : Operator → Char
  | power => '^'
  | divide => '/'
  | multiply => '*'
  | subtract => '-'
  | add => '+'

/-- The name an operator is listed under. -/
def name : Operator → String
  | power => "POWER"
  | divide => "DIVIDE"
  | multiply => "MULTIPLY"
  | subtract => "SUBTRACT"
  | add => "ADD"

/-- The place of an operator in the order of application, from zero. -/
def rank : Operator → Nat
  | power => 0
  | divide => 1
  | multiply => 2
  | subtract => 3
  | add => 4

/-- The name with the symbol in parentheses. -/
def label (op : Operator) : Text := op.name.toList ++ ['(', op.symbol, ')']

/-- The operator that a character stands for. -/
def ofSymbol? (c : Char) : Option Operator := all.find? (·.symbol = c)

/-- Whether a character stands for an operator. -/
def isSymbol (c : Char) : Bool := (ofSymbol? c).isSome

/-- The operator that a text stands for: it must be the one character of its symbol. -/
def ofText? : Text → Option Operator
  | [c] => ofSymbol? c
  | _ => none

/-- A symbol that stands for no operator. -/
structure Unknown where
  /-- The symbol. -/
  symbol : Text
deriving DecidableEq

/-- The operator that a text stands for, which there must be. -/
def get (symbol : Text) : Except Unknown Operator :=
  match ofText? symbol with
  | some op => .ok op
  | none => .error ⟨symbol⟩

/-- The operator symbols in a text, each with its position. -/
def occurrences (text : Text) : List (Nat × Char) :=
  (text.zipIdx.filter fun (c, _) => isSymbol c).map fun (c, position) => (position, c)

/-! ## Arithmetic -/

/-- Raises to a power. A base below zero keeps its sign when the exponent has a fraction. -/
def raise (x y : Binary64) : Except ArithmeticFault Binary64 :=
  if x.isZero && y.isFinite && y.isBelowZero then .error (.zeroToNegativePower y)
  else
    let result := if y.isWhole || x.isAtLeastZero then x.power y else -(x.abs.power y)
    if x.isFinite && y.isFinite && !result.isFinite then .error (.powerOverflow x y)
    else .ok result

/-- The result of an operator before it is checked. -/
def compute : Operator → Binary64 → Binary64 → Except ArithmeticFault Binary64
  | power, x, y => raise x y
  | divide, x, y => if y.isZero then .error (.divisionByZero x) else .ok (x / y)
  | multiply, x, y => .ok (x * y)
  | subtract, x, y => .ok (x - y)
  | add, x, y => .ok (x + y)

/-- The result of applying an operator: finite, and with zero positive. -/
def apply (op : Operator) (x y : Binary64) : Except ArithmeticFault Binary64 :=
  match op.compute x y with
  | .error fault => .error fault
  | .ok value =>
    if value.isFinite then .ok value.normalizeZero else .error (.notFinite op value.normalizeZero)

/-! ## Small facts -/

theorem ofSymbol?_symbol (op : Operator) : ofSymbol? op.symbol = some op := by
  cases op <;> decide

theorem symbol_of_ofSymbol? {c : Char} {op : Operator} (h : ofSymbol? c = some op) :
    op.symbol = c := by
  simpa using List.find?_some h

theorem isSymbol_iff {c : Char} : isSymbol c = true ↔ ∃ op : Operator, op.symbol = c := by
  constructor
  · intro h
    obtain ⟨op, found⟩ := Option.isSome_iff_exists.1 h
    exact ⟨op, symbol_of_ofSymbol? found⟩
  · rintro ⟨op, rfl⟩
    rw [isSymbol, ofSymbol?_symbol]
    rfl

theorem get_eq_ok {symbol : Text} {op : Operator} :
    get symbol = .ok op ↔ ofText? symbol = some op := by
  rw [get]
  cases ofText? symbol <;> simp

theorem get_eq_error {symbol : Text} {unknown : Unknown} :
    get symbol = .error unknown ↔ ofText? symbol = none ∧ unknown = ⟨symbol⟩ := by
  rw [get]
  cases ofText? symbol <;> simp [eq_comm]

/-- An operator symbol is no parenthesis. -/
theorem symbol_ne_parenthesis (op : Operator) : op.symbol ≠ '(' ∧ op.symbol ≠ ')' := by
  cases op <;> decide

end Operator

end InfixCalculator
