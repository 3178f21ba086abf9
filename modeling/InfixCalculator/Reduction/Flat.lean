import InfixCalculator.Decimal.Numeral
import InfixCalculator.Decimal.Notation
import InfixCalculator.Trace

/-!
# Reduction of flat expressions

A flat expression is a text without parentheses. It is reduced one operator at a time, in the order
of application and leftmost first, by replacing a binary expression in the text with its value.

Signs and operators share the minus. It is binary only directly after a digit or a point; a minus at
the start of the text or after another operator is the sign of the literal that follows. Before and
during the additive operators `+-` is written `-`, which is safe once the other operators are gone.
-/

set_option autoImplicit false

namespace InfixCalculator

/-! ## Reading literals -/

/-- The number that a literal stands for; it must be finite. -/
def parseNumber (text : Text) : Except Fault Binary64 :=
  if Literal.isLiteral text then
    let value := Literal.toBinary64 text
    if value.isFinite then .ok value else .error (.unlocated (.literalTooLarge text))
  else .error (.unlocated (.notALiteral text))

namespace Flat

/-! ## Binary operators of a flat text -/

/-- The first place where a symbol directly follows a part of a numeral. `passed` holds the
characters already passed, the nearest first; the result is what stands before the symbol, again the
nearest first, and what follows it. -/
def splitBinary? (symbol : Char) : Text → Text → Option (Text × Text)
  | _, [] => none
  | [], c :: rest => splitBinary? symbol [c] rest
  | before :: passed, c :: rest =>
    if c = symbol ∧ Numeral.isPart before then some (before :: passed, rest)
    else splitBinary? symbol (c :: before :: passed) rest

/-- The number of characters of a text that act as binary operators; `previous` is the character in
front of the text. -/
def countBinaryAfter : Option Char → Text → Nat
  | _, [] => 0
  | previous, c :: rest =>
    (if Operator.isSymbol c && previous.any Numeral.isPart then 1 else 0)
      + countBinaryAfter (some c) rest

/-- The number of characters of a text that act as binary operators. -/
def countBinary (text : Text) : Nat := countBinaryAfter none text

/-- The first place where a symbol acts as a binary operator; only one character can. -/
def findBinary? (text symbol : Text) : Option (Text × Text) :=
  match symbol with
  | [c] => splitBinary? c [] text
  | _ => none

/-- Whether an operator occurs as a binary operator. -/
def containsBinary (text : Text) (op : Operator) : Bool := (findBinary? text [op.symbol]).isSome

/-- Whether the operator with a symbol occurs as a binary operator; there must be one. -/
def containsSymbol (text symbol : Text) : Except Fault Bool :=
  ((Operator.get symbol).mapError Fault.ofUnknown).map (containsBinary text)

/-- Writes `+-` as `-`. -/
def collapseSigns : Text → Text
  | '+' :: '-' :: rest => '-' :: collapseSigns rest
  | c :: rest => c :: collapseSigns rest
  | [] => []

/-! ## Binary expressions inside a flat text -/

/-- A binary expression inside a text. -/
structure BinaryExpression where
  /-- The text in front of the left operand. -/
  head : Text
  /-- The left operand. -/
  left : Text
  /-- The operator symbol. -/
  symbol : Text
  /-- The right operand. -/
  right : Text
  /-- The text behind the right operand. -/
  tail : Text
deriving DecidableEq

namespace BinaryExpression

/-- The position of the left operand. -/
def start (b : BinaryExpression) : Nat := b.head.length

/-- The position of the operator. -/
def index (b : BinaryExpression) : Nat := b.head.length + b.left.length

/-- The position after the right operand. -/
def stop (b : BinaryExpression) : Nat := b.index + b.symbol.length + b.right.length

end BinaryExpression

/-- Whether a minus is a sign, given what stands before it, the nearest first. -/
def isSignAfter : Text → Bool
  | [] => true
  | c :: _ => Operator.isSymbol c || c = '('

/-- The operand at the end of a text whose characters are given in reverse, and what stands before
it, in reverse too. A sign belongs to the operand. -/
def leftOperand (before : Text) : Text × Text :=
  let digits := (before.takeWhile Numeral.isPart).reverse
  match before.dropWhile Numeral.isPart with
  | '-' :: head => if isSignAfter head then ('-' :: digits, head) else (digits, '-' :: head)
  | head => (digits, head)

/-- The operand at the start of a text, and what follows it. A minus belongs to the operand. -/
def rightOperand : Text → Text × Text
  | '-' :: rest => ('-' :: rest.takeWhile Numeral.isPart, rest.dropWhile Numeral.isPart)
  | rest => (rest.takeWhile Numeral.isPart, rest.dropWhile Numeral.isPart)

/-- The leftmost binary expression with a symbol. Both operands must be literals. -/
def extractBinary (text symbol : Text) : Except Fault BinaryExpression :=
  match findBinary? text symbol with
  | none => .error (.unlocated (.noOperator symbol text))
  | some (before, after) =>
    let (left, head) := leftOperand before
    let (right, tail) := rightOperand after
    let found : BinaryExpression := ⟨head.reverse, left, symbol, right, tail⟩
    if !Literal.isLiteral left then .error (.located (.leftOperandMissing symbol) text found.index)
    else if !Literal.isLiteral right then
      .error (.located (.rightOperandMissing symbol) text found.index)
    else .ok found

/-! ## Reduction -/

/-- Whether `+-` is written `-` while an operator is applied. -/
def collapses (op : Operator) : Bool := Operator.rank .subtract ≤ op.rank

theorem collapses_subtract : collapses .subtract = true := rfl

/-- A text as it is kept while an operator is applied. -/
def settle (op : Operator) (text : Text) : Text := if collapses op then collapseSigns text else text

/-- The value of a binary expression. -/
def BinaryExpression.value (op : Operator) (b : BinaryExpression) : Except Fault Binary64 := do
  let x ← parseNumber b.left
  let y ← parseNumber b.right
  match op.apply x y with
  | .ok value => .ok value
  | .error fault => .error (.unlocated (.arithmetic fault))

/-- The text with the leftmost binary expression of an operator replaced by its value, and the step
that did it. -/
def reduceOnce (op : Operator) (text : Text) : Except Fault (Text × Step) := do
  let found ← extractBinary text [op.symbol]
  let value ← found.value op
  let reduced := settle op (found.head ++ value.plain ++ found.tail)
  if countBinary text ≤ countBinary reduced then
    .error (.located .irreducible text found.start)
  else
    .ok (reduced, .reduced found.left op found.right text reduced)

/-- A step leaves fewer binary operators. -/
theorem countBinary_lt_of_reduceOnce {op : Operator} {text reduced : Text} {step : Step}
    (h : reduceOnce op text = .ok (reduced, step)) : countBinary reduced < countBinary text := by
  unfold reduceOnce at h
  cases found : extractBinary text [op.symbol] with
  | error fault => rw [found] at h; cases h
  | ok b =>
    rw [found] at h
    simp only [bind, Except.bind] at h
    cases value : b.value op with
    | error fault => rw [value] at h; cases h
    | ok x =>
      rw [value] at h
      dsimp only at h
      split at h
      · cases h
      · cases h; omega

/-- Applies an operator, leftmost first, until it no longer occurs. -/
def reduceOperator (op : Operator) (text : Text) : Traced Text :=
  if containsBinary text op then
    match _taken : reduceOnce op text with
    | .error fault => .fail fault
    | .ok (reduced, step) => do
      .step step
      reduceOperator op reduced
  else pure text
termination_by countBinary text
decreasing_by exact countBinary_lt_of_reduceOnce _taken

/-- Applies operators one after another. -/
def reduceOperators : List Operator → Text → Traced Text
  | [], text => pure text
  | op :: rest, text => do
    let reduced ← reduceOperator op (settle op text)
    reduceOperators rest reduced

/-- Reduces a flat text to a literal. -/
def reduce (text : Text) : Traced Literal := do
  let result ← reduceOperators Operator.all text
  if valid : Literal.isLiteral result = true then pure ⟨result, valid⟩
  else .fail (.unlocated (.notReduced result))

end Flat

end InfixCalculator
