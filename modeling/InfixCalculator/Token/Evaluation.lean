import InfixCalculator.Decimal.FreeForm
import InfixCalculator.Token.Basic
import InfixCalculator.Trace

/-!
# Evaluation of tokens by operator precedence

The grammar has one level for each operator, from the loosest to the tightest, every level being
left associative; a primary is a number, a group, or a sign in front of a primary.

No tree is built and nothing recurses on the nesting. Numbers wait on one stack, operators and open
groups on another, and an operator is applied as soon as one follows that binds as loosely or
looser.
-/

set_option autoImplicit false

namespace InfixCalculator

namespace Token

/-- What waits for its right operand or for its end. -/
inductive Pending where
  /-- An operator whose left operand is on the stack of values. -/
  | operator (op : Operator)
  /-- An open group, and whether its value is to be negated. -/
  | group (negate : Bool)
deriving DecidableEq

/-- The two stacks of an evaluation, their tops first. -/
structure Stacks where
  /-- The numbers that wait. -/
  values : List Binary64
  /-- The operators and open groups that wait. -/
  pending : List Pending

/-- What is expected next. -/
inductive Mode where
  /-- An operand, to be negated or not. -/
  | operand (negate : Bool)
  /-- An operator, or the end of a group or of the expression. -/
  | operator
deriving DecidableEq

/-- The number of a number token; it must be finite. -/
def number (t : Token) : Except Fault Binary64 :=
  match FreeForm.read? t.text with
  | none => .error (.unlocated (.unreadableNumber t.text))
  | some value =>
    if value.isFinite then .ok value else .error (.unlocated (.literalTooLarge t.text))

/-- A fault at the position of a token in the source. -/
def fault (source : Text) (t : Token) (cause : Cause) : Fault := .atPlace cause ⟨source, t.position⟩

/-- A marker can be put under the position of a token in the source. -/
def Markable (source : Text) (t : Token) : Prop := Location.obstacle? ⟨source, t.position⟩ = none

theorem fault_of_markable {source : Text} {t : Token} (markable : t.Markable source)
    (cause : Cause) :
    t.fault source cause = ⟨cause, some ⟨source, t.position⟩⟩ :=
      Fault.atPlace_of_markable cause markable

/-- Applies the waiting operators of a rank and tighter, down to the innermost open group. -/
def applyWaiting (rank : Nat) (values : List Binary64) : List Pending → Traced Stacks
  | .operator op :: pending =>
    if rank < op.rank then pure ⟨values, .operator op :: pending⟩
    else
      match values with
      | right :: left :: values =>
        match op.apply left right with
        | .error fault => .fail (.unlocated (.arithmetic fault))
        | .ok result => do
          .step (.evaluated left op right result)
          applyWaiting rank (result :: values) pending
      | _ => .fail (.unlocated .operandMissing)
  | pending => pure ⟨values, pending⟩

/-- Applies all operators that wait inside the innermost open group. -/
def applyAll (waiting : Stacks) : Traced Stacks :=
  applyWaiting (Operator.rank .add) waiting.values waiting.pending

/-- A token in place of an operand. -/
def takeOperand (source : Text) (next : Option Token) (negate : Bool) (waiting : Stacks)
    (t : Token) : Except Fault (Stacks × Mode) :=
  match t.kind with
  | .sign => .ok (waiting, .operand !negate)
  | .number => do
    let value ← t.number
    .ok ({ waiting with values := (if negate then -value else value) :: waiting.values }, .operator)
  | .openParen =>
    if next.any (·.kind = .closeParen) then .error (t.fault source .emptyGroup)
    else .ok ({ waiting with pending := .group negate :: waiting.pending }, .operand false)
  | .finish => .error (t.fault source .unexpectedEnd)
  | _ => .error (t.fault source (.unexpectedToken t.kind.name t.text))

/-- The group that a closing parenthesis ends is taken off the stack. -/
def closeGroup (source : Text) (t : Token) (waiting : Stacks) : Traced Stacks := do
  let waiting ← applyAll waiting
  match waiting.pending with
  | .group negate :: pending =>
    if negate then
      match waiting.values with
      | value :: values => pure ⟨-value :: values, pending⟩
      | [] => .fail (.unlocated .operandMissing)
    else pure ⟨waiting.values, pending⟩
  | _ => .fail (t.fault source .unmatchedClose)

/-- The value of the whole expression. -/
def conclude (source : Text) (t : Token) (waiting : Stacks) : Traced Binary64 := do
  let waiting ← applyAll waiting
  match waiting.pending, waiting.values with
  | [], value :: _ => pure value
  | [], [] => .fail (.unlocated .operandMissing)
  | _ :: _, _ => .fail (t.fault source (.closeExpected t.kind.name t.text))

/-- How far a token takes an evaluation. -/
inductive Advance where
  /-- The evaluation goes on with what waits now. -/
  | more (waiting : Stacks) (mode : Mode)
  /-- The evaluation is over. -/
  | done (value : Binary64)

/-- Takes one token; `next` is the token behind it. -/
def advance (source : Text) (next : Option Token) (waiting : Stacks) (mode : Mode) (t : Token) :
    Traced Advance :=
  match mode with
  | .operand negate => do
    let (waiting, mode) ← takeOperand source next negate waiting t
    pure (.more waiting mode)
  | .operator =>
    match t.kind with
    | .operator =>
      match Operator.get t.text with
      | .error unknown => .fail (.ofUnknown unknown)
      | .ok op => do
        let waiting ← applyWaiting op.rank waiting.values waiting.pending
        pure (.more ⟨waiting.values, .operator op :: waiting.pending⟩ (.operand false))
    | .closeParen => do
      let waiting ← closeGroup source t waiting
      pure (.more waiting .operator)
    | .finish => do
      let value ← conclude source t waiting
      pure (.done value)
    | _ => .fail (t.fault source (.unexpectedTokenAfterOperand t.text))

/-- Evaluates the rest of the tokens. -/
def run (source : Text) (waiting : Stacks) (mode : Mode) : List Token → Traced Binary64
  | [] => .fail (.located .unexpectedEnd source source.length)
  | t :: rest => do
    match ← advance source rest.head? waiting mode t with
    | .more waiting mode => run source waiting mode rest
    | .done value => pure value

/-- The value of a list of tokens, with zero positive. -/
def evaluate (tokens : List Token) (source : Text) : Traced Binary64 := do
  let value ← run source ⟨[], []⟩ (.operand false) tokens
  pure value.normalizeZero

end Token

end InfixCalculator
