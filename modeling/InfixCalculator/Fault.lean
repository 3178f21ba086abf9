import InfixCalculator.Decimal.Notation
import InfixCalculator.Operator
import InfixCalculator.Text.Quoted

/-!
# Faults

A fault is a cause together with the place it was found at, if there is one: a text and a position
in it. Causes say what is wrong in terms of the calculator; `Cause.message` words each of them and
`Cause.kind` sorts them into the kinds of error that a user can tell apart.

A diagnostic is what a user sees: a kind, a message and a place. Shown in full, the text follows the
message on a line of its own with a marker under the position. The line with the marker is made as
soon as a diagnostic is built (`Diagnostic.build`), and where that cannot be done, the failure to do
it takes the place of the diagnostic. No position inside a text comes to that, but tokens may have
any.
-/

set_option autoImplicit false

namespace InfixCalculator

/-- A place in a text. -/
structure Location where
  /-- The text that the position refers to. -/
  text : Text
  /-- The offset of the place, from zero. -/
  position : Int
deriving DecidableEq

/-- Why a marker cannot be put under a place. -/
inductive Location.Obstacle where
  /-- The position is no number that a text can be indexed with. -/
  | unaddressable
  /-- The line with the marker would be larger than any memory. -/
  | outOfMemory
deriving DecidableEq

/-- The name of the error that an obstacle leads to. -/
def Location.Obstacle.name : Location.Obstacle → String
  | unaddressable => "OverflowError"
  | outOfMemory => "MemoryError"

/-- What keeps a marker from being put under a place. A position inside a text can be marked,
because the line with the marker is no longer than that of the text. From which position on a line
takes up more than the memory there is hangs on the machine; here it is one of 64 GiB. -/
def Location.obstacle? (location : Location) : Option Location.Obstacle :=
  if 0 ≤ location.position ∧ location.position ≤ location.text.length then none
  else if 1 <<< 63 ≤ location.position.natAbs ∧ location.position ≠ -(1 <<< 63) then
    some .unaddressable
  else if 1 <<< 36 ≤ location.position then some .outOfMemory
  else none

/-- A position inside a text can be marked. -/
theorem Location.obstacle?_of_inside {text : Text} {position : Int} (nonneg : 0 ≤ position)
    (inside : position ≤ text.length) : obstacle? ⟨text, position⟩ = none :=
  if_pos ⟨nonneg, inside⟩

/-! ## Diagnostics -/

/-- The kinds of errors. -/
inductive Diagnostic.Kind where
  /-- An error of no particular kind. -/
  | general
  /-- A malformed expression. -/
  | invalidExpression
  /-- A symbol that is no operator stands where an operator is expected. -/
  | unknownOperator (symbol : Text)
  /-- A division by zero. -/
  | divisionByZero
  /-- A number that is not finite. -/
  | numericOverflow
  /-- An unknown engine or invalid settings. -/
  | configuration
  /-- An error that is none of the calculator's own. -/
  | foreign (name : String)
deriving DecidableEq

/-- The name of a kind of errors. -/
def Diagnostic.Kind.name : Diagnostic.Kind → String
  | general => "CalcError"
  | invalidExpression => "InvalidExpressionError"
  | unknownOperator _ => "UnknownOperatorError"
  | divisionByZero => "DivisionByZeroError"
  | numericOverflow => "NumericOverflowError"
  | configuration => "ConfigurationError"
  | foreign name => name

/-- An error as it is shown to a user. -/
structure Diagnostic where
  /-- The kind of error. -/
  kind : Diagnostic.Kind
  /-- What went wrong. -/
  message : Text
  /-- Where it went wrong. -/
  location : Option Location
deriving DecidableEq

namespace Diagnostic

/-- The text of a place and a line with a marker under the position. -/
def showLocation (location : Location) : Text :=
  ' ' :: ' ' :: location.text ++ '\n' :: ' ' :: ' '
    :: List.replicate location.position.toNat ' ' ++ ['^']

/-- The message, followed by the place on two lines of its own. -/
def render (d : Diagnostic) : Text :=
  match d.location with
  | some location => d.message ++ '\n' :: showLocation location
  | none => d.message

/-- The message for a symbol that is no operator. -/
def unknownOperatorMessage (symbol : Text) : Text := "Unknown operator: ".toList ++ symbol.quoted

/-- Builds a diagnostic, unless its place cannot be marked. -/
def build (kind : Kind) (message : Text) (location : Option Location) :
    Except Location.Obstacle Diagnostic :=
  match location.bind Location.obstacle? with
  | some obstacle => .error obstacle
  | none => .ok ⟨kind, message, location⟩

/-- The diagnostic for a symbol that is no operator. -/
def forUnknownOperator (symbol : Text) (location : Option Location) :
    Except Location.Obstacle Diagnostic :=
  build (.unknownOperator symbol) (unknownOperatorMessage symbol) location

/-- The diagnostic for a malformed expression; the place counts only if both its parts are known. -/
def forInvalidExpression (message : Text) (text : Option Text) (position : Option Int) :
    Except Location.Obstacle Diagnostic :=
  build .invalidExpression message <|
    match text, position with
    | some text, some position => some ⟨text, position⟩
    | _, _ => none

end Diagnostic

/-! ## Causes -/

/-- A reason why an expression cannot be evaluated. -/
inductive Cause where
  /-- There is nothing to evaluate. -/
  | emptyExpression
  /-- Blanks stand between two parts of a numeral. -/
  | blankInNumeral
  /-- A group follows an operand. -/
  | operatorMissingBeforeGroup
  /-- A numeral follows an operand. -/
  | operatorMissingBeforeNumeral
  /-- Nothing stands between parentheses. -/
  | emptyGroup
  /-- A closing parenthesis opens nothing. -/
  | unmatchedClose
  /-- An opening parenthesis is never closed. -/
  | unmatchedOpen
  /-- A group ends where an operand is expected. -/
  | operandMissingBeforeClose
  /-- A numeral has no digits or too many points. -/
  | malformedNumeral
  /-- Two operators in a row, the second being no sign. -/
  | operatorSequence (first second : Char)
  /-- An operator has no left operand. -/
  | operandMissingBefore (symbol : Char)
  /-- A letter stands where an operand is expected. -/
  | unexpectedCharacter (c : Char)
  /-- The expression ends where an operand is expected. -/
  | trailingOperator
  /-- A symbol is no operator. -/
  | unknownOperator (symbol : Text)
  /-- There is no group to find. -/
  | noGroup (text : Text)
  /-- An operator does not occur. -/
  | noOperator (symbol : Text) (text : Text)
  /-- The text left of an operator is no literal. -/
  | leftOperandMissing (symbol : Text)
  /-- The text right of an operator is no literal. -/
  | rightOperandMissing (symbol : Text)
  /-- A reduction step did not remove an operator. -/
  | irreducible
  /-- The text that is left after all reductions is no literal. -/
  | notReduced (text : Text)
  /-- A text is no literal. -/
  | notALiteral (text : Text)
  /-- A literal is past the end of the finite numbers. -/
  | literalTooLarge (text : Text)
  /-- A number token cannot be read as a number. -/
  | unreadableNumber (text : Text)
  /-- The tokens end inside an expression. -/
  | unexpectedEnd
  /-- A token stands where an operand is expected. -/
  | unexpectedToken (kind : Text) (text : Text)
  /-- A token stands where an operator is expected. -/
  | unexpectedTokenAfterOperand (text : Text)
  /-- The tokens end inside a group. -/
  | closeExpected (kind : Text) (text : Text)
  /-- An operator finds too few operands waiting. -/
  | operandMissing
  /-- An operator cannot be applied to its operands. -/
  | arithmetic (fault : ArithmeticFault)
  /-- Something is wrong at a place that no marker can be put under. -/
  | unmarkable (obstacle : Location.Obstacle)
deriving DecidableEq

namespace ArithmeticFault

/-- The kind of error that a fault of arithmetic is. -/
def kind : ArithmeticFault → Diagnostic.Kind
  | divisionByZero _ => .divisionByZero
  | zeroToNegativePower _ => .divisionByZero
  | powerOverflow _ _ => .numericOverflow
  | notFinite _ _ => .numericOverflow

/-- What is said about a fault of arithmetic. -/
def message : ArithmeticFault → Text
  | divisionByZero dividend => "Division by zero: ".toList ++ dividend.plain ++ "/0".toList
  | zeroToNegativePower exponent =>
    "Zero cannot be raised to a negative power: 0^".toList ++ exponent.natural
  | powerOverflow base exponent =>
    "Power overflows: ".toList ++ base.natural ++ '^' :: exponent.natural
  | notFinite operator result =>
    "Result of ".toList ++ Text.quoted [operator.symbol] ++ " is not a finite number: ".toList
      ++ result.natural

end ArithmeticFault

namespace Cause

/-- The kind of error that a cause leads to. -/
def kind : Cause → Diagnostic.Kind
  | unknownOperator symbol => .unknownOperator symbol
  | literalTooLarge _ => .numericOverflow
  | arithmetic fault => fault.kind
  | unreadableNumber _ => .foreign "ValueError"
  | operandMissing => .foreign "IndexError"
  | unmarkable obstacle => .foreign obstacle.name
  | _ => .invalidExpression

/-- What is said about a cause. -/
def message : Cause → Text
  | emptyExpression => "Expression is empty".toList
  | blankInNumeral => "Whitespace inside a number".toList
  | operatorMissingBeforeGroup => "Missing operator before '('".toList
  | operatorMissingBeforeNumeral => "Missing operator before number".toList
  | emptyGroup => "Empty parentheses".toList
  | unmatchedClose => "Unmatched ')'".toList
  | unmatchedOpen => "Unmatched '('".toList
  | operandMissingBeforeClose => "Missing operand before ')'".toList
  | malformedNumeral => "Malformed number".toList
  | operatorSequence first second =>
    "Disallowed operator sequence ".toList ++ Text.quoted [first, second]
  | operandMissingBefore symbol => "Missing operand before ".toList ++ Text.quoted [symbol]
  | unexpectedCharacter c => "Unexpected character: ".toList ++ Text.quoted [c]
  | trailingOperator => "Expression ends with an operator".toList
  | unknownOperator symbol => Diagnostic.unknownOperatorMessage symbol
  | noGroup text => "No parentheses in ".toList ++ text.quoted
  | noOperator symbol text =>
    "No ".toList ++ symbol.quoted ++ " operator in ".toList ++ text.quoted
  | leftOperandMissing symbol => "Missing left operand for ".toList ++ symbol.quoted
  | rightOperandMissing symbol => "Missing right operand for ".toList ++ symbol.quoted
  | irreducible => "Expression cannot be reduced".toList
  | notReduced text => "Expression did not reduce to a number: ".toList ++ text.quoted
  | notALiteral text => "Not a number: ".toList ++ text.quoted
  | literalTooLarge text => "Number is too large: ".toList ++ text
  | unreadableNumber text => "Number cannot be read: ".toList ++ text.quoted
  | unexpectedEnd => "Unexpected end of expression".toList
  | unexpectedToken kind text =>
    "Unexpected token: ".toList ++ kind ++ " (".toList ++ text.quoted ++ [')']
  | unexpectedTokenAfterOperand text =>
    "Unexpected token after expression: ".toList ++ text.quoted
  | closeExpected kind text =>
    "Expected rparen, got ".toList ++ kind ++ " (".toList ++ text.quoted ++ [')']
  | operandMissing => "Operand missing".toList
  | arithmetic fault => fault.message
  | unmarkable _ => "Position cannot be marked".toList

end Cause

/-! ## Faults -/

/-- A cause and the place it was found at. -/
structure Fault where
  /-- What is wrong. -/
  cause : Cause
  /-- Where it is wrong. -/
  location : Option Location
deriving DecidableEq

namespace Fault

/-- A fault at a position inside a text. -/
def located (cause : Cause) (text : Text) (position : Nat) : Fault := ⟨cause, some ⟨text, position⟩⟩

/-- A fault without a place. -/
def unlocated (cause : Cause) : Fault := ⟨cause, none⟩

/-- A fault at a place anywhere. Where its diagnostic cannot be built, that is the fault. -/
def atPlace (cause : Cause) (location : Location) : Fault :=
  match Diagnostic.build cause.kind cause.message (some location) with
  | .ok _ => ⟨cause, some location⟩
  | .error obstacle => .unlocated (.unmarkable obstacle)

/-- The fault of a symbol that stands for no operator. -/
def ofUnknown (unknown : Operator.Unknown) : Fault := .unlocated (.unknownOperator unknown.symbol)

/-- The kind of error that a fault is. -/
def kind (fault : Fault) : Diagnostic.Kind := fault.cause.kind

/-- The fault as it is shown to a user. -/
def diagnostic (fault : Fault) : Diagnostic :=
  ⟨fault.kind, fault.cause.message, fault.location⟩

/-! ## Small facts -/

theorem atPlace_of_obstacle {cause : Cause} {location : Location} {obstacle : Location.Obstacle}
    (found : location.obstacle? = some obstacle) :
    atPlace cause location = .unlocated (.unmarkable obstacle) := by
  rw [atPlace, Diagnostic.build, Option.bind_some, found]

theorem atPlace_of_markable (cause : Cause) {location : Location}
    (free : location.obstacle? = none) :
    atPlace cause location = ⟨cause, some location⟩ := by
  rw [atPlace, Diagnostic.build, Option.bind_some, free]

end Fault

end InfixCalculator
