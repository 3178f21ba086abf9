import InfixCalculator.Expression.Validation
import InfixCalculator.Reduction.Nested
import InfixCalculator.Text.LetterCase
import InfixCalculator.Token.Evaluation
import InfixCalculator.Token.Scan

/-!
# Engines

Two engines evaluate expressions. One reduces the text, opening groups and replacing binary
expressions with their values in the order of the operators. The other scans the text into tokens
and evaluates them by operator precedence. Both validate the expression first, in the same way.
-/

set_option autoImplicit false

namespace InfixCalculator

/-- A way of evaluating expressions. -/
inductive Engine where
  /-- Reduction of the text. -/
  | reduce
  /-- Evaluation of tokens by precedence. -/
  | precedence
deriving DecidableEq

namespace Engine

/-- The engines, the default one first. -/
def all : List Engine := [reduce, precedence]

/-- The name an engine is chosen by. -/
def name : Engine → Text
  | reduce => "reduce".toList
  | precedence => "precedence".toList

/-- The name of an engine as it is shown for inspection. -/
def label : Engine → Text
  | reduce => "ReductionEngine()".toList
  | precedence => "PrecedenceEngine()".toList

/-- The engine with exactly this name. -/
def ofName? (name : Text) : Option Engine := all.find? (·.name = name)

/-- The names of all engines, for a list in a sentence. -/
def names : Text := Text.join ", ".toList (all.map name)

/-- The engine that a user asks for, in any case and with blanks around it; the default one when
nothing is asked for. -/
def choose (request : Option Text) : Except Diagnostic Engine :=
  match request with
  | none => .ok .reduce
  | some [] => .ok .reduce
  | some asked =>
    match ofName? asked.strip.lower with
    | some engine => .ok engine
    | none =>
      .error ⟨.configuration,
        "Unknown engine: ".toList ++ asked.quoted ++ ". Available: ".toList ++ names, none⟩

/-- Evaluates a validated expression by reduction. -/
def evaluateByReduction (compact : Text) : Traced Binary64 := do
  let literal ← Nested.reduce compact
  let value ← parseNumber literal.text
  pure value.normalizeZero

/-- Evaluates a validated expression by precedence. -/
def evaluateByPrecedence (compact : Text) : Traced Binary64 := do
  let tokens ← Token.scan compact
  Token.evaluate tokens compact

/-- Evaluates an expression. -/
def evaluate (engine : Engine) (expression : Text) : Traced Binary64 := do
  let compact ← Expression.validate expression
  .step (.validated compact)
  match engine with
  | reduce => evaluateByReduction compact
  | precedence => evaluateByPrecedence compact

end Engine

end InfixCalculator
