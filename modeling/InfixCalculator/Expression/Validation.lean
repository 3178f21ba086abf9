import InfixCalculator.Decimal.Numeral
import InfixCalculator.Fault
import InfixCalculator.Text.Alphanumeric
import InfixCalculator.Text.Blank

/-!
# Validation of expressions

An expression is checked for its shape before it is evaluated, and returned without its blanks. A
minus is a sign only at the start of the expression or directly after an opening parenthesis; every
other operator stands between two operands. Blanks may stand anywhere except inside a numeral.

The scanner passes over the compacted text once, from left to right. It keeps the positions of the
groups that are still open and whether an operand is expected, and reports the first place where the
text goes wrong.
-/

set_option autoImplicit false

namespace InfixCalculator

namespace Expression

/-- A text that starts with a blank and has a part of a numeral after its leading blanks. -/
def blanksThenNumeral : Text → Bool
  | [] => false
  | c :: rest =>
    Text.isBlank c &&
      match rest.dropWhile Text.isBlank with
      | [] => false
      | d :: _ => Numeral.isPart d

/-- The position of the first blank between two parts of a numeral; `position` is that of the first
character of the text. -/
def blankInNumeral? : Nat → Text → Option Nat
  | _, [] => none
  | position, c :: rest =>
    if Numeral.isPart c && blanksThenNumeral rest then some (position + 1)
    else blankInNumeral? (position + 1) rest

/-- How far a scan has come. -/
structure Progress where
  /-- The number of characters passed. -/
  position : Nat
  /-- The last character passed. -/
  previous : Option Char
  /-- The positions of the groups that are open, the innermost first. -/
  openings : List Nat
  /-- Whether an operand is expected next. -/
  expectsOperand : Bool

namespace Progress

/-- Nothing has been passed and an operand is expected. -/
def start : Progress := ⟨0, none, [], true⟩

/-- After one more character. -/
def advance (p : Progress) (c : Char) (openings : List Nat) (expectsOperand : Bool) : Progress :=
  ⟨p.position + 1, some c, openings, expectsOperand⟩

end Progress

/-- The fault of an operator symbol where an operand is expected; a sign is none. -/
def signFault? (previous : Option Char) (c : Char) : Option Cause :=
  match previous with
  | none => if c = '-' then none else some (.operandMissingBefore c)
  | some before =>
    if c = '-' ∧ before = '(' then none
    else if Operator.isSymbol before then some (.operatorSequence before c)
    else some (.operandMissingBefore c)

/-- The fault of a character that starts no part of an expression. -/
def strayFault (c : Char) (expectsOperand : Bool) : Cause :=
  if (Text.isAlphanumeric c || c = '_') && expectsOperand then .unexpectedCharacter c
  else .unknownOperator [c]

/-- Whether a text goes on with a point. -/
def startsWithPoint : Text → Bool
  | '.' :: _ => true
  | _ => false

/-- Checks the rest of a compacted expression. -/
def check (whole : Text) (p : Progress) (rest : Text) : Except Fault Unit :=
  match rest with
  | [] =>
    match p.openings with
    | opening :: _ => .error (.located .unmatchedOpen whole opening)
    | [] =>
      if p.expectsOperand then .error (.located .trailingOperator whole (whole.length - 1))
      else .ok ()
  | c :: tail =>
    if c = '(' then
      if !p.expectsOperand then .error (.located .operatorMissingBeforeGroup whole p.position)
      else if tail.head? = some ')' then .error (.located .emptyGroup whole p.position)
      else check whole (p.advance c (p.position :: p.openings) true) tail
    else if c = ')' then
      match p.openings with
      | [] => .error (.located .unmatchedClose whole p.position)
      | _ :: openings =>
        if p.expectsOperand then .error (.located .operandMissingBeforeClose whole p.position)
        else check whole (p.advance c openings false) tail
    else if Numeral.isPart c then
      if !p.expectsOperand then .error (.located .operatorMissingBeforeNumeral whole p.position)
      else
        match _found : Numeral.scan (c :: tail) with
        | none => .error (.located .malformedNumeral whole p.position)
        | some (numeral, after) =>
          if startsWithPoint after then .error (.located .malformedNumeral whole p.position)
          else
            check whole ⟨p.position + numeral.length, numeral.getLast?, p.openings, false⟩ after
    else if Operator.isSymbol c then
      match if p.expectsOperand then signFault? p.previous c else none with
      | some cause => .error (.located cause whole p.position)
      | none => check whole (p.advance c p.openings true) tail
    else .error (.located (strayFault c p.expectsOperand) whole p.position)
termination_by rest.length
decreasing_by
  · exact Nat.lt_succ_self _
  · exact Nat.lt_succ_self _
  · exact Numeral.length_lt_of_scan _found
  · exact Nat.lt_succ_self _

/-- The expression without its blanks, if its shape is right. -/
def validate (expression : Text) : Except Fault Text :=
  if expression.strip = [] then .error (.unlocated .emptyExpression)
  else
    match blankInNumeral? 0 expression with
    | some position => .error (.located .blankInNumeral expression position)
    | none =>
      let compact := expression.compact
      match check compact .start compact with
      | .error fault => .error fault
      | .ok () => .ok compact

end Expression

end InfixCalculator
