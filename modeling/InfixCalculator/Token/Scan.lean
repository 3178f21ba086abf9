import InfixCalculator.Expression.Validation
import InfixCalculator.Token.Basic

/-!
# Scanning an expression into tokens

Spaces, tabs, line feeds and carriage returns separate tokens and are skipped. A minus at the start
or directly after an opening parenthesis is a sign: in front of a numeral it becomes part of the
number, otherwise it is a token of its own. Every other operator symbol is an operator. The last
token marks the end.
-/

set_option autoImplicit false

namespace InfixCalculator

namespace Token

/-- A character that separates tokens. -/
def isSeparator (c : Char) : Bool := c = ' ' || c = '\t' || c = '\n' || c = '\r'

/-- Whether an operator may follow a token. -/
def endsOperand : Option Kind → Bool
  | some .number => true
  | some .closeParen => true
  | _ => false

/-- Whether a minus is a sign after a token. -/
def allowsSign : Option Kind → Bool
  | none => true
  | some .openParen => true
  | _ => false

/-- Whether a text starts with a part of a numeral. -/
def startsNumeral : Text → Bool
  | c :: _ => Numeral.isPart c
  | [] => false

/-- The numeral at the front of a text and the rest, unless it is malformed. -/
def scanNumeral? (text : Text) : Option (Text × Text) :=
  match Numeral.scan text with
  | none => none
  | some (numeral, rest) => if Expression.startsWithPoint rest then none else some (numeral, rest)

theorem length_lt_of_scanNumeral? {text numeral rest : Text}
    (h : scanNumeral? text = some (numeral, rest)) : rest.length < text.length := by
  unfold scanNumeral? at h
  split at h
  · cases h
  · rename_i found
    split at h
    · cases h
    · cases h; exact Numeral.length_lt_of_scan found

theorem length_dropWhile_le (p : Char → Bool) (text : Text) :
    (text.dropWhile p).length ≤ text.length :=
  (List.dropWhile_sublist p).length_le

/-- Scans the rest of an expression, which starts at a position; `last` is the kind of the token
before it. -/
def scanFrom (whole : Text) (position : Nat) (last : Option Kind) (rest : Text) :
    Except Fault (List Token) :=
  match rest with
  | [] => .ok [⟨.finish, [], position⟩]
  | c :: tail =>
    if isSeparator c then scanFrom whole (position + 1) last tail
    else if Numeral.isPart c then
      match _found : scanNumeral? (c :: tail) with
      | none => .error (.located .malformedNumeral whole position)
      | some (numeral, after) =>
        (scanFrom whole (position + numeral.length) (some .number) after).map
          (⟨.number, numeral, position⟩ :: ·)
    else if c = '(' then
      (scanFrom whole (position + 1) (some .openParen) tail).map (⟨.openParen, [c], position⟩ :: ·)
    else if c = ')' then
      (scanFrom whole (position + 1) (some .closeParen) tail).map
        (⟨.closeParen, [c], position⟩ :: ·)
    else if c = '-' ∧ allowsSign last then
      let digits := tail.dropWhile isSeparator
      let skipped := position + 1 + (tail.length - digits.length)
      if startsNumeral digits then
        match _found : scanNumeral? digits with
        | none => .error (.located .malformedNumeral whole skipped)
        | some (numeral, after) =>
          (scanFrom whole (skipped + numeral.length) (some .number) after).map
            (⟨.number, '-' :: numeral, position⟩ :: ·)
      else (scanFrom whole (position + 1) (some .sign) tail).map (⟨.sign, [c], position⟩ :: ·)
    else if Operator.isSymbol c then
      (scanFrom whole (position + 1) (some .operator) tail).map (⟨.operator, [c], position⟩ :: ·)
    else .error (.located (Expression.strayFault c (!endsOperand last)) whole position)
termination_by rest.length
decreasing_by
  · exact Nat.lt_succ_self _
  · exact length_lt_of_scanNumeral? _found
  · exact Nat.lt_succ_self _
  · exact Nat.lt_succ_self _
  · have shorter := length_lt_of_scanNumeral? _found
    have skipping : digits.length ≤ tail.length := length_dropWhile_le isSeparator tail
    exact Nat.lt_succ_of_lt (Nat.lt_of_lt_of_le shorter skipping)
  · exact Nat.lt_succ_self _
  · exact Nat.lt_succ_self _

/-- The tokens of an expression. -/
def scan (source : Text) : Except Fault (List Token) := scanFrom source 0 none source

end Token

end InfixCalculator
