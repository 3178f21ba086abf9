import InfixCalculator.Token.Evaluation

/-!
# The grammar of tokens

The grammar has a level for every operator and one below them for primaries. A primary is a number,
an expression between parentheses, or a sign in front of a primary. At the level of an operator
stands a row of operands of the level below with that operator between them, and an expression is of
the loosest level. Every row is read from the left.

`Yields` derives the value of a list of tokens together with the list: an operator is applied to the
values of its two sides, a sign negates, and what cannot be applied derives nothing. It says nothing
of stacks, so it is the measure for an evaluation that works with them.
-/

set_option autoImplicit false

namespace InfixCalculator

namespace Token

/-- The level of expressions: that of the operator that binds the loosest. -/
def expressionLevel : Nat := Operator.all.length

/-- A list of tokens is derived at a level with a value. Level zero is that of primaries, and an
operator's level is one above its rank. -/
inductive Yields : Nat → List Token → Binary64 → Prop where
  /-- A number. -/
  | number {t : Token} {x : Binary64} (kind : t.kind = .number) (reads : t.number = .ok x) :
      Yields 0 [t] x
  /-- An expression between parentheses. -/
  | group {opening closing : Token} {inner : List Token} {x : Binary64}
      (opens : opening.kind = .openParen) (closes : closing.kind = .closeParen)
      (inside : Yields expressionLevel inner x) :
      Yields 0 (opening :: inner ++ [closing]) x
  /-- A sign in front of a primary. -/
  | sign {t : Token} {rest : List Token} {x : Binary64} (kind : t.kind = .sign)
      (operand : Yields 0 rest x) : Yields 0 (t :: rest) (-x)
  /-- An operand of the level below. -/
  | lift {level : Nat} {tokens : List Token} {x : Binary64} (below : level < expressionLevel)
      (operand : Yields level tokens x) : Yields (level + 1) tokens x
  /-- An operator between a row of its own level and an operand of the level below. -/
  | apply {t : Token} {op : Operator} {left right : List Token} {x y z : Binary64}
      (kind : t.kind = .operator) (symbol : Operator.ofText? t.text = some op)
      (first : Yields (op.rank + 1) left x) (second : Yields op.rank right y)
      (value : op.apply x y = .ok z) : Yields (op.rank + 1) (left ++ t :: right) z

/-- What is derived at a level is derived at every looser one. -/
theorem Yields.mono {low high : Nat} {tokens : List Token} {x : Binary64}
    (h : Yields low tokens x) (order : low ≤ high) (top : high ≤ expressionLevel) :
    Yields high tokens x := by
  induction order with
  | refl => exact h
  | step _ ih => exact .lift top (ih (Nat.le_of_succ_le top))

end Token

end InfixCalculator
