import InfixCalculator.Text.Quoted

/-!
# Tokens

A token is a piece of an expression: a numeral, an operator, a sign, a parenthesis, or the end. It
keeps the text it was made from and the position of its first character.
-/

set_option autoImplicit false

namespace InfixCalculator

/-- The kinds of tokens. -/
inductive Token.Kind where
  /-- A number, with the sign folded into it if it has one. -/
  | number
  /-- A binary operator. -/
  | operator
  /-- A sign in front of a group. -/
  | sign
  /-- An opening parenthesis. -/
  | openParen
  /-- A closing parenthesis. -/
  | closeParen
  /-- The end of the expression. -/
  | finish
deriving DecidableEq

/-- The name a kind of tokens is shown with. -/
def Token.Kind.name : Token.Kind → Text
  | number => "number".toList
  | operator => "operator".toList
  | sign => "sign".toList
  | openParen => "lparen".toList
  | closeParen => "rparen".toList
  | finish => "eof".toList

/-- The kind with a name. -/
def Token.Kind.ofName? (name : Text) : Option Token.Kind :=
  [number, operator, sign, openParen, closeParen, finish].find? (·.name = name)

/-- A piece of an expression. -/
structure Token where
  /-- What the piece is. -/
  kind : Token.Kind
  /-- The text it was made from. -/
  text : Text
  /-- The position of its first character. -/
  position : Int
deriving DecidableEq

namespace Token

/-- A token as it is shown for inspection. -/
def describe (t : Token) : Text :=
  "Token(".toList ++ t.kind.name ++ ", ".toList ++ t.text.quoted ++ ", pos=".toList
    ++ Text.ofInt t.position ++ [')']

end Token

end InfixCalculator
