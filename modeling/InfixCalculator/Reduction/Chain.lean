import InfixCalculator.Decimal.Numeral
import InfixCalculator.Decimal.Notation
import InfixCalculator.Reduction.Flat

/-!
# Flat expressions as lists

A flat expression is an item followed by operators with an item each. Reducing it as a list takes no
notice of how the items are written one after another: the operators are applied in their order,
each leftmost first, by replacing an operator and its two neighbours with the result.

Once only sums and differences are left, the addition of an item with a minus is turned into the
subtraction of its opposite, before the differences are taken and after each of them. The sums come
last.

What the items are and how they are computed with is a parameter (`Chain.Rules`). A chain of numbers
is computed with by arithmetic alone (`Binary64.rules`). A `Row` is the text side: its items are
literals, written one after another with the operators between them.
-/

set_option autoImplicit false

namespace InfixCalculator

/-- An item, and operators with an item each. -/
structure Chain (α : Type) where
  /-- The first item. -/
  first : α
  /-- The operators and the items behind them. -/
  rest : List (Operator × α)

namespace Chain

variable {α ε : Type}

/-- How the items of a chain are computed with. -/
structure Rules (α ε : Type) where
  /-- The result of an operator. -/
  apply : Operator → α → α → Except ε α
  /-- Whether an item has a minus. -/
  isNegative : α → Bool
  /-- The item with its minus dropped, or with a minus if it has none. -/
  opposite : α → α

variable (rules : Rules α ε)

/-- Applies the leftmost of an operator in a chain; nothing when there is none. -/
def applyLeftmost? (op : Operator) :
    α → List (Operator × α) → Option (Except ε (Chain α))
  | _, [] => none
  | x, (other, y) :: rest =>
    if other = op then some ((rules.apply op x y).map fun z => ⟨z, rest⟩)
    else
      (applyLeftmost? op y rest).map fun applied =>
        applied.map fun chain => ⟨x, (other, chain.first) :: chain.rest⟩

/-- Applying an operator takes it out of the chain. -/
theorem length_of_applyLeftmost? {op : Operator} {x : α} {rest : List (Operator × α)}
    {chain : Chain α} (h : applyLeftmost? rules op x rest = some (.ok chain)) :
    chain.rest.length + 1 = rest.length := by
  induction rest generalizing x chain with
  | nil => cases h
  | cons item rest ih =>
    obtain ⟨other, y⟩ := item
    unfold applyLeftmost? at h
    split at h
    · cases applied : rules.apply op x y with
      | error fault => rw [applied] at h; cases h
      | ok z => rw [applied] at h; cases h; rfl
    · cases inner : applyLeftmost? rules op y rest with
      | none => rw [inner] at h; cases h
      | some applied =>
        rw [inner] at h
        cases applied with
        | error fault => cases h
        | ok chain => cases h; exact congrArg (· + 1) (ih inner)

/-- Turns the addition of an item with a minus into the subtraction of its opposite. -/
def turn : Operator × α → Operator × α
  | (.add, x) => if rules.isNegative x then (.subtract, rules.opposite x) else (.add, x)
  | item => item

/-- A chain as it is kept while an operator is applied. -/
def settle (op : Operator) (chain : Chain α) : Chain α :=
  if Flat.collapses op then ⟨chain.first, chain.rest.map (turn rules)⟩ else chain

theorem length_settle (op : Operator) (chain : Chain α) :
    (settle rules op chain).rest.length = chain.rest.length := by
  unfold settle
  split <;> simp

/-- Applies an operator, leftmost first, until it no longer occurs. -/
def applyOperator (op : Operator) (chain : Chain α) : Except ε (Chain α) :=
  match _applied : applyLeftmost? rules op chain.first chain.rest with
  | none => .ok chain
  | some (.error fault) => .error fault
  | some (.ok shorter) => applyOperator op (settle rules op shorter)
termination_by chain.rest.length
decreasing_by
  have shorter := length_of_applyLeftmost? rules _applied
  rw [length_settle]
  omega

/-- Applies operators one after another. -/
def applyOperators : List Operator → Chain α → Except ε (Chain α)
  | [], chain => .ok chain
  | op :: rest, chain =>
    match applyOperator rules op (settle rules op chain) with
    | .error fault => .error fault
    | .ok shorter => applyOperators rest shorter

/-- The item that a chain reduces to. -/
def reduce (chain : Chain α) : Except ε α :=
  (applyOperators rules Operator.all chain).map Chain.first

/-- A chain with every item replaced. -/
def map {β : Type} (f : α → β) (chain : Chain α) : Chain β :=
  ⟨f chain.first, chain.rest.map fun (op, x) => (op, f x)⟩

/-- Every item of a chain has a property. -/
def All (P : α → Prop) (chain : Chain α) : Prop := P chain.first ∧ ∀ item ∈ chain.rest, P item.2

/-- The operators of a chain, from left to right. -/
def operators (chain : Chain α) : List Operator := chain.rest.map Prod.fst

end Chain

/-- Chains of numbers are computed with by arithmetic. -/
def Binary64.rules : Chain.Rules Binary64 ArithmeticFault where
  apply := Operator.apply
  isNegative := isNegative
  opposite := neg

@[simp] theorem Binary64.rules_apply (op : Operator) (x y : Binary64) :
    Binary64.rules.apply op x y = op.apply x y := rfl

/-! ## Chains as they are written -/

/-- A literal, and operators with a literal each. -/
abbrev Row := Chain Literal

namespace Row

/-- The text of operators with a literal each. -/
def restText (rest : List (Operator × Literal)) : Text :=
  rest.flatMap fun (op, literal) => op.symbol :: literal.text

/-- The text of a row. -/
def text (row : Row) : Text := row.first.text ++ restText row.rest

@[simp] theorem restText_nil : restText [] = [] := rfl

@[simp] theorem restText_cons (op : Operator) (x : Literal) (rest : List (Operator × Literal)) :
    restText ((op, x) :: rest) = op.symbol :: (x.text ++ restText rest) := rfl

@[simp] theorem text_single (x : Literal) : text ⟨x, []⟩ = x.text := List.append_nil x.text

@[simp] theorem text_cons (x y : Literal) (op : Operator) (rest : List (Operator × Literal)) :
    text ⟨x, (op, y) :: rest⟩ = x.text ++ op.symbol :: text ⟨y, rest⟩ := rfl

/-- The chain of the numbers that the literals stand for. -/
def chain (row : Row) : Chain Binary64 := row.map fun literal => Literal.toBinary64 literal.text

/-- Every literal of a row is within the finite numbers. -/
def IsFinite (row : Row) : Prop :=
  row.All fun literal => (Literal.toBinary64 literal.text).isFinite = true

end Row

end InfixCalculator
