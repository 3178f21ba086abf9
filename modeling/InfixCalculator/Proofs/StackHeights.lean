import InfixCalculator.Proofs.Separators
import InfixCalculator.Proofs.SingleApplication
import InfixCalculator.Proofs.Stacks
import Mathlib.Data.List.Chain
import Mathlib.Data.List.Perm.Subperm
import Mathlib.Logic.Relation

/-!
# The two stacks fit each other

An evaluation of tokens comes from one point to the next by taking a token (`Token.Reaches`), and
while it takes one it may pass through turns of applying waiting operators (`Token.Turn`). At all
these points the two stacks fit each other (`Token.Consistent`): one number waits for every operator
that waits, and one more where an operand has ended; operators with no open group between them bind
the tighter the nearer they are to the top; and every number is finite.

At a point between tokens this is read off the account of the tokens taken
(`Token.Awaits.consistent`), whatever their order is; a turn keeps it (`Token.Turn.consistent`). So
an operator always finds its two operands, a group that ends finds its number, and the end of the
expression finds one number and nothing below it (`Token.stacks_consistent`).
-/

set_option autoImplicit false

namespace InfixCalculator

namespace Token

/-! ## The points of an evaluation -/

/-- An evaluation of tokens comes to a point: what waits there, what is expected, and the tokens
ahead. -/
inductive Reaches (source : Text) (tokens : List Token) : Stacks → Mode → List Token → Prop where
  /-- Nothing has been taken. -/
  | start : Reaches source tokens ⟨[], []⟩ (.operand false) tokens
  /-- One more token has been taken. -/
  | token {waiting waiting' : Stacks} {mode mode' : Mode} {t : Token} {ahead : List Token}
      (before : Reaches source tokens waiting mode (t :: ahead))
      (taken : (advance source ahead.head? waiting mode t).outcome = .ok (.more waiting' mode')) :
      Reaches source tokens waiting' mode' ahead

/-- One turn of applying the waiting operators of a rank and tighter: the operator on top leaves the
stack with its two operands, and its result takes their place. -/
inductive Turn (rank : Nat) : Stacks → Stacks → Prop where
  /-- The operator on top is applied. -/
  | apply {op : Operator} {left right result : Binary64} {values : List Binary64} {pending : List
    Pending}
      (tight : op.rank ≤ rank) (applied : op.apply left right = .ok result) :
      Turn rank ⟨right :: left :: values, .operator op :: pending⟩ ⟨result :: values, pending⟩

/-- A run goes on from every point it comes to. -/
theorem Reaches.outcome_run {source : Text} {tokens ahead : List Token} {waiting : Stacks}
    {mode : Mode} (reached : Reaches source tokens waiting mode ahead) :
    (run source ⟨[], []⟩ (.operand false) tokens).outcome
      = (run source waiting mode ahead).outcome := by
  induction reached with
  | start => rfl
  | token _ taken ih => rw [ih, outcome_run_cons, taken, bind_ok]

/-- The tokens taken on the way to a point are accounted for by its stacks. -/
theorem Reaches.stands {source : Text} {tokens ahead : List Token} {waiting : Stacks} {mode : Mode}
    (readable : ∀ t ∈ tokens, t.kind = .number → (FreeForm.read? t.text).isSome = true)
    (reached : Reaches source tokens waiting mode ahead) :
    ∃ taken, tokens = taken ++ ahead ∧ Stands taken waiting mode := by
  induction reached with
  | start => exact ⟨[], rfl, .operand .start .none⟩
  | @token _ _ _ _ t ahead _ taken ih =>
    obtain ⟨front, rfl, stands⟩ := ih
    have kept := advance_stands source ahead.head? stands (readable t (by simp))
    rw [taken] at kept
    exact ⟨front ++ [t], by simp, kept.2⟩

/-- Applying waiting operators passes through turns, and ends where none that waits on top is tight
enough. -/
theorem turns_of_applyWaiting {rank : Nat} {values : List Binary64} {pending : List Pending}
    {after : Stacks} (applied : (applyWaiting rank values pending).outcome = .ok after) :
    Relation.ReflTransGen (Turn rank) ⟨values, pending⟩ after
      ∧ Looser (rank + 1) after.pending := by
  fun_induction applyWaiting rank values pending with
  | case1 op pending values loose =>
    cases applied
    exact ⟨.refl, looser_operator.2 loose⟩
  | case2 | case4 => cases applied
  | case3 op pending tight right left values result value ih =>
    rw [Traced.outcome_bind] at applied
    obtain ⟨turns, ended⟩ := ih applied
    exact ⟨.head (.apply (Nat.le_of_not_lt tight) value) turns, ended⟩
  | case5 pending values noOperator =>
    cases applied
    refine ⟨.refl, fun op top => ?_⟩
    obtain ⟨below, rfl⟩ := List.head?_eq_some_iff.1 top
    exact absurd rfl (noOperator op below)

/-! ## Stacks that fit -/

theorem countOperators_operator (values : List Binary64) (op : Operator) (pending : List Pending) :
    Stacks.countOperators ⟨values, .operator op :: pending⟩
      = pending.countP Pending.isOperator + 1 :=
  List.countP_cons_of_pos rfl

theorem countOperators_group (values : List Binary64) (negate : Bool) (pending : List Pending) :
    Stacks.countOperators ⟨values, .group negate :: pending⟩ = pending.countP Pending.isOperator :=
  List.countP_cons_of_neg (by simp [Pending.isOperator])

/-- The number of operands that have ended and wait for no operator yet. -/
def Mode.ended : Mode → Nat
  | operand _ => 0
  | operator => 1

/-- The stacks fit each other and what is expected. -/
structure Consistent (waiting : Stacks) (mode : Mode) : Prop where
  /-- One number waits for every operator, and one more where an operand has ended. -/
  heights : waiting.values.length = waiting.countOperators + mode.ended
  /-- Operators with no open group between them bind the tighter the nearer they are to the top. -/
  ranks : ∀ row : List Operator, row.map .operator <:+: waiting.pending →
    row.Pairwise fun above below => above.rank < below.rank
  /-- Every number is finite. -/
  finite : ∀ x ∈ waiting.values, x.isFinite = true

/-- Operators of rising ranks are at most as many as there are operators. -/
theorem length_le_of_rising {row : List Operator}
    (rising : row.Pairwise fun above below => above.rank < below.rank) : row.length ≤ 5 := by
  have distinct : row.Nodup := rising.imp fun {above below} order same => by
    rw [same] at order
    exact Nat.lt_irrefl _ order
  have known : row ⊆ Operator.all := fun op _ => by cases op <;> decide
  exact (List.subperm_of_subset distinct known).length_le

/-- What may wait directly on top of what: an operator only on top of a looser one. -/
def Pending.Upon : Pending → Pending → Prop
  | operator above, operator below => above.rank < below.rank
  | _, _ => True

/-- Operators in a row that may wait on top of each other have rising ranks. -/
theorem rising_of_isChain {pending : List Pending} (chain : pending.IsChain Pending.Upon)
    {row : List Operator} (inside : row.map .operator <:+: pending) :
    row.Pairwise fun above below => above.rank < below.rank := by
  have part : (row.map Pending.operator).IsChain Pending.Upon := List.IsChain.infix chain inside
  have neighbours := (List.isChain_map Pending.operator).1 part
  have transitive : IsTrans Operator fun above below => above.rank < below.rank :=
    ⟨fun _ _ _ => Nat.lt_trans⟩
  exact List.isChain_iff_pairwise.1 neighbours

/-- Derived tokens have a finite value. -/
theorem Yields.isFinite {level : Nat} {tokens : List Token} {x : Binary64}
    (derived : Yields level tokens x) :
    x.isFinite = true := by
  induction derived with
  | @number t x _ reads =>
    unfold Token.number at reads
    split at reads
    · cases reads
    · split at reads
      · rename_i finite
        cases reads
        exact finite
      · cases reads
  | group _ _ _ ih => exact ih
  | sign _ _ ih => rwa [Binary64.isFinite_neg]
  | lift _ _ ih => exact ih
  | apply _ _ _ _ applied => exact (Operator.isCanonical_of_apply applied).1

/-- Where tokens are accounted for up to an operand, operators wait on top of looser ones only. -/
theorem Awaits.isChain {front : List Token} {waiting : Stacks} (before : Awaits front waiting) :
    waiting.pending.IsChain Pending.Upon := by
  induction before with
  | start => exact .nil
  | @operator _ _ _ op _ waiting _ _ _ _ looser ih =>
    refine List.isChain_cons.2 ⟨fun below top => ?_, ih⟩
    cases below with
    | operator below => exact looser below top
    | group negate => trivial
  | group _ _ _ ih => exact List.isChain_cons.2 ⟨fun below _ => by cases below <;> trivial, ih⟩

/-- **Where an operand is expected** the stacks fit each other. -/
theorem Awaits.consistent {front : List Token} {waiting : Stacks} (before : Awaits front waiting)
    (negate : Bool) : Consistent waiting (.operand negate) := by
  refine ⟨?_, fun row inside => rising_of_isChain before.isChain inside, ?_⟩
  · induction before with
    | start => rfl
    | operator _ _ _ _ _ ih =>
      rw [countOperators_operator]
      exact congrArg (· + 1) ih
    | group _ _ _ ih =>
      rw [countOperators_group]
      exact ih
  · induction before with
    | start => simp
    | operator _ derived _ _ _ ih => exact List.forall_mem_cons.2 ⟨derived.isFinite, ih⟩
    | group _ _ _ ih => exact ih

/-- **Between tokens** the stacks fit each other and what is expected. -/
theorem Stands.consistent {taken : List Token} {waiting : Stacks} {mode : Mode}
    (stands : Stands taken waiting mode) : Consistent waiting mode := by
  cases stands with
  | operand before _ => exact before.consistent _
  | operator before derived =>
    obtain ⟨heights, ranks, finite⟩ := before.consistent false
    exact ⟨congrArg (· + 1) heights, ranks, List.forall_mem_cons.2 ⟨derived.isFinite, finite⟩⟩

/-! ## Turns -/

/-- **A turn** keeps the stacks fitting. -/
theorem Turn.consistent {rank : Nat} {waiting later : Stacks} (turn : Turn rank waiting later)
    (consistent : Consistent waiting .operator) : Consistent later .operator := by
  obtain ⟨tight, applied⟩ := turn
  obtain ⟨heights, ranks, finite⟩ := consistent
  refine ⟨?_, fun row inside => ranks row (inside.trans (List.suffix_cons _ _).isInfix), ?_⟩
  · rw [countOperators_operator] at heights
    exact Nat.succ.inj heights
  · rw [List.forall_mem_cons, List.forall_mem_cons] at finite
    exact List.forall_mem_cons.2 ⟨(Operator.isCanonical_of_apply applied).1, finite.2.2⟩

theorem consistent_of_turns {rank : Nat} {waiting later : Stacks}
    (turns : Relation.ReflTransGen (Turn rank) waiting later)
    (consistent : Consistent waiting .operator) :
    Consistent later .operator := by
  induction turns with
  | refl => exact consistent
  | tail _ turn ih => exact turn.consistent ih

/-- An operator on top finds its two operands. -/
theorem Consistent.exists_operands {values : List Binary64} {op : Operator} {pending : List Pending}
    (consistent : Consistent ⟨values, .operator op :: pending⟩ .operator) :
    ∃ right left below, values = right :: left :: below := by
  have heights := consistent.heights
  rw [countOperators_operator] at heights
  obtain ⟨right, others, rfl⟩ := List.exists_cons_of_length_eq_add_one heights
  obtain ⟨left, below, rfl⟩ := List.exists_cons_of_length_eq_add_one (Nat.succ.inj heights)
  exact ⟨right, left, below, rfl⟩

/-- Applying waiting operators never finds too few numbers. -/
theorem Consistent.outcome_applyWaiting_ne {rank : Nat} {values : List Binary64}
    {pending : List Pending} (consistent : Consistent ⟨values, pending⟩ .operator) :
    (applyWaiting rank values pending).outcome ≠ .error (.unlocated .operandMissing) := by
  fun_induction applyWaiting rank values pending with
  | case1 | case5 => simp
  | case2 => simp [Fault.unlocated]
  | case3 op pending tight right left values result value ih =>
    rw [Traced.outcome_bind]
    exact ih ((Turn.apply (Nat.le_of_not_lt tight) value).consistent consistent)
  | case4 op pending values _ few =>
    obtain ⟨right, left, below, rfl⟩ := consistent.exists_operands
    exact absurd rfl (few right left below)

/-- What is left inside a level that has ended: one number on top of an open group, or one number
alone. -/
theorem Consistent.ended {waiting : Stacks} (consistent : Consistent waiting .operator)
    (ended : Looser expressionLevel waiting.pending) :
    (waiting.pending = [] ∧ ∃ x, waiting.values = [x])
      ∨ ∃ negate pending x values, waiting = ⟨x :: values, .group negate :: pending⟩ := by
  obtain ⟨values, pending⟩ := waiting
  have heights := consistent.heights
  cases pending with
  | nil => exact .inl ⟨rfl, List.length_eq_one_iff.1 heights⟩
  | cons top pending =>
    cases top with
    | operator op => exact absurd op.rank_lt (Nat.not_lt_of_le (looser_operator.1 ended))
    | group negate =>
      obtain ⟨x, below, rfl⟩ := List.exists_cons_of_length_eq_add_one heights
      exact .inr ⟨negate, pending, x, below, rfl⟩

/-! ## All points -/

/-- **The stacks fit each other at every point** of an evaluation whose number tokens can be read,
between tokens and between the turns of applying waiting operators of any rank; at most five
operators wait in a row. So no operator finds fewer than two numbers, and when all operators of a
level have been applied, one number lies on top of the open group or is the only one left. -/
theorem stacks_consistent (source : Text) {tokens : List Token}
    (readable : ∀ t ∈ tokens, t.kind = .number → (FreeForm.read? t.text).isSome = true) :
    (∀ waiting mode ahead, Reaches source tokens waiting mode ahead →
      Consistent waiting mode
      ∧ (∀ row : List Operator, row.map .operator <:+: waiting.pending → row.length ≤ 5)
      ∧ (mode = .operator → ∀ rank,
        (∀ later, Relation.ReflTransGen (Turn rank) waiting later →
          Consistent later .operator
          ∧ ∀ op pending, later.pending = .operator op :: pending →
            ∃ right left below, later.values = right :: left :: below)
        ∧ (applyWaiting rank waiting.values waiting.pending).outcome
          ≠ .error (.unlocated .operandMissing)
        ∧ ∀ after, (applyAll waiting).outcome = .ok after →
          (after.pending = [] ∧ ∃ x, after.values = [x])
          ∨ ∃ negate pending x values, after = ⟨x :: values, .group negate :: pending⟩))
    ∧ (evaluate tokens source).outcome ≠ .error (.unlocated .operandMissing) := by
  refine ⟨fun waiting mode ahead reached => ?_, fun failed => ?_⟩
  · obtain ⟨taken, -, stands⟩ := reached.stands readable
    have consistent := stands.consistent
    refine ⟨consistent, fun row inside => length_le_of_rising (consistent.ranks row inside), ?_⟩
    rintro rfl rank
    refine ⟨fun later turns => ?_, consistent.outcome_applyWaiting_ne, fun after applied => ?_⟩
    · have fits := consistent_of_turns turns consistent
      refine ⟨fits, fun op pending top => ?_⟩
      obtain ⟨values, _⟩ := later
      obtain rfl := top
      exact fits.exists_operands
    · obtain ⟨turns, ended⟩ := turns_of_applyWaiting applied
      exact (consistent_of_turns turns consistent).ended ended
  · have stands := run_stands source (.operand .start .none) readable
    rw [outcome_evaluate] at failed
    generalize (run source ⟨[], []⟩ (.operand false) tokens).outcome = result at stands failed
    cases result with
    | ok x => cases failed
    | error fault =>
      cases failed
      rcases stands with evaluation | ⟨_, _, _, _, ⟨⟩⟩
      exact evaluation

/-- A point to which it applies: inside a negated group that is not closed, with two operators in a
row. -/
theorem stacks_consistent_nested :
    ∃ tokens : List Token,
      tokens.map (fun t => (t.kind, t.text))
        = [(.sign, ['-']), (.openParen, ['(']), (.number, ['2']),
        (.operator, ['-']), (.number, ['3']), (.operator, ['*']), (.number, ['4']), (.finish, [])]
      ∧ (∀ t ∈ tokens, t.kind = .number → (FreeForm.read? t.text).isSome = true)
      ∧ ∃ waiting ahead, Reaches [] tokens waiting .operator ahead
        ∧ waiting.pending = [.operator .multiply, .operator .subtract, .group true]
        ∧ Consistent waiting .operator
        ∧ (evaluate tokens []).outcome ≠ .error (.unlocated .operandMissing) := by
  let tokens : List Token := [⟨.sign, ['-'], 0⟩, ⟨.openParen, ['('], 1⟩, ⟨.number, ['2'], 2⟩,
    ⟨.operator, ['-'], 3⟩, ⟨.number, ['3'], 4⟩, ⟨.operator, ['*'], 5⟩, ⟨.number, ['4'], 6⟩,
      ⟨.finish, [], 7⟩]
  have readable : ∀ t ∈ tokens, t.kind = .number → (FreeForm.read? t.text).isSome = true := by
    decide +kernel
  have digit (c : Char) (position : Int) (x : Binary64)
      (reads : number ⟨.number, [c], position⟩ = .ok x)
      (next : Option Token) (waiting : Stacks) :
      (advance [] next waiting (.operand false) ⟨.number, [c], position⟩).outcome
        = .ok (.more ⟨x :: waiting.values, waiting.pending⟩ .operator) := by
    simp only [advance, takeOperand, reads]
    rfl
  have two := digit '2' 2 (.ofInt 2) (toOption_eq_some.1 (by decide +kernel))
  have three := digit '3' 4 (.ofInt 3) (toOption_eq_some.1 (by decide +kernel))
  have four := digit '4' 6 (.ofInt 4) (toOption_eq_some.1 (by decide +kernel))
  have opened : Reaches [] tokens ⟨[], [.group true]⟩ (.operand false) (tokens.drop 2) :=
    .token (.token .start rfl) rfl
  have subtracted : Reaches [] tokens ⟨[.ofInt 2],
    [.operator .subtract, .group true]⟩ (.operand false)
      (tokens.drop 4) := .token (.token opened (two _ _)) rfl
  have reached : Reaches [] tokens ⟨[.ofInt 4, .ofInt 3, .ofInt 2],
      [.operator .multiply, .operator .subtract, .group true]⟩ .operator (tokens.drop 7) :=
    .token (.token (.token subtracted (three _ _)) rfl) (four _ _)
  obtain ⟨atEveryPoint, never⟩ := stacks_consistent [] readable
  exact ⟨tokens, rfl, readable, _, _, reached, rfl, (atEveryPoint _ _ _ reached).1, never⟩

end Token

end InfixCalculator
