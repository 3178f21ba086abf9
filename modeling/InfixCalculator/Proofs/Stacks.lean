import InfixCalculator.Proofs.Precedence
import InfixCalculator.Token.Grammar

/-!
# What the two stacks stand for

At every moment of an evaluation the tokens that have been taken are accounted for by the stacks.
Where an operand is expected (`Token.Awaits`), each waiting operator has what it was derived with to
its left, and each open group its signs. An operator never waits on top of one that binds as tightly
or tighter, so the ranks rise towards the innermost open group. Where an operator is expected
(`Token.Stands`), a number lies on top for the tokens since, derived at a level that the operator
below it can take.

Applying the waiting operators of a rank and tighter turns this number into the value of a row of
that rank (`Token.applyWaiting_awaits`). So every token keeps the account (`Token.advance_stands`),
and an evaluation that returns a number has taken an expression of that value up to the first end
mark (`Token.run_stands`). No token finds the stacks too short, whatever the order of the tokens:
what is raised is an error of an evaluation, or what keeps a token from being marked
(`Token.Raised`).
-/

set_option autoImplicit false

namespace InfixCalculator

/-- The kinds of errors that an evaluation can end in: of the shape, of a symbol, or of the
numbers. -/
def Diagnostic.Kind.IsEvaluation : Diagnostic.Kind → Prop
  | .invalidExpression | .unknownOperator _ | .divisionByZero | .numericOverflow => True
  | .general | .configuration | .foreign _ => False

theorem Fault.isEvaluation_ofArithmetic (fault : ArithmeticFault) :
    (Fault.ofArithmetic fault).kind.IsEvaluation := by
  cases fault <;> trivial

namespace Operator

/-- The level of an operator is one of the levels of expressions. -/
theorem rank_lt (op : Operator) : op.rank < Token.expressionLevel := by
  cases op <;> decide

end Operator

namespace Token

/-! ## The top of the stack of operators -/

/-- An operator on top of the stack can take what is derived at a level for its right operand. -/
def Looser (level : Nat) (pending : List Pending) : Prop :=
  ∀ op, pending.head? = some (.operator op) → level ≤ op.rank

theorem looser_nil (level : Nat) : Looser level [] := by
  intro op top
  cases top

theorem looser_group (level : Nat) (negate : Bool) (pending : List Pending) :
    Looser level (.group negate :: pending) := by
  intro op top
  cases top

theorem looser_operator {level : Nat} {op : Operator} {pending : List Pending} :
    Looser level (.operator op :: pending) ↔ level ≤ op.rank := by
  constructor
  · intro looser
    exact looser op rfl
  · intro order other top
    cases top
    exact order

theorem Looser.mono {low high : Nat} {pending : List Pending} (looser : Looser high pending)
    (order : low ≤ high) : Looser low pending := by
  intro op top
  exact Nat.le_trans order (looser op top)

/-- Operators that wait under a looser one are not applied. -/
theorem applyWaiting_of_looser {level rank : Nat} {pending : List Pending}
    (looser : Looser level pending) (order : rank < level) (values : List Binary64) :
    applyWaiting rank values pending = pure ⟨values, pending⟩ := by
  cases pending with
  | nil => rfl
  | cons top pending =>
    cases top with
    | group negate => rfl
    | operator op =>
      have stays := Nat.lt_of_lt_of_le order (looser_operator.1 looser)
      unfold applyWaiting
      rw [if_pos stays]

/-! ## Signs -/

/-- A row of signs, and whether they negate what follows them. -/
inductive Signs : Bool → List Token → Prop where
  /-- No sign. -/
  | none : Signs false []
  /-- One more sign. -/
  | more {negate : Bool} {signs : List Token} {t : Token} (before : Signs negate signs)
      (kind : t.kind = .sign) : Signs (!negate) (signs ++ [t])

/-- Signs in front of a primary. -/
theorem Signs.yields {negate : Bool} {signs : List Token} (signed : Signs negate signs)
    {operand : List Token} {x : Binary64} (derived : Yields 0 operand x) :
    Yields 0 (signs ++ operand) (if negate then -x else x) := by
  induction signed generalizing operand x with
  | none => exact derived
  | @more negate signs t _ kind ih =>
    have inner := ih (.sign kind derived)
    rw [List.append_assoc, List.singleton_append]
    cases negate with
    | false => exact inner
    | true => exact Binary64.neg_neg x ▸ inner

/-! ## The account of the tokens taken -/

/-- The tokens taken up to where an operand is expected, its signs left out, and the stacks that
they leave. -/
inductive Awaits : List Token → Stacks → Prop where
  /-- Nothing has been taken. -/
  | start : Awaits [] ⟨[], []⟩
  /-- An operator with its left operand, under which nothing waits that it could end. -/
  | operator {front left : List Token} {t : Token} {op : Operator} {x : Binary64} {waiting : Stacks}
      (before : Awaits front waiting) (derived : Yields (op.rank + 1) left x)
      (kind : t.kind = .operator) (symbol : Operator.ofText? t.text = some op)
      (looser : Looser (op.rank + 1) waiting.pending) :
      Awaits (front ++ left ++ [t]) ⟨x :: waiting.values, .operator op :: waiting.pending⟩
  /-- An open group with its signs. -/
  | group {front signs : List Token} {t : Token} {negate : Bool} {waiting : Stacks}
      (before : Awaits front waiting) (signed : Signs negate signs) (kind : t.kind = .openParen) :
      Awaits (front ++ signs ++ [t]) ⟨waiting.values, .group negate :: waiting.pending⟩

/-- The tokens taken, and the stacks and the expectation that they leave. -/
inductive Stands : List Token → Stacks → Mode → Prop where
  /-- An operand is expected, perhaps behind signs. -/
  | operand {front signs : List Token} {negate : Bool} {waiting : Stacks}
      (before : Awaits front waiting) (signed : Signs negate signs) :
      Stands (front ++ signs) waiting (.operand negate)
  /-- An operand has ended, and its value lies on top. -/
  | operator {front operand : List Token} {x : Binary64} {waiting : Stacks}
      (before : Awaits front waiting) (derived : Yields 0 operand x) :
      Stands (front ++ operand) ⟨x :: waiting.values, waiting.pending⟩ .operator

/-- A primary ends the operand that is expected. -/
theorem Awaits.stands_primary {front signs operand : List Token} {negate : Bool} {waiting : Stacks}
    (before : Awaits front waiting) (signed : Signs negate signs) {x : Binary64}
    (derived : Yields 0 operand x) :
    Stands (front ++ signs ++ operand)
      ⟨(if negate then -x else x) :: waiting.values, waiting.pending⟩ .operator := by
  rw [List.append_assoc]
  exact .operator before (signed.yields derived)

/-! ## Applying the waiting operators -/

/-- What is left when the waiting operators of a rank and tighter have been applied: a fault of
arithmetic, or the value of a row of that rank on top of what still waits. -/
def Applied (rank : Nat) (taken : List Token) : Except Fault Stacks → Prop
  | .error fault => ∃ cause, fault = .ofArithmetic cause
  | .ok after => ∃ front operand x waiting, taken = front ++ operand
      ∧ after = ⟨x :: waiting.values, waiting.pending⟩ ∧ Awaits front waiting
      ∧ Yields (rank + 1) operand x ∧ Looser (rank + 1) waiting.pending

/-- **Applying the waiting operators** of a rank and tighter derives a row of that rank. -/
theorem applyWaiting_awaits {rank : Nat} (top : rank < expressionLevel) {front operand : List Token}
    {waiting : Stacks} (before : Awaits front waiting) {level : Nat} {x : Binary64}
    (derived : Yields level operand x) (looser : Looser level waiting.pending)
    (order : level ≤ rank + 1) :
    Applied rank (front ++ operand)
      (applyWaiting rank (x :: waiting.values) waiting.pending).outcome := by
  -- what waits stays: nothing on top of the stack is tight enough
  have stays {front : List Token} {waiting : Stacks} (before : Awaits front waiting)
      {level : Nat} {operand : List Token} {x : Binary64} (derived : Yields level operand x)
      (order : level ≤ rank + 1) (looser : Looser (rank + 1) waiting.pending) :
      Applied rank (front ++ operand)
        (applyWaiting rank (x :: waiting.values) waiting.pending).outcome := by
    rw [applyWaiting_of_looser looser (Nat.lt_succ_self rank)]
    exact ⟨front, operand, x, waiting, rfl, rfl, before, derived.mono order top, looser⟩
  induction before generalizing level operand x with
  | start => exact stays .start derived order (looser_nil _)
  | group before signed kind =>
    exact stays (.group before signed kind) derived order (looser_group _ _ _)
  | @operator front left t op y waiting before left_derived kind symbol looserBelow ih =>
    by_cases tighter : rank < op.rank
    · exact stays (.operator before left_derived kind symbol looserBelow) derived order
        (looser_operator.2 tighter)
    · have right := derived.mono (looser_operator.1 looser) (Nat.le_of_lt op.rank_lt)
      rw [outcome_applyWaiting_operator tighter]
      cases applied : op.apply y x with
      | error cause => exact ⟨cause, rfl⟩
      | ok z =>
        have row := Yields.apply kind symbol left_derived right applied
        have same : front ++ left ++ [t] ++ operand = front ++ (left ++ t :: operand) := by simp
        rw [same]
        exact ih row looserBelow (Nat.succ_le_succ (Nat.le_of_not_lt tighter))

/-- At the end of a level only the start or an open group is left. -/
theorem Awaits.start_or_group {front : List Token} {waiting : Stacks}
    (before : Awaits front waiting) (ended : Looser expressionLevel waiting.pending) :
    (front = [] ∧ waiting = ⟨[], []⟩)
      ∨ ∃ outer signs t negate outside, front = outer ++ signs ++ [t]
        ∧ waiting = ⟨outside.values, .group negate :: outside.pending⟩
        ∧ Awaits outer outside ∧ Signs negate signs ∧ t.kind = .openParen := by
  cases before with
  | start => exact .inl ⟨rfl, rfl⟩
  | group before signed kind => exact .inr ⟨_, _, _, _, _, rfl, rfl, before, signed, kind⟩
  | @operator _ _ _ op =>
    exact absurd op.rank_lt (Nat.not_lt_of_le (looser_operator.1 ended))

/-! ## Faults of an evaluation -/

/-- What an evaluation of tokens may raise: one of its errors, or, in place of an error at one of
the tokens, what keeps a marker from being put under it. -/
def Raised (source : Text) (tokens : List Token) (fault : Fault) : Prop :=
  fault.kind.IsEvaluation ∨ ∃ t ∈ tokens, ∃ obstacle,
    Location.obstacle? ⟨source, t.position⟩ = some obstacle
      ∧ fault = .unlocated (.unmarkable obstacle)

section

variable {source : Text} {t : Token} {tokens : List Token} {fault : Fault}

/-- A fault at one of the tokens. -/
theorem raised_fault {cause : Cause} (evaluation : cause.kind.IsEvaluation) (member : t ∈ tokens) :
    Raised source tokens (t.fault source cause) := by
  cases found : Location.obstacle? ⟨source, t.position⟩ with
  | none =>
    rw [fault_of_markable found]
    exact .inl evaluation
  | some obstacle => exact .inr ⟨t, member, obstacle, found, Fault.atPlace_of_obstacle found⟩

theorem Raised.mono {tokens' : List Token} (raised : Raised source tokens fault)
    (within : ∀ t ∈ tokens, t ∈ tokens') : Raised source tokens' fault :=
  raised.imp_right fun ⟨t, member, obstacle⟩ => ⟨t, within t member, obstacle⟩

/-- Where all tokens can be marked only the errors of an evaluation are raised. -/
theorem Raised.isEvaluation (raised : Raised source tokens fault)
    (markable : ∀ t ∈ tokens, t.Markable source) : fault.kind.IsEvaluation := by
  rcases raised with evaluation | ⟨t, member, obstacle, found, rfl⟩
  · exact evaluation
  · cases (markable t member).symm.trans found

end

/-! ## One token -/

/-- What one token leads to: the account is kept, the tokens before it were an expression and it is
the end mark, or it is at fault. -/
def Kept (source : Text) (taken : List Token) (t : Token) : Except Fault Advance → Prop
  | .error fault => Raised source [t] fault
  | .ok (.more waiting mode) => t.kind ≠ .finish ∧ Stands (taken ++ [t]) waiting mode
  | .ok (.done x) => t.kind = .finish ∧ Yields expressionLevel taken x

section

variable (source : Text) (next : Option Token) {t : Token}

/-- A token in place of an operand keeps the account. -/
theorem takeOperand_stands {front signs : List Token} {negate : Bool} {waiting : Stacks}
    (before : Awaits front waiting) (signed : Signs negate signs)
    (readable : t.kind = .number → (FreeForm.read? t.text).isSome = true) :
    Kept source (front ++ signs) t
      ((takeOperand source next negate waiting t).map fun taken => .more taken.1 taken.2) := by
  unfold takeOperand
  cases kind : t.kind with
  | number =>
    obtain ⟨value, read⟩ := Option.isSome_iff_exists.1 (readable kind)
    have number : t.number
        = if value.isFinite then .ok value else .error (.unlocated (.literalTooLarge t.text)) := by
      rw [Token.number, read]
    dsimp only
    rw [number]
    by_cases finite : value.isFinite = true
    · rw [if_pos finite] at number ⊢
      exact ⟨by simp [kind], before.stands_primary signed (.number kind number)⟩
    · rw [if_neg finite]
      exact .inl trivial
  | sign =>
    refine ⟨by simp [kind], ?_⟩
    rw [List.append_assoc]
    exact .operand before (.more signed kind)
  | openParen =>
    dsimp only
    split
    · exact raised_fault trivial List.mem_cons_self
    · refine ⟨by simp [kind], ?_⟩
      have opened := Stands.operand (.group before signed kind) .none
      rwa [List.append_nil] at opened
  | operator | closeParen | finish => exact raised_fault trivial List.mem_cons_self

variable {front operand : List Token} {waiting : Stacks} {x : Binary64}
  (before : Awaits front waiting) (derived : Yields 0 operand x)
include before derived

/-- Behind an operand the waiting operators of any rank and tighter can be applied. -/
theorem Awaits.applied {rank : Nat} (top : rank < expressionLevel) :
    Applied rank (front ++ operand)
      (applyWaiting rank (x :: waiting.values) waiting.pending).outcome :=
  applyWaiting_awaits top before derived (fun op _ => Nat.zero_le op.rank) (Nat.zero_le _)

/-- A token behind an operand that goes on once the waiting operators have been applied. -/
theorem Awaits.kept_of_applied {rank : Nat} (top : rank < expressionLevel) {t : Token}
    {further : Stacks → Except Fault Advance}
    (goesOn : ∀ front' row y waiting', front ++ operand = front' ++ row → Awaits front' waiting' →
      Yields (rank + 1) row y → Looser (rank + 1) waiting'.pending →
      Kept source (front' ++ row) t (further ⟨y :: waiting'.values, waiting'.pending⟩)) :
    Kept source (front ++ operand) t
      ((applyWaiting rank (x :: waiting.values) waiting.pending).outcome.bind further) := by
  have applied := before.applied derived top
  generalize (applyWaiting rank (x :: waiting.values) waiting.pending).outcome = result at applied
  cases result with
  | error fault =>
    obtain ⟨cause, rfl⟩ := applied
    exact .inl (Fault.isEvaluation_ofArithmetic cause)
  | ok after =>
    obtain ⟨front', row, y, waiting', same, rfl, before', inside, looser⟩ := applied
    rw [bind_ok, same]
    exact goesOn front' row y waiting' same before' inside looser

/-- An operator behind an operand keeps the account. -/
theorem advance_operator_stands (kind : t.kind = .operator) :
    Kept source (front ++ operand) t
      (advance source next ⟨x :: waiting.values, waiting.pending⟩ .operator t).outcome := by
  cases symbol : Operator.ofText? t.text with
  | none =>
    have unknown := Operator.get_eq_error.2 ⟨symbol, rfl⟩
    simp only [advance, kind, unknown]
    exact .inl trivial
  | some op =>
    rw [outcome_advance_operator source next _ kind symbol]
    apply before.kept_of_applied source derived op.rank_lt
    intro front' row y waiting' _ before' inside looser
    have stands := Stands.operand (.operator before' inside kind symbol looser) .none
    rw [List.append_nil] at stands
    exact ⟨by simp [kind], stands⟩

/-- The end of a group behind an operand keeps the account. -/
theorem advance_close_stands (kind : t.kind = .closeParen) :
    Kept source (front ++ operand) t
      (advance source next ⟨x :: waiting.values, waiting.pending⟩ .operator t).outcome := by
  rw [outcome_advance_close source next _ kind]
  apply before.kept_of_applied source derived (Operator.rank_lt .add)
  intro front' inner y waiting' _ before' inside looser
  rcases before'.start_or_group looser with
    ⟨rfl, rfl⟩ | ⟨outer, signs, opening, negate, outside, rfl, rfl, awaits, signed, opens⟩
  · exact raised_fault trivial List.mem_cons_self
  · have stands := awaits.stands_primary signed (.group opens kind inside)
    have whole : outer ++ signs ++ [opening] ++ inner ++ [t]
        = outer ++ signs ++ (opening :: inner ++ [t]) := by simp
    rw [← whole] at stands
    cases negate <;> exact ⟨by simp [kind], stands⟩

/-- At the end mark behind an operand the tokens taken are an expression, or a group is open. -/
theorem advance_finish_stands (kind : t.kind = .finish) :
    Kept source (front ++ operand) t
      (advance source next ⟨x :: waiting.values, waiting.pending⟩ .operator t).outcome := by
  rw [outcome_advance_finish source next _ kind]
  apply before.kept_of_applied source derived (Operator.rank_lt .add)
  intro front' expression y waiting' _ before' inside looser
  rcases before'.start_or_group looser with ⟨rfl, rfl⟩ | ⟨_, _, _, _, _, _, rfl, _⟩
  · exact ⟨kind, inside⟩
  · exact raised_fault trivial List.mem_cons_self

end

/-- **Every token keeps the account**, ends the evaluation of an expression, or is at fault for one
of the errors of an evaluation, or where it cannot be marked. -/
theorem advance_stands (source : Text) (next : Option Token) {t : Token} {taken : List Token}
    {waiting : Stacks} {mode : Mode} (stands : Stands taken waiting mode)
    (readable : t.kind = .number → (FreeForm.read? t.text).isSome = true) :
    Kept source taken t (advance source next waiting mode t).outcome := by
  cases stands with
  | @operand _ _ negate _ before signed =>
    have kept := takeOperand_stands source next before signed readable
    simp only [advance]
    rw [Traced.outcome_bind, Traced.outcome_liftM]
    generalize takeOperand source next negate waiting t = result at kept
    cases result <;> exact kept
  | operator before derived =>
    cases kind : t.kind with
    | operator => exact advance_operator_stands source next before derived kind
    | closeParen => exact advance_close_stands source next before derived kind
    | finish => exact advance_finish_stands source next before derived kind
    | number | sign | openParen =>
      simp only [advance, kind]
      exact raised_fault trivial List.mem_cons_self

/-! ## All tokens -/

/-- **An evaluation that returns a number** has taken an expression of that value up to the first
end mark. One that fails has one of the errors of an evaluation, or comes to a token that cannot be
marked. -/
theorem run_stands (source : Text) {tokens taken : List Token} {waiting : Stacks} {mode : Mode}
    (stands : Stands taken waiting mode)
    (readable : ∀ t ∈ tokens, t.kind = .number → (FreeForm.read? t.text).isSome = true) :
    match (run source waiting mode tokens).outcome with
    | .error fault => Raised source tokens fault
    | .ok x => ∃ front finish rest, tokens = front ++ finish :: rest ∧ finish.kind = .finish
        ∧ (∀ t ∈ front, t.kind ≠ .finish) ∧ Yields expressionLevel (taken ++ front) x := by
  induction tokens generalizing taken waiting mode with
  | nil => exact .inl trivial
  | cons t rest ih =>
    have kept := advance_stands source rest.head? stands (readable t List.mem_cons_self)
    rw [outcome_run_cons]
    generalize (advance source rest.head? waiting mode t).outcome = result at kept
    rcases result with fault | ⟨waiting', mode'⟩ | x
    · exact kept.mono fun u member => List.mem_cons.2 (.inl (List.mem_singleton.1 member))
    · obtain ⟨notFinish, further⟩ := kept
      have later := ih further fun u member => readable u (List.mem_cons_of_mem t member)
      rw [bind_ok]
      dsimp only
      split at later
      · exact later.mono fun u member => List.mem_cons_of_mem t member
      · obtain ⟨front, finish, behind, rfl, ends, noEnd, derived⟩ := later
        rw [List.append_assoc, List.singleton_append] at derived
        exact ⟨t :: front, finish, behind, rfl, ends,
          List.forall_mem_cons.2 ⟨notFinish, noEnd⟩, derived⟩
    · obtain ⟨ends, derived⟩ := kept
      rw [bind_ok]
      refine ⟨[], t, rest, rfl, ends, by simp, ?_⟩
      rwa [List.append_nil]

end Token

end InfixCalculator
