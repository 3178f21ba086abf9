import InfixCalculator.Proofs.Agreement
import InfixCalculator.Proofs.ReductionSteps

/-!
# Every operator is applied exactly once

A successful evaluation by either engine applies each binary operator of the expression once, and
reduction opens each of its groups once (`Engine.evaluate_applies_once`). For reduction this is
`Nested.reduceWithin_spends` and `Nested.reduceWithin_opens`.

Precedence pays for its steps from the operators that wait on the stack and those that are still
ahead among the tokens. A token moves an operator from the one to the other
(`Token.advance_spends`), and an operator leaves the stack only when it is applied
(`Token.applyWaiting_spends`), so a run that ends with a value has applied them all
(`Token.run_spends`). The tokens of an expression have one operator for each of its binary operators
(`Phrase.operatorsAhead_tokens`).
-/

set_option autoImplicit false

namespace InfixCalculator

namespace Token

/-! ## The operators of a run -/

/-- Whether it is an operator that waits. -/
def Pending.isOperator : Pending → Bool
  | operator _ => true
  | group _ => false

/-- The number of operators that wait. -/
def Stacks.countOperators (waiting : Stacks) : Nat := waiting.pending.countP Pending.isOperator

/-- The number of operators among the tokens up to the mark of the end. -/
def operatorsAhead : List Token → Nat
  | [] => 0
  | t :: rest =>
    if t.kind = .finish then 0
    else (if t.kind = .operator then 1 else 0) + operatorsAhead rest

/-- The number of operators that are still to be applied when a token has been taken. -/
def Advance.operatorsLeft (rest : List Token) : Advance → Nat
  | more waiting _ => waiting.countOperators + operatorsAhead rest
  | done _ => 0

/-! ## Taking one token -/

/-- **Each operator that leaves the stack is applied**, in one step. -/
theorem applyWaiting_spends (rank : Nat) (values : List Binary64) (pending : List Pending) :
    Traced.Spends (Step.startsWith "Evaluated ") (pending.countP Pending.isOperator)
      Stacks.countOperators
      (applyWaiting rank values pending) := by
  fun_induction applyWaiting rank values pending with
  | case1 => exact .pure rfl
  | case2 => exact .fail _
  | case3 op pending tight right left values result applied ih =>
    rw [List.countP_cons_of_pos rfl]
    exact (Traced.Spends.step (Step.startsWith_evaluated_evaluated _ _ _ _)).bind fun _ _ => ih
  | case4 => exact .fail _
  | case5 => exact .pure rfl

theorem applyAll_spends (waiting : Stacks) :
    Traced.Spends (Step.startsWith "Evaluated ") waiting.countOperators Stacks.countOperators
      (applyAll waiting) :=
  applyWaiting_spends _ _ _

variable (source : Text) (t : Token)

theorem closeGroup_spends (waiting : Stacks) :
    Traced.Spends (Step.startsWith "Evaluated ") waiting.countOperators Stacks.countOperators
      (closeGroup source t waiting) := by
  refine (applyAll_spends waiting).bind fun applied _ => ?_
  obtain ⟨values, pending⟩ := applied
  cases pending with
  | nil => exact .fail _
  | cons top pending =>
    cases top with
    | operator op => exact .fail _
    | group negate =>
      cases negate with
      | false => exact .pure rfl
      | true =>
        cases values with
        | nil => exact .fail _
        | cons value values => exact .pure rfl

theorem conclude_spends (waiting : Stacks) :
    Traced.Spends (Step.startsWith "Evaluated ") waiting.countOperators (fun _ => 0)
      (conclude source t waiting) := by
  refine (applyAll_spends waiting).bind fun applied _ => ?_
  obtain ⟨values, pending⟩ := applied
  cases pending with
  | nil =>
    cases values with
    | nil => exact .fail _
    | cons value values => exact .pure rfl
  | cons top pending => exact .fail _

/-- In place of an operand no operator is taken, and none starts to wait. -/
theorem operatorsLeft_of_takeOperand {next : Option Token} {negate : Bool}
    {waiting waiting' : Stacks} {mode : Mode}
    (taken : takeOperand source next negate waiting t = .ok (waiting', mode)) (rest : List Token) :
    (Advance.more waiting' mode).operatorsLeft rest
      = waiting.countOperators + operatorsAhead (t :: rest) := by
  unfold takeOperand at taken
  cases kind : t.kind <;> simp only [kind, reduceCtorEq] at taken
  case number =>
    obtain ⟨value, -, same⟩ := bind_eq_ok.1 taken
    cases same
    simp [Advance.operatorsLeft, operatorsAhead, kind, Stacks.countOperators]
  case sign =>
    cases taken
    simp [Advance.operatorsLeft, operatorsAhead, kind]
  case openParen =>
    split at taken
    · cases taken
    · cases taken
      simp [Advance.operatorsLeft, operatorsAhead, kind, Stacks.countOperators, Pending.isOperator]

/-- **A token pays** for the operators it applies from those that wait and itself. -/
theorem advance_spends (waiting : Stacks) (mode : Mode) (rest : List Token) :
    Traced.Spends (Step.startsWith "Evaluated ")
      (waiting.countOperators + operatorsAhead (t :: rest))
      (Advance.operatorsLeft rest) (advance source rest.head? waiting mode t) := by
  cases mode with
  | operand negate =>
    have taken : Traced.Spends (Step.startsWith "Evaluated ")
        (waiting.countOperators + operatorsAhead (t :: rest))
        (fun taken => (Advance.more taken.1 taken.2).operatorsLeft rest)
        (liftM (takeOperand source rest.head? negate waiting t) : Traced (Stacks × Mode)) :=
      .lift fun taken ok => operatorsLeft_of_takeOperand source t ok rest
    exact taken.bind fun taken _ => .pure rfl
  | operator =>
    unfold advance
    cases kind : t.kind with
    | operator =>
      dsimp only
      cases Operator.get t.text with
      | error unknown => exact .fail _
      | ok op =>
        refine ((applyWaiting_spends op.rank waiting.values waiting.pending).add _).bind
          fun applied _ => .pure ?_
        have one : (Pending.operator op :: applied.pending).countP Pending.isOperator
            = applied.pending.countP Pending.isOperator + 1 := List.countP_cons_of_pos rfl
        simp only [Advance.operatorsLeft, Stacks.countOperators, one, operatorsAhead, kind, if_true,
          reduceCtorEq, if_false]
        omega
    | closeParen =>
      refine ((closeGroup_spends source t waiting).add _).bind fun closed _ => .pure ?_
      simp [Advance.operatorsLeft, operatorsAhead, kind]
    | finish =>
      have none : operatorsAhead (t :: rest) = 0 := by simp [operatorsAhead, kind]
      rw [none]
      exact (conclude_spends source t waiting).bind fun value _ => .pure rfl
    | number => exact .fail _
    | sign => exact .fail _
    | openParen => exact .fail _

/-! ## All tokens -/

/-- **A run takes one step for each operator** that waits or is ahead. -/
theorem run_spends (waiting : Stacks) (mode : Mode) (tokens : List Token) :
    Traced.Spends (Step.startsWith "Evaluated ")
      (waiting.countOperators + operatorsAhead tokens) (fun _ => 0)
      (run source waiting mode tokens) := by
  induction tokens generalizing waiting mode with
  | nil => exact .fail _
  | cons t rest ih =>
    rw [run]
    refine (advance_spends source t waiting mode rest).bind fun taken _ => ?_
    cases taken with
    | more waiting mode => exact ih waiting mode
    | done value => exact .pure rfl

theorem evaluate_spends (tokens : List Token) :
    Traced.Spends (Step.startsWith "Evaluated ") (operatorsAhead tokens) (fun _ => 0)
      (evaluate tokens source) := by
  have run := run_spends source ⟨[], []⟩ (.operand false) tokens
  rw [show (⟨[], []⟩ : Stacks).countOperators = 0 from rfl, Nat.zero_add] at run
  exact run.bind fun value _ => .pure rfl

end Token

/-- The tokens of a phrase have its operators. -/
theorem Phrase.operatorsAhead_tokens {role : Role} (phrase : Phrase role) (position : Nat)
    (rest : List Token) :
    Token.operatorsAhead (phrase.tokens position ++ rest)
      = phrase.countOperators + Token.operatorsAhead rest := by
  induction phrase generalizing position rest with
  | numeral text valid => simp [tokens, Token.operatorsAhead, countOperators]
  | group inner ih => simp [tokens, Token.operatorsAhead, countOperators, ih]
  | first negated operand ih =>
    cases negated with
    | false => exact ih position rest
    | true =>
      cases operand with
      | numeral text valid => simp [tokens, Token.operatorsAhead, countOperators]
      | group inner =>
        rw [tokens, List.cons_append, Token.operatorsAhead, ih (position + 1) rest]
        simp [countOperators]
  | next front op operand ihFront ihOperand =>
    rw [tokens, List.append_assoc, ihFront, List.cons_append, Token.operatorsAhead, ihOperand,
      countOperators, if_neg (by simp), if_pos rfl]
    omega

/-! ## Engines -/

namespace Engine

variable (e : Phrase .expression)

theorem evaluateByReduction_reduces :
    Traced.Spends (Step.startsWith "Reduced ") (Expression.countOperators e.text) (fun _ => 0)
      (evaluateByReduction e.text) := by
  have parts := Nested.endsOperand_of_isPart
  have same : Nested.countOperators false e.text = Expression.countOperators e.text :=
    (e.countBehind_text parts rfl rfl).trans e.countOperators_text.symm
  have reduced := Nested.reduceWithin_spends e.separated_text (List.forall_mem_nil _)
  rw [same] at reduced
  exact reduced.bind fun _ _ => (Traced.Spends.lift fun _ _ => rfl).bind fun _ _ => .pure rfl

theorem evaluateByReduction_opens (text : Text) :
    Traced.Spends (Step.startsWith "Opened group ") (Group.countOpenings text) (fun _ => 0)
      (evaluateByReduction text) :=
  (Nested.reduceWithin_opens [] text).bind fun _ _ =>
    (Traced.Spends.lift fun _ _ => rfl).bind fun _ _ => .pure rfl

theorem evaluateByPrecedence_evaluates :
    Traced.Spends (Step.startsWith "Evaluated ") (Expression.countOperators e.text) (fun _ => 0)
      (evaluateByPrecedence e.text) := by
  have scanned : Traced.Spends (Step.startsWith "Evaluated ") (Expression.countOperators e.text)
      Token.operatorsAhead (liftM (Token.scan e.text) : Traced (List Token)) := by
    refine .lift fun tokens ok => ?_
    rw [Token.scan_phrase] at ok
    cases ok
    rw [e.operatorsAhead_tokens, e.countOperators_text]
    rfl
  exact scanned.bind fun tokens _ => Token.evaluate_spends e.text tokens

/-- A text that passes validation is evaluated with one more step in front. -/
theorem evaluate_validated (engine : Engine) {s t : Text} (valid : Expression.validate s = .ok t) :
    engine.evaluate s = (do
      .step (.validated t)
      match engine with
      | reduce => evaluateByReduction t
      | precedence => evaluateByPrecedence t) := by
  rw [evaluate, valid]
  rfl

/-- **Every operator is applied exactly once**: an evaluation that comes to a value has taken one
step for each binary operator of the validated text and, when it is a reduction, one for each of its
groups. -/
theorem evaluate_applies_once {s t : Text} (valid : Expression.validate s = .ok t) :
    (∀ x, (reduce.evaluate s).outcome = .ok x →
      (reduce.evaluate s).steps.countP (Step.startsWith "Reduced ") = Expression.countOperators t
        ∧ (reduce.evaluate s).steps.countP (Step.startsWith "Opened group ")
          = Group.countOpenings t)
      ∧ ∀ x, (precedence.evaluate s).outcome = .ok x →
        (precedence.evaluate s).steps.countP (Step.startsWith "Evaluated ")
          = Expression.countOperators t := by
  obtain ⟨-, e, rfl⟩ := Expression.derivable_of_validate valid
  rw [evaluate_validated reduce valid, evaluate_validated precedence valid]
  have reduces := (Traced.Spends.otherStep (Step.startsWith_validated_reduced e.text)).bind
    fun _ _ => evaluateByReduction_reduces e
  have opens := (Traced.Spends.otherStep (Step.startsWith_validated_opened e.text)).bind
    fun _ _ => evaluateByReduction_opens e.text
  have evaluates := (Traced.Spends.otherStep (Step.startsWith_validated_evaluated e.text)).bind
    fun _ _ => evaluateByPrecedence_evaluates e
  exact ⟨fun x ended => ⟨reduces.spent x ended, opens.spent x ended⟩,
    fun x ended => evaluates.spent x ended⟩

/-- A negative value in front of a sign, a sign in front of a group, and a negative literal. -/
theorem evaluate_applies_once_signs :
    let s := "-(2 - 5)*((-4)+1)^2".toList
    let t := "-(2-5)*((-4)+1)^2".toList
    Expression.validate s = .ok t
      ∧ (reduce.evaluate s).steps.countP (Step.startsWith "Reduced ") = 4
      ∧ (reduce.evaluate s).steps.countP (Step.startsWith "Opened group ") = 3
      ∧ (precedence.evaluate s).steps.countP (Step.startsWith "Evaluated ") = 4 := by
  let digit (c : Char) (valid : [c].all Char.isDigit = true) : Phrase .operand :=
    .numeral [c] (.whole (List.cons_ne_nil c []) valid)
  let difference : Phrase .expression :=
    .next (.first false (digit '2' rfl)) .subtract (digit '5' rfl)
  let sum : Phrase .expression :=
    .next (.first false (.group (.first true (digit '4' rfl)))) .add (digit '1' rfl)
  let e : Phrase .expression :=
    .next (.next (.first true (.group difference)) .multiply (.group sum)) .power (digit '2' rfl)
  have valid : Expression.validate "-(2 - 5)*((-4)+1)^2".toList = .ok "-(2-5)*((-4)+1)^2".toList :=
    toOption_eq_some.1 (by decide +kernel)
  have same : "-(2-5)*((-4)+1)^2".toList = e.text := by decide +kernel
  have levels : e.AtEveryLevel Phrase.Unambiguous := by
    refine ⟨.inl (by decide), ⟨⟨.inl (by decide), trivial, trivial⟩, ?_⟩, trivial⟩
    exact ⟨.inr ⟨[], [], rfl, by decide, by decide, by decide⟩, ⟨.inl (by decide), trivial⟩,
      trivial⟩
  have byPrecedence : (precedence.evaluate "-(2 - 5)*((-4)+1)^2".toList).outcome
      = .ok (.ofInt 27) :=
    toOption_eq_some.1 (by decide +kernel)
  have byReduction : (reduce.evaluate "-(2 - 5)*((-4)+1)^2".toList).outcome = .ok (.ofInt 27) := by
    rw [outcome_evaluate reduce (same ▸ valid), ← toOption_eq_some,
      toOption_value_of_unambiguous levels, toOption_eq_some,
      ← outcome_evaluate precedence (same ▸ valid), byPrecedence]
  have operators : Expression.countOperators "-(2-5)*((-4)+1)^2".toList = 4 := by decide +kernel
  have groups : Group.countOpenings "-(2-5)*((-4)+1)^2".toList = 3 := by decide +kernel
  obtain ⟨reduced, evaluated⟩ := evaluate_applies_once valid
  obtain ⟨reductions, openings⟩ := reduced _ byReduction
  exact ⟨valid, reductions.trans operators, openings.trans groups,
    (evaluated _ byPrecedence).trans operators⟩

end Engine

end InfixCalculator
