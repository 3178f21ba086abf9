import InfixCalculator.Engine
import InfixCalculator.Proofs.Precedence
import InfixCalculator.Proofs.Resolution
import InfixCalculator.Proofs.Validation

/-!
# What the engines give

A text that passes validation is the text of an expression, and on such a text each engine gives the
value that it ascribes to the expression (`Engine.value`, `Engine.outcome_evaluate`): reduction the
number of `Phrase.numberByRank`, and precedence that of `Phrase.fromLeft`.

Both values are orderly (`Orderly`): they are numbers that are finite and not negative zero, or
faults of numbers, which are those of arithmetic and those of literals past the finite numbers. So
validation is the only source of faults about the shape of a text (`Engine.evaluate_of_validate`).
-/

set_option autoImplicit false

namespace InfixCalculator

/-! ## Engines on validated text -/

/-- The number that an expression comes to when the operators of each level are applied in their
order, or the first fault met. -/
def Phrase.numberByRank (e : Phrase .expression) : Except Fault Binary64 :=
  e.byRank.bind fun literal => parseNumber literal.text

namespace Engine

/-- The number that an engine ascribes to an expression, or the first fault it meets. -/
def value : Engine → Phrase .expression → Except Fault Binary64
  | reduce, e => e.numberByRank.map Binary64.normalizeZero
  | precedence, e => e.fromLeft.map Binary64.normalizeZero

theorem outcome_evaluateByReduction (e : Phrase .expression) :
    (evaluateByReduction e.text).outcome = reduce.value e := by
  rw [evaluateByReduction, Traced.outcome_bind, Nested.outcome_reduce, Nested.resolve_phrase, value,
    Phrase.numberByRank, map_of_bind]
  refine bind_congr_of_ok fun literal _ => ?_
  rw [Traced.outcome_bind, Traced.outcome_liftM, map_eq_bind]
  rfl

theorem outcome_evaluateByPrecedence (e : Phrase .expression) :
    (evaluateByPrecedence e.text).outcome = precedence.value e := by
  rw [evaluateByPrecedence, Traced.outcome_bind, Traced.outcome_liftM, Token.scan_phrase, bind_ok]
  exact Token.outcome_evaluate_phrase e

/-- What validation refuses is refused by every engine with the same fault. -/
theorem outcome_evaluate_of_error (engine : Engine) {s : Text} {fault : Fault}
    (refused : Expression.validate s = .error fault) :
    (engine.evaluate s).outcome = .error fault := by
  rw [evaluate, refused, Traced.outcome_bind, Traced.outcome_liftM, bind_error]

/-- **On a text that passes validation** an engine gives the value it ascribes to the expression. -/
theorem outcome_evaluate (engine : Engine) {s : Text} {e : Phrase .expression}
    (valid : Expression.validate s = .ok e.text) :
    (engine.evaluate s).outcome = engine.value e := by
  rw [evaluate, valid, Traced.outcome_bind, Traced.outcome_liftM, bind_ok, Traced.outcome_bind,
    Traced.outcome_step, bind_ok]
  cases engine with
  | reduce => exact outcome_evaluateByReduction e
  | precedence => exact outcome_evaluateByPrecedence e

/-- A text that passes validation is the text of an expression, up to its blanks. -/
theorem exists_phrase_of_validate {s compact : Text} (valid : Expression.validate s = .ok compact) :
    ∃ e : Phrase .expression, Expression.validate s = .ok e.text := by
  obtain ⟨-, e, same⟩ := Expression.derivable_of_validate valid
  exact ⟨e, same.symm ▸ valid⟩

end Engine

/-! ## Faults of numbers -/

/-- A cause that lies in the numbers of an expression and not in its shape. -/
def Cause.IsNumeric : Cause → Prop
  | .literalTooLarge _ => True
  | .arithmetic _ => True
  | _ => False

/-- A fault of arithmetic is a division by zero or an overflow. -/
theorem ArithmeticFault.kind_eq (fault : ArithmeticFault) :
    fault.kind = .divisionByZero ∨ fault.kind = .numericOverflow := by
  cases fault <;> simp [ArithmeticFault.kind]

theorem Cause.kind_of_isNumeric {cause : Cause} (numeric : cause.IsNumeric) :
    cause.kind = .divisionByZero ∨ cause.kind = .numericOverflow := by
  cases cause with
  | literalTooLarge => exact .inr rfl
  | arithmetic fault => exact fault.kind_eq
  | _ => cases numeric

/-- A result whose value has a property, or whose fault is one of numbers. -/
inductive Orderly {α : Type} (P : α → Prop) : Except Fault α → Prop where
  /-- A value with the property. -/
  | ok {value : α} (property : P value) : Orderly P (.ok value)
  /-- A fault of numbers. -/
  | error {fault : Fault} (numeric : fault.cause.IsNumeric) : Orderly P (.error fault)

namespace Orderly

variable {α β : Type} {P : α → Prop} {Q : β → Prop} {result : Except Fault α}

theorem bind {next : α → Except Fault β} (first : Orderly P result)
    (then_ : ∀ value, result = .ok value → P value → Orderly Q (next value)) :
    Orderly Q (result.bind next) := by
  cases first with
  | ok property => exact then_ _ rfl property
  | error numeric => exact .error numeric

theorem map {f : α → β} (first : Orderly P result) (image : ∀ value, P value → Q (f value)) :
    Orderly Q (result.map f) := by
  cases first with
  | ok property => exact .ok (image _ property)
  | error numeric => exact .error numeric

/-- A fault of arithmetic is one of numbers. -/
theorem ofArithmetic {result : Except ArithmeticFault α}
    (values : ∀ value, result = .ok value → P value) :
    Orderly P (result.mapError Fault.ofArithmetic) := by
  cases result with
  | ok value => exact .ok (values value rfl)
  | error fault => exact .error trivial

/-- Reading a literal gives a finite number, unless the literal is too large. -/
theorem parseNumber {text : Text} (literal : Literal.isLiteral text = true) :
    Orderly (fun x => x.isFinite = true) (parseNumber text) := by
  rw [parseNumber_of_isLiteral literal]
  split
  · rename_i finite
    exact .ok finite
  · exact .error trivial

end Orderly

/-! ## Reduction is orderly -/

theorem Literal.orderly_applyOperator (op : Operator) (x y : Literal) :
    Orderly (fun _ => True) (Literal.rules.apply op x y) := by
  rw [Literal.rules_apply, Literal.applyOperator]
  have left := Orderly.parseNumber x.valid
  have right := Orderly.parseNumber y.valid
  generalize parseNumber x.text = first at left
  generalize parseNumber y.text = second at right
  cases left with
  | error numeric => exact .error numeric
  | ok _ =>
    cases right with
    | error numeric => exact .error numeric
    | ok _ =>
      dsimp only
      split
      · exact .error trivial
      · exact .ok trivial

theorem Chain.orderly_applyOperator (op : Operator) (row : Row) :
    Orderly (fun _ => True) (Chain.applyOperator Literal.rules op row) := by
  induction row using Chain.operator_induction Literal.rules op with
  | done row absent =>
    rw [Chain.applyOperator_of_not_mem _ absent]
    exact .ok trivial
  | step front left right back absent ih =>
    rw [Chain.applyOperator_prepend _ absent]
    exact (Literal.orderly_applyOperator op left right).bind fun z applied _ => ih z applied

theorem Chain.orderly_applyOperators (ops : List Operator) (row : Row) :
    Orderly (fun _ => True) (Chain.applyOperators Literal.rules ops row) := by
  induction ops generalizing row with
  | nil => exact .ok trivial
  | cons op ops ih =>
    rw [Chain.applyOperators_cons]
    exact (Chain.orderly_applyOperator op _).bind fun shorter _ _ => ih shorter

namespace Phrase

theorem orderly_reduce (row : Row) : Orderly (fun _ => True) (row.reduce Literal.rules) :=
  (Chain.orderly_applyOperators Operator.all row).map fun _ _ => trivial

theorem orderly_row {role : Role} (phrase : Phrase role) : Orderly (fun _ => True) phrase.row := by
  induction phrase with
  | numeral => exact .ok trivial
  | group inner ih =>
    exact (ih.bind fun row _ _ => orderly_reduce row).map fun _ _ => trivial
  | first negated operand ih => exact ih.map fun _ _ => trivial
  | next front op operand ihFront ihOperand =>
    exact ihFront.bind fun row _ _ => ihOperand.map fun _ _ => trivial

theorem orderly_numberByRank (e : Phrase .expression) :
    Orderly (fun x => x.isFinite = true) e.numberByRank :=
  (e.orderly_row.bind fun row _ _ => orderly_reduce row).bind fun x _ _ =>
    Orderly.parseNumber x.valid

end Phrase

/-! ## Precedence is orderly -/

namespace Spine

theorem isFinite_of_collapseFrom {rank : Nat} {x : Binary64} (finite : x.isFinite = true)
    {waiting : List (Binary64 × Operator)} {s : Spine}
    (collapsed : collapseFrom rank x waiting = .ok s) : s.current.isFinite = true := by
  induction waiting generalizing x with
  | nil =>
    cases collapsed
    exact finite
  | cons item waiting ih =>
    obtain ⟨left, op⟩ := item
    unfold collapseFrom at collapsed
    split at collapsed
    · cases collapsed
      exact finite
    · obtain ⟨z, applied, collapsed⟩ := bind_eq_ok.1 collapsed
      exact ih (Operator.isCanonical_of_apply applied).1 collapsed

theorem isFinite_of_total {s : Spine} (finite : s.current.isFinite = true) {x : Binary64}
    (total : s.total = .ok x) : x.isFinite = true := by
  obtain ⟨ended, collapsed, rfl⟩ := map_eq_ok.1 total
  exact isFinite_of_collapseFrom finite collapsed

end Spine

theorem Binary64.isFinite_neg (x : Binary64) : (-x).isFinite = x.isFinite := by
  cases x <;> rfl

namespace Phrase

theorem orderly_spine {role : Role} (phrase : Phrase role) :
    Orderly (fun s => s.current.isFinite = true) phrase.spine := by
  induction phrase with
  | numeral text valid =>
    have read := Orderly.parseNumber
      (Literal.isLiteral_withSign false (Numeral.isNumeral_of_derives valid))
    exact read.map fun _ finite => finite
  | group inner ih =>
    refine ih.bind fun s _ finite => ?_
    have ended : Orderly (fun x => x.isFinite = true) (s.total.mapError Fault.ofArithmetic) :=
      .ofArithmetic fun x total => Spine.isFinite_of_total finite total
    exact ended.map fun _ finite => finite
  | first negated operand ih =>
    cases operand with
    | numeral text valid =>
      have read := Orderly.parseNumber
        (Literal.isLiteral_withSign negated (Numeral.isNumeral_of_derives valid))
      exact read.map fun _ finite => finite
    | group inner =>
      refine ih.map fun s finite => ?_
      cases negated with
      | false => exact finite
      | true => exact (Binary64.isFinite_neg _).trans finite
  | next front op operand ihFront ihOperand =>
    refine ihFront.bind fun s _ finite => ?_
    have collapsed : Orderly (fun _ => True) ((s.collapse op.rank).mapError Fault.ofArithmetic) :=
      .ofArithmetic fun _ _ => trivial
    exact collapsed.bind fun s _ _ => ihOperand.map fun last finite => finite

theorem orderly_fromLeft (e : Phrase .expression) :
    Orderly (fun x => x.isFinite = true) e.fromLeft :=
  e.orderly_spine.bind fun _ _ finite => .ofArithmetic fun _ => Spine.isFinite_of_total finite

end Phrase

/-! ## Shape and numbers -/

namespace Engine

/-- The value of an expression is orderly in either engine. -/
theorem orderly_value (engine : Engine) (e : Phrase .expression) :
    Orderly Binary64.IsCanonical (engine.value e) := by
  have canonical (x : Binary64) (finite : x.isFinite = true) : x.normalizeZero.IsCanonical :=
    ⟨(Binary64.isFinite_normalizeZero x).trans finite, Binary64.normalizeZero_ne_negativeZero x⟩
  cases engine with
  | reduce => exact e.orderly_numberByRank.map canonical
  | precedence => exact e.orderly_fromLeft.map canonical

/-- **Validation is the only source of faults about the shape of a text.** A text that it refuses is
refused by every engine with exactly its fault. On a text that passes, an engine gives a number that
is finite and not negative zero, or a fault of numbers, which is a division by zero or an
overflow. -/
theorem evaluate_of_validate (engine : Engine) (s : Text) :
    match Expression.validate s with
    | .error fault => (engine.evaluate s).outcome = .error fault
    | .ok _ =>
      (∃ x, (engine.evaluate s).outcome = .ok x ∧ x.IsCanonical) ∨
      ∃ fault, (engine.evaluate s).outcome = .error fault ∧ fault.cause.IsNumeric
        ∧ (fault.kind = .divisionByZero ∨ fault.kind = .numericOverflow) := by
  cases valid : Expression.validate s with
  | error fault => exact outcome_evaluate_of_error engine valid
  | ok compact =>
    obtain ⟨e, phrase⟩ := exists_phrase_of_validate valid
    rw [outcome_evaluate engine phrase]
    have orderly := engine.orderly_value e
    dsimp only
    cases result : engine.value e with
    | ok x =>
      rw [result] at orderly
      cases orderly with
      | ok canonical => exact .inl ⟨x, rfl, canonical⟩
    | error fault =>
      rw [result] at orderly
      cases orderly with
      | error numeric => exact .inr ⟨fault, rfl, numeric, Cause.kind_of_isNumeric numeric⟩

end Engine

end InfixCalculator
