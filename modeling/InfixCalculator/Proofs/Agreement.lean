import InfixCalculator.Proofs.Levels
import InfixCalculator.Proofs.Turning

/-!
# Where the engines agree

Both engines reduce an expression level by level, and differ in how they reduce a level: by rank,
with additions turned into subtractions, or from the left. On a level whose operators are
unambiguous both ways come to the same value (`Chain.toOption_reduce_eq_fromLeft`), so on
expressions with unambiguous levels only the engines return the same numbers
(`Engine.evaluate_eq_ok_iff`), and one fails exactly when the other does
(`Engine.errorClass_eq_none_iff`).

When both fail, each reports the fault it meets first, and the two orders may meet different ones.
The engines report errors of one class exactly when the two orders do (`Engine.errorClass_eq_iff`),
which is not always so (`Engine.not_errorClass_eq`): in `1/0+10^400` reduction comes to the power
first, and precedence to the quotient.
-/

set_option autoImplicit false

namespace InfixCalculator

/-! ## Numbers -/

/-- On a level with unambiguous operators, reduction by rank and reading from the left come to the
same value. -/
theorem Chain.toOption_reduce_eq_fromLeft {chain : Chain Binary64}
    (unambiguous : Phrase.Unambiguous chain.operators) :
    (chain.reduce Binary64.rules).toOption = chain.fromLeft.toOption :=
  (reduce_of_unambiguous unambiguous).trans chain.reduce_plain

namespace Engine

/-- How an engine reduces the chain of a level. -/
def level : Engine → Chain Binary64 → Option Binary64
  | reduce, c => (c.reduce Binary64.rules).toOption
  | precedence, c => c.fromLeft.toOption

/-- The number that an engine returns is the value of the levels, with zero positive. -/
theorem toOption_value (engine : Engine) (e : Phrase .expression) :
    (engine.value e).toOption = (e.value? engine.level).map Binary64.normalizeZero := by
  cases engine with
  | reduce =>
    show (e.numberByRank.map _).toOption = _
    rw [toOption_map, e.toOption_numberByRank]
    rfl
  | precedence =>
    show (e.fromLeft.map _).toOption = _
    rw [toOption_map, e.toOption_fromLeft]
    rfl

/-- The engines ascribe the same numbers to expressions with unambiguous levels. -/
theorem toOption_value_of_unambiguous {e : Phrase .expression}
    (levels : e.AtEveryLevel Phrase.Unambiguous) :
    (reduce.value e).toOption = (precedence.value e).toOption := by
  have same : e.value? reduce.level = e.value? precedence.level :=
    Phrase.value?_congr (fun _ unambiguous => Chain.toOption_reduce_eq_fromLeft unambiguous) levels
  rw [toOption_value, toOption_value, same]

/-- **The engines agree where nothing can be associated in two ways.** When every level of an
expression has at most one addition and no subtraction after it, one engine returns a number exactly
when the other does, and then the same one. -/
theorem evaluate_eq_ok_iff {s : Text} {e : Phrase .expression}
    (valid : Expression.validate s = .ok e.text) (levels : e.AtEveryLevel Phrase.Unambiguous)
    (x : Binary64) :
    (reduce.evaluate s).outcome = .ok x ↔ (precedence.evaluate s).outcome = .ok x := by
  rw [outcome_evaluate reduce valid, outcome_evaluate precedence valid, ← toOption_eq_some,
    ← toOption_eq_some, toOption_value_of_unambiguous levels]

/-- An expression to which it applies: signs, a group and a power inside an unambiguous level. -/
theorem evaluate_eq_ok_iff_nested :
    ∃ e : Phrase .expression, Expression.validate "9 - (-2^5) + 4".toList = .ok e.text
      ∧ e.AtEveryLevel Phrase.Unambiguous
      ∧ ∀ x, (reduce.evaluate "9 - (-2^5) + 4".toList).outcome = .ok x
        ↔ (precedence.evaluate "9 - (-2^5) + 4".toList).outcome = .ok x := by
  let digit (c : Char) (valid : [c].all Char.isDigit = true) : Phrase .operand :=
    .numeral [c] (.whole (List.cons_ne_nil c []) valid)
  let power : Phrase .expression := .next (.first true (digit '2' rfl)) .power (digit '5' rfl)
  let e : Phrase .expression :=
    .next (.next (.first false (digit '9' rfl)) .subtract (.group power)) .add (digit '4' rfl)
  have valid : Expression.validate "9 - (-2^5) + 4".toList = .ok e.text :=
    toOption_eq_some.1 (by decide +kernel)
  have outer : Phrase.Unambiguous e.operators :=
    .inr ⟨[.subtract], [], rfl, by decide, by decide, by decide⟩
  have inner : Phrase.Unambiguous power.operators := .inl (by decide)
  have levels : e.AtEveryLevel Phrase.Unambiguous :=
    ⟨outer, ⟨trivial, inner, trivial, trivial⟩, trivial⟩
  exact ⟨e, valid, levels, evaluate_eq_ok_iff valid levels⟩

end Engine

/-! ## Errors -/

section Errors

variable {α : Type}

/-- The class of the error that an evaluation ends in; nothing when it ends in a value. -/
def errorClass : Except Fault α → Option String
  | .ok _ => none
  | .error fault => some fault.kind.name

/-- An evaluation that fails with a kind of error. -/
def FailsWith (result : Except Fault α) (kind : Diagnostic.Kind) : Prop :=
  ∃ fault, result = .error fault ∧ fault.kind = kind

theorem errorClass_map {β : Type} (f : α → β) (result : Except Fault α) :
    errorClass (result.map f) = errorClass result := by
  cases result <;> rfl

theorem FailsWith.errorClass {result : Except Fault α} {kind : Diagnostic.Kind}
    (fails : FailsWith result kind) : errorClass result = some kind.name := by
  obtain ⟨fault, rfl, rfl⟩ := fails
  rfl

/-- An orderly result is a value, or fails with a division by zero or an overflow. -/
theorem Orderly.value_or_fails {P : α → Prop} {result : Except Fault α}
    (orderly : Orderly P result) :
    (∃ x, result = .ok x) ∨ FailsWith result .divisionByZero
      ∨ FailsWith result .numericOverflow := by
  cases orderly with
  | ok property => exact .inl ⟨_, rfl⟩
  | @error fault numeric =>
    rcases Cause.kind_of_isNumeric numeric with zero | overflow
    · exact .inr (.inl ⟨fault, rfl, zero⟩)
    · exact .inr (.inr ⟨fault, rfl, overflow⟩)

/-- Two orderly results have errors of the same class when both are values or both fail in the same
way. -/
theorem Orderly.same_class_iff {P Q : α → Prop} {first second : Except Fault α}
    (orderly : Orderly P first) (orderly' : Orderly Q second) :
    errorClass first = errorClass second
      ↔ (∃ x y, first = .ok x ∧ second = .ok y)
        ∨ (FailsWith first .divisionByZero ∧ FailsWith second .divisionByZero)
        ∨ (FailsWith first .numericOverflow ∧ FailsWith second .numericOverflow) := by
  have ne : Diagnostic.Kind.name .divisionByZero ≠ Diagnostic.Kind.name .numericOverflow := by
    decide
  constructor
  · intro same
    rcases orderly.value_or_fails with ⟨x, rfl⟩ | zero | overflow
    · rcases orderly'.value_or_fails with ⟨y, rfl⟩ | fails | fails
      · exact .inl ⟨x, y, rfl, rfl⟩
      · cases same.trans fails.errorClass
      · cases same.trans fails.errorClass
    · rw [zero.errorClass] at same
      rcases orderly'.value_or_fails with ⟨y, rfl⟩ | fails | fails
      · cases same
      · exact .inr (.inl ⟨zero, fails⟩)
      · exact absurd (Option.some.inj (same.trans fails.errorClass)) ne
    · rw [overflow.errorClass] at same
      rcases orderly'.value_or_fails with ⟨y, rfl⟩ | fails | fails
      · cases same
      · exact absurd (Option.some.inj (same.trans fails.errorClass)).symm ne
      · exact .inr (.inr ⟨overflow, fails⟩)
  · rintro (⟨x, y, rfl, rfl⟩ | ⟨fails, fails'⟩ | ⟨fails, fails'⟩)
    · rfl
    · rw [fails.errorClass, fails'.errorClass]
    · rw [fails.errorClass, fails'.errorClass]

end Errors

namespace Engine

/-- Where nothing can be associated in two ways, one engine fails exactly when the other does. -/
theorem errorClass_eq_none_iff {s : Text} {e : Phrase .expression}
    (valid : Expression.validate s = .ok e.text) (levels : e.AtEveryLevel Phrase.Unambiguous) :
    errorClass (reduce.evaluate s).outcome = none
      ↔ errorClass (precedence.evaluate s).outcome = none := by
  have same := toOption_value_of_unambiguous levels
  rw [outcome_evaluate reduce valid, outcome_evaluate precedence valid]
  revert same
  cases reduce.value e <;> cases precedence.value e <;> simp [errorClass, Except.toOption]

/-- **When the engines report errors of the same class.** Either validation refuses the text, or the
operators of the expression applied by rank and those applied from the left both lead to a number,
both to a division by zero first, or both to an overflow first. -/
theorem errorClass_eq_iff (s : Text) :
    errorClass (reduce.evaluate s).outcome = errorClass (precedence.evaluate s).outcome
      ↔ (∃ fault, Expression.validate s = .error fault)
        ∨ ∃ e : Phrase .expression, Expression.validate s = .ok e.text
          ∧ ((∃ x y, e.numberByRank = .ok x ∧ e.fromLeft = .ok y)
            ∨ (FailsWith e.numberByRank .divisionByZero ∧ FailsWith e.fromLeft .divisionByZero)
            ∨ (FailsWith e.numberByRank .numericOverflow
              ∧ FailsWith e.fromLeft .numericOverflow)) := by
  have atPhrase {e : Phrase .expression} (valid : Expression.validate s = .ok e.text) :
      errorClass (reduce.evaluate s).outcome = errorClass (precedence.evaluate s).outcome
        ↔ errorClass e.numberByRank = errorClass e.fromLeft := by
    rw [outcome_evaluate reduce valid, outcome_evaluate precedence valid]
    unfold value
    rw [errorClass_map, errorClass_map]
  constructor
  · intro same
    cases valid : Expression.validate s with
    | error fault => exact .inl ⟨fault, rfl⟩
    | ok compact =>
      obtain ⟨e, phrase⟩ := exists_phrase_of_validate valid
      have reached := (Orderly.same_class_iff e.orderly_numberByRank e.orderly_fromLeft).1
        ((atPhrase phrase).1 same)
      exact .inr ⟨e, valid.symm.trans phrase, reached⟩
  · rintro (⟨fault, refused⟩ | ⟨e, valid, reached⟩)
    · rw [outcome_evaluate_of_error reduce refused, outcome_evaluate_of_error precedence refused]
    · exact (atPhrase valid).2
        ((Orderly.same_class_iff e.orderly_numberByRank e.orderly_fromLeft).2 reached)

/-- In `1/0+10^400` reduction meets the overflow of the power first, and precedence the division by
zero. -/
theorem not_errorClass_eq :
    ¬∀ s, errorClass (reduce.evaluate s).outcome = errorClass (precedence.evaluate s).outcome := by
  intro agree
  let whole (c : Char) (cs : Text) (valid : (c :: cs).all Char.isDigit = true) : Phrase .operand :=
    .numeral (c :: cs) (.whole (List.cons_ne_nil c cs) valid)
  let e : Phrase .expression :=
    .next (.next (.next (.first false (whole '1' [] rfl)) .divide (whole '0' [] rfl))
      .add (whole '1' ['0'] rfl)) .power (whole '4' ['0', '0'] rfl)
  have passes : Expression.validate "1/0+10^400".toList = .ok e.text :=
    toOption_eq_some.1 (by decide +kernel)
  let literal (text : Text) (valid : Numeral.isNumeral text = true) :=
    Literal.ofNumeral false text valid
  have quotient : errorClass (precedence.evaluate "1/0+10^400".toList).outcome
      = some "DivisionByZeroError" := by decide +kernel
  have power : errorClass (Literal.rules.apply .power (literal ['1', '0'] rfl)
      (literal ['4', '0', '0'] rfl)) = some "NumericOverflowError" := by decide +kernel
  cases failed :
    Literal.rules.apply .power (literal ['1', '0'] rfl) (literal ['4', '0', '0'] rfl) with
  | ok _ => rw [failed] at power; cases power
  | error fault =>
    have byRank : e.byRank = .error fault :=
      @Chain.reduce_of_power_error _ _ Literal.rules
        [(literal ['1'] rfl, .divide), (literal ['0'] rfl, .add)] (by decide) _ _ _ failed []
    have reduced : (reduce.evaluate "1/0+10^400".toList).outcome = .error fault := by
      rw [outcome_evaluate reduce passes]
      show (e.byRank.bind _).map _ = _
      rw [byRank]
      rfl
    have same := agree "1/0+10^400".toList
    rw [reduced, quotient] at same
    rw [failed] at power
    exact absurd (power.symm.trans same) (by decide)

end Engine

end InfixCalculator
