import InfixCalculator.Proofs.Agreement
import InfixCalculator.Proofs.WholeChains

/-!
# Whole-number expressions are evaluated exactly

An expression of whole numerals, products, sums and differences whose parts all stay small has
chains of whole numbers for levels, with small products and a small sum of magnitudes
(`Phrase.exists_numbers`). Each engine reduces such a level to its value by the usual rules of
arithmetic (`Engine.level_whole`), and so returns the whole-number value of the expression
(`Engine.evaluate_whole`), although the engines associate sums in different ways.
-/

set_option autoImplicit false

namespace InfixCalculator

open Magnitude (wholeLimit)

/-! ## Levels of whole numbers -/

/-- Growing is monotone. -/
theorem Phrase.Running.grow_le {s s' : Phrase.Running Nat} (sum : s.sum ≤ s'.sum)
    (product : s.product ≤ s'.product) (op : Operator) {n n' : Nat} (bound : n ≤ n') :
    (s.grow op n).sum ≤ (s'.grow op n').sum ∧ (s.grow op n).product ≤ (s'.grow op n').product := by
  cases op with
  | multiply => exact ⟨sum, Nat.mul_le_mul product bound⟩
  | _ => exact ⟨Nat.add_le_add sum product, bound⟩

namespace Chain

open Phrase (Running)

/-- A chain of whole numbers with a running value, with small products and at most a given running
size. -/
structure Evaluates (chain : Chain Binary64) (r : Running Int) (s : Running Nat) : Prop where
  /-- The items are whole numbers. -/
  whole : chain.IsWhole
  /-- The value. -/
  value : extendAll ⟨0, chain.first.toInt⟩ chain.rest = some r
  /-- The products stay small. -/
  small : SmallProducts ⟨0, chain.first.toInt.natAbs⟩ chain.rest
  /-- The size of what has been summed up. -/
  sum : (growAll ⟨0, chain.first.toInt.natAbs⟩ chain.rest).sum ≤ s.sum
  /-- The size of the last product. -/
  product : (growAll ⟨0, chain.first.toInt.natAbs⟩ chain.rest).product ≤ s.product

/-- A small whole number alone. -/
theorem evaluates_single {x : Binary64} {n : Int} (is : x.Is n) {s : Running Nat}
    (bound : n.natAbs ≤ s.product) (small : n.natAbs ≤ wholeLimit) :
      Evaluates ⟨x, []⟩ ⟨0, n⟩ s := by
  have value := is.toInt_eq
  refine ⟨⟨is.isWhole, by simp⟩, by rw [value]; rfl, ?_, Nat.zero_le _, by rw [value]; exact bound⟩
  intro front before
  rw [List.prefix_nil.1 before, value]
  exact small

/-- An item alone is the product that may still grow. -/
theorem Evaluates.eq_of_single {x : Binary64} {r : Running Int} {s : Running Nat}
    (evaluates : Evaluates ⟨x, []⟩ r s) : r.total = x.toInt := by
  obtain rfl : (⟨0, x.toInt⟩ : Running Int) = r := Option.some.inj evaluates.value
  exact Int.zero_add _

/-- An item alone with its sign changed. -/
theorem Evaluates.signed {x : Binary64} {r : Running Int} {s : Running Nat}
    (evaluates : Evaluates ⟨x, []⟩ r s) (within : s.total ≤ wholeLimit) (negated : Bool) :
    Evaluates ⟨if negated then -x else x, []⟩ ⟨0, if negated then -r.total else r.total⟩ s := by
  rw [evaluates.eq_of_single]
  have size : x.toInt.natAbs ≤ s.product := evaluates.product
  have small : x.toInt.natAbs ≤ wholeLimit :=
    Nat.le_trans size (Nat.le_trans (Nat.le_add_left _ _) within)
  cases negated with
  | false => exact evaluates_single evaluates.whole.1 size small
  | true =>
    rw [← Int.natAbs_neg] at size small
    exact evaluates_single evaluates.whole.1.neg size small

/-- A chain with one more operator and item. -/
theorem Evaluates.concat {chain : Chain Binary64} {r r' : Running Int} {s : Running Nat}
    (evaluates : chain.Evaluates r s) {op : Operator} {x : Binary64} (is : x.Is x.toInt)
    (extended : r.extend op x.toInt = some r') {size : Nat} (bound : x.toInt.natAbs ≤ size)
    (small : (s.grow op size).product ≤ wholeLimit) :
    Evaluates ⟨chain.first, chain.rest ++ [(op, x)]⟩ r' (s.grow op size) := by
  have grown : growAll ⟨0, chain.first.toInt.natAbs⟩ (chain.rest ++ [(op, x)])
      = (growAll ⟨0, chain.first.toInt.natAbs⟩ chain.rest).grow op x.toInt.natAbs :=
    growAll_append _ chain.rest [(op, x)]
  obtain ⟨sum, product⟩ := Running.grow_le evaluates.sum evaluates.product op bound
  refine ⟨⟨evaluates.whole.1, ?_⟩, ?_, ?_, ?_, ?_⟩
  · exact List.forall_mem_append.2 ⟨evaluates.whole.2, List.forall_mem_singleton.2 is⟩
  · rw [extendAll_append, evaluates.value, Option.bind_some, extendAll, extended]
    rfl
  · intro front before
    rcases List.prefix_concat_iff.1 before with rfl | before
    · rw [grown]
      exact Nat.le_trans product small
    · exact evaluates.small front before
  · rw [grown]
    exact sum
  · rw [grown]
    exact product

/-- The running value of a chain is at most its running size. -/
theorem natAbs_extendAll {rest : List (Operator × Binary64)} {r r' : Running Int} {s : Running Nat}
    (value : extendAll r rest = some r') (sum : r.sum.natAbs ≤ s.sum)
    (product : r.product.natAbs ≤ s.product) :
    r'.sum.natAbs ≤ (growAll s rest).sum ∧ r'.product.natAbs ≤ (growAll s rest).product := by
  induction rest generalizing r s with
  | nil =>
    cases value
    exact ⟨sum, product⟩
  | cons item rest ih =>
    obtain ⟨op, x⟩ := item
    obtain ⟨next, extended, value⟩ := Option.bind_eq_some_iff.1 value
    rw [growAll]
    rcases Running.operator_of_extend extended with rfl | additive
    · cases extended
      refine ih value sum (Nat.le_trans (Nat.le_of_eq (Int.natAbs_mul _ _)) ?_)
      exact Nat.mul_le_mul_right _ product
    · rw [Running.extend_additive additive] at extended
      rw [Running.grow_additive additive]
      cases extended
      refine ih value ?_ (Nat.le_of_eq (op.natAbs_signed x.toInt))
      simp only [Running.total]
      omega

/-- The value of a chain is at most its size. -/
theorem Evaluates.natAbs_total {chain : Chain Binary64} {r : Running Int} {s : Running Nat}
    (evaluates : chain.Evaluates r s) : r.total.natAbs ≤ s.total := by
  obtain ⟨sum, product⟩ := natAbs_extendAll (s := ⟨0, chain.first.toInt.natAbs⟩) evaluates.value
    (Nat.le_refl _) (Nat.le_refl _)
  have := evaluates.sum
  have := evaluates.product
  unfold Running.total
  omega

end Chain

namespace Engine

/-- An engine reduces a level of small whole numbers to its value. -/
theorem level_whole (engine : Engine) {chain : Chain Binary64} {r : Phrase.Running Int}
    {s : Phrase.Running Nat} (evaluates : chain.Evaluates r s) (size : s.total ≤ wholeLimit) :
    ∃ z, engine.level chain = some z ∧ z.Is r.total := by
  obtain ⟨whole, value, small, sum, product⟩ := evaluates
  have within : (Chain.growAll ⟨0, chain.first.toInt.natAbs⟩ chain.rest).total ≤ wholeLimit :=
    Nat.le_trans (Nat.add_le_add sum product) size
  cases engine with
  | reduce =>
    obtain ⟨z, reduced, is⟩ := Chain.reduce_whole Chain.arithmetic_rules whole value small within
    exact ⟨z, toOption_eq_some.2 reduced, is⟩
  | precedence =>
    obtain ⟨z, reduced, is⟩ :=
      Chain.reduce_whole Chain.arithmetic_plainRules whole value small within
    refine ⟨z, ?_, is⟩
    rw [level, ← chain.reduce_plain, reduced]
    rfl

end Engine

/-! ## Whole expressions -/

namespace Phrase

/-- An operand with bounded parts is a part itself. -/
theorem total_size_le {limit : Nat} {operand : Phrase .operand}
    (bounded : operand.PartsBounded limit) : operand.size.total ≤ limit := by
  cases operand with
  | numeral text valid => exact bounded
  | group inner => exact Nat.le_trans (Nat.le_of_eq (Nat.zero_add _)) bounded.2

theorem size_next (front : Phrase .expression) (op : Operator) (operand : Phrase .operand) :
    (next front op operand).size = front.size.grow op operand.size.total := by
  cases op <;> rfl

theorem size_numeral {text : Text} (valid : Numeral.Derives text) {n : Nat}
    (value : wholeNumeral text = some n) : (numeral text valid).size = ⟨0, n⟩ := by
  rw [size, value, Option.getD_some]

/-- A row of digits with a small value is read as it. -/
theorem exists_number {text : Text} (valid : Numeral.Derives text) {n : Nat}
    (value : wholeNumeral text = some n) (small : n ≤ wholeLimit) :
    ∃ x, (parseNumber text).toOption = some x ∧ x.Is n := by
  unfold wholeNumeral at value
  split at value
  · rename_i digits
    cases value
    have nonempty := Numeral.ne_nil_of_isNumeral (Numeral.isNumeral_of_derives valid)
    have is := Literal.toBinary64_digits nonempty digits small
    refine ⟨_, ?_, is⟩
    have literal := Literal.isLiteral_withSign false (Numeral.isNumeral_of_derives valid)
    exact (Literal.toOption_parseNumber literal).trans (if_pos is.isFinite)
  · cases value

variable {level : Chain Binary64 → Option Binary64}

/-- **A whole-number phrase with small parts has a chain of whole numbers** with the running value
of the phrase, if levels of small whole numbers reduce to their values. -/
theorem exists_numbers
    (exact' : ∀ {c : Chain Binary64} {r : Running Int} {s : Running Nat}, c.Evaluates r s →
      s.total ≤ wholeLimit → ∃ z, level c = some z ∧ z.Is r.total)
    {role : Role} {phrase : Phrase role} {r : Running Int} (value : phrase.running = some r)
    (bounded : phrase.PartsBounded wholeLimit) :
    ∃ c, phrase.numbers level = some c ∧ c.Evaluates r phrase.size := by
  induction phrase generalizing r with
  | numeral text valid =>
    obtain ⟨n, shown, rfl⟩ := Option.map_eq_some_iff.1 value
    have small := total_size_le bounded
    rw [size_numeral valid shown, Running.total, Nat.zero_add] at small
    obtain ⟨x, read, is⟩ := exists_number valid shown small
    rw [size_numeral valid shown]
    exact ⟨_, Option.map_eq_some_iff.2 ⟨x, read, rfl⟩,
      Chain.evaluates_single is (Nat.le_refl _) small⟩
  | group inner ih =>
    obtain ⟨r, inside, rfl⟩ := Option.map_eq_some_iff.1 value
    obtain ⟨boundedInner, within⟩ := bounded
    obtain ⟨c, numbers, evaluates⟩ := ih inside boundedInner
    obtain ⟨z, reduced, is⟩ := exact' evaluates within
    have bound := evaluates.natAbs_total
    exact ⟨⟨z, []⟩, Option.map_eq_some_iff.2 ⟨z, Option.bind_eq_some_iff.2 ⟨c, numbers, reduced⟩,
      rfl⟩,
      Chain.evaluates_single is bound (Nat.le_trans bound within)⟩
  | first negated operand ih =>
    obtain ⟨r, inside, rfl⟩ := Option.map_eq_some_iff.1 value
    obtain ⟨c, numbers, evaluates⟩ := ih inside bounded
    obtain ⟨x, rfl⟩ := exists_single numbers
    exact ⟨_, Option.map_eq_some_iff.2 ⟨_, numbers, rfl⟩,
      evaluates.signed (total_size_le bounded) negated⟩
  | next front op operand ihFront ihOperand =>
    obtain ⟨boundedFront, boundedOperand, product⟩ := bounded
    rw [size_next] at product ⊢
    unfold running at value
    split at value
    · rename_i rFront rOperand runningFront runningOperand
      obtain ⟨c, numbers, evaluates⟩ := ihFront runningFront boundedFront
      obtain ⟨last, numbersLast, evaluatesLast⟩ := ihOperand runningOperand boundedOperand
      obtain ⟨y, rfl⟩ := exists_single numbersLast
      have single := evaluatesLast.eq_of_single
      have bound := evaluatesLast.natAbs_total
      rw [single] at value bound
      exact ⟨_, Option.bind_eq_some_iff.2 ⟨c, numbers,
        Option.map_eq_some_iff.2 ⟨_, numbersLast, rfl⟩⟩,
        evaluates.concat evaluatesLast.whole.1 value bound product⟩
    · cases value

end Phrase

namespace Engine

/-- **Both engines are exact on whole numbers.** An expression of whole numerals, products, sums and
differences, whose parts stay within `2 ^ 53` when every minus is taken for a plus, is evaluated to
its value by the usual rules of arithmetic. -/
theorem evaluate_whole {s : Text} {e : Phrase .expression}
    (valid : Expression.validate s = .ok e.text) {n : Int} (value : e.wholeValue = some n)
    (bounded : e.Bounded wholeLimit) (engine : Engine) :
    (engine.evaluate s).outcome = .ok (.ofInt n) ∧ (Binary64.ofInt n).Is n := by
  obtain ⟨r, running, rfl⟩ := Option.map_eq_some_iff.1 value
  obtain ⟨parts, size⟩ := bounded
  obtain ⟨c, numbers, evaluates⟩ := Phrase.exists_numbers engine.level_whole running parts
  obtain ⟨z, reduced, is⟩ := engine.level_whole evaluates size
  have small := Nat.le_trans evaluates.natAbs_total size
  have number : e.value? engine.level = some z := Option.bind_eq_some_iff.2 ⟨c, numbers, reduced⟩
  have result : (engine.value e).toOption = some (.ofInt r.total) := by
    rw [toOption_value, number, ← is.normalizeZero_eq_ofInt small]
    rfl
  rw [outcome_evaluate engine valid]
  refine ⟨toOption_eq_some.1 result, ?_⟩
  rw [← is.normalizeZero_eq_ofInt small]
  exact is.normalizeZero

/-- An expression to which it applies: a product with a group, and the sum of a negative number. -/
theorem evaluate_whole_nested :
    ∃ e : Phrase .expression, Expression.validate "7 + (-2)*3 - 4".toList = .ok e.text
      ∧ e.wholeValue = some (-3) ∧ e.Bounded wholeLimit
      ∧ ∀ engine : Engine,
        (engine.evaluate "7 + (-2)*3 - 4".toList).outcome = .ok (.ofInt (-3)) := by
  let digit (c : Char) (valid : [c].all Char.isDigit = true) : Phrase .operand :=
    .numeral [c] (.whole (List.cons_ne_nil c []) valid)
  let e : Phrase .expression :=
    .next (.next (.next (.first false (digit '7' rfl)) .add (.group (.first true (digit '2' rfl))))
      .multiply (digit '3' rfl)) .subtract (digit '4' rfl)
  have valid : Expression.validate "7 + (-2)*3 - 4".toList = .ok e.text :=
    toOption_eq_some.1 (by decide +kernel)
  have value : e.wholeValue = some (-3) := by decide
  have bounded : e.Bounded wholeLimit := by decide
  exact ⟨e, valid, value, bounded, fun engine => (evaluate_whole valid value bounded engine).1⟩

end Engine

end InfixCalculator
