import InfixCalculator.Proofs.Engines
import InfixCalculator.Proofs.Ranks

/-!
# The value of an expression, level by level

A way of reducing the chain of one level gives a value to a whole expression: the groups of a level
are replaced by their values, and the level is reduced (`Phrase.numbers`, `Phrase.value?`). Faults
are left out of account.

Both engines give values in this manner. Precedence reduces each level by reading it from the left
(`Phrase.toOption_fromLeft`). Reduction reduces it by rank, and it does so on literals. A reduction
of literals that ends in a finite number has met finite numbers only (`Row.isFinite_of_reduce`), and
then the literals follow the numbers step by step (`Literal.respects`), which gives
`Phrase.toOption_numberByRank`.
-/

set_option autoImplicit false

namespace InfixCalculator

/-! ## Reading literals -/

namespace Literal

theorem toOption_parseNumber {text : Text} (literal : isLiteral text = true) :
    (parseNumber text).toOption
      = if (toBinary64 text).isFinite then some (toBinary64 text) else none := by
  rw [parseNumber_of_isLiteral literal]
  split <;> rfl

/-- The sign of a literal may be read after its numeral. -/
theorem toOption_parseNumber_withSign (negated : Bool) {numeral : Text}
    (valid : Numeral.isNumeral numeral = true) :
    (parseNumber (Binary64.withSign negated numeral)).toOption
      = (parseNumber numeral).toOption.map fun x => if negated then -x else x := by
  have plain := toOption_parseNumber (isLiteral_withSign false valid)
  rw [toBinary64_withSign false valid, Binary64.withSign_false] at plain
  rw [toOption_parseNumber (isLiteral_withSign negated valid), toBinary64_withSign negated valid,
    plain]
  cases (Numeral.toDecimal numeral).round <;> cases negated <;> rfl

end Literal

namespace Phrase

/-! ## Levels -/

/-- The numbers of a level with the operators between them, the groups inside it replaced by their
values; nothing if one of them has none. -/
def numbers (level : Chain Binary64 → Option Binary64) :
    {role : Role} → Phrase role → Option (Chain Binary64)
  | _, numeral text _ => (parseNumber text).toOption.map fun x => ⟨x, []⟩
  | _, group inner => ((inner.numbers level).bind level).map fun x => ⟨x, []⟩
  | _, first negated operand =>
    (operand.numbers level).map fun c => ⟨if negated then -c.first else c.first, []⟩
  | _, next front op operand =>
    (front.numbers level).bind fun c =>
      (operand.numbers level).map fun last => ⟨c.first, c.rest ++ [(op, last.first)]⟩

/-- The value of an expression whose levels are reduced in a given way. -/
def value? (level : Chain Binary64 → Option Binary64) (e : Phrase .expression) : Option Binary64 :=
  (e.numbers level).bind level

theorem operators_numbers {level : Chain Binary64 → Option Binary64} {role : Role}
    {phrase : Phrase role} {chain : Chain Binary64} (numbers : phrase.numbers level = some chain) :
    chain.operators = phrase.operators := by
  induction phrase generalizing chain with
  | numeral text valid =>
    obtain ⟨x, -, rfl⟩ := Option.map_eq_some_iff.1 numbers
    rfl
  | group inner =>
    obtain ⟨x, -, rfl⟩ := Option.map_eq_some_iff.1 numbers
    rfl
  | first negated operand =>
    obtain ⟨c, -, rfl⟩ := Option.map_eq_some_iff.1 numbers
    rfl
  | next front op operand ihFront =>
    obtain ⟨c, before, numbers⟩ := Option.bind_eq_some_iff.1 numbers
    obtain ⟨last, -, rfl⟩ := Option.map_eq_some_iff.1 numbers
    rw [operators, ← ihFront before]
    simp [Chain.operators]

/-- An operand is a single number. -/
theorem exists_single {level : Chain Binary64 → Option Binary64} {operand : Phrase .operand}
    {chain : Chain Binary64} (numbers : operand.numbers level = some chain) :
    ∃ x, chain = ⟨x, []⟩ := by
  cases operand with
  | numeral text valid =>
    obtain ⟨x, -, rfl⟩ := Option.map_eq_some_iff.1 numbers
    exact ⟨x, rfl⟩
  | group inner =>
    obtain ⟨x, -, rfl⟩ := Option.map_eq_some_iff.1 numbers
    exact ⟨x, rfl⟩

/-- Ways of reducing that agree on the levels of a phrase give it the same numbers. -/
theorem numbers_congr {level level' : Chain Binary64 → Option Binary64} {P : List Operator → Prop}
    (agree : ∀ chain : Chain Binary64, P chain.operators → level chain = level' chain) {role : Role}
    {phrase : Phrase role} (groups : phrase.AtEveryGroup P) :
    phrase.numbers level = phrase.numbers level' := by
  induction phrase with
  | numeral text valid => rfl
  | group inner ih =>
    rw [Phrase.numbers, Phrase.numbers, ih groups.2]
    cases numbers : inner.numbers level' with
    | none => rfl
    | some chain =>
      have same := agree chain (by rw [operators_numbers numbers]; exact groups.1)
      rw [Option.bind_some, Option.bind_some, same]
  | first negated operand ih => rw [Phrase.numbers, Phrase.numbers, ih groups]
  | next front op operand ihFront ihOperand =>
    rw [Phrase.numbers, Phrase.numbers, ihFront groups.1, ihOperand groups.2]

/-- **Ways of reducing that agree on the levels of an expression give it the same value.** -/
theorem value?_congr {level level' : Chain Binary64 → Option Binary64} {P : List Operator → Prop}
    (agree : ∀ chain : Chain Binary64, P chain.operators → level chain = level' chain)
    {e : Phrase .expression} (levels : e.AtEveryLevel P) : e.value? level = e.value? level' := by
  unfold value?
  rw [numbers_congr agree levels.2]
  cases numbers : e.numbers level' with
  | none => rfl
  | some chain => exact agree chain (by rw [operators_numbers numbers]; exact levels.1)

/-! ## Levels read from the left -/

/-- The spine of a phrase is that of its numbers. -/
theorem toOption_spine {role : Role} (phrase : Phrase role) :
    phrase.spine.toOption = (phrase.numbers fun c => c.fromLeft.toOption).bind fun c =>
      ((Spine.single c.first).read c.rest).toOption := by
  induction phrase with
  | numeral text valid =>
    simp only [spine, numbers, toOption_map, Option.map_eq_bind, Function.comp_def,
      Option.bind_assoc, Option.bind_some, Spine.toOption_read_nil]
  | group inner ih =>
    simp only [spine, numbers, toOption_bind, toOption_map, toOption_mapError, ih, Chain.fromLeft,
      Option.map_eq_bind, Function.comp_def, Option.bind_assoc, Option.bind_some,
        Spine.toOption_read_nil]
  | first negated operand ih =>
    cases operand with
    | numeral text valid =>
      have signed :=
        Literal.toOption_parseNumber_withSign negated (Numeral.isNumeral_of_derives valid)
      simp only [spine, numbers, toOption_map, signed, Option.map_eq_bind, Function.comp_def,
        Option.bind_assoc, Option.bind_some, Spine.toOption_read_nil]
    | group inner =>
      rw [spine, toOption_map, ih]
      simp only [numbers, Option.map_eq_bind, Function.comp_def, Option.bind_assoc,
        Option.bind_some, Spine.toOption_read_nil]
      rfl
  | next front op operand ihFront ihOperand =>
    have single (s : Spine) :
        (operand.spine.toOption.bind fun last => some (s.push op last.current))
          = (operand.numbers fun c => c.fromLeft.toOption).bind fun last =>
            some (s.push op last.first) := by
      rw [ihOperand]
      cases numbers : operand.numbers fun c => c.fromLeft.toOption with
      | none => rfl
      | some last =>
        obtain ⟨y, rfl⟩ := exists_single numbers
        rfl
    simp only [spine, numbers, toOption_bind, toOption_map, toOption_mapError, ihFront,
      Spine.read_append, Spine.read, toOption_ok, Option.map_eq_bind, Function.comp_def,
      Option.bind_assoc, Option.bind_some, single]
    -- the operand has a value whatever stands in front of it
    congr 1
    funext c
    rw [Option.bind_comm]
    congr 1
    funext s
    rw [Option.bind_comm]

/-- **An expression read from the left** has the value of its levels read from the left. -/
theorem toOption_fromLeft (e : Phrase .expression) :
    e.fromLeft.toOption = e.value? fun c => c.fromLeft.toOption := by
  simp only [fromLeft, value?, Chain.fromLeft, toOption_bind, toOption_mapError, toOption_spine,
    Option.bind_assoc]

end Phrase

/-! ## Rows of literals and chains of numbers -/

namespace Literal

/-- A literal within the finite numbers. -/
def IsFinite (x : Literal) : Prop := (toBinary64 x.text).isFinite = true

theorem parseNumber_eq_ok {x : Literal} {value : Binary64} :
    parseNumber x.text = .ok value ↔ x.IsFinite ∧ toBinary64 x.text = value := by
  rw [← toOption_eq_some, toOption_parseNumber x.valid]
  by_cases finite : (toBinary64 x.text).isFinite = true
  · rw [if_pos finite, Option.some_inj]
    exact ⟨fun same => ⟨finite, same⟩, fun both => both.2⟩
  · rw [if_neg finite]
    exact ⟨fun none => (by cases none), fun both => absurd both.1 finite⟩

theorem isFinite_opposite (x : Literal) : x.opposite.IsFinite ↔ x.IsFinite := by
  unfold IsFinite
  rw [toBinary64_opposite, Binary64.isFinite_neg]

/-- Only finite literals are computed with, and what comes out is finite. -/
theorem isFinite_of_apply {op : Operator} {x y z : Literal} (applied : rules.apply op x y = .ok z) :
    x.IsFinite ∧ y.IsFinite
      ∧ op.apply (toBinary64 x.text) (toBinary64 y.text) = .ok (toBinary64 z.text)
      ∧ z.IsFinite := by
  rw [rules_apply, applyOperator] at applied
  split at applied
  · cases applied
  · rename_i a left
    split at applied
    · cases applied
    · rename_i b right
      obtain ⟨finiteLeft, rfl⟩ := parseNumber_eq_ok.1 left
      obtain ⟨finiteRight, rfl⟩ := parseNumber_eq_ok.1 right
      split at applied
      · cases applied
      · rename_i w result
        cases applied
        have canonical := Operator.isCanonical_of_apply result
        have value : toBinary64 (write w canonical.1).text = w := toBinary64_write canonical
        exact ⟨finiteLeft, finiteRight, by rw [value, result],
          (congrArg Binary64.isFinite value).trans canonical.1⟩

/-- **Literals within the finite numbers are computed with as their numbers are.** -/
theorem respects : Chain.Respects rules Binary64.rules IsFinite (fun x => toBinary64 x.text)
    Fault.ofArithmetic where
  apply op x y finiteLeft finiteRight := by
    have left := parseNumber_eq_ok.2 ⟨finiteLeft, rfl⟩
    have right := parseNumber_eq_ok.2 ⟨finiteRight, rfl⟩
    rw [Binary64.rules_apply]
    cases applied : rules.apply op x y with
    | ok z =>
      obtain ⟨-, -, result, -⟩ := isFinite_of_apply applied
      rw [result]
      rfl
    | error fault =>
      rw [rules_apply, applyOperator, left, right] at applied
      dsimp only at applied
      split at applied
      · rename_i cause result
        cases applied
        rw [result]
        rfl
      · cases applied
  result op x y z _ _ applied := (isFinite_of_apply applied).2.2.2
  isNegative := isNegative_toBinary64
  opposite x := (toBinary64_opposite x).symm
  opposite_property := isFinite_opposite

end Literal

namespace Row

/-- A run of an operator that leaves finite literals has met finite literals only. -/
theorem isFinite_of_applyOperator {op : Operator} {row result : Row}
    (run : Chain.applyOperator Literal.rules op row = .ok result) (finite : result.IsFinite) :
    row.IsFinite := by
  induction row using Chain.operator_induction Literal.rules op with
  | done row absent =>
    rw [Chain.applyOperator_of_not_mem _ absent] at run
    cases run
    exact finite
  | step front left right back absent ih =>
    rw [Chain.applyOperator_prepend _ absent] at run
    obtain ⟨z, applied, run⟩ := bind_eq_ok.1 run
    have shorter := (Chain.all_settle Literal.rules Literal.isFinite_opposite).1 (ih z applied run)
    obtain ⟨finiteLeft, finiteRight, -⟩ := Literal.isFinite_of_apply applied
    obtain ⟨inFront, -, behind⟩ := Chain.all_prepend.1 shorter
    exact Chain.all_prepend.2 ⟨inFront, Chain.all_cons.2 ⟨finiteLeft, finiteRight, behind⟩⟩

theorem isFinite_of_applyOperators {ops : List Operator} {row result : Row}
    (run : Chain.applyOperators Literal.rules ops row = .ok result) (finite : result.IsFinite) :
    row.IsFinite := by
  induction ops generalizing row with
  | nil =>
    cases run
    exact finite
  | cons op ops ih =>
    rw [Chain.applyOperators_cons] at run
    obtain ⟨shorter, first, run⟩ := bind_eq_ok.1 run
    exact (Chain.all_settle Literal.rules Literal.isFinite_opposite).1
      (isFinite_of_applyOperator first (ih run))

/-- **A reduction that ends in a finite number has met finite literals only.** -/
theorem isFinite_of_reduce {row : Row} {value : Literal}
    (reduced : row.reduce Literal.rules = .ok value) (finite : value.IsFinite) : row.IsFinite := by
  obtain ⟨result, run, rfl⟩ := map_eq_ok.1 reduced
  have alone := Chain.rest_eq_nil_of_applyOperators _ run
  refine isFinite_of_applyOperators run ⟨finite, ?_⟩
  rw [alone]
  simp

theorem isFinite_single {x : Literal} : IsFinite ⟨x, []⟩ ↔ x.IsFinite :=
  ⟨fun finite => finite.1, fun finite => ⟨finite, by simp⟩⟩

theorem isFinite_concat {row : Row} {op : Operator} {last : Literal} :
    IsFinite ⟨row.first, row.rest ++ [(op, last)]⟩ ↔ row.IsFinite ∧ last.IsFinite := by
  unfold IsFinite Chain.All
  rw [List.forall_mem_append, List.forall_mem_singleton, and_assoc]
  exact Iff.rfl

theorem chain_concat (row : Row) (op : Operator) (last : Literal) :
    chain ⟨row.first, row.rest ++ [(op, last)]⟩
      = ⟨row.chain.first, row.chain.rest ++ [(op, Literal.toBinary64 last.text)]⟩ := by
  unfold chain Chain.map
  rw [List.map_append]
  rfl

/-- A row reduces to a finite number exactly when its literals are finite and their numbers reduce
to it. -/
theorem reduce_eq_ok {row : Row} {x : Binary64} :
    (∃ value, row.reduce Literal.rules = .ok value ∧ parseNumber value.text = .ok x)
      ↔ row.IsFinite ∧ row.chain.reduce Binary64.rules = .ok x := by
  have follows (finite : row.IsFinite) := Literal.respects.reduce_map finite
  constructor
  · rintro ⟨value, reduced, read⟩
    obtain ⟨finiteValue, rfl⟩ := Literal.parseNumber_eq_ok.1 read
    have finite := isFinite_of_reduce reduced finiteValue
    rcases map_eq_mapError.1 (follows finite).1 with ⟨fault, failed, -⟩ | ⟨value', reduced', result⟩
    · cases reduced.symm.trans failed
    · cases reduced.symm.trans reduced'
      exact ⟨finite, result⟩
  · rintro ⟨finite, result⟩
    obtain ⟨run, results⟩ := follows finite
    rcases map_eq_mapError.1 run with ⟨fault, -, failed⟩ | ⟨value, reduced, result'⟩
    · cases result.symm.trans failed
    · cases result.symm.trans result'
      exact ⟨value, reduced, Literal.parseNumber_eq_ok.2 ⟨results value reduced, rfl⟩⟩

end Row

/-! ## Levels reduced by rank -/

namespace Phrase

/-- An operand is a single literal. -/
theorem exists_single_row {operand : Phrase .operand} {row : Row} (is : operand.row = .ok row) :
    ∃ x, row = ⟨x, []⟩ := by
  cases operand with
  | numeral text valid =>
    cases is
    exact ⟨_, rfl⟩
  | group inner =>
    obtain ⟨value, -, rfl⟩ := map_eq_ok.1 is
    exact ⟨value, rfl⟩

/-- The row of a phrase is finite and has these numbers. -/
def HasRow {role : Role} (phrase : Phrase role) (c : Chain Binary64) : Prop :=
  ∃ row, phrase.row = .ok row ∧ row.IsFinite ∧ row.chain = c

/-- The numbers of a phrase when its levels are reduced by rank. -/
def numbersByRank {role : Role} (phrase : Phrase role) : Option (Chain Binary64) :=
  phrase.numbers fun c => (c.reduce Binary64.rules).toOption

theorem numbersByRank_numeral {text : Text} (valid : Numeral.Derives text) (c : Chain Binary64) :
    (numeral text valid).numbersByRank = some c ↔ (numeral text valid).HasRow c := by
  have read (x : Binary64) := @Literal.parseNumber_eq_ok
    (.ofNumeral false text (Numeral.isNumeral_of_derives valid)) x
  constructor
  · intro numbers
    obtain ⟨x, value, rfl⟩ := Option.map_eq_some_iff.1 numbers
    obtain ⟨finite, rfl⟩ := (read x).1 (toOption_eq_some.1 value)
    exact ⟨_, rfl, Row.isFinite_single.2 finite, rfl⟩
  · rintro ⟨row, is, finite, rfl⟩
    cases is
    have value := (read _).2 ⟨Row.isFinite_single.1 finite, rfl⟩
    exact Option.map_eq_some_iff.2 ⟨_, toOption_eq_some.2 value, rfl⟩

theorem numbersByRank_group {inner : Phrase .expression}
    (ih : ∀ c, inner.numbersByRank = some c ↔ inner.HasRow c) (c : Chain Binary64) :
    (group inner).numbersByRank = some c ↔ (group inner).HasRow c := by
  constructor
  · intro numbers
    obtain ⟨x, value, rfl⟩ := Option.map_eq_some_iff.1 numbers
    obtain ⟨c, inside, reduced⟩ := Option.bind_eq_some_iff.1 value
    obtain ⟨row, is, finite, rfl⟩ := (ih c).1 inside
    obtain ⟨literal, run, read⟩ := Row.reduce_eq_ok.2 ⟨finite, toOption_eq_some.1 reduced⟩
    obtain ⟨finiteLiteral, rfl⟩ := Literal.parseNumber_eq_ok.1 read
    exact ⟨⟨literal, []⟩, map_eq_ok.2 ⟨literal, bind_eq_ok.2 ⟨row, is, run⟩, rfl⟩,
      Row.isFinite_single.2 finiteLiteral, rfl⟩
  · rintro ⟨row, is, finite, rfl⟩
    obtain ⟨literal, value, rfl⟩ := map_eq_ok.1 is
    obtain ⟨row, inside, run⟩ := bind_eq_ok.1 value
    have read := Literal.parseNumber_eq_ok.2 ⟨Row.isFinite_single.1 finite, rfl⟩
    obtain ⟨finiteRow, reduced⟩ := Row.reduce_eq_ok.1 ⟨literal, run, read⟩
    have numbers := (ih row.chain).2 ⟨row, inside, finiteRow, rfl⟩
    exact Option.map_eq_some_iff.2 ⟨_, Option.bind_eq_some_iff.2
      ⟨row.chain, numbers, toOption_eq_some.2 reduced⟩, rfl⟩

theorem numbersByRank_first {operand : Phrase .operand}
    (ih : ∀ c, operand.numbersByRank = some c ↔ operand.HasRow c) (negated : Bool)
    (c : Chain Binary64) :
    (first negated operand).numbersByRank = some c ↔ (first negated operand).HasRow c := by
  have signed (x : Literal) : Literal.toBinary64 (if negated then x.opposite else x).text
      = if negated then -Literal.toBinary64 x.text else Literal.toBinary64 x.text := by
    cases negated with
    | false => rfl
    | true => exact Literal.toBinary64_opposite x
  have finiteSigned (x : Literal) : (if negated then x.opposite else x).IsFinite ↔ x.IsFinite := by
    cases negated with
    | false => exact Iff.rfl
    | true => exact Literal.isFinite_opposite x
  constructor
  · intro numbers
    obtain ⟨c, inside, rfl⟩ := Option.map_eq_some_iff.1 numbers
    obtain ⟨row, is, finite, rfl⟩ := (ih c).1 inside
    refine ⟨_, map_eq_ok.2 ⟨row, is, rfl⟩, Row.isFinite_single.2 ((finiteSigned _).2 finite.1), ?_⟩
    exact congrArg (Chain.mk · []) (signed row.first)
  · rintro ⟨row, is, finite, rfl⟩
    obtain ⟨row, inside, rfl⟩ := map_eq_ok.1 is
    obtain ⟨x, rfl⟩ := exists_single_row inside
    have finiteRow := Row.isFinite_single.2 ((finiteSigned x).1 (Row.isFinite_single.1 finite))
    refine Option.map_eq_some_iff.2 ⟨_, (ih _).2 ⟨_, inside, finiteRow, rfl⟩, ?_⟩
    exact (congrArg (Chain.mk · []) (signed x)).symm

theorem numbersByRank_next {front : Phrase .expression} {operand : Phrase .operand}
    (ihFront : ∀ c, front.numbersByRank = some c ↔ front.HasRow c)
    (ihOperand : ∀ c, operand.numbersByRank = some c ↔ operand.HasRow c) (op : Operator)
    (c : Chain Binary64) :
    (next front op operand).numbersByRank = some c ↔ (next front op operand).HasRow c := by
  constructor
  · intro numbers
    obtain ⟨c, before, numbers⟩ := Option.bind_eq_some_iff.1 numbers
    obtain ⟨last, behind, rfl⟩ := Option.map_eq_some_iff.1 numbers
    obtain ⟨row, isFront, finiteFront, rfl⟩ := (ihFront c).1 before
    obtain ⟨lastRow, isLast, finiteLast, rfl⟩ := (ihOperand last).1 behind
    exact ⟨_, bind_eq_ok.2 ⟨row, isFront, map_eq_ok.2 ⟨lastRow, isLast, rfl⟩⟩,
      Row.isFinite_concat.2 ⟨finiteFront, finiteLast.1⟩, Row.chain_concat row op lastRow.first⟩
  · rintro ⟨row, is, finite, rfl⟩
    obtain ⟨row, isFront, is⟩ := bind_eq_ok.1 is
    obtain ⟨lastRow, isLast, rfl⟩ := map_eq_ok.1 is
    obtain ⟨x, rfl⟩ := exists_single_row isLast
    obtain ⟨finiteFront, finiteLast⟩ := Row.isFinite_concat.1 finite
    rw [Row.chain_concat]
    refine Option.bind_eq_some_iff.2 ⟨_, (ihFront _).2 ⟨row, isFront, finiteFront, rfl⟩, ?_⟩
    exact Option.map_eq_some_iff.2
      ⟨_, (ihOperand _).2 ⟨_, isLast, Row.isFinite_single.2 finiteLast, rfl⟩, rfl⟩

/-- The numbers of a phrase whose levels are reduced by rank are those of its row, when the row is
finite; otherwise there are none. -/
theorem numbersByRank_eq_some {role : Role} (phrase : Phrase role) (c : Chain Binary64) :
    phrase.numbersByRank = some c ↔ phrase.HasRow c := by
  induction phrase generalizing c with
  | numeral text valid => exact numbersByRank_numeral valid c
  | group inner ih => exact numbersByRank_group ih c
  | first negated operand ih => exact numbersByRank_first ih negated c
  | next front op operand ihFront ihOperand => exact numbersByRank_next ihFront ihOperand op c

/-- **Reduction of the literals by rank** gives the value of the levels reduced by rank. -/
theorem toOption_numberByRank (e : Phrase .expression) :
    e.numberByRank.toOption = e.value? fun c => (c.reduce Binary64.rules).toOption := by
  ext x
  rw [toOption_eq_some]
  constructor
  · intro value
    obtain ⟨literal, reduced, read⟩ := bind_eq_ok.1 value
    obtain ⟨row, is, reduced⟩ := bind_eq_ok.1 reduced
    obtain ⟨finite, result⟩ := Row.reduce_eq_ok.1 ⟨literal, reduced, read⟩
    exact Option.bind_eq_some_iff.2
      ⟨row.chain, (numbersByRank_eq_some e _).2 ⟨row, is, finite, rfl⟩, toOption_eq_some.2 result⟩
  · intro value
    obtain ⟨c, numbers, result⟩ := Option.bind_eq_some_iff.1 value
    obtain ⟨row, is, finite, rfl⟩ := (numbersByRank_eq_some e c).1 numbers
    obtain ⟨literal, reduced, read⟩ := Row.reduce_eq_ok.2 ⟨finite, toOption_eq_some.1 result⟩
    exact bind_eq_ok.2 ⟨literal, bind_eq_ok.2 ⟨row, is, reduced⟩, read⟩

end Phrase

end InfixCalculator
