import InfixCalculator.Proofs.Levels

/-!
# Reducing a chain in phases

A chain of numbers can be reduced in five phases, which take no notice of text. The powers, the
quotients and the products are taken leftmost first. Then every addition of a number with a minus is
turned into the subtraction of its opposite, the differences are taken leftmost first with that turn
after each of them, and the sums come last (`Chain.reduceInPhases`).

The reduction of chains also turns additions around the sums, where none is left to be turned, so
both are the same (`Chain.reduceInPhases_eq`). With `Flat.outcome_reduce_row` and `Literal.respects`
a flat text comes to what its numbers come to: the literal that is left stands for exactly the
number that the phases leave, and when they fail the text fails with the same fault
(`Flat.reduce_row_in_phases`). A sign is never taken for an operator, nor an operator for a sign.
-/

set_option autoImplicit false

namespace InfixCalculator

namespace Chain

variable {α ε : Type} (rules : Rules α ε)

/-! ## The phases -/

/-- Turns every addition of an item with a minus into the subtraction of its opposite. -/
def turnAll (chain : Chain α) : Chain α := ⟨chain.first, chain.rest.map (turn rules)⟩

/-- A chain as it is after a step, turned or not. -/
def turnWhen (turning : Bool) (chain : Chain α) : Chain α :=
  if turning then turnAll rules chain else chain

theorem length_turnWhen (turning : Bool) (chain : Chain α) :
    (turnWhen rules turning chain).rest.length = chain.rest.length := by
  cases turning with
  | false => rfl
  | true => exact List.length_map _

/-- Applies an operator, leftmost first, until it no longer occurs; `turning` tells whether
additions are turned after each step. -/
def exhaust (turning : Bool) (op : Operator) (chain : Chain α) : Except ε (Chain α) :=
  match _applied : applyLeftmost? rules op chain.first chain.rest with
  | none => .ok chain
  | some (.error fault) => .error fault
  | some (.ok shorter) => exhaust turning op (turnWhen rules turning shorter)
termination_by chain.rest.length
decreasing_by
  have shorter := length_of_applyLeftmost? rules _applied
  rw [length_turnWhen]
  omega

/-- The powers, the quotients and the products, then the turned differences, then the sums. -/
def reduceInPhases (chain : Chain α) : Except ε (Chain α) := do
  let powered ← exhaust rules false .power chain
  let divided ← exhaust rules false .divide powered
  let multiplied ← exhaust rules false .multiply divided
  let subtracted ← exhaust rules true .subtract (turnAll rules multiplied)
  exhaust rules false .add subtracted

/-! ## Phases and runs of operators -/

/-- A phase that turns exactly when its operator does is a run of the operator. -/
theorem exhaust_eq_applyOperator (op : Operator) (chain : Chain α) :
    exhaust rules (Flat.collapses op) op chain = applyOperator rules op chain := by
  fun_induction applyOperator rules op chain with
  | case1 chain none =>
    unfold exhaust
    rw [none]
  | case2 chain fault failed =>
    unfold exhaust
    rw [failed]
  | case3 chain shorter applied ih =>
    unfold exhaust
    rw [applied]
    exact ih

/-- The first operator of a chain is applied to the first two items. -/
theorem exhaust_first (op : Operator) (x y : α) (rest : List (Operator × α)) :
    exhaust rules false op ⟨x, (op, y) :: rest⟩
      = (rules.apply op x y).bind fun z => exhaust rules false op ⟨z, rest⟩ := by
  have applied : applyLeftmost? rules op (⟨x, (op, y) :: rest⟩ : Chain α).first
      (⟨x, (op, y) :: rest⟩ : Chain α).rest
        = some ((rules.apply op x y).map fun z => ⟨z, rest⟩) := by
    unfold applyLeftmost?
    rw [if_pos rfl]
  rw [exhaust, applied]
  cases rules.apply op x y <;> rfl

/-- In a settled chain of additions none is left to be turned, so the sums need no turning. -/
theorem exhaust_add_eq_applyOperator {chain : Chain α} (settled : Settled rules chain)
    (additions : ∀ op ∈ chain.operators, op = .add) :
    exhaust rules false .add chain = applyOperator rules .add chain := by
  obtain ⟨x, rest⟩ := chain
  induction rest generalizing x with
  | nil =>
    rw [applyOperator_of_not_mem rules List.not_mem_nil]
    unfold exhaust
    rfl
  | cons item rest ih =>
    obtain ⟨op, y⟩ := item
    obtain rfl : op = .add := additions op List.mem_cons_self
    have tail : rest.map (turn rules) = rest := (List.cons.inj settled).2
    rw [exhaust_first, applyOperator_first rules .add x y tail]
    refine bind_congr_of_ok fun z _ => ih z tail ?_
    exact fun op member => additions op (List.mem_cons_of_mem _ member)

/-- A run of an operator on a settled chain, told as a phase. -/
theorem applyOperators_cons_exhaust (op : Operator) (ops : List Operator) (chain : Chain α) :
    applyOperators rules (op :: ops) chain
      = (exhaust rules (Flat.collapses op) op (settle rules op chain)).bind
        (applyOperators rules ops) := by
  rw [exhaust_eq_applyOperator, applyOperators_cons]

/-- **The phases leave what the operators leave** when they are applied in their order. -/
theorem reduceInPhases_eq (chain : Chain α) :
    reduceInPhases rules chain = applyOperators rules Operator.all chain := by
  have run {op : Operator} {chain result : Chain α}
      (phase : exhaust rules (Flat.collapses op) op chain = .ok result) :
      applyOperator rules op chain = .ok result :=
    (exhaust_eq_applyOperator rules op chain).symm.trans phase
  refine Eq.trans ?_ (applyOperators_cons_exhaust rules .power _ chain).symm
  apply bind_congr_of_ok
  intro powered power
  refine Eq.trans ?_ (applyOperators_cons_exhaust rules .divide _ powered).symm
  apply bind_congr_of_ok
  intro divided divide
  refine Eq.trans ?_ (applyOperators_cons_exhaust rules .multiply _ divided).symm
  apply bind_congr_of_ok
  intro multiplied multiply
  refine Eq.trans ?_ (applyOperators_cons_exhaust rules .subtract _ multiplied).symm
  apply bind_congr_of_ok
  intro subtracted subtract
  obtain ⟨settled, additions⟩ :=
    settled_additions rules (run power) (run divide) (run multiply) (run subtract)
  rw [exhaust_add_eq_applyOperator rules settled additions, applyOperators_cons,
    settle_of_settled rules settled]
  cases applyOperator rules .add subtracted <;> rfl

end Chain

/-! ## Flat texts -/

/-- **A flat text comes to what its numbers come to in phases.** Let the literals of a text with
operators between them be within the finite numbers. When the phases succeed, one number is left,
and the text reduces to a literal that stands for exactly this number; when they fail, the text
fails with the same fault. -/
theorem Flat.reduce_row_in_phases (row : Row) (finite : row.IsFinite) :
    match row.chain.reduceInPhases Binary64.rules with
    | .error fault => (reduce row.text).outcome = .error (.ofArithmetic fault)
    | .ok left => left.rest = [] ∧ ∃ literal, (reduce row.text).outcome = .ok literal
        ∧ parseNumber literal.text = .ok left.first := by
  obtain ⟨follows, results⟩ := Literal.respects.reduce_map finite
  have whole : row.chain.reduce Binary64.rules
      = (row.chain.reduceInPhases Binary64.rules).map Chain.first := by
    rw [Chain.reduceInPhases_eq]
    rfl
  rw [outcome_reduce_row]
  cases phases : row.chain.reduceInPhases Binary64.rules with
  | error fault =>
    rw [phases] at whole
    rcases map_eq_mapError.1 follows with ⟨fault', failed, failed'⟩ | ⟨_, _, reduced'⟩
    · cases whole.symm.trans failed'
      exact failed
    · cases whole.symm.trans reduced'
  | ok left =>
    rw [phases] at whole
    rw [Chain.reduceInPhases_eq] at phases
    rcases map_eq_mapError.1 follows with ⟨_, _, failed'⟩ | ⟨literal, reduced, reduced'⟩
    · cases whole.symm.trans failed'
    · have value := Except.ok.inj (whole.symm.trans reduced')
      exact ⟨Chain.rest_eq_nil_of_applyOperators _ phases, literal, reduced,
        Literal.parseNumber_eq_ok.2 ⟨results literal reduced, value.symm⟩⟩

/-- A text to which it applies: a negative base, signs behind every kind of operator, and an
addition that is turned once a product has become negative. -/
theorem Flat.reduce_row_in_phases_signs :
    ∃ row : Row, row.text = "-2^3/.5+4*-.25--7.+-0".toList ∧ row.IsFinite
      ∧ match row.chain.reduceInPhases Binary64.rules with
        | .error fault => (reduce row.text).outcome = .error (.ofArithmetic fault)
        | .ok left => left.rest = [] ∧ ∃ literal, (reduce row.text).outcome = .ok literal
            ∧ parseNumber literal.text = .ok left.first := by
  let row : Row := ⟨⟨"-2".toList, by decide⟩, [(.power, ⟨"3".toList, by decide⟩),
    (.divide, ⟨".5".toList, by decide⟩), (.add, ⟨"4".toList, by decide⟩),
    (.multiply, ⟨"-.25".toList, by decide⟩), (.subtract, ⟨"-7.".toList, by decide⟩),
    (.add, ⟨"-0".toList, by decide⟩)]⟩
  have finite : row.IsFinite := by
    unfold Row.IsFinite Chain.All
    decide +kernel
  exact ⟨row, rfl, finite, reduce_row_in_phases row finite⟩

end InfixCalculator
