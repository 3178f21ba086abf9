import InfixCalculator.Proofs.Results
import InfixCalculator.Reduction.Chain

/-!
# Reducing chains step by step

A step takes the leftmost occurrence of an operator out of a chain. What stands in front of the left
operand is a list of items with an operator each, none of them the operator that is applied
(`Chain.prepend`); so a step replaces `left op right` and leaves the front and the back as they are
(`Chain.applyLeftmost?_prepend`). `Chain.operator_induction` is the induction along these steps, and
the equations `Chain.applyOperator_of_not_mem` and `Chain.applyOperator_prepend` say what a run does
at each of them.

From these it follows that a reduction takes every operator out of a chain
(`Chain.rest_eq_nil_of_applyOperators`), and that it commutes with a map between chains that
respects the rules (`Chain.Respects.reduce_map`).
-/

set_option autoImplicit false

namespace InfixCalculator

namespace Chain

variable {α ε : Type}

/-! ## What stands in front -/

/-- The chain with items in front of it, each with the operator behind it. -/
def prepend : List (α × Operator) → Chain α → Chain α
  | [], chain => chain
  | (x, op) :: front, chain => ⟨x, (op, (prepend front chain).first) :: (prepend front chain).rest⟩

@[simp] theorem prepend_nil (chain : Chain α) : prepend [] chain = chain := rfl

@[simp] theorem prepend_cons (x : α) (op : Operator) (front : List (α × Operator))
    (chain : Chain α) :
    prepend ((x, op) :: front) chain
      = ⟨x, (op, (prepend front chain).first) :: (prepend front chain).rest⟩ := rfl

theorem operators_prepend (front : List (α × Operator)) (chain : Chain α) :
    (prepend front chain).operators = front.map Prod.snd ++ chain.operators := by
  induction front with
  | nil => rfl
  | cons item front ih =>
    obtain ⟨x, op⟩ := item
    exact congrArg (op :: ·) ih

theorem length_prepend (front : List (α × Operator)) (chain : Chain α) :
    (prepend front chain).rest.length = front.length + chain.rest.length := by
  induction front with
  | nil => exact (Nat.zero_add _).symm
  | cons item front ih =>
    obtain ⟨x, op⟩ := item
    simp only [prepend_cons, List.length_cons, ih]
    omega

/-- A chain with an operator has a leftmost occurrence of it. -/
theorem exists_prepend {op : Operator} {chain : Chain α} (member : op ∈ chain.operators) :
    ∃ front left right back, op ∉ front.map Prod.snd
      ∧ chain = prepend front ⟨left, (op, right) :: back⟩ := by
  obtain ⟨x, rest⟩ := chain
  induction rest generalizing x with
  | nil => cases member
  | cons item rest ih =>
    obtain ⟨other, y⟩ := item
    by_cases same : other = op
    · subst same
      exact ⟨[], x, y, rest, by simp, rfl⟩
    · have later : op ∈ operators ⟨y, rest⟩ := by
        rcases List.mem_cons.1 member with equal | later
        · exact absurd equal.symm same
        · exact later
      obtain ⟨front, left, right, back, absent, split⟩ := ih y later
      refine ⟨(x, other) :: front, left, right, back, ?_, ?_⟩
      · rw [List.map_cons, List.mem_cons, not_or]
        exact ⟨Ne.symm same, absent⟩
      · rw [prepend_cons, ← split]

/-! ## One step -/

variable (rules : Rules α ε)

theorem applyLeftmost?_of_not_mem {op : Operator} {chain : Chain α}
    (absent : op ∉ chain.operators) : applyLeftmost? rules op chain.first chain.rest = none := by
  obtain ⟨x, rest⟩ := chain
  induction rest generalizing x with
  | nil => rfl
  | cons item rest ih =>
    obtain ⟨other, y⟩ := item
    have parts : op ≠ other ∧ op ∉ operators ⟨y, rest⟩ := by
      simpa only [operators, List.map_cons, List.mem_cons, not_or] using absent
    have later := ih y parts.2
    unfold applyLeftmost?
    rw [if_neg (Ne.symm parts.1), later]
    rfl

/-- **A step** replaces the leftmost occurrence with its result, inside what stands around it. -/
theorem applyLeftmost?_prepend {op : Operator} {front : List (α × Operator)}
    (absent : op ∉ front.map Prod.snd) (left right : α) (back : List (Operator × α)) :
    applyLeftmost? rules op (prepend front ⟨left, (op, right) :: back⟩).first
        (prepend front ⟨left, (op, right) :: back⟩).rest
      = some ((rules.apply op left right).map fun z => prepend front ⟨z, back⟩) := by
  induction front with
  | nil =>
    simp only [prepend_nil]
    unfold applyLeftmost?
    rw [if_pos rfl]
  | cons item front ih =>
    obtain ⟨x, other⟩ := item
    rw [List.map_cons, List.mem_cons, not_or] at absent
    simp only [prepend_cons]
    unfold applyLeftmost?
    rw [if_neg (Ne.symm absent.1), ih absent.2]
    cases rules.apply op left right <;> rfl

/-! ## Runs of one operator -/

theorem applyOperator_of_not_mem {op : Operator} {chain : Chain α}
    (absent : op ∉ chain.operators) : applyOperator rules op chain = .ok chain := by
  unfold applyOperator
  rw [applyLeftmost?_of_not_mem rules absent]

theorem applyOperator_prepend {op : Operator} {front : List (α × Operator)}
    (absent : op ∉ front.map Prod.snd) (left right : α) (back : List (Operator × α)) :
    applyOperator rules op (prepend front ⟨left, (op, right) :: back⟩)
      = (rules.apply op left right).bind fun z =>
        applyOperator rules op (settle rules op (prepend front ⟨z, back⟩)) := by
  rw [applyOperator, applyLeftmost?_prepend rules absent]
  cases rules.apply op left right <;> rfl

theorem applyOperators_cons (op : Operator) (ops : List Operator) (chain : Chain α) :
    applyOperators rules (op :: ops) chain
      = (applyOperator rules op (settle rules op chain)).bind (applyOperators rules ops) := by
  rw [applyOperators]
  cases applyOperator rules op (settle rules op chain) <;> rfl

/-- An item alone is reduced already. -/
theorem applyOperators_single (ops : List Operator) (x : α) :
    applyOperators rules ops ⟨x, []⟩ = .ok ⟨x, []⟩ := by
  induction ops with
  | nil => rfl
  | cons op ops ih =>
    have same : settle rules op ⟨x, []⟩ = ⟨x, []⟩ := by
      unfold settle
      split <;> rfl
    rw [applyOperators_cons, same, applyOperator_of_not_mem rules List.not_mem_nil]
    exact ih

theorem reduce_single (x : α) : reduce rules ⟨x, []⟩ = .ok x := by
  rw [reduce, applyOperators_single]
  rfl

/-- A reduction comes to the leftmost power first. -/
theorem reduce_of_power_error {front : List (α × Operator)} (absent : .power ∉ front.map Prod.snd)
    {left right : α} {fault : ε} (failed : rules.apply .power left right = .error fault)
    (back : List (Operator × α)) :
    reduce rules (prepend front ⟨left, (.power, right) :: back⟩) = .error fault := by
  have run : applyOperators rules Operator.all (prepend front ⟨left, (.power, right) :: back⟩)
      = .error fault := by
    refine (applyOperators_cons rules .power _ _).trans ?_
    show (applyOperator rules .power (prepend front ⟨left, (.power, right) :: back⟩)).bind _ = _
    rw [applyOperator_prepend rules absent, failed]
    rfl
  rw [reduce, run]
  rfl

/-- **Induction along the steps of one operator.** -/
theorem operator_induction (op : Operator) {motive : Chain α → Prop}
    (done : ∀ chain, op ∉ chain.operators → motive chain)
    (step : ∀ front left right back, op ∉ front.map Prod.snd →
      (∀ z, rules.apply op left right = .ok z →
        motive (settle rules op (prepend front ⟨z, back⟩))) →
      motive (prepend front ⟨left, (op, right) :: back⟩))
    (chain : Chain α) : motive chain := by
  generalize size : chain.rest.length = n
  induction n using Nat.strongRecOn generalizing chain with
  | _ n ih =>
    by_cases member : op ∈ chain.operators
    · obtain ⟨front, left, right, back, absent, rfl⟩ := exists_prepend member
      refine step front left right back absent fun z _ => ih _ ?_ _ rfl
      rw [length_prepend] at size
      rw [length_settle, length_prepend]
      simp only [List.length_cons] at size ⊢
      omega
    · exact done chain member

/-! ## The operators that are left -/

/-- A chain in which no addition is left to be turned. -/
def Settled (chain : Chain α) : Prop := chain.rest.map (turn rules) = chain.rest

theorem turn_negative {x : α} (negative : rules.isNegative x = true) :
    turn rules (.add, x) = (.subtract, rules.opposite x) := by
  rw [turn, if_pos negative]

theorem turn_positive {x : α} (positive : ¬rules.isNegative x = true) :
    turn rules (.add, x) = (.add, x) := by
  rw [turn, if_neg positive]

theorem turn_of_ne {op : Operator} (other : op ≠ .add) (x : α) : turn rules (op, x) = (op, x) := by
  cases op with
  | add => exact absurd rfl other
  | _ => rfl

theorem turn_turn (item : Operator × α) : turn rules (turn rules item) = turn rules item := by
  obtain ⟨op, x⟩ := item
  by_cases addition : op = .add
  · subst addition
    by_cases negative : rules.isNegative x = true
    · rw [turn_negative rules negative, turn_of_ne rules (by decide)]
    · rw [turn_positive rules negative, turn_positive rules negative]
  · rw [turn_of_ne rules addition, turn_of_ne rules addition]

/-- Turning an item keeps its operator, or makes it a subtraction. -/
theorem turn_fst (item : Operator × α) :
    (turn rules item).1 = item.1 ∨ (turn rules item).1 = .subtract := by
  obtain ⟨op, x⟩ := item
  by_cases addition : op = .add
  · subst addition
    by_cases negative : rules.isNegative x = true
    · exact .inr (congrArg Prod.fst (turn_negative rules negative))
    · exact .inl (congrArg Prod.fst (turn_positive rules negative))
  · exact .inl (congrArg Prod.fst (turn_of_ne rules addition x))

theorem settle_of_not_collapses {op : Operator} (keeps : Flat.collapses op = false)
    (chain : Chain α) : settle rules op chain = chain := by
  rw [settle, keeps]
  rfl

theorem settled_settle {op : Operator} (collapses : Flat.collapses op = true) (chain : Chain α) :
    Settled rules (settle rules op chain) := by
  rw [settle, if_pos collapses]
  unfold Settled
  rw [List.map_map]
  exact List.map_congr_left fun item _ => turn_turn rules item

theorem settle_of_settled {op : Operator} {chain : Chain α} (settled : Settled rules chain) :
    settle rules op chain = chain := by
  unfold settle
  split
  · exact congrArg (Chain.mk chain.first) settled
  · rfl

/-- The first operator of a settled chain is applied to the first two items. -/
theorem applyOperator_first (op : Operator) (x y : α) {rest : List (Operator × α)}
    (settled : rest.map (turn rules) = rest) :
    applyOperator rules op ⟨x, (op, y) :: rest⟩
      = (rules.apply op x y).bind fun z => applyOperator rules op ⟨z, rest⟩ := by
  refine (@applyOperator_prepend _ _ rules op [] List.not_mem_nil x y rest).trans ?_
  cases rules.apply op x y with
  | error fault => rfl
  | ok z =>
    have same : settle rules op ⟨z, rest⟩ = ⟨z, rest⟩ := settle_of_settled rules settled
    show applyOperator rules op (settle rules op ⟨z, rest⟩) = applyOperator rules op ⟨z, rest⟩
    rw [same]

/-- Turning brings no operator but subtraction. -/
theorem mem_operators_settle {op other : Operator} {chain : Chain α}
    (member : other ∈ (settle rules op chain).operators) (different : other ≠ .subtract) :
    other ∈ chain.operators := by
  unfold settle at member
  split at member
  · simp only [operators, List.map_map, List.mem_map] at member ⊢
    obtain ⟨item, inside, same⟩ := member
    rcases turn_fst rules item with kept | turned
    · exact ⟨item, inside, kept.symm.trans same⟩
    · exact absurd (same.symm.trans turned) different
  · exact member

/-- A run takes its operator out and brings no other but subtraction. -/
theorem operators_of_applyOperator {op : Operator} {chain result : Chain α}
    (run : applyOperator rules op chain = .ok result) :
    op ∉ result.operators
      ∧ ∀ other ∈ result.operators, other ≠ .subtract → other ∈ chain.operators := by
  induction chain using operator_induction rules op with
  | done chain absent =>
    rw [applyOperator_of_not_mem rules absent] at run
    cases run
    exact ⟨absent, fun _ member _ => member⟩
  | step front left right back absent ih =>
    rw [applyOperator_prepend rules absent] at run
    obtain ⟨z, applied, run⟩ := bind_eq_ok.1 run
    obtain ⟨out, others⟩ := ih z applied run
    refine ⟨out, fun other member different => ?_⟩
    have before := mem_operators_settle rules (others other member different) different
    rw [operators_prepend] at before ⊢
    rcases List.mem_append.1 before with inFront | behind
    · exact List.mem_append_left _ inFront
    · exact List.mem_append_right _ (List.mem_cons_of_mem _ behind)

/-- A run of an additive operator ends with every addition turned. -/
theorem settled_of_applyOperator {op : Operator} {chain result : Chain α}
    (collapses : Flat.collapses op = true) (run : applyOperator rules op chain = .ok result)
    (settled : Settled rules chain) : Settled rules result := by
  induction chain using operator_induction rules op with
  | done chain absent =>
    rw [applyOperator_of_not_mem rules absent] at run
    cases run
    exact settled
  | step front left right back absent ih =>
    rw [applyOperator_prepend rules absent] at run
    obtain ⟨z, applied, run⟩ := bind_eq_ok.1 run
    exact ih z applied run (settled_settle rules collapses _)

/-- In a settled chain of additions no operator is left after the additions. -/
theorem rest_eq_nil_of_applyOperator_add {chain result : Chain α}
    (run : applyOperator rules .add chain = .ok result) (settled : Settled rules chain)
    (additions : ∀ op ∈ chain.operators, op = .add) : result.rest = [] := by
  induction chain using operator_induction rules .add with
  | done chain absent =>
    rw [applyOperator_of_not_mem rules absent] at run
    cases run
    refine List.eq_nil_iff_forall_not_mem.2 fun item member => absent ?_
    have op : item.1 ∈ result.operators := List.mem_map_of_mem member
    exact additions _ op ▸ op
  | step front left right back absent ih =>
    rw [applyOperator_prepend rules absent] at run
    obtain ⟨z, applied, run⟩ := bind_eq_ok.1 run
    cases front with
    | cons item front =>
      have first : item.2 = .add :=
        additions _ (by rw [operators_prepend]; exact List.mem_cons_self)
      exact absurd (first ▸ List.mem_cons_self) absent
    | nil =>
      -- the first item is never turned, so the rest stays settled
      have tail : Settled rules ⟨z, back⟩ := (List.cons.inj settled).2
      have same : settle rules .add ⟨z, back⟩ = ⟨z, back⟩ := settle_of_settled rules tail
      have shorter := ih z applied
      rw [prepend_nil, same] at shorter run
      exact shorter run tail fun op member => additions op (List.mem_cons_of_mem _ member)

/-- When the operators up to the subtractions have been applied, additions are left, and none of
them is to be turned. -/
theorem settled_additions {chain powered divided multiplied subtracted : Chain α}
    (power : applyOperator rules .power (settle rules .power chain) = .ok powered)
    (divide : applyOperator rules .divide (settle rules .divide powered) = .ok divided)
    (multiply : applyOperator rules .multiply (settle rules .multiply divided) = .ok multiplied)
    (subtract : applyOperator rules .subtract (settle rules .subtract multiplied)
      = .ok subtracted) :
    Settled rules subtracted ∧ ∀ op ∈ subtracted.operators, op = .add := by
  have plain {op other : Operator} {chain result : Chain α}
      (run : applyOperator rules op (settle rules op chain) = .ok result)
      (keeps : Flat.collapses op = false) (member : other ∈ result.operators)
      (different : other ≠ .subtract) : other ≠ op ∧ other ∈ chain.operators := by
    rw [settle_of_not_collapses rules keeps] at run
    obtain ⟨out, others⟩ := operators_of_applyOperator rules run
    exact ⟨fun same => out (same ▸ member), others other member different⟩
  refine ⟨settled_of_applyOperator rules (by decide) subtract
    (settled_settle rules (by decide) _), fun op member => ?_⟩
  obtain ⟨out, others⟩ := operators_of_applyOperator rules subtract
  have different : op ≠ .subtract := fun same => out (same ▸ member)
  have inSettled := mem_operators_settle rules (others op member different) different
  obtain ⟨notMultiply, inDivided⟩ := plain multiply (by decide) inSettled different
  obtain ⟨notDivide, inPowered⟩ := plain divide (by decide) inDivided different
  obtain ⟨notPower, _⟩ := plain power (by decide) inPowered different
  cases op <;> first | rfl | contradiction

/-- **A reduction takes every operator out of a chain.** -/
theorem rest_eq_nil_of_applyOperators {chain result : Chain α}
    (run : applyOperators rules Operator.all chain = .ok result) : result.rest = [] := by
  have step {op : Operator} {rest : List Operator} {chain result : Chain α}
      (run : applyOperators rules (op :: rest) chain = .ok result) :
      ∃ shorter, applyOperator rules op (settle rules op chain) = .ok shorter
        ∧ applyOperators rules rest shorter = .ok result := by
    rw [applyOperators_cons] at run
    exact bind_eq_ok.1 run
  obtain ⟨powered, power, run⟩ := step run
  obtain ⟨divided, divide, run⟩ := step run
  obtain ⟨multiplied, multiply, run⟩ := step run
  obtain ⟨subtracted, subtract, run⟩ := step run
  obtain ⟨added, add, run⟩ := step run
  cases run
  obtain ⟨settled, additions⟩ := settled_additions rules power divide multiply subtract
  rw [settle_of_settled rules settled] at add
  exact rest_eq_nil_of_applyOperator_add rules add settled additions

/-! ## Properties of the items -/

theorem all_prepend {P : α → Prop} {front : List (α × Operator)} {chain : Chain α} :
    (prepend front chain).All P ↔ (∀ item ∈ front, P item.1) ∧ chain.All P := by
  induction front with
  | nil => simp
  | cons item front ih =>
    obtain ⟨x, op⟩ := item
    rw [prepend_cons, List.forall_mem_cons, and_assoc, ← ih]
    exact and_congr_right fun _ => List.forall_mem_cons

theorem all_cons {P : α → Prop} {x y : α} {op : Operator} {back : List (Operator × α)} :
    All P ⟨x, (op, y) :: back⟩ ↔ P x ∧ All P ⟨y, back⟩ :=
  and_congr_right fun _ => List.forall_mem_cons

/-- Replacing the operands of the leftmost occurrence by a result keeps a property that the result
has. -/
theorem all_replace {P : α → Prop} {op : Operator} {front : List (α × Operator)}
    {left right z : α} {back : List (Operator × α)}
    (all : (prepend front ⟨left, (op, right) :: back⟩).All P) (result : P z) :
    (prepend front ⟨z, back⟩).All P :=
  all_prepend.2 ⟨(all_prepend.1 all).1, result, (all_cons.1 (all_prepend.1 all).2).2.2⟩

theorem all_operands {P : α → Prop} {op : Operator} {front : List (α × Operator)} {left right : α}
    {back : List (Operator × α)} (all : (prepend front ⟨left, (op, right) :: back⟩).All P) :
    P left ∧ P right :=
  ⟨(all_prepend.1 all).2.1, (all_cons.1 (all_prepend.1 all).2).2.1⟩

/-- Turning keeps a property that an item shares with its opposite. -/
theorem turn_property {P : α → Prop} (opposite : ∀ x, P (rules.opposite x) ↔ P x)
    (item : Operator × α) : P (turn rules item).2 ↔ P item.2 := by
  obtain ⟨op, x⟩ := item
  by_cases addition : op = .add
  · subst addition
    by_cases negative : rules.isNegative x = true
    · rw [turn_negative rules negative]
      exact opposite x
    · rw [turn_positive rules negative]
  · rw [turn_of_ne rules addition]

theorem all_settle {P : α → Prop} (opposite : ∀ x, P (rules.opposite x) ↔ P x) {op : Operator}
    {chain : Chain α} : (settle rules op chain).All P ↔ chain.All P := by
  unfold settle
  split
  · refine and_congr_right fun _ => List.forall_mem_map.trans ?_
    exact forall_congr' fun item => imp_congr_right fun _ => turn_property rules opposite item
  · exact Iff.rfl

/-! ## Maps between chains -/

/-- A map of items, and one of faults the other way, that respect the rules on items with a
property. -/
structure Respects {β ε' : Type} (rules : Rules α ε) (rules' : Rules β ε') (P : α → Prop)
    (f : α → β) (g : ε' → ε) : Prop where
  /-- Applying an operator commutes with the maps. -/
  apply : ∀ op x y, P x → P y →
    (rules.apply op x y).map f = (rules'.apply op (f x) (f y)).mapError g
  /-- Results have the property. -/
  result : ∀ op x y z, P x → P y → rules.apply op x y = .ok z → P z
  /-- The map keeps minuses. -/
  isNegative : ∀ x, rules'.isNegative (f x) = rules.isNegative x
  /-- The map takes opposites to opposites. -/
  opposite : ∀ x, rules'.opposite (f x) = f (rules.opposite x)
  /-- An item shares the property with its opposite. -/
  opposite_property : ∀ x, P (rules.opposite x) ↔ P x

section Maps

variable {β ε' : Type} {rules : Rules α ε} {rules' : Rules β ε'} {P : α → Prop} {f : α → β}
  {g : ε' → ε}

theorem map_prepend (f : α → β) (front : List (α × Operator)) (chain : Chain α) :
    (prepend front chain).map f
      = prepend (front.map fun item => (f item.1, item.2)) (chain.map f) := by
  induction front with
  | nil => rfl
  | cons item front ih =>
    obtain ⟨x, op⟩ := item
    rw [List.map_cons, prepend_cons, prepend_cons, ← ih]
    rfl

theorem operators_map (f : α → β) (chain : Chain α) :
    (chain.map f).operators = chain.operators := by
  simp [operators, Chain.map]

namespace Respects

variable (respects : Respects rules rules' P f g)
include respects

theorem turn_map (item : Operator × α) :
    turn rules' (item.1, f item.2) = ((turn rules item).1, f (turn rules item).2) := by
  obtain ⟨op, x⟩ := item
  by_cases addition : op = .add
  · subst addition
    by_cases negative : rules.isNegative x = true
    · rw [turn_negative rules negative,
        turn_negative rules' ((respects.isNegative x).trans negative), respects.opposite]
    · rw [turn_positive rules negative,
        turn_positive rules' fun h => negative ((respects.isNegative x).symm.trans h)]
  · rw [turn_of_ne rules addition, turn_of_ne rules' addition]

theorem settle_map (op : Operator) (chain : Chain α) :
    (settle rules op chain).map f = settle rules' op (chain.map f) := by
  unfold settle
  split
  · simp only [Chain.map, List.map_map, Chain.mk.injEq, true_and]
    exact List.map_congr_left fun item _ => (respects.turn_map item).symm
  · rfl

/-- A run of one operator commutes with the maps, and its result has the property. -/
theorem applyOperator_map (op : Operator) {chain : Chain α} (all : chain.All P) :
    (applyOperator rules op chain).map (Chain.map f)
        = (applyOperator rules' op (chain.map f)).mapError g
      ∧ ∀ result, applyOperator rules op chain = .ok result → result.All P := by
  induction chain using operator_induction rules op with
  | done chain absent =>
    rw [applyOperator_of_not_mem rules absent,
      applyOperator_of_not_mem rules' (by rwa [operators_map])]
    refine ⟨rfl, fun result run => ?_⟩
    cases run
    exact all
  | step front left right back absent ih =>
    have operands := all_operands all
    have step := respects.apply op left right operands.1 operands.2
    have image : (prepend front ⟨left, (op, right) :: back⟩).map f
        = prepend (front.map fun item => (f item.1, item.2))
          ⟨f left, (op, f right) :: back.map fun item => (item.1, f item.2)⟩ := map_prepend f _ _
    have absent' : op ∉ (front.map fun item => (f item.1, item.2)).map Prod.snd := by
      rwa [List.map_map]
    have shorter (z : α) (applied : rules.apply op left right = .ok z) := by
      have result := respects.result op left right z operands.1 operands.2 applied
      have shorter := ih z applied
        ((all_settle rules respects.opposite_property).2 (all_replace all result))
      rwa [respects.settle_map, map_prepend] at shorter
    rw [applyOperator_prepend rules absent, image, applyOperator_prepend rules' absent']
    refine ⟨bind_follows step fun z applied => (shorter z applied).1, fun result run => ?_⟩
    obtain ⟨z, applied, run⟩ := bind_eq_ok.1 run
    exact (shorter z applied).2 result run

theorem applyOperators_map (ops : List Operator) {chain : Chain α} (all : chain.All P) :
    (applyOperators rules ops chain).map (Chain.map f)
        = (applyOperators rules' ops (chain.map f)).mapError g
      ∧ ∀ result, applyOperators rules ops chain = .ok result → result.All P := by
  induction ops generalizing chain with
  | nil =>
    refine ⟨rfl, fun result run => ?_⟩
    cases run
    exact all
  | cons op ops ih =>
    have settled : (settle rules op chain).All P :=
      (all_settle rules respects.opposite_property).2 all
    obtain ⟨step, results⟩ := respects.applyOperator_map op settled
    rw [respects.settle_map] at step
    rw [applyOperators_cons, applyOperators_cons]
    refine ⟨bind_follows step fun shorter first => (ih (results shorter first)).1,
      fun result run => ?_⟩
    obtain ⟨shorter, first, run⟩ := bind_eq_ok.1 run
    exact (ih (results shorter first)).2 result run

/-- **Reducing a chain commutes with maps that respect the rules.** -/
theorem reduce_map {chain : Chain α} (all : chain.All P) :
    (chain.reduce rules).map f = ((chain.map f).reduce rules').mapError g
      ∧ ∀ result, chain.reduce rules = .ok result → P result := by
  obtain ⟨run, results⟩ := respects.applyOperators_map Operator.all all
  unfold reduce
  refine ⟨?_, fun x value => ?_⟩
  · rcases map_eq_mapError.1 run with ⟨fault, failed, failed'⟩ | ⟨result, reduced, reduced'⟩
    · rw [failed, failed']
      rfl
    · rw [reduced, reduced']
      rfl
  · obtain ⟨result, reduced, rfl⟩ := map_eq_ok.1 value
    exact (results result reduced).1

end Respects

end Maps

end Chain

end InfixCalculator
