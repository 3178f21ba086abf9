import InfixCalculator.Expression.Phrase
import InfixCalculator.Proofs.Ranks

/-!
# Where turning additions makes no difference

The powers, quotients and products of a chain are applied before anything is turned, and what is
left is a row of sums and differences. If the operators of the chain are unambiguous, that row is a
number from which numbers are subtracted, and perhaps one more that is added at the end
(`Chain.exists_additive`). The differences are taken from the left in any case; the addition, when
it is turned, becomes the last of them (`Chain.applyOperators_addition`). As `x + y` is `x - (-y)`,
turning makes no difference to the value (`Chain.reduce_of_unambiguous`).
-/

set_option autoImplicit false

namespace InfixCalculator

namespace Chain

section Turning

variable {α ε : Type}

/-- An operator that is applied before the additive ones takes no part in turning, so a run of it
depends on the operators alone. -/
theorem applyOperator_congr {rules rules' : Rules α ε} (same : rules.apply = rules'.apply)
    {op : Operator} (keeps : Flat.collapses op = false) (chain : Chain α) :
    applyOperator rules op chain = applyOperator rules' op chain := by
  induction chain using operator_induction rules op with
  | done chain absent =>
    rw [applyOperator_of_not_mem rules absent, applyOperator_of_not_mem rules' absent]
  | step front left right back absent ih =>
    rw [applyOperator_prepend rules absent, applyOperator_prepend rules' absent, ← same]
    refine bind_congr_of_ok fun z applied => ?_
    have shorter := ih z applied
    rw [settle_of_not_collapses rules keeps] at shorter
    rw [settle_of_not_collapses rules keeps, settle_of_not_collapses rules' keeps, shorter]

/-- A run of an operator that takes no part in turning leaves the other operators in their order. -/
theorem operators_applyOperator (rules : Rules α ε) {op : Operator}
    (keeps : Flat.collapses op = false) {chain result : Chain α}
    (run : applyOperator rules op chain = .ok result) :
    result.operators = chain.operators.filter (· ≠ op) := by
  induction chain using operator_induction rules op with
  | done chain absent =>
    rw [applyOperator_of_not_mem rules absent] at run
    cases run
    refine (List.filter_eq_self.2 fun other member => ?_).symm
    simp only [ne_eq, decide_not, Bool.not_eq_true', decide_eq_false_iff_not]
    rintro rfl
    exact absent member
  | step front left right back absent ih =>
    rw [applyOperator_prepend rules absent] at run
    obtain ⟨z, applied, run⟩ := bind_eq_ok.1 run
    rw [ih z applied run, settle_of_not_collapses rules keeps, operators_prepend, operators_prepend,
      List.filter_append, List.filter_append]
    simp [operators]

variable (rules : Rules α ε)

/-- A single operator is applied to its two items. -/
theorem applyOperator_pair (op : Operator) (x y : α) :
    applyOperator rules op ⟨x, [(op, y)]⟩ = (rules.apply op x y).map (⟨·, []⟩) := by
  rw [applyOperator_first rules op x y rfl]
  cases rules.apply op x y with
  | error fault => rfl
  | ok z => exact applyOperator_of_not_mem rules List.not_mem_nil

/-- Subtracting items one after another. -/
def subtractAll : α → List α → Except ε α
  | x, [] => .ok x
  | x, y :: items => (rules.apply .subtract x y).bind fun z => subtractAll z items

/-- Subtracting does not depend on what is turned. -/
theorem subtractAll_congr {rules rules' : Rules α ε} (same : rules.apply = rules'.apply) (x : α)
    (items : List α) : subtractAll rules x items = subtractAll rules' x items := by
  induction items generalizing x with
  | nil => rfl
  | cons y items ih =>
    rw [subtractAll, subtractAll, same]
    exact bind_congr_of_ok fun z _ => ih z

/-- The subtractions in front of a settled rest are applied from the left. -/
theorem applyOperator_subtract (x : α) (items : List α) {tail : List (Operator × α)}
    (settled : tail.map (turn rules) = tail) :
    applyOperator rules .subtract ⟨x, items.map (Operator.subtract, ·) ++ tail⟩
      = (subtractAll rules x items).bind fun z => applyOperator rules .subtract ⟨z, tail⟩ := by
  induction items generalizing x with
  | nil => rfl
  | cons y items ih =>
    have rest : (items.map (Operator.subtract, ·) ++ tail).map (turn rules)
        = items.map (Operator.subtract, ·) ++ tail := by
      rw [List.map_append, settled, List.map_map]
      rfl
    rw [subtractAll, bind_of_bind]
    refine (applyOperator_first rules .subtract x y rest).trans ?_
    exact bind_congr_of_ok fun z _ => ih z

theorem applyOperators_subtractions (x : α) (items : List α) :
    applyOperators rules [.subtract, .add] ⟨x, items.map (Operator.subtract, ·)⟩
      = (subtractAll rules x items).map (⟨·, []⟩) := by
  have settled : Settled rules ⟨x, items.map (Operator.subtract, ·)⟩ := by
    unfold Settled
    rw [List.map_map]
    rfl
  have run := @applyOperator_subtract _ _ rules x items [] rfl
  rw [List.append_nil] at run
  rw [applyOperators_cons, settle_of_settled rules settled, run, bind_of_bind, map_eq_bind]
  refine bind_congr_of_ok fun z _ => ?_
  rw [applyOperator_of_not_mem rules List.not_mem_nil]
  exact applyOperators_single rules [.add] z

/-- One addition behind subtractions is applied last, as the subtraction of the opposite if it is
turned. -/
theorem applyOperators_addition (x : α) (items : List α) (y : α) :
    applyOperators rules [.subtract, .add] ⟨x, items.map (Operator.subtract, ·) ++ [(.add, y)]⟩
      = ((subtractAll rules x items).bind fun z =>
          if rules.isNegative y then rules.apply .subtract z (rules.opposite y)
          else rules.apply .add z y).map (⟨·, []⟩) := by
  have turned : settle rules .subtract ⟨x, items.map (Operator.subtract, ·) ++ [(.add, y)]⟩
      = ⟨x, items.map (Operator.subtract, ·) ++ [turn rules (.add, y)]⟩ := by
    rw [settle, if_pos Flat.collapses_subtract, List.map_append, List.map_map]
    rfl
  have settled : [turn rules (.add, y)].map (turn rules) = [turn rules (.add, y)] := by
    rw [List.map_singleton, turn_turn]
  rw [applyOperators_cons, turned, applyOperator_subtract rules x items settled, bind_of_bind,
    map_of_bind]
  refine bind_congr_of_ok fun z _ => ?_
  by_cases negative : rules.isNegative y = true
  · rw [turn_negative rules negative, if_pos negative, applyOperator_pair, bind_of_map, map_eq_bind]
    exact bind_congr_of_ok fun w _ => applyOperators_single rules [.add] w
  · have alone : Settled rules ⟨z, [(.add, y)]⟩ := by
      unfold Settled
      rw [List.map_singleton, turn_positive rules negative]
    rw [turn_positive rules negative, if_neg negative,
      applyOperator_of_not_mem rules (by simp [operators]), bind_ok, applyOperators_cons,
      settle_of_settled rules alone, applyOperator_pair, bind_of_map, map_eq_bind]
    exact bind_congr_of_ok fun w _ => rfl

end Turning

/-! ## Unambiguous rows -/

section Unambiguous

variable {α ε : Type}

theorem applyOperators_append (rules : Rules α ε) (front back : List Operator) (chain : Chain α) :
    applyOperators rules (front ++ back) chain
      = (applyOperators rules front chain).bind (applyOperators rules back) := by
  induction front generalizing chain with
  | nil => rfl
  | cons op front ih =>
    rw [List.cons_append, applyOperators_cons, applyOperators_cons]
    cases applyOperator rules op (settle rules op chain) with
    | error fault => rfl
    | ok shorter => exact ih shorter

theorem applyOperators_congr {rules rules' : Rules α ε} (same : rules.apply = rules'.apply)
    {ops : List Operator} (keep : ∀ op ∈ ops, Flat.collapses op = false) (chain : Chain α) :
    applyOperators rules ops chain = applyOperators rules' ops chain := by
  induction ops generalizing chain with
  | nil => rfl
  | cons op ops ih =>
    have keeps := keep op List.mem_cons_self
    rw [applyOperators_cons, applyOperators_cons, settle_of_not_collapses rules keeps,
      settle_of_not_collapses rules' keeps, applyOperator_congr same keeps]
    cases applyOperator rules' op chain with
    | error fault => rfl
    | ok shorter => exact ih (fun op member => keep op (List.mem_cons_of_mem _ member)) shorter

/-- Runs of operators that take no part in turning leave the others in their order. -/
theorem operators_applyOperators (rules : Rules α ε) {ops : List Operator}
    (keep : ∀ op ∈ ops, Flat.collapses op = false) {chain result : Chain α}
    (run : applyOperators rules ops chain = .ok result) :
    result.operators = chain.operators.filter (· ∉ ops) := by
  induction ops generalizing chain with
  | nil =>
    cases run
    exact (List.filter_eq_self.2 fun _ _ => by simp).symm
  | cons op ops ih =>
    have keeps := keep op List.mem_cons_self
    rw [applyOperators_cons, settle_of_not_collapses rules keeps] at run
    obtain ⟨shorter, first, run⟩ := bind_eq_ok.1 run
    rw [ih (fun op member => keep op (List.mem_cons_of_mem _ member)) run,
      operators_applyOperator rules keeps first, List.filter_filter]
    congr 1
    funext other
    simp [Bool.and_comm]

/-- Operators with an item each that are all subtractions. -/
theorem eq_subtractions (rest : List (Operator × α))
    (subtractions : ∀ op ∈ rest.map Prod.fst, op = .subtract) :
    rest = (rest.map Prod.snd).map (Operator.subtract, ·) := by
  induction rest with
  | nil => rfl
  | cons item rest ih =>
    obtain ⟨op, x⟩ := item
    obtain rfl : op = .subtract := subtractions op List.mem_cons_self
    rw [List.map_cons, List.map_cons,
      ← ih fun op member => subtractions op (List.mem_cons_of_mem _ member)]

/-- Unambiguous sums and differences are subtractions, with perhaps one addition at the end. -/
theorem exists_additive {chain : Chain α} (unambiguous : Phrase.Unambiguous chain.operators)
    (additive : ∀ op ∈ chain.operators, op = .subtract ∨ op = .add) :
    ∃ (x : α) (items : List α), chain = ⟨x, items.map (Operator.subtract, ·)⟩
      ∨ ∃ y, chain = ⟨x, items.map (Operator.subtract, ·) ++ [(.add, y)]⟩ := by
  obtain ⟨x, rest⟩ := chain
  rcases unambiguous with none | ⟨before, after, split, notBefore, notAfter, noSubtraction⟩
  · refine ⟨x, rest.map Prod.snd, .inl (congrArg (Chain.mk x) (eq_subtractions rest ?_))⟩
    intro op member
    exact (additive op member).resolve_right fun same => none (same ▸ member)
  · obtain ⟨front, back, rfl, rfl, behind⟩ := List.map_eq_append_iff.1 split
    obtain ⟨⟨op, y⟩, tail, rfl, rfl, rfl⟩ := List.map_eq_cons_iff.1 behind
    have subtractions : ∀ op ∈ front.map Prod.fst, op = .subtract := by
      intro op member
      refine (additive op ?_).resolve_right fun same => notBefore (same ▸ member)
      rw [split]
      exact List.mem_append_left _ member
    have last : tail = [] := by
      refine List.eq_nil_iff_forall_not_mem.2 fun item member => ?_
      have inside : item.1 ∈ tail.map Prod.fst := List.mem_map_of_mem member
      have additive := additive item.1 (by
        rw [split]
        exact List.mem_append_right _ (List.mem_cons_of_mem _ inside))
      rcases additive with same | same
      · exact noSubtraction (same ▸ inside)
      · exact notAfter (same ▸ inside)
    subst last
    refine ⟨x, front.map Prod.snd, .inr ⟨y, ?_⟩⟩
    rw [← eq_subtractions front subtractions]

end Unambiguous

end Chain

/-- A row of operators stays unambiguous when operators other than additions are left out. -/
theorem Phrase.Unambiguous.filter {operators : List Operator} (unambiguous : Unambiguous operators)
    {kept : Operator → Bool} (addition : kept .add = true) :
    Unambiguous (operators.filter kept) := by
  have inside {op : Operator} {row : List Operator} (member : op ∈ row.filter kept) : op ∈ row :=
    (List.mem_filter.1 member).1
  rcases unambiguous with none | ⟨before, after, rfl, notBefore, notAfter, noSubtraction⟩
  · exact .inl fun member => none (inside member)
  · refine .inr ⟨before.filter kept, after.filter kept, ?_, fun member => notBefore (inside member),
      fun member => notAfter (inside member), fun member => noSubtraction (inside member)⟩
    rw [List.filter_append, List.filter_cons_of_pos addition]

/-- Subtracting the opposite comes to the same value as adding. -/
theorem Operator.apply_subtract_neg (x y : Binary64) :
    (Operator.apply .subtract x (-y)).toOption = (Operator.apply .add x y).toOption := by
  unfold Operator.apply Operator.compute
  dsimp only
  rw [Binary64.sub_eq_add_neg, Binary64.neg_neg]
  split <;> rfl

namespace Chain

/-- **Turning makes no difference to the value of a chain whose operators are unambiguous.** -/
theorem reduce_of_unambiguous {chain : Chain Binary64}
    (unambiguous : Phrase.Unambiguous chain.operators) :
    (chain.reduce Binary64.rules).toOption = (chain.reduce Binary64.plainRules).toOption := by
  have keep : ∀ op ∈ [Operator.power, .divide, .multiply], Flat.collapses op = false := by decide
  have split (rules : Rules Binary64 ArithmeticFault) :
      applyOperators rules Operator.all chain
        = (applyOperators rules [.power, .divide, .multiply] chain).bind
          (applyOperators rules [.subtract, .add]) :=
    applyOperators_append rules [.power, .divide, .multiply] [.subtract, .add] chain
  have same : Binary64.rules.apply = Binary64.plainRules.apply := rfl
  rw [reduce, reduce, split Binary64.rules, split Binary64.plainRules, toOption_map, toOption_map,
    applyOperators_congr same keep chain]
  cases run : applyOperators Binary64.plainRules [.power, .divide, .multiply] chain with
  | error fault => rfl
  | ok terms =>
    have operators := operators_applyOperators Binary64.plainRules keep run
    have stillUnambiguous : Phrase.Unambiguous terms.operators := by
      rw [operators]
      exact unambiguous.filter (by decide)
    have additive : ∀ op ∈ terms.operators, op = .subtract ∨ op = .add := by
      intro op member
      rw [operators, List.mem_filter] at member
      cases op <;> simp_all
    rw [bind_ok, bind_ok]
    obtain ⟨x, items, rfl | ⟨y, rfl⟩⟩ := exists_additive stillUnambiguous additive
    · rw [applyOperators_subtractions, applyOperators_subtractions, subtractAll_congr same]
    · have last (z : Binary64) :
          (if Binary64.rules.isNegative y then Binary64.rules.apply .subtract z
            (Binary64.rules.opposite y)
            else Binary64.rules.apply .add z y).toOption
            = (if Binary64.plainRules.isNegative y then
                Binary64.plainRules.apply .subtract z (Binary64.plainRules.opposite y)
              else Binary64.plainRules.apply .add z y).toOption := by
        by_cases negative : Binary64.rules.isNegative y = true
        · rw [if_pos negative, if_neg (by rw [Binary64.plain_plainRules]; decide)]
          exact Operator.apply_subtract_neg z y
        · rw [if_neg negative, if_neg (by rw [Binary64.plain_plainRules]; decide), same]
      rw [applyOperators_addition, applyOperators_addition, subtractAll_congr same]
      simp only [toOption_map, toOption_bind, last]

end Chain

end InfixCalculator
