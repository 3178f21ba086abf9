import InfixCalculator.Expression.WholeValue
import InfixCalculator.Proofs.Turning
import InfixCalculator.Proofs.WholeNumbers

/-!
# Reducing chains of whole numbers

A chain of whole numbers stands for a signed sum, in which the items behind subtractions count
negatively. Applying the leftmost subtraction keeps that sum, for everything in front of it is
added; turning the addition of an item into the subtraction of its opposite keeps it too, and
neither lets the sum of the magnitudes grow (`Chain.Sums`). So however the sums of a chain come to
be associated, and whichever additions are turned, all partial sums stay within the sum of the
magnitudes, and the result is the signed sum (`Chain.Sums.exists_sum`).

The products of a chain are taken before that, from the left, and give the chain of its terms
(`Chain.exists_terms`). Together, a chain whose products and whose sum of magnitudes are small
reduces to its value by the usual rules of arithmetic (`Chain.reduce_whole`).
-/

set_option autoImplicit false

namespace InfixCalculator

open Magnitude (wholeLimit)

/-! ## Signed sums -/

/-- How an item behind an operator counts in a sum. -/
def Operator.signed : Operator → Int → Int
  | .subtract, n => -n
  | _, n => n

theorem Operator.natAbs_signed (op : Operator) (n : Int) : (op.signed n).natAbs = n.natAbs := by
  cases op <;> simp [signed]

theorem Binary64.toInt_neg (x : Binary64) : (-x).toInt = -x.toInt := by
  cases x with
  | finite negative magnitude => exact (neg_signedNat negative _).symm
  | _ => rfl

namespace Chain

/-- Rules that compute as arithmetic does, whatever they turn. -/
structure Rules.Arithmetic (rules : Rules Binary64 ArithmeticFault) : Prop where
  /-- Operators are applied to the numbers. -/
  apply : rules.apply = Operator.apply
  /-- The opposite is the number with the opposite sign. -/
  opposite : ∀ x, rules.opposite x = -x

theorem arithmetic_rules : Binary64.rules.Arithmetic := ⟨rfl, fun _ => rfl⟩

theorem arithmetic_plainRules : Binary64.plainRules.Arithmetic := ⟨rfl, fun _ => rfl⟩

/-- Every item is a whole number. -/
def IsWhole (chain : Chain Binary64) : Prop := chain.All fun x => x.Is x.toInt

/-- The sum of items behind operators. -/
def signedRest : List (Operator × Binary64) → Int
  | [] => 0
  | (op, x) :: rest => op.signed x.toInt + signedRest rest

/-- The sum that a chain stands for. -/
def signedSum (chain : Chain Binary64) : Int := chain.first.toInt + signedRest chain.rest

/-- The sum of the magnitudes of items behind operators. -/
def sizeRest : List (Operator × Binary64) → Nat
  | [] => 0
  | (_, x) :: rest => x.toInt.natAbs + sizeRest rest

/-- The sum of the magnitudes in a chain. -/
def sizeSum (chain : Chain Binary64) : Nat := chain.first.toInt.natAbs + sizeRest chain.rest

theorem signedRest_cons (op : Operator) (x : Binary64) (rest : List (Operator × Binary64)) :
    signedRest ((op, x) :: rest) = op.signed x.toInt + signedRest rest := rfl

theorem sizeRest_cons (op : Operator) (x : Binary64) (rest : List (Operator × Binary64)) :
    sizeRest ((op, x) :: rest) = x.toInt.natAbs + sizeRest rest := rfl

/-- What stands in front of a chain is added to it, if nothing is subtracted there. -/
theorem exists_signedSum_prepend {front : List (Binary64 × Operator)}
    (absent : .subtract ∉ front.map Prod.snd) :
    ∃ ahead, ∀ chain, signedSum (prepend front chain) = ahead + signedSum chain := by
  induction front with
  | nil => exact ⟨0, fun _ => (Int.zero_add _).symm⟩
  | cons item front ih =>
    obtain ⟨x, op⟩ := item
    rw [List.map_cons, List.mem_cons, not_or] at absent
    obtain ⟨ahead, added⟩ := ih absent.2
    refine ⟨x.toInt + ahead, fun chain => ?_⟩
    have kept : op.signed (prepend front chain).first.toInt
        = (prepend front chain).first.toInt := by
      cases op <;> first | rfl | exact absurd rfl absent.1
    have inner := added chain
    unfold signedSum at inner ⊢
    rw [prepend_cons, signedRest_cons, kept]
    dsimp only
    omega

theorem exists_sizeSum_prepend (front : List (Binary64 × Operator)) :
    ∃ ahead, ∀ chain, sizeSum (prepend front chain) = ahead + sizeSum chain := by
  induction front with
  | nil => exact ⟨0, fun _ => (Nat.zero_add _).symm⟩
  | cons item front ih =>
    obtain ⟨x, op⟩ := item
    obtain ⟨ahead, added⟩ := ih
    refine ⟨x.toInt.natAbs + ahead, fun chain => ?_⟩
    have inner := added chain
    unfold sizeSum at inner ⊢
    rw [prepend_cons, sizeRest_cons]
    dsimp only
    omega

/-- A chain of whole numbers with a given sum, whose magnitudes sum up to no more than a bound. -/
structure Sums (chain : Chain Binary64) (total : Int) (bound : Nat) : Prop where
  /-- The items are whole numbers. -/
  whole : chain.IsWhole
  /-- The sum. -/
  sum : chain.signedSum = total
  /-- The sum of the magnitudes. -/
  size : chain.sizeSum ≤ bound

section Sums

variable {rules : Rules Binary64 ArithmeticFault} (arithmetic : rules.Arithmetic)
  {total : Int} {bound : Nat}

include arithmetic

theorem isWhole_opposite (x : Binary64) :
    (rules.opposite x).Is (rules.opposite x).toInt ↔ x.Is x.toInt := by
  rw [arithmetic.opposite, Binary64.toInt_neg]
  refine ⟨fun is => ?_, Binary64.Is.neg⟩
  have back := is.neg
  rwa [Binary64.neg_neg, Int.neg_neg] at back

theorem signed_turn (item : Operator × Binary64) :
    (turn rules item).1.signed (turn rules item).2.toInt = item.1.signed item.2.toInt
      ∧ (turn rules item).2.toInt.natAbs = item.2.toInt.natAbs := by
  obtain ⟨op, x⟩ := item
  by_cases addition : op = .add
  · subst addition
    by_cases negative : rules.isNegative x = true
    · rw [turn_negative rules negative]
      simp only [Operator.signed, arithmetic.opposite, Binary64.toInt_neg, Int.neg_neg,
        Int.natAbs_neg, and_self]
    · rw [turn_positive rules negative]
      exact ⟨rfl, rfl⟩
  · rw [turn_of_ne rules addition]
    exact ⟨rfl, rfl⟩

/-- Turning additions keeps the sum of what stands behind operators. -/
theorem signedRest_map_turn (rest : List (Operator × Binary64)) :
    signedRest (rest.map (turn rules)) = signedRest rest := by
  induction rest with
  | nil => rfl
  | cons item rest ih =>
    rw [List.map_cons, signedRest_cons, signedRest_cons, ih, (signed_turn arithmetic item).1]

theorem sizeRest_map_turn (rest : List (Operator × Binary64)) :
    sizeRest (rest.map (turn rules)) = sizeRest rest := by
  induction rest with
  | nil => rfl
  | cons item rest ih =>
    rw [List.map_cons, sizeRest_cons, sizeRest_cons, ih, (signed_turn arithmetic item).2]

/-- Turning additions keeps the sum and the magnitudes. -/
theorem Sums.settle {chain : Chain Binary64} (sums : chain.Sums total bound) (op : Operator) :
    (settle rules op chain).Sums total bound := by
  refine ⟨(all_settle rules (isWhole_opposite arithmetic)).2 sums.whole, ?_, ?_⟩
  · refine Eq.trans ?_ sums.sum
    unfold Chain.settle
    split
    · exact congrArg (chain.first.toInt + ·) (signedRest_map_turn arithmetic chain.rest)
    · rfl
  · refine Nat.le_trans (Nat.le_of_eq ?_) sums.size
    unfold Chain.settle
    split
    · exact congrArg (chain.first.toInt.natAbs + ·) (sizeRest_map_turn arithmetic chain.rest)
    · rfl

omit arithmetic in
/-- **A step keeps the sum.** The leftmost subtraction has nothing but sums in front of it. -/
theorem Sums.step {front : List (Binary64 × Operator)} (absent : .subtract ∉ front.map Prod.snd)
    {op : Operator} {left right : Binary64} {back : List (Operator × Binary64)}
    (sums : (prepend front ⟨left, (op, right) :: back⟩).Sums total bound) {z : Binary64}
    (is : z.Is (left.toInt + op.signed right.toInt)) :
    (prepend front ⟨z, back⟩).Sums total bound := by
  obtain ⟨whole, sum, size⟩ := sums
  obtain ⟨ahead, added⟩ := exists_signedSum_prepend absent
  obtain ⟨aheadSize, addedSize⟩ := exists_sizeSum_prepend front
  rw [added] at sum
  rw [addedSize] at size
  refine ⟨all_replace whole is.isWhole, ?_, ?_⟩
  · rw [added, ← sum]
    simp only [signedSum, signedRest_cons, is.toInt_eq]
    omega
  · rw [addedSize]
    simp only [sizeSum, sizeRest_cons, is.toInt_eq] at size ⊢
    have magnitude := op.natAbs_signed right.toInt
    omega

omit arithmetic in
/-- The operands of a step are small, and so is their sum. -/
theorem Sums.natAbs_operands {front : List (Binary64 × Operator)} {op : Operator}
    {left right : Binary64} {back : List (Operator × Binary64)}
    (sums : (prepend front ⟨left, (op, right) :: back⟩).Sums total bound) :
    left.toInt.natAbs + right.toInt.natAbs ≤ bound := by
  obtain ⟨ahead, added⟩ := exists_sizeSum_prepend front
  have size := sums.size
  rw [added] at size
  simp only [sizeSum, sizeRest_cons] at size
  omega

/-- A run of subtractions succeeds on small sums and keeps them. -/
theorem Sums.applyOperator_subtract (small : bound ≤ wholeLimit) {chain : Chain Binary64}
    (sums : chain.Sums total bound) :
    ∃ result, applyOperator rules .subtract chain = .ok result ∧ result.Sums total bound := by
  induction chain using operator_induction rules .subtract with
  | done chain absent => exact ⟨chain, applyOperator_of_not_mem rules absent, sums⟩
  | step front left right back absent ih =>
    obtain ⟨isLeft, isRight⟩ := all_operands sums.whole
    have operands := sums.natAbs_operands
    obtain ⟨z, applied, is⟩ := Operator.apply_subtract isLeft isRight (by omega)
    rw [← arithmetic.apply] at applied
    have next := (sums.step absent is).settle arithmetic .subtract
    obtain ⟨result, run, kept⟩ := ih z applied next
    refine ⟨result, ?_, kept⟩
    rw [applyOperator_prepend rules absent, applied]
    exact run

/-- A run of additions on a settled chain of small sums comes to the sum. -/
theorem Sums.applyOperator_add (small : bound ≤ wholeLimit) {x : Binary64}
    {rest : List (Operator × Binary64)} (settled : rest.map (turn rules) = rest)
    (additions : ∀ item ∈ rest, item.1 = .add) (sums : Sums ⟨x, rest⟩ total bound) :
    ∃ z, applyOperator rules .add ⟨x, rest⟩ = .ok ⟨z, []⟩ ∧ z.Is total := by
  induction rest generalizing x with
  | nil =>
    refine ⟨x, applyOperator_of_not_mem rules List.not_mem_nil, ?_⟩
    have sum : x.toInt + 0 = total := sums.sum
    rw [← sum, Int.add_zero]
    exact sums.whole.1
  | cons item rest ih =>
    obtain ⟨op, y⟩ := item
    obtain rfl : op = .add := additions _ List.mem_cons_self
    obtain ⟨isX, isY⟩ := @all_operands _ _ .add [] x y rest sums.whole
    have operands := @Sums.natAbs_operands total bound [] .add x y rest sums
    obtain ⟨z, applied, is⟩ := Operator.apply_add isX isY (by omega)
    rw [← arithmetic.apply] at applied
    have tail : rest.map (turn rules) = rest := (List.cons.inj settled).2
    have next : Sums ⟨z, rest⟩ total bound :=
      @Sums.step total bound [] List.not_mem_nil .add x y rest sums z is
    have later : ∀ item ∈ rest, item.1 = .add := fun item member =>
      additions item (List.mem_cons_of_mem _ member)
    obtain ⟨w, run, total⟩ := ih tail later next
    refine ⟨w, ?_, total⟩
    rw [applyOperator_first rules .add x y tail, applied]
    exact run

/-- **Sums and differences of small whole numbers reduce to their sum**, whichever additions are
turned. -/
theorem Sums.exists_sum (small : bound ≤ wholeLimit) {chain : Chain Binary64}
    (additive : ∀ op ∈ chain.operators, op = .subtract ∨ op = .add)
    (sums : chain.Sums total bound) :
    ∃ z, applyOperators rules [.subtract, .add] chain = .ok ⟨z, []⟩ ∧ z.Is total := by
  have settled := settled_settle rules Flat.collapses_subtract chain
  obtain ⟨result, subtracted, kept⟩ :=
    (sums.settle arithmetic .subtract).applyOperator_subtract arithmetic small
  have stillSettled := settled_of_applyOperator rules rfl subtracted settled
  obtain ⟨out, others⟩ := operators_of_applyOperator rules subtracted
  have additions : ∀ item ∈ result.rest, item.1 = .add := by
    intro item member
    have inside : item.1 ∈ result.operators := List.mem_map_of_mem member
    have different : item.1 ≠ .subtract := fun same => out (same ▸ inside)
    have before := mem_operators_settle rules (others _ inside different) different
    exact (additive _ before).resolve_left different
  obtain ⟨z, added, is⟩ := kept.applyOperator_add arithmetic small stillSettled additions
  refine ⟨z, ?_, is⟩
  rw [applyOperators_cons, subtracted, bind_ok, applyOperators_cons,
    settle_of_settled rules stillSettled, added]
  rfl

end Sums

end Chain

/-! ## Terms -/

namespace Phrase.Running

/-- The running size of a chain with one more operator and an operand of a given size. -/
def grow (s : Running Nat) : Operator → Nat → Running Nat
  | .multiply, n => ⟨s.sum, s.product * n⟩
  | _, n => ⟨s.total, n⟩

@[simp] theorem extend_multiply (r : Running Int) (n : Int) :
    r.extend .multiply n = some ⟨r.sum, r.product * n⟩ := rfl

@[simp] theorem grow_multiply (s : Running Nat) (n : Nat) :
    s.grow .multiply n = ⟨s.sum, s.product * n⟩ := rfl

/-- Behind a sum or difference a new product starts. -/
theorem extend_additive {op : Operator} (additive : op = .subtract ∨ op = .add) (r : Running Int)
    (n : Int) : r.extend op n = some ⟨r.total, op.signed n⟩ := by
  rcases additive with rfl | rfl <;> rfl

theorem grow_additive {op : Operator} (additive : op = .subtract ∨ op = .add) (s : Running Nat)
    (n : Nat) : s.grow op n = ⟨s.total, n⟩ := by
  rcases additive with rfl | rfl <;> rfl

/-- Whole numbers know products, sums and differences. -/
theorem operator_of_extend {op : Operator} {r r' : Running Int} {n : Int}
    (extended : r.extend op n = some r') : op = .multiply ∨ op = .subtract ∨ op = .add := by
  cases op <;> simp_all [extend]

end Phrase.Running

theorem Operator.signed_mul (op : Operator) (n m : Int) : op.signed n * m = op.signed (n * m) := by
  cases op
  case subtract => exact Int.neg_mul n m
  all_goals rfl

namespace Chain

open Phrase (Running)

/-- The running value of a chain with more items. -/
def extendAll : Running Int → List (Operator × Binary64) → Option (Running Int)
  | r, [] => some r
  | r, (op, x) :: rest => (r.extend op x.toInt).bind fun r => extendAll r rest

/-- The running size of a chain with more items. -/
def growAll : Running Nat → List (Operator × Binary64) → Running Nat
  | s, [] => s
  | s, (op, x) :: rest => growAll (s.grow op x.toInt.natAbs) rest

theorem extendAll_append (r : Running Int) (front back : List (Operator × Binary64)) :
    extendAll r (front ++ back) = (extendAll r front).bind fun r => extendAll r back := by
  induction front generalizing r with
  | nil => rfl
  | cons item front ih =>
    obtain ⟨op, x⟩ := item
    simp only [List.cons_append, extendAll, ih, Option.bind_assoc]

theorem growAll_append (s : Running Nat) (front back : List (Operator × Binary64)) :
    growAll s (front ++ back) = growAll (growAll s front) back := by
  induction front generalizing s with
  | nil => rfl
  | cons item front ih =>
    obtain ⟨op, x⟩ := item
    exact ih _

/-- The products of a row of items stay small while the items are taken one by one. -/
def SmallProducts (s : Running Nat) (rest : List (Operator × Binary64)) : Prop :=
  ∀ front, front <+: rest → (growAll s front).product ≤ wholeLimit

theorem SmallProducts.tail {s : Running Nat} {op : Operator} {x : Binary64}
    {rest : List (Operator × Binary64)} (small : SmallProducts s ((op, x) :: rest)) :
    SmallProducts (s.grow op x.toInt.natAbs) rest := fun front before =>
  small ((op, x) :: front) (List.prefix_cons_inj (op, x) |>.2 before)

/-- What multiplying makes of a chain of whole numbers. `op` is the operator in front of the chain,
`sum` and `size` are what stands in front of it. -/
structure Terms (chain terms : Chain Binary64) (op : Operator) (sum : Int) (size : Nat)
    (r : Running Int) : Prop where
  /-- The products are computed. -/
  run : applyOperator Binary64.plainRules .multiply chain = .ok terms
  /-- The terms are whole numbers. -/
  whole : terms.IsWhole
  /-- Sums and differences are left. -/
  additive : ∀ op ∈ terms.operators, op = .subtract ∨ op = .add
  /-- The sum of the terms is the value of the chain. -/
  total : sum + op.signed terms.first.toInt + signedRest terms.rest = r.total
  /-- The magnitudes of the terms sum up to the size of the chain. -/
  sizes : size + terms.sizeSum = (growAll ⟨size, chain.first.toInt.natAbs⟩ chain.rest).total

section Terms

variable {x y : Binary64} {rest : List (Operator × Binary64)} {terms : Chain Binary64}
    {op : Operator}
  {sum : Int} {size : Nat} {r : Running Int}

/-- The first product is taken into the first term. -/
theorem Terms.multiply {z : Binary64} (applied : Operator.apply .multiply x y = .ok z)
    (is : z.Is (x.toInt * y.toInt)) (has : Terms ⟨z, rest⟩ terms op sum size r) :
    Terms ⟨x, (.multiply, y) :: rest⟩ terms op sum size r := by
  refine ⟨?_, has.whole, has.additive, has.total, ?_⟩
  · have settled : rest.map (turn Binary64.plainRules) = rest :=
      congrArg Chain.rest (settle_plain Binary64.plain_plainRules .add ⟨x, rest⟩)
    have apply : Binary64.plainRules.apply .multiply x y = .ok z := applied
    rw [applyOperator_first Binary64.plainRules .multiply x y settled, apply]
    exact has.run
  · rw [has.sizes, is.toInt_eq, growAll, Running.grow_multiply, Int.natAbs_mul]

/-- In front of a sum or difference a term is complete. -/
theorem Terms.additive_cons {other : Operator} (additive : other = .subtract ∨ other = .add)
    (isX : x.Is x.toInt)
    (has : Terms ⟨y, rest⟩ terms other (sum + op.signed x.toInt) (size + x.toInt.natAbs) r) :
    Terms ⟨x, (other, y) :: rest⟩ ⟨x, (other, terms.first) :: terms.rest⟩ op sum size r := by
  obtain ⟨run, whole, ops, total, sizes⟩ := has
  have different : .multiply ≠ other := by
    rcases additive with rfl | rfl <;> decide
  refine ⟨?_, all_cons.2 ⟨isX, whole⟩, List.forall_mem_cons.2 ⟨additive, ops⟩, ?_, ?_⟩
  · have behind := @applyOperator_behind _ _ _ Binary64.plain_plainRules .multiply []
      List.not_mem_nil other different x y rest
    rw [prepend_nil, run] at behind
    exact behind
  · rw [← total, signedRest_cons]
    dsimp only
    omega
  · rw [growAll, Running.grow_additive additive]
    refine Eq.trans ?_ sizes
    rw [sizeSum, sizeRest_cons, sizeSum]
    dsimp only
    omega

end Terms

/-- **The products of a chain of whole numbers give its terms**, whose sum is the value of the chain
and whose magnitudes sum up to its size. -/
theorem exists_terms {rest : List (Operator × Binary64)} {x : Binary64} (isX : x.Is x.toInt)
    (whole : ∀ item ∈ rest, item.2.Is item.2.toInt) {op : Operator} {sum : Int} {size : Nat}
    {r : Running Int} (value : extendAll ⟨sum, op.signed x.toInt⟩ rest = some r)
    (small : SmallProducts ⟨size, x.toInt.natAbs⟩ rest) :
    ∃ terms, Terms ⟨x, rest⟩ terms op sum size r := by
  induction rest generalizing x op sum size with
  | nil =>
    cases value
    exact ⟨⟨x, []⟩, applyOperator_of_not_mem _ List.not_mem_nil, ⟨isX, by simp⟩,
      by simp [operators],
      Int.add_zero _, rfl⟩
  | cons item rest ih =>
    obtain ⟨other, y⟩ := item
    obtain ⟨isY, wholeRest⟩ := List.forall_mem_cons.1 whole
    obtain ⟨next, extended, value⟩ := Option.bind_eq_some_iff.1 value
    have tail := small.tail
    rcases Running.operator_of_extend extended with rfl | additive
    · have product : x.toInt.natAbs * y.toInt.natAbs ≤ wholeLimit :=
        small [(.multiply, y)] ⟨rest, rfl⟩
      rw [← Int.natAbs_mul] at product
      obtain ⟨z, applied, is⟩ := Operator.apply_multiply isX isY product
      rw [Running.grow_multiply, ← Int.natAbs_mul, ← is.toInt_eq] at tail
      rw [Running.extend_multiply, op.signed_mul, ← is.toInt_eq] at extended
      cases extended
      obtain ⟨terms, has⟩ := ih is.isWhole wholeRest value tail
      exact ⟨terms, has.multiply applied is⟩
    · rw [Running.grow_additive additive] at tail
      rw [Running.extend_additive additive] at extended
      cases extended
      obtain ⟨terms, has⟩ := ih isY wholeRest value tail
      exact ⟨_, has.additive_cons additive isX⟩

/-! ## Whole levels -/

theorem operators_of_extendAll {rest : List (Operator × Binary64)} {r r' : Running Int}
    (value : extendAll r rest = some r') :
    ∀ op ∈ rest.map Prod.fst, op = .multiply ∨ op = .subtract ∨ op = .add := by
  induction rest generalizing r with
  | nil => simp
  | cons item rest ih =>
    obtain ⟨next, extended, value⟩ := Option.bind_eq_some_iff.1 value
    exact List.forall_mem_cons.2 ⟨Running.operator_of_extend extended, ih value⟩

/-- **A chain of whole numbers with small products and a small sum of magnitudes reduces to its
value**, whichever additions are turned. -/
theorem reduce_whole {rules : Rules Binary64 ArithmeticFault} (arithmetic : rules.Arithmetic)
    {chain : Chain Binary64} (whole : chain.IsWhole) {r : Running Int}
    (value : extendAll ⟨0, chain.first.toInt⟩ chain.rest = some r)
    (small : SmallProducts ⟨0, chain.first.toInt.natAbs⟩ chain.rest)
    (size : (growAll ⟨0, chain.first.toInt.natAbs⟩ chain.rest).total ≤ wholeLimit) :
    ∃ z, chain.reduce rules = .ok z ∧ z.Is r.total := by
  obtain ⟨terms, run, isWhole, additive, total, sizes⟩ :=
    @exists_terms _ _ whole.1 whole.2 .add 0 0 r value small
  have known := operators_of_extendAll value
  have absent {op : Operator} (other : op = .power ∨ op = .divide) : op ∉ chain.operators := by
    intro member
    rcases known op member with rfl | rfl | rfl <;> simp at other
  have same : rules.apply = Binary64.plainRules.apply := arithmetic.apply
  have tight : applyOperators rules [.power, .divide, .multiply] chain = .ok terms := by
    rw [applyOperators_cons, settle_of_not_collapses rules rfl,
      applyOperator_of_not_mem rules (absent (.inl rfl)), bind_ok, applyOperators_cons,
      settle_of_not_collapses rules rfl, applyOperator_of_not_mem rules (absent (.inr rfl)),
        bind_ok,
      applyOperators_cons, settle_of_not_collapses rules rfl, applyOperator_congr same rfl, run]
    rfl
  have sums : terms.Sums r.total wholeLimit := by
    refine ⟨isWhole, ?_, ?_⟩
    · rw [← total, Int.zero_add]
      rfl
    · rw [← Nat.zero_add terms.sizeSum, sizes]
      exact size
  obtain ⟨z, summed, is⟩ := sums.exists_sum arithmetic (Nat.le_refl _) additive
  refine ⟨z, ?_, is⟩
  have split : applyOperators rules Operator.all chain
      = (applyOperators rules [.power, .divide, .multiply] chain).bind
        (applyOperators rules [.subtract, .add]) :=
    applyOperators_append rules [.power, .divide, .multiply] [.subtract, .add] chain
  rw [reduce, split, tight, bind_ok, summed]
  rfl

end Chain

end InfixCalculator
