import InfixCalculator.Proofs.Chains
import InfixCalculator.Proofs.Precedence

/-!
# Applying operators by rank and from the left

A chain can be reduced rank by rank, each operator leftmost first, or read once from the left on a
spine (`Chain.fromLeft`). When no addition is ever turned into a subtraction, both apply the same
operators to the same operands, only in another order: an operator whose neighbours on the left all
bind more loosely, and whose neighbour on the right does not bind more tightly, may be applied
before anything else (`Chain.applyOperators_innermost`). So one way comes to a value exactly when
the other does, and then to the same value (`Chain.reduce_plain`). Which fault is met first may
differ, and nothing is said about it.
-/

set_option autoImplicit false

namespace InfixCalculator

namespace Chain

/-! ## Without turning -/

section Plain

variable {α ε : Type} {rules : Rules α ε}

/-- Rules under which no item has a minus, so that nothing is turned. -/
def Rules.Plain (rules : Rules α ε) : Prop := ∀ x, rules.isNegative x = false

theorem prepend_append (front between : List (α × Operator)) (chain : Chain α) :
    prepend (front ++ between) chain = prepend front (prepend between chain) := by
  induction front with
  | nil => rfl
  | cons item front ih =>
    obtain ⟨x, op⟩ := item
    rw [List.cons_append, prepend_cons, prepend_cons, ih]

variable (plain : rules.Plain)
include plain

theorem settle_plain (op : Operator) (chain : Chain α) : settle rules op chain = chain := by
  refine settle_of_settled rules ?_
  refine List.map_id'' (fun item => ?_) chain.rest
  obtain ⟨other, x⟩ := item
  by_cases addition : other = .add
  · subst addition
    exact turn_positive rules (by rw [plain x]; decide)
  · exact turn_of_ne rules addition x

/-- A run of an operator leaves what stands in front alone when the operator does not occur
there. -/
theorem applyOperator_prepend_plain {op : Operator} {front : List (α × Operator)}
    (absent : op ∉ front.map Prod.snd) (chain : Chain α) :
    applyOperator rules op (prepend front chain)
      = (applyOperator rules op chain).map (prepend front) := by
  induction chain using operator_induction rules op with
  | done chain none =>
    have nowhere : op ∉ (prepend front chain).operators := by
      rw [operators_prepend, List.mem_append, not_or]
      exact ⟨absent, none⟩
    rw [applyOperator_of_not_mem rules none, applyOperator_of_not_mem rules nowhere]
    rfl
  | step between left right back none ih =>
    have clear : op ∉ (front ++ between).map Prod.snd := by
      rw [List.map_append, List.mem_append, not_or]
      exact ⟨absent, none⟩
    rw [← prepend_append, applyOperator_prepend rules clear, applyOperator_prepend rules none,
      map_of_bind]
    refine bind_congr_of_ok fun z applied => ?_
    have shorter := ih z applied
    rw [settle_plain plain] at shorter
    rw [settle_plain plain, settle_plain plain, prepend_append, shorter]

/-- A run of an operator goes on behind any other operator that comes first. -/
theorem applyOperator_behind {op : Operator} {front : List (α × Operator)}
    (absent : op ∉ front.map Prod.snd) {follows : Operator} (different : op ≠ follows) (x y : α)
    (back : List (Operator × α)) :
    applyOperator rules op (prepend front ⟨x, (follows, y) :: back⟩)
      = (applyOperator rules op ⟨y, back⟩).map fun chain =>
        prepend front ⟨x, (follows, chain.first) :: chain.rest⟩ := by
  have longer : op ∉ (front ++ [(x, follows)]).map Prod.snd := by
    rw [List.map_append, List.mem_append, not_or]
    exact ⟨absent, by simpa using different⟩
  have run := applyOperator_prepend_plain plain longer ⟨y, back⟩
  rw [prepend_append, prepend_cons, prepend_nil] at run
  rw [run]
  cases applyOperator rules op ⟨y, back⟩ with
  | error fault => rfl
  | ok chain => exact congrArg Except.ok (prepend_append front [(x, follows)] chain)

theorem applyOperators_cons_plain (op : Operator) (ops : List Operator) (chain : Chain α) :
    applyOperators rules (op :: ops) chain
      = (applyOperator rules op chain).bind (applyOperators rules ops) := by
  rw [applyOperators_cons, settle_plain plain]

/-- A run of an operator behind the first operator of a row. -/
def runBehind (rules : Rules α ε) (op : Operator) :
    List (Operator × α) → Except ε (List (Operator × α))
  | [] => .ok []
  | (follows, y) :: back =>
    (applyOperator rules op ⟨y, back⟩).map fun chain => (follows, chain.first) :: chain.rest

/-- A run of an operator leaves everything alone up to the first operator behind it, when it occurs
nowhere there. -/
theorem applyOperator_runBehind {op : Operator} {front : List (α × Operator)}
    (absent : op ∉ front.map Prod.snd) (x : α) {back : List (Operator × α)}
    (different : ∀ item ∈ back.head?, op ≠ item.1) :
    applyOperator rules op (prepend front ⟨x, back⟩)
      = (runBehind rules op back).map fun back => prepend front ⟨x, back⟩ := by
  cases back with
  | nil =>
    refine applyOperator_of_not_mem rules ?_
    rw [operators_prepend, List.mem_append, not_or]
    exact ⟨absent, List.not_mem_nil⟩
  | cons item back =>
    obtain ⟨follows, y⟩ := item
    rw [applyOperator_behind plain absent (different _ rfl), runBehind]
    cases applyOperator rules op ⟨y, back⟩ <;> rfl

omit plain in
/-- A run behind the first operator keeps that operator. -/
theorem head?_runBehind {op : Operator} {back shorter : List (Operator × α)}
    (run : runBehind rules op back = .ok shorter) :
    shorter.head?.map Prod.fst = back.head?.map Prod.fst := by
  cases back with
  | nil =>
    cases run
    rfl
  | cons item back =>
    obtain ⟨chain, -, rfl⟩ := map_eq_ok.1 run
    rfl

/-- **An innermost operator may be applied first**: one whose neighbours on the left all bind more
loosely and whose neighbour on the right does not bind more tightly. -/
theorem applyOperators_innermost {ops : List Operator}
    (order : ops.Pairwise fun tight loose => tight.rank < loose.rank) {op : Operator}
    (member : op ∈ ops)
    {front : List (α × Operator)} (looser : ∀ item ∈ front, op.rank < item.2.rank) (left right : α)
    {back : List (Operator × α)}
    (noTighter : ∀ follows ∈ back.head?.map Prod.fst, op.rank ≤ follows.rank) :
    (applyOperators rules ops (prepend front ⟨left, (op, right) :: back⟩)).toOption
      = (rules.apply op left right).toOption.bind fun z =>
        (applyOperators rules ops (prepend front ⟨z, back⟩)).toOption := by
  induction ops generalizing back with
  | nil => cases member
  | cons other ops ih =>
    have outside {tight : Operator} (bound : tight.rank ≤ op.rank) :
        tight ∉ front.map Prod.snd := by
      intro inside
      obtain ⟨item, here, rfl⟩ := List.mem_map.1 inside
      exact absurd (looser item here) (Nat.not_lt.2 bound)
    simp only [applyOperators_cons_plain plain, toOption_bind]
    by_cases same : other = op
    · subst same
      rw [applyOperator_prepend rules (outside (Nat.le_refl _)), toOption_bind, Option.bind_assoc]
      simp only [settle_plain plain]
    · -- `other` binds more tightly than all operators up to the first one behind, so it runs behind
      -- that
      have later : op ∈ ops := (List.mem_cons.1 member).resolve_left (Ne.symm same)
      have tighter : other.rank < op.rank := (List.pairwise_cons.1 order).1 op later
      have absent := outside (Nat.le_of_lt tighter)
      have absentLong : other ∉ (front ++ [(left, op)]).map Prod.snd := by
        rw [List.map_append, List.mem_append, not_or]
        exact ⟨absent, by simpa using same⟩
      have different : ∀ item ∈ back.head?, other ≠ item.1 := by
        rintro item first rfl
        have := noTighter item.1 (Option.mem_map_of_mem Prod.fst first)
        omega
      have long := applyOperator_runBehind plain absentLong right different
      simp only [prepend_append, prepend_cons, prepend_nil] at long
      rw [long]
      simp only [applyOperator_runBehind plain absent _ different]
      cases run : runBehind rules other back with
      | error fault => exact (Option.bind_fun_none _).symm
      | ok shorter =>
        exact ih (List.pairwise_cons.1 order).2 later (by rwa [head?_runBehind run])

end Plain

end Chain

/-! ## Reading from the left -/

/-- Arithmetic on numbers, with no addition turned. -/
def Binary64.plainRules : Chain.Rules Binary64 ArithmeticFault :=
  { Binary64.rules with isNegative := fun _ => false }

@[simp] theorem Binary64.plainRules_apply (op : Operator) (x y : Binary64) :
    Binary64.plainRules.apply op x y = op.apply x y := rfl

theorem Binary64.plain_plainRules : Binary64.plainRules.Plain := fun _ => rfl

namespace Spine

/-- The spine after more operators with an operand each. -/
def read : Spine → List (Operator × Binary64) → Except ArithmeticFault Spine
  | s, [] => .ok s
  | s, (op, x) :: rest => (s.collapse op.rank).bind fun s => (s.push op x).read rest

@[simp] theorem toOption_read_nil (s : Spine) : (s.read []).toOption = some s := rfl

theorem read_append (s : Spine) (front back : List (Operator × Binary64)) :
    s.read (front ++ back) = (s.read front).bind fun s => s.read back := by
  induction front generalizing s with
  | nil => rfl
  | cons item front ih =>
    obtain ⟨op, x⟩ := item
    show (s.collapse op.rank).bind (fun s => (s.push op x).read (front ++ back))
      = ((s.collapse op.rank).bind fun s => (s.push op x).read front).bind _
    cases s.collapse op.rank with
    | error fault => rfl
    | ok s => exact ih _

/-- Each waiting operator binds more tightly than those that wait outside it. -/
def Rising (s : Spine) : Prop := s.waiting.Pairwise fun inner outer => inner.2.rank < outer.2.rank

/-- The chain that a spine stands for together with what has not been read yet. -/
def chain (s : Spine) (rest : List (Operator × Binary64)) : Chain Binary64 :=
  Chain.prepend s.waiting.reverse ⟨s.current, rest⟩

/-- The value of the chain that a spine stands for. -/
def value? (s : Spine) (rest : List (Operator × Binary64)) : Option Binary64 :=
  ((s.chain rest).reduce Binary64.plainRules).toOption

/-- Applying the innermost waiting operator keeps the value of the chain. -/
theorem value?_innermost (x left : Binary64) (op : Operator) (waiting : List (Binary64 × Operator))
    (rising : Rising ⟨x, (left, op) :: waiting⟩) {rest : List (Operator × Binary64)}
    (noTighter : ∀ follows ∈ rest.head?.map Prod.fst, op.rank ≤ follows.rank) :
    value? ⟨x, (left, op) :: waiting⟩ rest
      = (op.apply left x).toOption.bind fun z => value? ⟨z, waiting⟩ rest := by
  have looser : ∀ item ∈ waiting.reverse, op.rank < item.2.rank := fun item member =>
    (List.pairwise_cons.1 rising).1 item (List.mem_reverse.1 member)
  have order : Operator.all.Pairwise fun tight loose => tight.rank < loose.rank := by decide
  have member : op ∈ Operator.all := by cases op <;> decide
  have first := Chain.applyOperators_innermost Binary64.plain_plainRules order member looser left x
    noTighter
  unfold value? chain Chain.reduce
  simp only [toOption_map, List.reverse_cons, Chain.prepend_append, Chain.prepend_cons,
    Chain.prepend_nil]
  rw [first, Binary64.plainRules_apply, Option.map_bind]
  rfl

/-- Collapsing a spine keeps the value of the chain, when nothing tighter follows. -/
theorem value?_collapse (rank : Nat) (s : Spine) (rising : s.Rising)
    {rest : List (Operator × Binary64)}
    (noTighter : ∀ follows ∈ rest.head?.map Prod.fst, rank ≤ follows.rank) :
    s.value? rest = (s.collapse rank).toOption.bind fun s => s.value? rest := by
  obtain ⟨x, waiting⟩ := s
  induction waiting generalizing x with
  | nil => rfl
  | cons item waiting ih =>
    obtain ⟨left, op⟩ := item
    unfold collapse collapseFrom
    by_cases looser : rank < op.rank
    · rw [if_pos looser]
      rfl
    · rw [if_neg looser, toOption_bind, Option.bind_assoc,
        value?_innermost x left op waiting rising fun follows first =>
          Nat.le_trans (Nat.le_of_not_lt looser) (noTighter follows first)]
      congr 1
      funext z
      exact ih z (List.pairwise_cons.1 rising).2

/-- What waits after a collapse binds more loosely than what follows. -/
theorem rising_collapse {rank : Nat} {s ended : Spine} (rising : s.Rising)
    (collapsed : s.collapse rank = .ok ended) :
    ended.Rising ∧ ∀ item ∈ ended.waiting, rank < item.2.rank := by
  obtain ⟨x, waiting⟩ := s
  induction waiting generalizing x with
  | nil =>
    cases collapsed
    exact ⟨rising, by simp⟩
  | cons item waiting ih =>
    obtain ⟨left, op⟩ := item
    unfold collapse collapseFrom at collapsed
    split at collapsed
    · rename_i looser
      cases collapsed
      refine ⟨rising, fun item member => ?_⟩
      rcases List.mem_cons.1 member with rfl | inside
      · exact looser
      · exact Nat.lt_trans looser ((List.pairwise_cons.1 rising).1 item inside)
    · obtain ⟨z, -, collapsed⟩ := bind_eq_ok.1 collapsed
      exact ih z (List.pairwise_cons.1 rising).2 collapsed

/-- Reading an operator and its right operand leaves the chain as it is. -/
theorem value?_push (s : Spine) (op : Operator) (x : Binary64) (rest : List (Operator × Binary64)) :
    (s.push op x).value? rest = s.value? ((op, x) :: rest) := by
  rw [value?, value?, chain, chain, push, List.reverse_cons, Chain.prepend_append]
  rfl

/-- **Reading on keeps the value of the chain**, and the end of the chain gives it. -/
theorem value?_read (s : Spine) (rising : s.Rising) (rest : List (Operator × Binary64)) :
    s.value? rest = ((s.read rest).bind Spine.total).toOption := by
  induction rest generalizing s with
  | nil =>
    rw [value?_collapse (Operator.rank .add) s rising (by simp), read, bind_ok, Spine.total,
      toOption_map]
    cases collapsed : s.collapse (Operator.rank .add) with
    | error fault => rfl
    | ok ended =>
      have none := waiting_of_collapse_add collapsed
      obtain ⟨x, waiting⟩ := ended
      cases none
      exact congrArg Except.toOption (Chain.reduce_single Binary64.plainRules x)
  | cons item rest ih =>
    obtain ⟨op, x⟩ := item
    rw [value?_collapse op.rank s rising (by rintro follows ⟨⟩; exact Nat.le_refl _), toOption_bind,
      read, toOption_bind, Option.bind_assoc]
    cases collapsed : s.collapse op.rank with
    | error fault => rfl
    | ok ended =>
      obtain ⟨stillRising, looser⟩ := rising_collapse rising collapsed
      have pushed : (ended.push op x).Rising := List.pairwise_cons.2 ⟨looser, stillRising⟩
      rw [toOption_ok, Option.bind_some, Option.bind_some, ← value?_push, ih _ pushed,
        toOption_bind]

end Spine

namespace Chain

/-- The number that a chain comes to when it is read once from the left, or the first fault met. -/
def fromLeft (chain : Chain Binary64) : Except ArithmeticFault Binary64 :=
  (Spine.read (.single chain.first) chain.rest).bind Spine.total

/-- **Reduction by rank and reading from the left come to the same value**, when nothing is
turned. -/
theorem reduce_plain (chain : Chain Binary64) :
    (chain.reduce Binary64.plainRules).toOption = chain.fromLeft.toOption :=
  Spine.value?_read (.single chain.first) List.Pairwise.nil chain.rest

end Chain

end InfixCalculator
