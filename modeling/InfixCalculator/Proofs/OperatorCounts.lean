import InfixCalculator.Proofs.Rows
import InfixCalculator.Proofs.Stacks
import InfixCalculator.Proofs.StepCounts

/-!
# Every step of a reduction takes one operator away

A character acts as a binary operator when it is an operator symbol directly behind a character of a
certain class, so operators are counted along a text with one bit of memory
(`Operator.countBehind`), and the count of a text is that of its parts
(`Operator.countBehind_append`).

Whatever the text, the binary expression that is taken out of it is what stands around its operator
(`Flat.BinaryExpression.IsTakenFrom`): both operands are literals, and no part of a numeral stands
in front of the left one. So a literal in its place counts no operator, its minus least of all, and
loses none of those around it. Writing `+-` as `-` loses the plus, but makes an operator of the
minus exactly where the plus was one (`Flat.countBinary_collapseSigns`). Hence each step leaves
exactly one operator less, the guard of `Flat.reduceOnce` never fires (`Flat.reduceOnce_eq`), and a
reduction takes as many steps as there are operators (`Flat.reduce_spends`).
-/

set_option autoImplicit false

namespace InfixCalculator

/-! ## Counting along a text -/

/-- Whether the last character of a text belongs to a class; `behind` answers for the empty text. -/
def Text.endsIn (ends : Char → Bool) (behind : Bool) (text : Text) : Bool :=
  text.foldl (fun _ c => ends c) behind

namespace Text

variable (ends : Char → Bool) (behind : Bool)

@[simp] theorem endsIn_nil : endsIn ends behind [] = behind := rfl

@[simp] theorem endsIn_cons (c : Char) (text : Text) :
    endsIn ends behind (c :: text) = endsIn ends (ends c) text := rfl

theorem endsIn_append (front rest : Text) :
    endsIn ends behind (front ++ rest) = endsIn ends (endsIn ends behind front) rest :=
  List.foldl_append

end Text

namespace Operator

/-- The number of operator symbols in a text that stand directly behind a character of a class;
`behind` says whether such a character stands in front of the text. -/
def countBehind (ends : Char → Bool) : Bool → Text → Nat
  | _, [] => 0
  | behind, c :: rest => (if isSymbol c && behind then 1 else 0) + countBehind ends (ends c) rest

variable {ends : Char → Bool}

@[simp] theorem countBehind_nil (behind : Bool) : countBehind ends behind [] = 0 := rfl

/-- Operators are counted part by part. -/
theorem countBehind_append (behind : Bool) (front rest : Text) :
    countBehind ends behind (front ++ rest)
      = countBehind ends behind front + countBehind ends (Text.endsIn ends behind front) rest := by
  induction front generalizing behind with
  | nil => exact (Nat.zero_add _).symm
  | cons c front ih =>
    rw [List.cons_append, countBehind, countBehind, ih, Text.endsIn_cons, Nat.add_assoc]

/-- A character that is no operator symbol is not counted. -/
theorem countBehind_cons_of_not {c : Char} (other : isSymbol c = false) (behind : Bool)
    (rest : Text) :
    countBehind ends behind (c :: rest) = countBehind ends (ends c) rest := by
  rw [countBehind, other]
  exact Nat.zero_add _

/-- A symbol behind no character of the class is not counted. -/
theorem countBehind_cons_of_start (c : Char) (rest : Text) :
    countBehind ends false (c :: rest) = countBehind ends (ends c) rest := by
  rw [countBehind, Bool.and_false]
  exact Nat.zero_add _

/-- A symbol behind a character of the class is counted. -/
theorem countBehind_symbol (op : Operator) (rest : Text) :
    countBehind ends true (op.symbol :: rest) = countBehind ends (ends op.symbol) rest + 1 := by
  rw [countBehind, isSymbol_iff.2 ⟨op, rfl⟩]
  exact Nat.add_comm _ _

/-- Classes that do not differ on a text count the same operators in it. -/
theorem countBehind_congr {ends' : Char → Bool} {text : Text} (same : ∀ c ∈ text, ends c = ends' c)
    (behind : Bool) : countBehind ends behind text = countBehind ends' behind text := by
  induction text generalizing behind with
  | nil => rfl
  | cons c text ih =>
    rw [countBehind, countBehind, same c List.mem_cons_self,
      ih fun d member => same d (List.mem_cons_of_mem c member)]

end Operator

namespace Literal

variable {ends : Char → Bool} (parts : ∀ c, Numeral.isPart c = true → ends c = true)

include parts

/-- A numeral counts no operator and ends in a character of every class that its parts belong to. -/
theorem countBehind_numeral {numeral : Text} (valid : Numeral.isNumeral numeral = true)
    (behind : Bool) (rest : Text) :
    Operator.countBehind ends behind (numeral ++ rest) = Operator.countBehind ends true rest
      ∧ Text.endsIn ends behind numeral = true := by
  have inside : ∀ c ∈ numeral, Numeral.isPart c = true := fun c => Numeral.isPart_of_mem valid
  have nonempty := Numeral.ne_nil_of_isNumeral valid
  clear valid
  induction numeral generalizing behind with
  | nil => exact absurd rfl nonempty
  | cons c numeral ih =>
    have part := inside c List.mem_cons_self
    rw [List.cons_append, Operator.countBehind_cons_of_not (Flat.isSymbol_of_isPart part),
      Text.endsIn_cons, parts c part]
    cases numeral with
    | nil => exact ⟨rfl, rfl⟩
    | cons d numeral =>
      exact ih true (fun e member =>
        inside e (List.mem_cons_of_mem c member)) (List.cons_ne_nil d numeral)

/-- Neither does a literal where its minus stands behind no character of the class. -/
theorem countBehind_text (x : Literal) (rest : Text) :
    Operator.countBehind ends false (x.text ++ rest) = Operator.countBehind ends true rest
      ∧ Text.endsIn ends false x.text = true := by
  obtain ⟨negative, numeral, valid, rfl⟩ := exists_ofNumeral x
  cases negative with
  | false => exact countBehind_numeral parts valid false rest
  | true =>
    rw [text_ofNumeral, Binary64.withSign_true, List.cons_append,
      Operator.countBehind_cons_of_start, Text.endsIn_cons]
    exact countBehind_numeral parts valid (ends '-') rest

end Literal

namespace Flat

theorem countBinaryAfter_eq (previous : Option Char) (text : Text) :
    countBinaryAfter previous text
      = Operator.countBehind Numeral.isPart (previous.any Numeral.isPart) text := by
  induction text generalizing previous with
  | nil => rfl
  | cons c text ih =>
    rw [countBinaryAfter, Operator.countBehind, ih]
    rfl

/-- The binary operators of a flat text are the operator symbols directly behind a part of a
numeral. -/
theorem countBinary_eq (text : Text) :
    countBinary text = Operator.countBehind Numeral.isPart false text :=
  countBinaryAfter_eq none text

/-! ## Writing `+-` as `-` -/

theorem countBehind_collapseSigns {ends : Char → Bool} (plus : ends '+' = false) (behind : Bool)
    (text : Text) :
    Operator.countBehind ends behind (collapseSigns text)
      = Operator.countBehind ends behind text := by
  fun_induction collapseSigns text generalizing behind with
  | case1 rest ih =>
    -- the minus takes the place of the plus, and was a sign behind it
    rw [Operator.countBehind, Operator.countBehind, plus, Operator.countBehind_cons_of_start, ih]
    rfl
  | case2 c rest _ ih => rw [Operator.countBehind, Operator.countBehind, ih]
  | case3 => rfl

/-- **Writing `+-` as `-` keeps the number of binary operators**, whatever stands around the
signs. -/
theorem countBinary_collapseSigns (text : Text) :
    countBinary (collapseSigns text) = countBinary text := by
  rw [countBinary_eq, countBinary_eq, countBehind_collapseSigns Numeral.isPart_plus]

theorem countBinary_settle (op : Operator) (text : Text) :
    countBinary (settle op text) = countBinary text := by
  unfold settle
  split
  · exact countBinary_collapseSigns text
  · rfl

/-! ## Binary expressions of any text -/

/-- The search for a symbol stops at it, and directly behind a part of a numeral. -/
theorem append_of_splitBinary? {symbol : Char} {passed text before after : Text}
    (found : splitBinary? symbol passed text = some (before, after)) :
    before.reverse ++ symbol :: after = passed.reverse ++ text ∧ AfterLiteral before := by
  fun_induction splitBinary? symbol passed text with
  | case1 => cases found
  | case2 c rest ih => simpa using ih found
  | case3 previous passed c rest here =>
    cases found
    exact ⟨by rw [here.1], previous, passed, rfl, here.2⟩
  | case4 previous passed c rest _ ih => simpa using ih found

/-- The operand at the end of a text and what stands before it make up the text. -/
theorem append_leftOperand (before : Text) :
    (leftOperand before).2.reverse ++ (leftOperand before).1 = before.reverse := by
  have whole := List.takeWhile_append_dropWhile (p := Numeral.isPart) (l := before)
  unfold leftOperand
  dsimp only
  generalize before.takeWhile Numeral.isPart = digits at whole ⊢
  generalize before.dropWhile Numeral.isPart = rest at whole ⊢
  subst whole
  split
  · split <;> simp
  · exact List.reverse_append.symm

/-- No part of a numeral stands before the operand at the end of a text. -/
theorem not_isPart_leftOperand (before : Text) :
    ∀ c ∈ (leftOperand before).2.head?, Numeral.isPart c = false := by
  have outside := List.head?_dropWhile_not Numeral.isPart before
  unfold leftOperand
  dsimp only
  split
  · rename_i head signed
    split
    · rename_i sign
      intro c first
      obtain ⟨rest, rfl⟩ := List.head?_eq_some_iff.1 first
      -- in front of a sign stands an operator or an opening parenthesis
      simp only [isSignAfter, Bool.or_eq_true, decide_eq_true_eq] at sign
      rcases sign with symbol | rfl
      · obtain ⟨op, rfl⟩ := Operator.isSymbol_iff.1 symbol
        exact Numeral.isPart_symbol op
      · exact Numeral.isPart_open
    · rintro c ⟨⟩
      exact Numeral.isPart_minus
  · intro c first
    rw [Option.mem_def.1 first] at outside
    simpa using outside

/-- The operand at the start of a text and what follows it make up the text. -/
theorem append_rightOperand (after : Text) :
    (rightOperand after).1 ++ (rightOperand after).2 = after := by
  unfold rightOperand
  split <;> simp [List.takeWhile_append_dropWhile]

/-- A binary expression is taken out of a text where the search stops, if both operands there are
literals. -/
theorem extractBinary_eq_ok_parts {text : Text} {symbol : Char} {b : BinaryExpression} :
    extractBinary text [symbol] = .ok b
      ↔ b.symbol = [symbol] ∧ Literal.isLiteral b.left = true ∧ Literal.isLiteral b.right = true
        ∧ ∃ before after, findBinary? text [symbol] = some (before, after)
          ∧ leftOperand before = (b.left, b.head.reverse)
          ∧ rightOperand after = (b.right, b.tail) := by
  unfold extractBinary
  constructor
  · intro taken
    split at taken
    · cases taken
    · rename_i before after found
      dsimp only at taken
      split at taken
      · cases taken
      · rename_i left
        split at taken
        · cases taken
        · rename_i right
          cases taken
          exact ⟨rfl, by simpa using left, by simpa using right, before, after, found,
            Prod.ext rfl (List.reverse_reverse _).symm, rfl⟩
  · rintro ⟨same, left, right, before, after, found, leftTaken, rightTaken⟩
    rw [found]
    dsimp only
    rw [leftTaken, rightTaken]
    dsimp only
    rw [left, right, List.reverse_reverse, ← same]
    rfl

/-- What a binary expression has to do with the text that it is taken out of. -/
structure BinaryExpression.IsTakenFrom (b : BinaryExpression) (op : Operator)
    (text : Text) : Prop where
  /-- Its parts make up the text. -/
  append : b.head ++ (b.left ++ op.symbol :: (b.right ++ b.tail)) = text
  /-- The left operand is a literal. -/
  left : Literal.isLiteral b.left = true
  /-- The right operand is a literal. -/
  right : Literal.isLiteral b.right = true
  /-- No part of a numeral stands in front of it. -/
  start : Text.endsIn Numeral.isPart false b.head = false

theorem isTakenFrom_of_extractBinary {op : Operator} {text : Text} {b : BinaryExpression}
    (taken : extractBinary text [op.symbol] = .ok b) : b.IsTakenFrom op text := by
  obtain ⟨-, left, right, before, after, found, leftTaken, rightTaken⟩ :=
    extractBinary_eq_ok_parts.1 taken
  obtain ⟨whole, -⟩ := append_of_splitBinary? found
  have front := append_leftOperand before
  have start := not_isPart_leftOperand before
  have behind := append_rightOperand after
  rw [leftTaken, List.reverse_reverse] at front
  rw [leftTaken] at start
  rw [rightTaken] at behind
  refine ⟨?_, left, right, ?_⟩
  · rw [← List.append_assoc, front, behind, whole]
    rfl
  · rcases List.eq_nil_or_concat b.head with empty | ⟨before, last, same⟩
    · rw [empty]
      rfl
    · rw [same] at start ⊢
      rw [List.concat_eq_append, Text.endsIn_append]
      exact start last (by simp)

/-- **A literal in place of a binary expression** leaves exactly one operator less. -/
theorem BinaryExpression.IsTakenFrom.countBinary_replace {b : BinaryExpression} {op : Operator}
    {text : Text} (taken : b.IsTakenFrom op text) (x : Literal) :
    countBinary (b.head ++ x.text ++ b.tail) + 1 = countBinary text := by
  have literal (y : Literal) (rest : Text) := Literal.countBehind_text (fun _ part => part) y rest
  have before := literal ⟨b.left, taken.left⟩ (op.symbol :: (b.right ++ b.tail))
  have behind := literal ⟨b.right, taken.right⟩ b.tail
  rw [← taken.append, countBinary_eq, countBinary_eq, List.append_assoc,
    Operator.countBehind_append, Operator.countBehind_append _ b.head (b.left ++ _), taken.start,
    (literal x _).1, before.1, Operator.countBehind_symbol, Numeral.isPart_symbol, behind.1,
    Nat.add_assoc]

/-! ## Steps -/

/-- The value of a binary expression is the result of an operator. -/
theorem exists_apply_of_value {op : Operator} {b : BinaryExpression} {value : Binary64}
    (applied : b.value op = .ok value) : ∃ x y, op.apply x y = .ok value := by
  obtain ⟨x, -, applied⟩ := bind_eq_ok.1 applied
  obtain ⟨y, -, applied⟩ := bind_eq_ok.1 applied
  cases result : op.apply x y with
  | error fault =>
    rw [result] at applied
    cases applied
  | ok z =>
    rw [result] at applied
    cases applied
    exact ⟨x, y, result⟩

/-- What is left of a text when the value of a binary expression has been put in its place. -/
def BinaryExpression.reduced (b : BinaryExpression) (op : Operator) (value : Binary64) : Text :=
  settle op (b.head ++ value.plain ++ b.tail)

/-- **Substituting a value** leaves exactly one operator less, on any text. -/
theorem countBinary_reduced {op : Operator} {text : Text} {b : BinaryExpression} {value : Binary64}
    (found : extractBinary text [op.symbol] = .ok b) (applied : b.value op = .ok value) :
    countBinary (b.reduced op value) + 1 = countBinary text := by
  obtain ⟨x, y, result⟩ := exists_apply_of_value applied
  have finite := (Operator.isCanonical_of_apply result).1
  rw [BinaryExpression.reduced, countBinary_settle]
  exact (isTakenFrom_of_extractBinary found).countBinary_replace (Literal.write value finite)

/-- **The guard of a step never fires**: a step is taken whenever the leftmost binary expression has
a value. -/
theorem reduceOnce_eq (op : Operator) (text : Text) :
    reduceOnce op text = (extractBinary text [op.symbol]).bind fun b =>
      (b.value op).map fun value =>
      (b.reduced op value, .reduced b.left op b.right text (b.reduced op value)) := by
  unfold reduceOnce
  refine bind_congr_of_ok fun b found => ?_
  rw [map_eq_bind]
  refine bind_congr_of_ok fun value applied => ?_
  have fewer := countBinary_reduced found applied
  unfold BinaryExpression.reduced at fewer ⊢
  exact if_neg (by omega)

end Flat

/-- A step that takes one operator away from a flat text, as its line shows. -/
def Step.TakesOneAway : Step → Prop
  | .reduced _ _ _ before after => Flat.countBinary after + 1 = Flat.countBinary before
  | _ => False

namespace Flat

/-- What a step that was taken has done. -/
theorem of_reduceOnce {op : Operator} {text reduced : Text} {step : Step}
    (taken : reduceOnce op text = .ok (reduced, step)) :
    countBinary reduced + 1 = countBinary text ∧ step.TakesOneAway
      ∧ step.startsWith "Reduced " = true := by
  rw [reduceOnce_eq] at taken
  obtain ⟨b, found, taken⟩ := bind_eq_ok.1 taken
  obtain ⟨value, applied, same⟩ := map_eq_ok.1 taken
  obtain ⟨rfl, rfl⟩ := Prod.mk.inj same
  have fewer := countBinary_reduced found applied
  exact ⟨fewer, fewer, Step.startsWith_reduced_reduced ..⟩

/-! ## Whole reductions -/

/-- Applying an operator takes one step for each operator that it takes away. -/
theorem reduceOperator_spends (op : Operator) (text : Text) :
    Traced.Spends (Step.startsWith "Reduced ") (countBinary text) countBinary
      (reduceOperator op text) := by
  fun_induction reduceOperator op text with
  | case1 => exact .fail _
  | case2 text _ reduced step taken ih =>
    obtain ⟨fewer, -, counts⟩ := of_reduceOnce taken
    rw [← fewer]
    exact (Traced.Spends.step counts).bind fun _ _ => ih
  | case3 => exact .pure rfl

theorem reduceOperators_spends (ops : List Operator) (text : Text) :
    Traced.Spends (Step.startsWith "Reduced ") (countBinary text) countBinary
      (reduceOperators ops text) := by
  induction ops generalizing text with
  | nil => exact .pure rfl
  | cons op ops ih =>
    rw [reduceOperators, ← countBinary_settle op text]
    exact (reduceOperator_spends op _).bind fun reduced _ => ih reduced

/-- A literal has no operator. -/
theorem countBinary_literal (x : Literal) : countBinary x.text = 0 := by
  have none := (Literal.countBehind_text (fun _ part => part) x []).1
  rw [List.append_nil] at none
  exact (countBinary_eq x.text).trans none

/-- **A reduction takes one step for each operator of its text**, and never more. -/
theorem reduce_spends (text : Text) :
    Traced.Spends (Step.startsWith "Reduced ") (countBinary text) (fun _ => 0) (reduce text) := by
  refine (reduceOperators_spends Operator.all text).bind fun result _ => ?_
  split
  · rename_i valid
    exact .pure (countBinary_literal ⟨result, valid⟩).symm
  · exact .fail _

theorem takesOneAway_of_mem_reduceOperator {op : Operator} {text : Text} {step : Step}
    (member : step ∈ (reduceOperator op text).steps) : step.TakesOneAway := by
  fun_induction reduceOperator op text with
  | case1 => cases member
  | case2 text _ reduced taken_ taken ih =>
    rcases Traced.mem_steps_bind member with first | ⟨_, _, later⟩
    · obtain rfl := List.mem_singleton.1 first
      exact (of_reduceOnce taken).2.1
    · exact ih later
  | case3 => cases member

theorem takesOneAway_of_mem_reduceOperators {ops : List Operator} {text : Text} {step : Step}
    (member : step ∈ (reduceOperators ops text).steps) : step.TakesOneAway := by
  induction ops generalizing text with
  | nil => cases member
  | cons op ops ih =>
    rcases Traced.mem_steps_bind member with first | ⟨_, _, later⟩
    · exact takesOneAway_of_mem_reduceOperator first
    · exact ih later

/-- Every step of a reduction takes one operator away. -/
theorem takesOneAway_of_mem_reduce {text : Text} {step : Step}
    (member : step ∈ (reduce text).steps) : step.TakesOneAway := by
  rcases Traced.mem_steps_bind member with first | ⟨result, _, later⟩
  · exact takesOneAway_of_mem_reduceOperators first
  · split at later <;> cases later

end Flat

/-! ## Faults of a reduction -/

/-- A cause that the reduction of a flat text can end in. -/
def Cause.EndsReduction : Cause → Prop
  | .leftOperandMissing _ | .rightOperandMissing _ | .literalTooLarge _ | .arithmetic _
  | .notReduced _ => True
  | _ => False

theorem Cause.EndsReduction.ne_irreducible {cause : Cause} (ends : cause.EndsReduction) :
    cause ≠ .irreducible := by
  rintro rfl
  exact ends

theorem Cause.EndsReduction.isEvaluation {cause : Cause} (ends : cause.EndsReduction) :
    cause.kind.IsEvaluation := by
  cases cause with
  | arithmetic fault => exact Fault.isEvaluation_ofArithmetic fault
  | leftOperandMissing => trivial
  | rightOperandMissing => trivial
  | literalTooLarge => trivial
  | notReduced => trivial
  | _ => cases ends

/-- A result whose fault, if it is one, is one that a reduction can end in. -/
def EndsReduction {α : Type} (result : Except Fault α) : Prop :=
  ∀ fault, result = .error fault → fault.cause.EndsReduction

namespace EndsReduction

theorem parseNumber {text : Text} (literal : Literal.isLiteral text = true) :
    EndsReduction (parseNumber text) := by
  rw [parseNumber_of_isLiteral literal]
  split
  · exact FaultsHave.ok _
  · exact FaultsHave.error trivial

end EndsReduction

namespace Flat

theorem exists_of_findBinary? {text symbol before after : Text}
    (found : findBinary? text symbol = some (before, after)) :
    ∃ c, symbol = [c] ∧ text = before.reverse ++ c :: after := by
  cases symbol with
  | nil => cases found
  | cons c more =>
    cases more with
    | nil => exact ⟨c, rfl, (append_of_splitBinary? found).1.symm⟩
    | cons => cases found

/-- A text has no binary expression with a symbol, or one that lacks an operand beside the
symbol. -/
theorem cases_of_extractBinary_error {text symbol : Text} {fault : Fault}
    (failed : extractBinary text symbol = .error fault) :
    (findBinary? text symbol = none ∧ fault = .unlocated (.noOperator symbol text))
      ∨ ∃ front c after, symbol = [c] ∧ text = front ++ c :: after
        ∧ (fault = .located (.leftOperandMissing symbol) text front.length
          ∨ fault = .located (.rightOperandMissing symbol) text front.length) := by
  rw [extractBinary] at failed
  split at failed
  · rename_i none
    cases failed
    exact .inl ⟨none, rfl⟩
  · rename_i before after found
    obtain ⟨c, rfl, whole⟩ := exists_of_findBinary? found
    have index : before.reverse.length
        = (leftOperand before).2.reverse.length + (leftOperand before).1.length := by
      rw [← append_leftOperand before, List.length_append]
    refine .inr ⟨before.reverse, c, after, rfl, whole, ?_⟩
    rw [index]
    dsimp only at failed
    split at failed
    · cases failed
      exact .inl rfl
    · split at failed
      · cases failed
        exact .inr rfl
      · cases failed

theorem faultsHave_value {P : Fault → Prop} {op : Operator} {b : BinaryExpression}
    (left : FaultsHave P (parseNumber b.left)) (right : FaultsHave P (parseNumber b.right))
    (arithmetic : ∀ fault, P (.unlocated (.arithmetic fault))) : FaultsHave P (b.value op) := by
  refine left.bind fun x _ => right.bind fun y _ => ?_
  cases op.apply x y with
  | error fault => exact .error (arithmetic fault)
  | ok value => exact .ok value

/-! What holds of the faults of taking a binary expression out of a text and of its value holds of
the faults of a whole reduction. -/

section

variable {P : Fault → Prop}
  (extract : ∀ {op : Operator} {text : Text}, containsBinary text op = true →
    FaultsHave P (extractBinary text [op.symbol]))
  (value : ∀ {op : Operator} {text : Text} {b : BinaryExpression}, b.IsTakenFrom op text →
    FaultsHave P (b.value op))

include extract value

theorem faultsHave_reduceOnce {op : Operator} {text : Text}
    (found : containsBinary text op = true) :
    FaultsHave P (reduceOnce op text) := by
  rw [reduceOnce_eq]
  exact (extract found).bind fun b taken => (value (isTakenFrom_of_extractBinary taken)).map _

theorem faultsHave_reduceOperator (op : Operator) (text : Text) :
    FaultsHave P (reduceOperator op text).outcome := by
  fun_induction reduceOperator op text with
  | case1 text found fault failed =>
    exact .error (faultsHave_reduceOnce extract value found fault failed)
  | case2 text _ reduced step taken ih =>
    rw [Traced.outcome_bind, Traced.outcome_step]
    exact ih
  | case3 => exact .ok _

theorem faultsHave_reduceOperators (ops : List Operator) (text : Text) :
    FaultsHave P (reduceOperators ops text).outcome := by
  induction ops generalizing text with
  | nil => exact .ok _
  | cons op ops ih =>
    rw [reduceOperators, Traced.outcome_bind]
    exact (faultsHave_reduceOperator extract value op _).bind fun reduced _ => ih reduced

/-- **The faults of a reduction** are those of its steps, and that no literal is left. -/
theorem faultsHave_reduce (unfinished : ∀ text, P (.unlocated (.notReduced text))) (text : Text) :
    FaultsHave P (reduce text).outcome := by
  rw [reduce, Traced.outcome_bind]
  refine (faultsHave_reduceOperators extract value _ text).bind fun result _ => ?_
  split
  · exact .ok _
  · exact .error (unfinished result)

end

theorem endsReduction_extractBinary {op : Operator} {text : Text}
    (found : containsBinary text op = true) : EndsReduction (extractBinary text [op.symbol]) := by
  intro fault failed
  obtain ⟨none, -⟩ | ⟨front, c, after, -, -, rfl | rfl⟩ := cases_of_extractBinary_error failed
  · rw [containsBinary, none] at found
    cases found
  · trivial
  · trivial

theorem endsReduction_value {op : Operator} {text : Text} {b : BinaryExpression}
    (taken : b.IsTakenFrom op text) : EndsReduction (b.value op) :=
  faultsHave_value (EndsReduction.parseNumber taken.left) (EndsReduction.parseNumber taken.right)
    fun _ => trivial

theorem endsReduction_reduce (text : Text) : EndsReduction (reduce text).outcome :=
  faultsHave_reduce endsReduction_extractBinary endsReduction_value (fun _ => trivial) text

/-- **Every step takes exactly one binary operator away**, on any text.

Writing `+-` as `-` keeps their number, and a value in place of a binary expression leaves one less;
so does every step that a reduction takes, and it takes no more steps than there are operators. It
ends in a literal, an optional minus and a numeral, after one step for each operator, or in a fault
of evaluation, which is never that a step did not remove an operator. -/
theorem reduce_step_by_step (text : Text) :
    countBinary (collapseSigns text) = countBinary text
      ∧ (∀ (op : Operator) (b : BinaryExpression) (value : Binary64),
          extractBinary text [op.symbol] = .ok b → b.value op = .ok value →
            countBinary (settle op (b.head ++ value.plain ++ b.tail)) + 1 = countBinary text)
      ∧ (∀ step ∈ (reduce text).steps, step.TakesOneAway)
      ∧ (reduce text).steps.countP (Step.startsWith "Reduced ") ≤ countBinary text
      ∧ match (reduce text).outcome with
        | .ok literal =>
          (∃ negative numeral, Numeral.Derives numeral
            ∧ literal.text = Binary64.withSign negative numeral)
            ∧ (reduce text).steps.countP (Step.startsWith "Reduced ") = countBinary text
        | .error fault => fault.cause ≠ .irreducible ∧ fault.kind.IsEvaluation := by
  have spends := reduce_spends text
  refine ⟨countBinary_collapseSigns text,
    fun op b value found applied => countBinary_reduced found applied,
    fun step member => takesOneAway_of_mem_reduce member, spends.within, ?_⟩
  cases ended : (reduce text).outcome with
  | ok literal =>
    obtain ⟨negative, numeral, valid, same⟩ := Literal.exists_withSign literal.valid
    exact ⟨⟨negative, numeral, Numeral.derives_of_isNumeral valid, same⟩,
      spends.spent literal ended⟩
  | error fault =>
    have ends := endsReduction_reduce text fault ended
    exact ⟨ends.ne_irreducible, ends.isEvaluation⟩

end Flat

end InfixCalculator
