import InfixCalculator.Proofs.Chains
import InfixCalculator.Proofs.Literals

/-!
# Reducing the text of a row

The text of a row of literals is reduced as the row is. A symbol acts as a binary operator in the
text exactly where the row has the operator, because a literal ends in a digit or a point and the
minus of a literal follows the start of the text or an operator (`Flat.splitBinary?_literal`). So
the binary expression that is taken out of the text is the leftmost occurrence in the row with its
two neighbours (`Flat.extractBinary_row`), writing `+-` as `-` is turning the additions of literals
with a minus (`Flat.settle_row`), and every step leaves one operator less (`Flat.countBinary_row`).

The rules for literals (`Literal.rules`) read both operands, apply the operator, and write the
result plainly. `Flat.outcome_reduce_row` says that a flat text that is written as a row reduces to
what the row reduces to, with the same fault if there is one.
-/

set_option autoImplicit false

namespace InfixCalculator

/-! ## Computing with literals -/

namespace Operator

theorem symbol_injective {op other : Operator} (same : op.symbol = other.symbol) : op = other := by
  have found := ofSymbol?_symbol op
  rw [same, ofSymbol?_symbol] at found
  exact (Option.some.inj found).symm

/-- What an operator results in is finite, and zero is positive. -/
theorem isCanonical_of_apply {op : Operator} {x y z : Binary64} (applied : op.apply x y = .ok z) :
    z.IsCanonical := by
  unfold apply at applied
  split at applied
  · cases applied
  · split at applied
    · rename_i finite
      cases applied
      exact ⟨(Binary64.isFinite_normalizeZero _).trans finite,
        Binary64.normalizeZero_ne_negativeZero _⟩
    · cases applied

end Operator

namespace Binary64

theorem normalizeZero_of_isCanonical {x : Binary64} (canonical : x.IsCanonical) :
    x.normalizeZero = x := by
  obtain ⟨finite, notNegativeZero⟩ := canonical
  cases x with
  | finite negative magnitude =>
    by_cases zero : magnitude.units = 0
    · obtain rfl : magnitude = .zero := Magnitude.ext zero
      cases negative with
      | false => exact normalizeZero_of_isZero isZero_zero
      | true => exact absurd rfl notNegativeZero
    · exact normalizeZero_of_not_isZero (by simpa [isZero] using zero)
  | infinite negative => cases finite
  | notANumber => cases finite

end Binary64

namespace Literal

/-- The literal that a finite number is written as. -/
def write (x : Binary64) (finite : x.isFinite = true) : Literal :=
  ⟨x.plain, Binary64.isLiteral_plain finite⟩

/-- A number that is finite and not negative zero is read back from what it is written as. -/
theorem toBinary64_write {x : Binary64} (canonical : x.IsCanonical) :
    toBinary64 (write x canonical.1).text = x :=
  (Binary64.toBinary64_plain canonical.1).trans (Binary64.normalizeZero_of_isCanonical canonical)

/-- The literal that the result of an operator on two literals is written as. -/
def applyOperator (op : Operator) (x y : Literal) : Except Fault Literal :=
  match parseNumber x.text with
  | .error fault => .error fault
  | .ok a =>
    match parseNumber y.text with
    | .error fault => .error fault
    | .ok b =>
      match applied : op.apply a b with
      | .error fault => .error (.unlocated (.arithmetic fault))
      | .ok value => .ok (write value (Operator.isCanonical_of_apply applied).1)

/-- Chains of literals are computed with by reading, applying and writing. -/
def rules : Chain.Rules Literal Fault where
  apply := applyOperator
  isNegative := hasSign
  opposite := opposite

@[simp] theorem rules_apply (op : Operator) (x y : Literal) :
    rules.apply op x y = applyOperator op x y := rfl

end Literal

namespace Flat

/-- The value of a binary expression between two literals is written as the result on the
literals. -/
theorem value_map_plain (op : Operator) (x y : Literal) (b : BinaryExpression)
    (left : b.left = x.text) (right : b.right = y.text) :
    (b.value op).map Binary64.plain = (Literal.rules.apply op x y).map Literal.text := by
  rw [BinaryExpression.value, Literal.rules_apply, Literal.applyOperator, left, right]
  cases parseNumber x.text with
  | error fault => rfl
  | ok a =>
    cases parseNumber y.text with
    | error fault => rfl
    | ok b' =>
      dsimp only [bind, Except.bind]
      split <;> split <;> simp_all [Except.map, Literal.write]

/-! ## Places in the text of a row -/

/-- A literal stands before a place; the text before it is given in reverse. -/
def AfterLiteral (passed : Text) : Prop :=
  ∃ c rest, passed = c :: rest ∧ Numeral.isPart c = true

/-- Nothing stands before a place, or a literal and an operator; the text before it is given in
reverse. -/
def AfterOperator (passed : Text) : Prop :=
  passed = [] ∨ ∃ (op : Operator) (rest : Text), passed = op.symbol :: rest ∧ AfterLiteral rest

theorem afterLiteral_reverse (x : Literal) (passed : Text) :
    AfterLiteral (x.text.reverse ++ passed) := by
  obtain ⟨negative, numeral, valid, rfl⟩ := Literal.exists_ofNumeral x
  rcases List.eq_nil_or_concat numeral with rfl | ⟨front, c, rfl⟩
  · exact absurd rfl (Numeral.ne_nil_of_isNumeral valid)
  · have part : Numeral.isPart c = true := Numeral.isPart_of_mem valid (by simp)
    cases negative with
    | false => exact ⟨c, front.reverse ++ passed, by simp [Binary64.withSign], part⟩
    | true => exact ⟨c, front.reverse ++ '-' :: passed, by simp [Binary64.withSign], part⟩

/-- The text of literals with an operator each. -/
def frontText (front : List (Literal × Operator)) : Text :=
  front.flatMap fun (literal, op) => literal.text ++ [op.symbol]

@[simp] theorem frontText_nil : frontText [] = [] := rfl

@[simp] theorem frontText_cons (x : Literal) (op : Operator) (front : List (Literal × Operator)) :
    frontText ((x, op) :: front) = x.text ++ op.symbol :: frontText front := by
  simp [frontText]

theorem text_prepend (front : List (Literal × Operator)) (row : Row) :
    Row.text (Chain.prepend front row) = frontText front ++ Row.text row := by
  induction front with
  | nil => rfl
  | cons item front ih =>
    obtain ⟨x, op⟩ := item
    rw [frontText_cons, List.append_assoc, List.cons_append, ← ih, Chain.prepend_cons,
      Row.text_cons]

theorem afterOperator_symbol (op : Operator) (x : Literal) (passed : Text) :
    AfterOperator (op.symbol :: (x.text.reverse ++ passed)) :=
  .inr ⟨op, _, rfl, afterLiteral_reverse x passed⟩

theorem afterOperator_frontText (front : List (Literal × Operator)) :
    AfterOperator (frontText front).reverse := by
  rcases List.eq_nil_or_concat front with rfl | ⟨before, ⟨x, op⟩, rfl⟩
  · exact .inl rfl
  · have last : (frontText (before ++ [(x, op)])).reverse
        = op.symbol :: (x.text.reverse ++ (frontText before).reverse) := by
      simp [frontText]
    rw [List.concat_eq_append, last]
    exact afterOperator_symbol op x _

/-! ## The leftmost occurrence -/

/-- The search for a symbol passes over the parts of a numeral. -/
theorem splitBinary?_parts (op : Operator) {parts : Text}
    (inside : ∀ c ∈ parts, Numeral.isPart c = true) (passed rest : Text) :
    splitBinary? op.symbol passed (parts ++ rest)
      = splitBinary? op.symbol (parts.reverse ++ passed) rest := by
  induction parts generalizing passed with
  | nil => rfl
  | cons c parts ih =>
    have other : c ≠ op.symbol := by
      rintro rfl
      have := inside _ List.mem_cons_self
      rw [Numeral.isPart_symbol] at this
      cases this
    have next := ih (fun d member => inside d (List.mem_cons_of_mem c member)) (c :: passed)
    rw [List.reverse_cons, List.append_assoc, List.singleton_append, ← next]
    cases passed with
    | nil => rfl
    | cons before passed =>
      rw [List.cons_append, splitBinary?, if_neg fun both => other both.1]

/-- The search passes over a literal, whose minus is no operator where it stands. -/
theorem splitBinary?_literal (op : Operator) (x : Literal) {passed : Text}
    (start : AfterOperator passed) (rest : Text) :
    splitBinary? op.symbol passed (x.text ++ rest)
      = splitBinary? op.symbol (x.text.reverse ++ passed) rest := by
  obtain ⟨negative, numeral, valid, rfl⟩ := Literal.exists_ofNumeral x
  have parts := splitBinary?_parts op (fun c => Numeral.isPart_of_mem valid)
  cases negative with
  | false => exact parts passed rest
  | true =>
    have sign : splitBinary? op.symbol passed ('-' :: (numeral ++ rest))
        = splitBinary? op.symbol ('-' :: passed) (numeral ++ rest) := by
      cases passed with
      | nil => rfl
      | cons before passed =>
        rcases start with empty | ⟨other, rest', same, _⟩
        · cases empty
        · cases same
          rw [splitBinary?, if_neg]
          rw [Numeral.isPart_symbol]
          simp
    rw [Literal.text_ofNumeral, Binary64.withSign_true, List.cons_append, sign, parts]
    simp

/-- Behind a literal a symbol acts as an operator: it is found, or the search goes on behind it. -/
theorem splitBinary?_symbol (op other : Operator) {passed : Text} (place : AfterLiteral passed)
    (rest : Text) :
    splitBinary? op.symbol passed (other.symbol :: rest)
      = if other = op then some (passed, rest)
        else splitBinary? op.symbol (other.symbol :: passed) rest := by
  obtain ⟨before, passed, rfl, part⟩ := place
  rw [splitBinary?]
  by_cases same : other = op
  · rw [if_pos ⟨congrArg Operator.symbol same, part⟩, if_pos same]
  · rw [if_neg fun both => same (Operator.symbol_injective both.1), if_neg same]

/-- An operator that a row does not have is not found in its text. -/
theorem splitBinary?_of_not_mem {op : Operator} {row : Row} (absent : op ∉ row.operators)
    {passed : Text} (start : AfterOperator passed) :
    splitBinary? op.symbol passed row.text = none := by
  obtain ⟨x, rest⟩ := row
  induction rest generalizing x passed with
  | nil =>
    have alone := splitBinary?_literal op x start []
    rw [List.append_nil] at alone
    rw [Row.text_single, alone]
    cases x.text.reverse ++ passed <;> rfl
  | cons item rest ih =>
    obtain ⟨other, y⟩ := item
    rw [Chain.operators, List.map_cons, List.mem_cons, not_or] at absent
    rw [Row.text_cons, splitBinary?_literal op x start,
      splitBinary?_symbol op other (afterLiteral_reverse x _), if_neg (Ne.symm absent.1)]
    exact ih (afterOperator_symbol other x _) y absent.2

/-- The leftmost occurrence of an operator in a row is found in its text. -/
theorem splitBinary?_prepend {op : Operator} {front : List (Literal × Operator)}
    (absent : op ∉ front.map Prod.snd) (left : Literal) (rest : Text) {passed : Text}
    (start : AfterOperator passed) :
    splitBinary? op.symbol passed (frontText front ++ (left.text ++ op.symbol :: rest))
      = some ((frontText front ++ left.text).reverse ++ passed, rest) := by
  induction front generalizing passed with
  | nil =>
    rw [frontText_nil, List.nil_append, splitBinary?_literal op left start,
      splitBinary?_symbol op op (afterLiteral_reverse left _), if_pos rfl, List.nil_append]
  | cons item front ih =>
    obtain ⟨x, other⟩ := item
    rw [List.map_cons, List.mem_cons, not_or] at absent
    rw [frontText_cons, List.append_assoc, List.cons_append, splitBinary?_literal op x start,
      splitBinary?_symbol op other (afterLiteral_reverse x _), if_neg (Ne.symm absent.1),
      ih absent.2 (afterOperator_symbol other x _)]
    simp

/-! ## The operands -/

theorem isSymbol_of_isPart {c : Char} (part : Numeral.isPart c = true) :
    Operator.isSymbol c = false := by
  cases symbol : Operator.isSymbol c with
  | false => rfl
  | true =>
    obtain ⟨op, rfl⟩ := Operator.isSymbol_iff.1 symbol
    rw [Numeral.isPart_symbol] at part
    cases part

/-- A minus behind a literal is no sign. -/
theorem isSignAfter_of_afterLiteral {passed : Text} (place : AfterLiteral passed) :
    isSignAfter passed = false := by
  obtain ⟨c, rest, rfl, part⟩ := place
  have noOpening := (Numeral.ne_parenthesis_of_isPart part).1
  simp [isSignAfter, isSymbol_of_isPart part, noOpening]

/-- A minus where an operand starts is a sign. -/
theorem isSignAfter_of_afterOperator {passed : Text} (place : AfterOperator passed) :
    isSignAfter passed = true := by
  rcases place with rfl | ⟨op, rest, rfl, _⟩
  · rfl
  · simp [isSignAfter, Operator.isSymbol_iff.2 ⟨op, rfl⟩]

/-- An operator stops the parts of a numeral. -/
theorem not_isPart_of_afterOperator {passed : Text} (place : AfterOperator passed) :
    ∀ c ∈ passed.head?, Numeral.isPart c = false := by
  intro c first
  rcases place with rfl | ⟨op, rest, rfl, _⟩
  · cases first
  · cases first
    exact Numeral.isPart_symbol op

/-- The operand at the end of a text has the minus in front of its digits if that is a sign. -/
theorem leftOperand_signed {digits : Text} (inside : ∀ c ∈ digits, Numeral.isPart c = true)
    {head : Text} (sign : isSignAfter head = true) :
    leftOperand (digits.reverse ++ '-' :: head) = ('-' :: digits, head) := by
  have inside' : ∀ c ∈ digits.reverse, Numeral.isPart c = true := fun c member =>
    inside c (List.mem_reverse.1 member)
  have outside : ∀ c ∈ ('-' :: head).head?, Numeral.isPart c = false := by
    rintro c ⟨⟩
    exact Numeral.isPart_minus
  unfold leftOperand
  dsimp only
  rw [Text.takeWhile_span inside' outside, Text.dropWhile_span inside' outside,
    List.reverse_reverse]
  exact if_pos sign

/-- It is the digits alone if no sign stands in front of them. -/
theorem leftOperand_unsigned {digits : Text} (inside : ∀ c ∈ digits, Numeral.isPart c = true)
    {front : Text} (outside : ∀ c ∈ front.head?, Numeral.isPart c = false)
    (noSign : ∀ head, front = '-' :: head → isSignAfter head = false) :
    leftOperand (digits.reverse ++ front) = (digits, front) := by
  have inside' : ∀ c ∈ digits.reverse, Numeral.isPart c = true := fun c member =>
    inside c (List.mem_reverse.1 member)
  unfold leftOperand
  dsimp only
  rw [Text.takeWhile_span inside' outside, Text.dropWhile_span inside' outside,
    List.reverse_reverse]
  split
  · rename_i head
    rw [noSign head rfl]
    rfl
  · rfl

/-- The operand in front of an operator is the literal there, with its minus if it has one. -/
theorem leftOperand_literal (x : Literal) {passed : Text} (place : AfterOperator passed) :
    leftOperand (x.text.reverse ++ passed) = (x.text, passed) := by
  obtain ⟨negative, numeral, valid, rfl⟩ := Literal.exists_ofNumeral x
  have inside : ∀ c ∈ numeral, Numeral.isPart c = true := fun c => Numeral.isPart_of_mem valid
  cases negative with
  | false =>
    refine leftOperand_unsigned inside (not_isPart_of_afterOperator place) ?_
    -- a minus in front is an operator
    rintro head rfl
    rcases place with empty | ⟨op, rest, same, literal⟩
    · cases empty
    · obtain ⟨-, rfl⟩ := List.cons.inj same
      exact isSignAfter_of_afterLiteral literal
  | true =>
    rw [Literal.text_ofNumeral, Binary64.withSign_true, List.reverse_cons, List.append_assoc,
      List.singleton_append]
    exact leftOperand_signed inside (isSignAfter_of_afterOperator place)

/-- Operators with a literal each start with an operator, if there are any. -/
theorem not_isPart_restText (rest : List (Operator × Literal)) :
    ∀ c ∈ (Row.restText rest).head?, Numeral.isPart c = false := by
  intro c first
  cases rest with
  | nil => cases first
  | cons item rest =>
    cases first
    exact Numeral.isPart_symbol item.1

/-- The operand behind an operator is the literal there, if no part of a numeral follows it. -/
theorem rightOperand_literal (x : Literal) {rest : Text}
    (outside : ∀ c ∈ rest.head?, Numeral.isPart c = false) :
    rightOperand (x.text ++ rest) = (x.text, rest) := by
  obtain ⟨negative, numeral, valid, rfl⟩ := Literal.exists_ofNumeral x
  have inside : ∀ c ∈ numeral, Numeral.isPart c = true := fun c => Numeral.isPart_of_mem valid
  cases negative with
  | true =>
    rw [Literal.text_ofNumeral, Binary64.withSign_true, List.cons_append, rightOperand,
      Text.takeWhile_span inside outside, Text.dropWhile_span inside outside]
  | false =>
    rw [Literal.text_ofNumeral, Binary64.withSign_false]
    have taken := Text.takeWhile_span inside outside
    have dropped := Text.dropWhile_span inside outside
    obtain ⟨c, digits, rfl, part⟩ := Numeral.exists_cons_of_isNumeral valid
    unfold rightOperand
    split
    · rename_i same
      cases same
      cases part
    · rw [taken, dropped]

/-- **The binary expression taken out of the text of a row** is the leftmost occurrence with its two
neighbours. -/
theorem extractBinary_row {op : Operator} {front : List (Literal × Operator)}
    (absent : op ∉ front.map Prod.snd) (left right : Literal) (back : List (Operator × Literal)) :
    extractBinary (Row.text (Chain.prepend front ⟨left, (op, right) :: back⟩)) [op.symbol]
      = .ok ⟨frontText front, left.text, [op.symbol], right.text, Row.restText back⟩ := by
  have found := splitBinary?_prepend absent left (right.text ++ Row.restText back) (.inl rfl)
  rw [List.reverse_append, List.append_nil] at found
  rw [text_prepend, Row.text_cons, Row.text]
  unfold extractBinary findBinary?
  dsimp only
  rw [found]
  dsimp only
  rw [leftOperand_literal left (afterOperator_frontText front),
    rightOperand_literal right (not_isPart_restText back)]
  simp [left.valid, right.valid]

/-! ## Counting -/

/-- No part of a numeral acts as an operator. -/
theorem countBinaryAfter_parts {parts : Text} (inside : ∀ c ∈ parts, Numeral.isPart c = true)
    (nonempty : parts ≠ []) (previous : Option Char) (rest : Text) :
    ∃ last, Numeral.isPart last = true
      ∧ countBinaryAfter previous (parts ++ rest) = countBinaryAfter (some last) rest := by
  induction parts generalizing previous with
  | nil => exact absurd rfl nonempty
  | cons c parts ih =>
    have part := inside c List.mem_cons_self
    have here : countBinaryAfter previous (c :: (parts ++ rest))
        = countBinaryAfter (some c) (parts ++ rest) := by
      rw [countBinaryAfter, isSymbol_of_isPart part]
      exact Nat.zero_add _
    rw [List.cons_append, here]
    cases parts with
    | nil => exact ⟨c, part, rfl⟩
    | cons d parts =>
      exact ih (fun e member => inside e (List.mem_cons_of_mem c member)) (by simp) _

/-- Neither does a minus in front of a numeral, where an operand starts. -/
theorem countBinaryAfter_literal (x : Literal) {previous : Option Char}
    (start : previous.any Numeral.isPart = false) (rest : Text) :
    ∃ last, Numeral.isPart last = true
      ∧ countBinaryAfter previous (x.text ++ rest) = countBinaryAfter (some last) rest := by
  obtain ⟨negative, numeral, valid, rfl⟩ := Literal.exists_ofNumeral x
  have parts := countBinaryAfter_parts (fun c => Numeral.isPart_of_mem valid)
    (Numeral.ne_nil_of_isNumeral valid)
  cases negative with
  | false => exact parts previous rest
  | true =>
    obtain ⟨last, part, same⟩ := parts (some '-') rest
    refine ⟨last, part, ?_⟩
    rw [Literal.text_ofNumeral, Binary64.withSign_true, List.cons_append, countBinaryAfter, start,
      Bool.and_false, same]
    exact Nat.zero_add _

theorem countBinaryAfter_row (row : Row) {previous : Option Char}
    (start : previous.any Numeral.isPart = false) :
    countBinaryAfter previous row.text = row.rest.length := by
  obtain ⟨x, rest⟩ := row
  induction rest generalizing x previous with
  | nil =>
    obtain ⟨last, _, same⟩ := countBinaryAfter_literal x start []
    exact same
  | cons item rest ih =>
    obtain ⟨op, y⟩ := item
    obtain ⟨last, part, same⟩ := countBinaryAfter_literal x start (op.symbol :: Row.text ⟨y, rest⟩)
    have behind : (some op.symbol).any Numeral.isPart = false := Numeral.isPart_symbol op
    have next := ih behind y
    rw [Row.text_cons, same, countBinaryAfter, next, Operator.isSymbol_iff.2 ⟨op, rfl⟩]
    simp [part, Nat.add_comm]

/-- **The text of a row has as many binary operators as the row.** -/
theorem countBinary_row (row : Row) : countBinary row.text = row.rest.length :=
  countBinaryAfter_row row rfl

/-! ## Settling -/

theorem collapseSigns_cons {c : Char} (other : c ≠ '+') (rest : Text) :
    collapseSigns (c :: rest) = c :: collapseSigns rest := by
  rw [collapseSigns]
  rintro tail rfl
  exact absurd rfl other

theorem collapseSigns_append {front : Text} (other : '+' ∉ front) (rest : Text) :
    collapseSigns (front ++ rest) = front ++ collapseSigns rest := by
  induction front with
  | nil => rfl
  | cons c front ih =>
    rw [List.mem_cons, not_or] at other
    rw [List.cons_append, collapseSigns_cons (Ne.symm other.1), ih other.2]
    rfl

theorem plus_notMem_literal (x : Literal) : '+' ∉ x.text := by
  intro member
  obtain ⟨negative, numeral, valid, rfl⟩ := Literal.exists_ofNumeral x
  have none := Numeral.not_mem_of_isNumeral valid Numeral.isPart_plus
  cases negative with
  | false => exact none member
  | true =>
    rcases List.mem_cons.1 member with same | inside
    · exact absurd same (by decide)
    · exact none inside

/-- A plus in front of a literal is written as the turned addition of the literal. -/
theorem collapseSigns_add (x : Literal) (rest : Text) :
    collapseSigns ('+' :: (x.text ++ rest))
      = (Chain.turn Literal.rules (.add, x)).1.symbol
        :: ((Chain.turn Literal.rules (.add, x)).2.text ++ collapseSigns rest) := by
  obtain ⟨negative, numeral, valid, rfl⟩ := Literal.exists_ofNumeral x
  have noPlus : '+' ∉ numeral := Numeral.not_mem_of_isNumeral valid Numeral.isPart_plus
  cases negative with
  | true =>
    have turned : Chain.turn Literal.rules (.add, Literal.ofNumeral true numeral valid)
        = (.subtract, Literal.ofNumeral false numeral valid) :=
      (Chain.turn_negative _ (Literal.hasSign_ofNumeral true valid)).trans
        (congrArg _ (Literal.opposite_ofNumeral true valid))
    rw [turned, Literal.text_ofNumeral, Literal.text_ofNumeral, Binary64.withSign_true,
      Binary64.withSign_false, ← collapseSigns_append noPlus]
    rfl
  | false =>
    have positive : ¬Literal.rules.isNegative (Literal.ofNumeral false numeral valid) = true :=
      fun sign => by cases (Literal.hasSign_ofNumeral false valid).symm.trans sign
    obtain ⟨c, digits, rfl, part⟩ := Numeral.exists_cons_of_isNumeral valid
    have noMinus : c ≠ '-' := by
      rintro rfl
      cases part
    rw [Chain.turn_positive _ positive, Literal.text_ofNumeral, Binary64.withSign_false,
      collapseSigns, collapseSigns_append noPlus]
    · rfl
    · intro tail _ same
      exact noMinus (List.cons.inj same).1

/-- Writing `+-` as `-` turns the additions of literals with a minus. -/
theorem collapseSigns_restText (rest : List (Operator × Literal)) :
    collapseSigns (Row.restText rest) = Row.restText (rest.map (Chain.turn Literal.rules)) := by
  induction rest with
  | nil => rfl
  | cons item rest ih =>
    obtain ⟨op, x⟩ := item
    rw [List.map_cons, Row.restText_cons]
    by_cases addition : op = .add
    · subst addition
      exact (collapseSigns_add x _).trans (by rw [ih, ← Row.restText_cons])
    · have noPlus : op.symbol ≠ '+' := by
        cases op <;> first | exact absurd rfl addition | decide
      rw [collapseSigns_cons noPlus, collapseSigns_append (plus_notMem_literal x), ih,
        Chain.turn_of_ne _ addition, Row.restText_cons]

/-- **Settling the text of a row** is settling the row. -/
theorem settle_row (op : Operator) (row : Row) :
    settle op row.text = Row.text (Chain.settle Literal.rules op row) := by
  unfold settle Chain.settle
  split
  · show collapseSigns (row.first.text ++ Row.restText row.rest) = _
    rw [collapseSigns_append (plus_notMem_literal _), collapseSigns_restText]
    rfl
  · rfl

/-! ## Reducing -/

/-- An operator is found in the text of a row exactly when the row has it. -/
theorem containsBinary_row (op : Operator) (row : Row) :
    containsBinary row.text op = true ↔ op ∈ row.operators := by
  constructor
  · intro found
    by_cases member : op ∈ row.operators
    · exact member
    · have none : findBinary? row.text [op.symbol] = none :=
        splitBinary?_of_not_mem member (.inl rfl)
      rw [containsBinary, none] at found
      cases found
  · intro member
    obtain ⟨front, left, right, back, absent, rfl⟩ := Chain.exists_prepend member
    have found := splitBinary?_prepend absent left (right.text ++ Row.restText back) (.inl rfl)
    rw [text_prepend]
    show (findBinary? (frontText front
      ++ (left.text ++ op.symbol :: (right.text ++ Row.restText back))) [op.symbol]).isSome = true
    rw [findBinary?, found]
    rfl

/-- **A step on the text of a row** is a step on the row. -/
theorem reduceOnce_row {op : Operator} {front : List (Literal × Operator)}
    (absent : op ∉ front.map Prod.snd) (left right : Literal) (back : List (Operator × Literal)) :
    (reduceOnce op (Row.text (Chain.prepend front ⟨left, (op, right) :: back⟩))).map Prod.fst
      = (Literal.rules.apply op left right).map fun z =>
        Row.text (Chain.settle Literal.rules op (Chain.prepend front ⟨z, back⟩)) := by
  unfold reduceOnce
  rw [extractBinary_row absent]
  have written := value_map_plain op left right
    ⟨frontText front, left.text, [op.symbol], right.text, Row.restText back⟩ rfl rfl
  simp only [bind, Except.bind]
  rcases map_eq_map.1 written with ⟨fault, failed, failed'⟩ | ⟨x, z, value, applied, plain⟩
  · rw [failed, failed']
    rfl
  · have filled : frontText front ++ x.plain ++ Row.restText back
        = Row.text (Chain.prepend front ⟨z, back⟩) := by
      rw [text_prepend, plain, List.append_assoc]
      rfl
    rw [value, applied]
    dsimp only
    rw [filled, settle_row, countBinary_row, countBinary_row, Chain.length_settle,
      Chain.length_prepend, Chain.length_prepend, if_neg]
    · rfl
    · simp only [List.length_cons]
      omega

/-- Applying one operator to the text of a row is applying it to the row. -/
theorem outcome_reduceOperator_row (op : Operator) (row : Row) :
    (reduceOperator op row.text).outcome
      = (Chain.applyOperator Literal.rules op row).map Row.text := by
  induction row using Chain.operator_induction Literal.rules op with
  | done row absent =>
    unfold reduceOperator
    rw [Chain.applyOperator_of_not_mem _ absent,
      if_neg fun found => absent ((containsBinary_row op row).1 found)]
    rfl
  | step front left right back absent ih =>
    have found := (containsBinary_row op (Chain.prepend front ⟨left, (op, right) :: back⟩)).2 (by
      rw [Chain.operators_prepend]
      exact List.mem_append_right _ List.mem_cons_self)
    have step := reduceOnce_row absent left right back
    unfold reduceOperator
    rw [Chain.applyOperator_prepend _ absent, if_pos found]
    split
    · rename_i fault taken
      rw [taken] at step
      rcases map_eq_map.1 step with ⟨fault', failed, failed'⟩ | ⟨_, _, done, _⟩
      · cases failed
        rw [failed']
        rfl
      · cases done
    · rename_i reduced stepTaken taken
      rw [taken] at step
      rcases map_eq_map.1 step with ⟨_, failed, _⟩ | ⟨_, z, done, applied, same⟩
      · cases failed
      · cases done
        dsimp only at same
        rw [applied, same, Traced.outcome_bind]
        exact ih z applied

/-- Applying operators to the text of a row is applying them to the row. -/
theorem outcome_reduceOperators_row (ops : List Operator) (row : Row) :
    (reduceOperators ops row.text).outcome
      = (Chain.applyOperators Literal.rules ops row).map Row.text := by
  induction ops generalizing row with
  | nil => rfl
  | cons op ops ih =>
    rw [reduceOperators, Chain.applyOperators_cons, settle_row, Traced.outcome_bind,
      outcome_reduceOperator_row]
    cases Chain.applyOperator Literal.rules op (Chain.settle Literal.rules op row) with
    | error fault => rfl
    | ok shorter => exact ih shorter

/-- **The text of a row reduces to what the row reduces to**, with the same fault if there is
one. -/
theorem outcome_reduce_row (row : Row) :
    (reduce row.text).outcome = row.reduce Literal.rules := by
  unfold reduce Chain.reduce
  rw [Traced.outcome_bind, outcome_reduceOperators_row]
  cases reduced : Chain.applyOperators Literal.rules Operator.all row with
  | error fault => rfl
  | ok result =>
    have alone := Chain.rest_eq_nil_of_applyOperators _ reduced
    obtain ⟨x, rest⟩ := result
    cases alone
    show (if valid : Literal.isLiteral (x.text ++ []) = true then pure ⟨x.text ++ [], valid⟩
      else Traced.fail _ : Traced Literal).outcome = _
    have same : x.text ++ [] = x.text := List.append_nil _
    rw [dif_pos (by rw [same]; exact x.valid)]
    exact congrArg Except.ok (Literal.ext same)

end Flat

end InfixCalculator
