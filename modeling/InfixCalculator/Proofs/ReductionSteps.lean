import InfixCalculator.Proofs.OperatorCounts
import InfixCalculator.Proofs.Resolution

/-!
# The steps of a reduction

In the text of an expression the binary operators are the operator symbols that stand neither at the
start nor directly behind an opening parenthesis (`Expression.countOperators`); those are as many as
the expression has (`Phrase.countOperators_text`).

Reduction pays for its steps from the operators of the text and of the texts that wait for it
(`Nested.reduceWithin_spends`). They are counted directly behind the end of an operand, a part of a
numeral or a closing parenthesis (`Nested.countOperators`): so counted, the operators of a text are
those around its leftmost group and those inside it, and a value in place of the group brings and
loses none, as long as no group opens directly behind an operand (`Nested.Separated`). In an
expression none does (`Phrase.separated_text`). The steps of each flat text are known from
`Flat.reduce_spends`.

Groups are paid for in the same way, on any text (`Nested.reduceWithin_opens`).
-/

set_option autoImplicit false

namespace InfixCalculator

/-! ## The operators of an expression -/

/-- The number of binary operators of a validated text: of the operator symbols that stand neither
at the start nor directly behind an opening parenthesis. -/
def Expression.countOperators (text : Text) : Nat :=
  Operator.countBehind (fun c => c ≠ '(') false text

namespace Phrase

/-- The number of binary operators of a phrase, those inside its groups included. -/
def countOperators : {role : Role} → Phrase role → Nat
  | _, numeral _ _ => 0
  | _, group inner => inner.countOperators
  | _, first _ operand => operand.countOperators
  | _, next front _ operand => front.countOperators + (operand.countOperators + 1)

/-- The operators of a phrase inside other text are counted, when they are counted behind characters
of a class. An operand may stand behind anything, an expression behind no character of the class. -/
def Counts (ends : Char → Bool) : {role : Role} → Phrase role → Prop
  | .operand, operand => ∀ behind rest,
    Operator.countBehind ends behind (operand.text ++ rest)
      = operand.countOperators + Operator.countBehind ends true rest
  | .expression, e => ∀ rest,
    Operator.countBehind ends false (e.text ++ rest)
      = e.countOperators + Operator.countBehind ends true rest

/-- The class has the parts of numerals and the closing parenthesis, but not the opening one. -/
theorem counts {ends : Char → Bool} (parts : ∀ c, Numeral.isPart c = true → ends c = true)
    (closes : ends ')' = true) (opens : ends '(' = false) {role : Role} (phrase : Phrase role) :
    phrase.Counts ends := by
  induction phrase with
  | numeral text valid =>
    intro behind rest
    rw [countOperators, Nat.zero_add]
    exact (Literal.countBehind_numeral parts (Numeral.isNumeral_of_derives valid) behind rest).1
  | group inner ih =>
    intro behind rest
    have inside := ih (')' :: rest)
    rw [Operator.countBehind_cons_of_not (by decide), closes] at inside
    rw [text_group_append, Operator.countBehind_cons_of_not (by decide), opens, inside,
      countOperators]
  | first negated operand ih =>
    intro rest
    cases negated with
    | false => exact ih false rest
    | true =>
      rw [text_negated, List.cons_append, Operator.countBehind_cons_of_start]
      exact ih (ends '-') rest
  | next front op operand ihFront ihOperand =>
    intro rest
    rw [text_next_append, ihFront, Operator.countBehind_symbol, ihOperand, countOperators]
    omega

/-- The operators of the text of an expression are those of the expression. -/
theorem countBehind_text {ends : Char → Bool} (parts : ∀ c, Numeral.isPart c = true → ends c = true)
    (closes : ends ')' = true) (opens : ends '(' = false) (e : Phrase .expression) :
    Operator.countBehind ends false e.text = e.countOperators := by
  have whole := counts parts closes opens e []
  rwa [List.append_nil] at whole

theorem countOperators_text (e : Phrase .expression) :
    Expression.countOperators e.text = e.countOperators := by
  refine countBehind_text (fun c part => ?_) (by decide) (by decide) e
  rw [decide_eq_true_eq]
  rintro rfl
  cases part

end Phrase

/-! ## Reduction -/

namespace Nested

/-- Whether a character ends an operand. -/
def endsOperand (c : Char) : Bool := Numeral.isPart c || c = ')'

theorem endsOperand_of_isPart (c : Char) (part : Numeral.isPart c = true) :
    endsOperand c = true := by
  simp [endsOperand, part]

/-- The number of operator symbols directly behind the end of an operand. -/
def countOperators (behind : Bool) (text : Text) : Nat :=
  Operator.countBehind endsOperand behind text

/-- No group opens directly behind an operand; `behind` says whether an operand ends in front of the
text. -/
def Separated (behind : Bool) : Text → Prop
  | [] => True
  | c :: rest => (c = '(' → behind = false) ∧ Separated (endsOperand c) rest

theorem separated_append {behind : Bool} {front rest : Text} :
    Separated behind (front ++ rest)
      ↔ Separated behind front ∧ Separated (Text.endsIn endsOperand behind front) rest := by
  induction front generalizing behind with
  | nil => simp only [List.nil_append, Separated, Text.endsIn_nil, true_and]
  | cons c front ih => simp only [List.cons_append, Separated, ih, Text.endsIn_cons, and_assoc]

/-- A text that opens no group is separated. -/
theorem separated_of_not_mem {text : Text} (none : '(' ∉ text) (behind : Bool) :
    Separated behind text := by
  induction text generalizing behind with
  | nil => trivial
  | cons c text ih =>
    rw [List.mem_cons, not_or] at none
    exact ⟨fun same => absurd same.symm none.1, ih none.2 _⟩

/-- The texts around a group: the group opens behind no operand, and nothing opens directly behind
it. -/
structure Surrounds (head tail : Text) : Prop where
  /-- In front of the group. -/
  front : Separated false head
  /-- Where the group opens. -/
  opens : Text.endsIn endsOperand false head = false
  /-- Behind the group. -/
  back : Separated true tail

/-! ### The leftmost group -/

theorem append_group (head inner tail : Text) :
    head ++ '(' :: inner ++ ')' :: tail = head ++ ('(' :: (inner ++ (')' :: tail))) := by
  rw [List.append_assoc, List.cons_append]

theorem separated_group {head inner tail : Text} :
    Separated false (head ++ '(' :: inner ++ ')' :: tail)
      ↔ Surrounds head tail ∧ Separated false inner := by
  have opening : endsOperand '(' = false := rfl
  have closing : endsOperand ')' = true := rfl
  rw [append_group, separated_append, Separated, separated_append, Separated, opening, closing]
  constructor
  · rintro ⟨front, opens, inside, -, back⟩
    exact ⟨⟨front, opens rfl, back⟩, inside⟩
  · rintro ⟨⟨front, opens, back⟩, inside⟩
    exact ⟨front, fun _ => opens, inside, fun same => absurd same (by decide), back⟩

/-- The operators of a text are those around its leftmost group and those inside it. -/
theorem countOperators_group (head inner tail : Text) :
    countOperators false (head ++ '(' :: inner ++ ')' :: tail)
      = countOperators false inner + (countOperators false head + countOperators true tail) := by
  have opening : endsOperand '(' = false := rfl
  have closing : endsOperand ')' = true := rfl
  unfold countOperators
  rw [append_group, Operator.countBehind_append, Operator.countBehind_cons_of_not (by decide),
    opening, Operator.countBehind_append, Operator.countBehind_cons_of_not (by decide), closing]
  omega

/-! ### A value in place of a group -/

/-- A value is put behind its head as it is, or its minus and a sign at the end of the head are
dropped. -/
theorem fill_cases (head tail : Text) (x : Literal) :
    fill head x.text tail = head ++ (x.text ++ tail)
      ∨ ∃ before numeral, head = before ++ ['-'] ∧ Flat.isSignAfter before.reverse = true
        ∧ Numeral.isNumeral numeral = true
        ∧ fill head x.text tail = before ++ (numeral ++ tail) := by
  obtain ⟨negative, numeral, valid, rfl⟩ := Literal.exists_ofNumeral x
  cases negative with
  | false => exact .inl ((fill_numeral valid head tail).trans (List.append_assoc _ _ _))
  | true =>
    rw [Literal.text_ofNumeral, Binary64.withSign_true]
    unfold fill cancelSigns
    split
    · rename_i rest before same ends
      cases same
      have back : head = before.reverse ++ ['-'] := by
        rw [← List.reverse_reverse head, ends, List.reverse_cons]
      split
      · rename_i sign
        exact .inr ⟨before.reverse, numeral, back, by rwa [List.reverse_reverse], valid,
          List.append_assoc _ _ _⟩
      · exact .inl (List.append_assoc _ _ _)
    · exact .inl (List.append_assoc _ _ _)

/-- No operand ends in front of a sign. -/
theorem endsIn_of_isSignAfter {before : Text} (sign : Flat.isSignAfter before.reverse = true) :
    Text.endsIn endsOperand false before = false := by
  rcases List.eq_nil_or_concat before with rfl | ⟨front, c, rfl⟩
  · rfl
  · rw [List.concat_eq_append] at sign ⊢
    rw [Text.endsIn_append, Text.endsIn_cons, Text.endsIn_nil]
    simp only [List.reverse_append, List.reverse_cons, List.reverse_nil, List.nil_append,
      List.cons_append, Flat.isSignAfter, Bool.or_eq_true, decide_eq_true_eq] at sign
    rcases sign with symbol | rfl
    · obtain ⟨op, rfl⟩ := Operator.isSymbol_iff.1 symbol
      cases op <;> rfl
    · rfl

/-- **A value in place of a group** brings no operator and loses none. -/
theorem countOperators_fill {head tail : Text} (around : Surrounds head tail) (x : Literal) :
    countOperators false (fill head x.text tail)
      = countOperators false head + countOperators true tail := by
  unfold countOperators
  rcases fill_cases head tail x with whole | ⟨before, numeral, rfl, sign, valid, whole⟩
  · rw [whole, Operator.countBehind_append, around.opens,
      (Literal.countBehind_text endsOperand_of_isPart x tail).1]
  · rw [whole, Operator.countBehind_append _ before (numeral ++ tail),
      Operator.countBehind_append _ before ['-'], endsIn_of_isSignAfter sign,
      (Literal.countBehind_numeral endsOperand_of_isPart valid false tail).1,
      Operator.countBehind_cons_of_start, Operator.countBehind_nil, Nat.add_zero]

theorem separated_fill {head tail : Text} (around : Surrounds head tail) (x : Literal) :
    Separated false (fill head x.text tail) := by
  have noOpening (numeral : Text) (valid : Numeral.isNumeral numeral = true) (behind : Bool) :=
    separated_of_not_mem (Group.isPart_not_paren valid).1 behind
  rcases fill_cases head tail x with whole | ⟨before, numeral, rfl, sign, valid, whole⟩
  · have literal := Literal.countBehind_text endsOperand_of_isPart x tail
    rw [whole, separated_append, separated_append, around.opens, literal.2]
    exact ⟨around.front, separated_of_not_mem (List.count_eq_zero.1 (countOpenings_literal x)) _,
      around.back⟩
  · have ends := Literal.countBehind_numeral endsOperand_of_isPart valid false tail
    rw [whole, separated_append, separated_append, endsIn_of_isSignAfter sign, ends.2]
    exact ⟨(separated_append.1 around.front).1, noOpening numeral valid _, around.back⟩

/-! ### The whole reduction -/

/-- The number of operators in the texts that wait. -/
def waitingOperators : List (Text × Text) → Nat
  | [] => 0
  | (head, tail) :: rest =>
    countOperators false head + countOperators true tail + waitingOperators rest

/-- In a text without groups these are the binary operators of a flat text. -/
theorem countOperators_of_flat {text : Text} (noClosing : ')' ∉ text) :
    countOperators false text = Flat.countBinary text := by
  rw [Flat.countBinary_eq]
  exact Operator.countBehind_congr (fun c member => by
    have other : c ≠ ')' := by
      rintro rfl
      exact noClosing member
    simp [endsOperand, other]) false

/-- **Reduction takes one step for each operator** of its text and of the texts that wait. -/
theorem reduceWithin_spends {waiting : List (Text × Text)} {text : Text}
    (separated : Separated false text) (around : ∀ item ∈ waiting, Surrounds item.1 item.2) :
    Traced.Spends (Step.startsWith "Reduced ")
      (countOperators false text + waitingOperators waiting)
      (fun _ => 0) (reduceWithin waiting text) := by
  fun_induction reduceWithin waiting text with
  | case1 => exact .fail _
  | case2 => exact .fail _
  | case3 waiting text opens g found nonempty ih =>
    rw [← Group.append_of_find found] at separated ⊢
    obtain ⟨outside, inside⟩ := separated_group.1 separated
    rw [countOperators_group, Nat.add_assoc]
    exact ih inside fun item member =>
      (List.mem_cons.1 member).elim (fun same => same ▸ outside) (around item)
  | case4 => exact .fail _
  | case5 waiting text noOpening noClosing ih =>
    rw [countOperators_of_flat noClosing]
    refine ((Flat.reduce_spends text).add _).bind fun value _ => ?_
    rw [Nat.zero_add]
    cases waiting with
    | nil => exact .pure rfl
    | cons item waiting =>
      obtain ⟨head, tail⟩ := item
      have outside := around (head, tail) List.mem_cons_self
      refine (Traced.Spends.otherStep (Step.startsWith_opened_reduced _)).bind fun _ _ => ?_
      rw [waitingOperators, ← countOperators_fill outside value]
      exact ih value (separated_fill outside value) fun item member =>
        around item (List.mem_cons_of_mem _ member)

/-- The reduction of a flat text opens no group. -/
theorem countP_opened_reduce (text : Text) :
    (Flat.reduce text).steps.countP (Step.startsWith "Opened group ") = 0 := by
  refine List.countP_eq_zero.2 fun step member => ?_
  have taken := Flat.takesOneAway_of_mem_reduce member
  cases step with
  | reduced => simp
  | _ => cases taken

/-- **Reduction opens each group once**, on any text: those of its text, and those whose
surroundings wait. -/
theorem reduceWithin_opens (waiting : List (Text × Text)) (text : Text) :
    Traced.Spends (Step.startsWith "Opened group ")
      (Group.countOpenings text + waitingOpenings waiting + waiting.length) (fun _ => 0)
      (reduceWithin waiting text) := by
  fun_induction reduceWithin waiting text with
  | case1 => exact .fail _
  | case2 => exact .fail _
  | case3 waiting text opens g found nonempty ih =>
    have opened := Group.countOpenings_of_find found
    have same : Group.countOpenings text + waitingOpenings waiting + waiting.length
        = Group.countOpenings g.inner + waitingOpenings ((g.head, g.tail) :: waiting)
          + ((g.head, g.tail) :: waiting).length := by
      rw [waitingOpenings, List.length_cons]
      omega
    rw [same]
    exact ih
  | case4 => exact .fail _
  | case5 waiting text noOpening noClosing ih =>
    have none : Group.countOpenings text = 0 := List.count_eq_zero.2 noOpening
    rw [none, Nat.zero_add]
    have flat :
      Traced.Spends (Step.startsWith "Opened group ") (waitingOpenings waiting + waiting.length)
        (fun _ => waitingOpenings waiting + waiting.length) (Flat.reduce text) :=
      .ofNone (countP_opened_reduce text) fun _ _ => rfl
    refine flat.bind fun value _ => ?_
    cases waiting with
    | nil => exact .pure rfl
    | cons item waiting =>
      obtain ⟨head, tail⟩ := item
      have same : waitingOpenings ((head, tail) :: waiting) + ((head, tail) :: waiting).length
          = Group.countOpenings (fill head value.text tail) + waitingOpenings waiting
            + waiting.length + 1 := by
        rw [countOpenings_fill, waitingOpenings, List.length_cons]
        omega
      rw [same]
      exact (Traced.Spends.step (Step.startsWith_opened_opened _)).bind fun _ _ => ih value

end Nested

namespace Phrase

/-- A phrase ends in an operand, and none of its groups opens directly behind one. -/
theorem separated_text_append {role : Role} (phrase : Phrase role) :
    ∀ rest, Nested.Separated true rest → Nested.Separated false (phrase.text ++ rest) := by
  induction phrase with
  | numeral text valid =>
    intro rest back
    have numeral := Numeral.isNumeral_of_derives valid
    have ends := (Literal.countBehind_numeral Nested.endsOperand_of_isPart numeral false rest).2
    refine Nested.separated_append.2
      ⟨Nested.separated_of_not_mem (Group.isPart_not_paren numeral).1 false, ?_⟩
    rwa [text_numeral, ends]
  | group inner ih =>
    intro rest back
    rw [text_group_append]
    exact ⟨fun _ => rfl, ih (')' :: rest) ⟨fun same => absurd same (by decide), back⟩⟩
  | first negated operand ih =>
    intro rest back
    cases negated with
    | false => exact ih rest back
    | true => exact ⟨fun same => absurd same (by decide), ih rest back⟩
  | next front op operand ihFront ihOperand =>
    intro rest back
    have symbol : op.symbol ≠ '(' ∧ Nested.endsOperand op.symbol = false := by cases op <;> decide
    rw [text_next_append]
    refine ihFront _ ⟨fun same => absurd same symbol.1, ?_⟩
    rw [symbol.2]
    exact ihOperand rest back

theorem separated_text (e : Phrase .expression) : Nested.Separated false e.text := by
  have whole := separated_text_append e [] trivial
  rwa [List.append_nil] at whole

end Phrase

end InfixCalculator
