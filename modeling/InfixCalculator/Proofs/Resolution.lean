import InfixCalculator.Expression.Phrase
import InfixCalculator.Proofs.Rows
import InfixCalculator.Reduction.Resolution

/-!
# Resolving the groups of an expression

The reduction of a text with a stack of waiting texts gives what resolving the groups one inside
another gives (`Nested.outcome_reduceWithin`).

On the text of an expression the groups are resolved level by level. The groups of a level are
replaced by their values from left to right, which leaves a row of literals (`Phrase.row`); the row
is reduced, and the literal it reduces to is the value of the level (`Phrase.byRank`). A value with
a minus behind a sign drops both, so a sign in front of a group takes its value to the opposite.
`Nested.resolve_phrase` says that this is what resolving the text of an expression does.
-/

set_option autoImplicit false

namespace InfixCalculator

/-! ## The stack of waiting texts -/

namespace Nested

/-- Fills a value into the waiting texts, the innermost first, resolving each of them in turn. -/
def refill : List (Text × Text) → Literal → Except Fault Literal
  | [], value => .ok value
  | (head, tail) :: waiting, value => (resolve (fill head value.text tail)).bind (refill waiting)

/-- A text with a group resolves to what its leftmost group leads to. -/
theorem resolve_of_opening {text : Text} (opens : '(' ∈ text) :
    resolve text = (Group.find text).bind fun g =>
      if g.inner = [] then .error (.located .emptyGroup text g.start)
      else (resolve g.inner).bind fun value => resolve (fill g.head value.text g.tail) := by
  rw [resolve, if_pos opens]
  split
  · rename_i fault failed
    rw [failed, bind_error]
  · rename_i g found
    rw [found, bind_ok]
    congr 1
    cases resolve g.inner <;> rfl

theorem resolve_of_group {text : Text} {g : Group} (found : Group.find text = .ok g)
    (opens : '(' ∈ text) (nonempty : g.inner ≠ []) :
    resolve text = (resolve g.inner).bind fun value => resolve (fill g.head value.text g.tail) := by
  rw [resolve_of_opening opens, found, bind_ok, if_neg nonempty]

theorem resolve_of_flat {text : Text} (noOpening : '(' ∉ text) (noClosing : ')' ∉ text) :
    resolve text = (Flat.reduce text).outcome := by
  rw [resolve, if_neg noOpening, if_neg noClosing]

/-- **The stack of waiting texts is the plain recursion.** A text inside waiting texts is reduced to
what resolving it and filling its value into them gives. -/
theorem outcome_reduceWithin (waiting : List (Text × Text)) (text : Text) :
    (reduceWithin waiting text).outcome = (resolve text).bind (refill waiting) := by
  fun_induction reduceWithin waiting text with
  | case1 waiting text opens fault failed =>
    rw [resolve_of_opening opens, failed, bind_error]
    rfl
  | case2 waiting text opens g found empty =>
    rw [resolve_of_opening opens, found, bind_ok, if_pos empty]
    rfl
  | case3 waiting text opens g found nonempty ih =>
    rw [ih, resolve_of_group found opens nonempty, bind_of_bind]
    rfl
  | case4 waiting text noOpening closes =>
    rw [resolve, if_neg noOpening, if_pos closes]
    rfl
  | case5 waiting text noOpening noClosing ih =>
    rw [Traced.outcome_bind, resolve_of_flat noOpening noClosing]
    refine bind_congr_of_ok fun value _ => ?_
    cases waiting with
    | nil => rfl
    | cons around waiting =>
      obtain ⟨head, tail⟩ := around
      have next := ih value
      dsimp only
      rw [Traced.outcome_bind, Traced.outcome_step, bind_ok]
      exact next

theorem outcome_reduce (text : Text) : (reduce text).outcome = resolve text := by
  unfold reduce
  rw [outcome_reduceWithin]
  cases resolve text <;> rfl

end Nested

/-! ## Matching parentheses -/

namespace Group

theorem close?_cons {c : Char} (noOpening : '(' ≠ c) (noClosing : ')' ≠ c) (depth : Nat)
    (passed rest : Text) : close? depth passed (c :: rest) = close? depth (c :: passed) rest := by
  rw [close?]
  · exact fun same => noOpening same.symm
  · exact fun _ same => noClosing same.symm
  · exact fun _ _ same => noClosing same.symm

theorem close?_append {text : Text} (noOpening : '(' ∉ text) (noClosing : ')' ∉ text)
    (depth : Nat) (passed rest : Text) :
    close? depth passed (text ++ rest) = close? depth (text.reverse ++ passed) rest := by
  induction text generalizing passed with
  | nil => rfl
  | cons c text ih =>
    rw [List.mem_cons, not_or] at noOpening noClosing
    rw [List.cons_append, close?_cons noOpening.1 noClosing.1, ih noOpening.2 noClosing.2]
    simp

theorem isPart_not_paren {text : Text} (valid : Numeral.isNumeral text = true) :
    '(' ∉ text ∧ ')' ∉ text :=
  ⟨Numeral.not_mem_of_isNumeral valid Numeral.isPart_open,
    Numeral.not_mem_of_isNumeral valid Numeral.isPart_close⟩

theorem symbol_not_paren (op : Operator) : '(' ≠ op.symbol ∧ ')' ≠ op.symbol := by
  cases op <;> decide

/-- The parentheses of a phrase match: the search for the end of a group passes over it. -/
theorem close?_phrase {role : Phrase.Role} (phrase : Phrase role) (depth : Nat)
    (passed rest : Text) :
    close? depth passed (phrase.text ++ rest)
      = close? depth (phrase.text.reverse ++ passed) rest := by
  induction phrase generalizing depth passed rest with
  | numeral text valid =>
    obtain ⟨noOpening, noClosing⟩ := isPart_not_paren (Numeral.isNumeral_of_derives valid)
    exact close?_append noOpening noClosing depth passed rest
  | group inner ih =>
    rw [Phrase.text_group, List.append_assoc, List.cons_append, close?, ih, List.singleton_append,
      close?]
    simp
  | first negated operand ih =>
    cases negated with
    | false => exact ih depth passed rest
    | true =>
      rw [Phrase.text_negated, List.cons_append, close?_cons (by decide) (by decide), ih]
      simp
  | next front op operand ihFront ihOperand =>
    obtain ⟨noOpening, noClosing⟩ := symbol_not_paren op
    rw [Phrase.text_next, List.append_assoc, ihFront, List.cons_append,
      close?_cons noOpening noClosing, ihOperand]
    simp

/-- The leftmost group of a text is found with what stands around it. -/
theorem find_group {head tail : Text} (noOpening : '(' ∉ head) (inner : Phrase .expression) :
    find (head ++ '(' :: inner.text ++ ')' :: tail) = .ok ⟨head, inner.text, tail⟩ := by
  have inside : ∀ c ∈ head, decide (c ≠ '(') = true := by
    intro c member
    simp only [decide_eq_true_eq]
    rintro rfl
    exact noOpening member
  have split : head ++ '(' :: inner.text ++ ')' :: tail
      = head ++ ('(' :: (inner.text ++ ')' :: tail)) := by simp
  unfold find
  dsimp only
  rw [split, Text.takeWhile_span inside (by simp), Text.dropWhile_span inside (by simp)]
  dsimp only
  rw [close?_phrase, close?]
  simp

end Group

/-! ## The value of a level -/

namespace Phrase

/-- The literals of a level with the operators between them, its groups resolved from left to
right. -/
def row : {role : Role} → Phrase role → Except Fault Row
  | _, numeral text valid =>
    .ok ⟨Literal.ofNumeral false text (Numeral.isNumeral_of_derives valid), []⟩
  | _, group inner =>
    (inner.row.bind fun row => row.reduce Literal.rules).map fun value => ⟨value, []⟩
  | _, first negated operand =>
    operand.row.map fun row => ⟨if negated then row.first.opposite else row.first, []⟩
  | _, next front op operand =>
    front.row.bind fun row => operand.row.map fun last =>
      ⟨row.first, row.rest ++ [(op, last.first)]⟩

/-- The literal that an expression reduces to when the operators of each level are applied in their
order, or the first fault met. -/
def byRank (e : Phrase .expression) : Except Fault Literal :=
  e.row.bind fun row => row.reduce Literal.rules

end Phrase

/-! ## Resolving the text of a phrase -/

namespace Nested

theorem fill_nil (value tail : Text) : fill [] value tail = value ++ tail := by
  unfold fill cancelSigns
  split
  · rename_i same
    cases same
  · rfl

theorem fill_numeral {numeral : Text} (valid : Numeral.isNumeral numeral = true)
    (head tail : Text) : fill head numeral tail = head ++ numeral ++ tail := by
  obtain ⟨c, digits, rfl, part⟩ := Numeral.exists_cons_of_isNumeral valid
  unfold fill cancelSigns
  split
  · rename_i same _
    cases same
    cases part
  · rfl

/-- A value behind a sign: the sign and the minus of the value cancel. -/
theorem fill_sign (value : Literal) (tail : Text) :
    fill ['-'] value.text tail = value.opposite.text ++ tail := by
  obtain ⟨negative, numeral, valid, rfl⟩ := Literal.exists_ofNumeral value
  rw [Literal.opposite_ofNumeral]
  cases negative with
  | true => rfl
  | false => exact fill_numeral valid ['-'] tail

theorem text_concat (row : Row) (op : Operator) (last : Literal) :
    Row.text ⟨row.first, row.rest ++ [(op, last)]⟩ = row.text ++ op.symbol :: last.text := by
  simp [Row.text, Row.restText]

theorem afterLiteral_text (row : Row) : Flat.AfterLiteral row.text.reverse := by
  obtain ⟨x, rest⟩ := row
  rcases List.eq_nil_or_concat rest with rfl | ⟨before, ⟨op, last⟩, rfl⟩
  · have place := Flat.afterLiteral_reverse x []
    rw [List.append_nil] at place
    show Flat.AfterLiteral (x.text ++ []).reverse
    rwa [List.append_nil]
  · rw [List.concat_eq_append, text_concat ⟨x, before⟩ op last, List.reverse_append,
      List.reverse_cons, List.append_assoc]
    exact Flat.afterLiteral_reverse last _

/-- A value behind an operator: a minus behind a literal is an operator and stays. -/
theorem fill_operator (row : Row) (op : Operator) (value tail : Text) :
    fill (row.text ++ [op.symbol]) value tail = row.text ++ op.symbol :: (value ++ tail) := by
  have kept : cancelSigns (row.text ++ [op.symbol]) value = (row.text ++ [op.symbol], value) := by
    unfold cancelSigns
    split
    · rename_i before same
      rw [List.reverse_append] at same
      have literal := Flat.isSignAfter_of_afterLiteral (afterLiteral_text row)
      obtain ⟨-, same⟩ := List.cons.inj same
      change row.text.reverse = before at same
      rw [← same, literal]
      rfl
    · rfl
  rw [fill, kept]
  simp

theorem row_not_paren (row : Row) : '(' ∉ row.text ∧ ')' ∉ row.text := by
  have literal (x : Literal) : '(' ∉ x.text ∧ ')' ∉ x.text := by
    obtain ⟨negative, numeral, valid, rfl⟩ := Literal.exists_ofNumeral x
    obtain ⟨noOpening, noClosing⟩ := Group.isPart_not_paren valid
    cases negative <;> simp [Binary64.withSign, noOpening, noClosing]
  have rest : '(' ∉ Row.restText row.rest ∧ ')' ∉ Row.restText row.rest := by
    simp only [Row.restText, List.mem_flatMap, List.mem_cons, not_exists, not_and, not_or]
    exact ⟨fun item _ => ⟨(Group.symbol_not_paren item.1).1, (literal item.2).1⟩,
      fun item _ => ⟨(Group.symbol_not_paren item.1).2, (literal item.2).2⟩⟩
  unfold Row.text
  rw [List.mem_append, List.mem_append, not_or, not_or]
  exact ⟨⟨(literal row.first).1, rest.1⟩, (literal row.first).2, rest.2⟩

/-- The text of a row resolves to what the row reduces to. -/
theorem resolve_row (row : Row) : resolve row.text = row.reduce Literal.rules := by
  obtain ⟨noOpening, noClosing⟩ := row_not_paren row
  rw [resolve_of_flat noOpening noClosing, Flat.outcome_reduce_row]

/-- What resolving does to the text of a phrase inside other text. An operand is replaced by its
value; the operands of an expression are replaced one after another, until a row is left. -/
def Resolves : {role : Phrase.Role} → Phrase role → Prop
  | .operand, operand => ∀ head tail, '(' ∉ head →
    resolve (head ++ operand.text ++ tail)
      = operand.row.bind fun row => resolve (fill head row.first.text tail)
  | .expression, e => ∀ tail,
    resolve (e.text ++ tail) = e.row.bind fun row => resolve (row.text ++ tail)

theorem resolves {role : Phrase.Role} (phrase : Phrase role) : Resolves phrase := by
  induction phrase with
  | numeral text valid =>
    intro head tail _
    have same := fill_numeral (Numeral.isNumeral_of_derives valid) head tail
    exact congrArg resolve same.symm
  | group inner ih =>
    intro head tail noOpening
    have whole : head ++ (Phrase.group inner).text ++ tail
        = head ++ '(' :: inner.text ++ ')' :: tail := by simp
    have value : resolve inner.text = inner.row.bind fun row => row.reduce Literal.rules := by
      have level := ih []
      simpa only [List.append_nil, resolve_row] using level
    rw [whole, resolve_of_group (Group.find_group noOpening inner) (by simp)
      (Phrase.text_ne_nil inner), value, Phrase.row, bind_of_map]
  | first negated operand ih =>
    intro tail
    rw [Phrase.row, bind_of_map]
    cases negated with
    | false =>
      have level := ih [] tail (by simp)
      rw [List.nil_append] at level
      rw [Phrase.text_positive, level]
      refine bind_congr_of_ok fun row _ => ?_
      rw [fill_nil]
      exact congrArg (fun text => resolve (text ++ tail)) (List.append_nil _).symm
    | true =>
      have level := ih ['-'] tail (by decide)
      rw [List.singleton_append] at level
      rw [Phrase.text_negated, level]
      refine bind_congr_of_ok fun row _ => ?_
      rw [fill_sign]
      exact congrArg (fun text => resolve (text ++ tail)) (List.append_nil _).symm
  | next front op operand ihFront ihOperand =>
    intro tail
    have whole : (Phrase.next front op operand).text ++ tail
        = front.text ++ (op.symbol :: (operand.text ++ tail)) := by simp
    rw [whole, ihFront, Phrase.row, bind_of_bind]
    refine bind_congr_of_ok fun row _ => ?_
    have noOpening : '(' ∉ row.text ++ [op.symbol] := by
      simp [(row_not_paren row).1, (Group.symbol_not_paren op).1]
    have level := ihOperand (row.text ++ [op.symbol]) tail noOpening
    have split : row.text ++ (op.symbol :: (operand.text ++ tail))
        = row.text ++ [op.symbol] ++ operand.text ++ tail := by simp
    rw [split, level, bind_of_map]
    refine bind_congr_of_ok fun last _ => ?_
    rw [fill_operator, text_concat]
    simp

/-- **Resolving the text of an expression** gives its value by rank, or the first fault met in that
order. -/
theorem resolve_phrase (e : Phrase .expression) : resolve e.text = e.byRank := by
  have level := resolves e []
  simp only [List.append_nil, resolve_row] at level
  exact level

end Nested

end InfixCalculator
