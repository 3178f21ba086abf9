import InfixCalculator.Proofs.NumberTokens
import InfixCalculator.Proofs.Scanning
import InfixCalculator.Proofs.Validation
import Mathlib.Data.List.TakeWhile

/-!
# What is derivable is accepted

The check passes over the text of a phrase where the phrase is expected: an operand where an operand
is expected, and an expression where a sign may stand too. It then expects an operator, and the same
groups are open (`Expression.Passes`). So the text of an expression is accepted
(`Expression.check_phrase`).

An expression is looked at with its blanks first, because no blanks may stand inside a numeral
(`Expression.SplitsNumeral`). Together with `Expression.derivable_of_validate` this makes validation
a test for the grammar: it returns the text without its blanks when that text is derivable and no
numeral is split, and otherwise fails with an error of the shape of the text
(`Expression.validate_accepts_iff`).
-/

set_option autoImplicit false

namespace InfixCalculator

/-- The kinds of errors in the shape of a text. -/
def Diagnostic.Kind.IsShape : Diagnostic.Kind → Prop
  | .invalidExpression | .unknownOperator _ => True
  | .general | .divisionByZero | .numericOverflow | .configuration | .foreign _ => False

namespace Expression

/-! ## Passing over one piece -/

section

variable (whole : Text) {p : Progress}

theorem check_numeral {numeral : Text} (valid : Numeral.Derives numeral) {rest : Text}
    (stops : ∀ c ∈ rest.head?, Numeral.isPart c = false) (expects : p.expectsOperand = true) :
    check whole p (numeral ++ rest)
      = check whole ⟨p.position + numeral.length, numeral.getLast?, p.openings, false⟩ rest := by
  have scanned := Token.scan_numeral valid stops
  have noPoint := Token.startsWithPoint_of_stops stops
  obtain ⟨c, digits, rfl, part⟩ :=
    Numeral.exists_cons_of_isNumeral (Numeral.isNumeral_of_derives valid)
  obtain ⟨noOpening, noClosing⟩ := Numeral.ne_parenthesis_of_isPart part
  rw [List.cons_append] at scanned ⊢
  rw [check, if_neg noOpening, if_neg noClosing, if_pos part, expects]
  simp only [Bool.not_true, Bool.false_eq_true, if_false]
  split
  · rename_i failed
    rw [scanned] at failed
    cases failed
  · rename_i numeral after found
    rw [scanned] at found
    cases found
    rw [noPoint]
    rfl

theorem check_open {rest : Text} (notEmpty : rest.head? ≠ some ')')
    (expects : p.expectsOperand = true) :
    check whole p ('(' :: rest)
      = check whole (p.advance '(' (p.position :: p.openings) true) rest := by
  rw [check, if_pos rfl, expects]
  simp [notEmpty]

theorem check_close {opening : Nat} {openings : List Nat}
    (opened : p.openings = opening :: openings) (ended : p.expectsOperand = false) (rest : Text) :
    check whole p (')' :: rest) = check whole (p.advance ')' openings false) rest := by
  rw [check, if_neg (by decide), if_pos rfl, opened, ended]
  rfl

/-- Behind an operand every operator symbol is accepted. -/
theorem check_operator (op : Operator) (ended : p.expectsOperand = false) (rest : Text) :
    check whole p (op.symbol :: rest) = check whole (p.advance op.symbol p.openings true) rest := by
  obtain ⟨noOpening, noClosing⟩ := op.symbol_ne_parenthesis
  rw [check, if_neg noOpening, if_neg noClosing, Numeral.isPart_symbol,
    Operator.isSymbol_iff.2 ⟨op, rfl⟩, ended]
  rfl

/-- At the start of a level a minus is accepted as a sign. -/
theorem check_sign (start : p.previous = none ∨ p.previous = some '(')
    (expects : p.expectsOperand = true) (rest : Text) :
    check whole p ('-' :: rest) = check whole (p.advance '-' p.openings true) rest := by
  have sign : signFault? p.previous '-' = none := by
    rcases start with first | opened
    · rw [first]
      rfl
    · rw [opened]
      rfl
  rw [check, if_neg (by decide), if_neg (by decide), Numeral.isPart_minus,
    show Operator.isSymbol '-' = true from rfl, expects]
  simp [sign]

end

/-! ## Passing over a phrase -/

/-- A check passes over a text in front of other text: it goes on behind it with the same groups
open, and expects an operator. -/
def PassesOver (text whole : Text) (p : Progress) (rest : Text) : Prop :=
  ∃ q : Progress, q.expectsOperand = false ∧ q.openings = p.openings
    ∧ check whole p (text ++ rest) = check whole q rest

/-- What the check does with the text of a phrase. An operand is passed over where an operand is
expected, an expression where a sign may stand as well. -/
def Passes : {role : Phrase.Role} → Phrase role → Prop
  | .operand, operand => ∀ whole p rest, p.expectsOperand = true →
    (∀ c ∈ rest.head?, Numeral.isPart c = false) → PassesOver operand.text whole p rest
  | .expression, e => ∀ whole p rest, p.expectsOperand = true →
    p.previous = none ∨ p.previous = some '(' →
    (∀ c ∈ rest.head?, Numeral.isPart c = false) → PassesOver e.text whole p rest

/-- The text of a phrase does not start with a closing parenthesis. -/
theorem exists_text_cons {role : Phrase.Role} (phrase : Phrase role) :
    ∃ c rest, phrase.text = c :: rest ∧ c ≠ ')' := by
  induction phrase with
  | numeral text valid =>
    obtain ⟨c, digits, rfl, part⟩ :=
      Numeral.exists_cons_of_isNumeral (Numeral.isNumeral_of_derives valid)
    exact ⟨c, digits, rfl, (Numeral.ne_parenthesis_of_isPart part).2⟩
  | group inner => exact ⟨_, _, rfl, by decide⟩
  | first negated operand ih =>
    cases negated with
    | false => exact ih
    | true => exact ⟨_, _, rfl, by decide⟩
  | next front op operand ihFront =>
    obtain ⟨c, rest, same, other⟩ := ihFront
    exact ⟨c, rest ++ op.symbol :: operand.text, by rw [Phrase.text_next, same]; rfl, other⟩

/-- The check passes over the text of a phrase. -/
theorem passes {role : Phrase.Role} (phrase : Phrase role) : Passes phrase := by
  induction phrase with
  | numeral text valid =>
    intro whole p rest expects stops
    exact ⟨⟨p.position + text.length, text.getLast?, p.openings, false⟩, rfl, rfl,
      check_numeral whole valid stops expects⟩
  | group inner ih =>
    intro whole p rest expects _
    obtain ⟨c, behind, same, other⟩ := exists_text_cons inner
    have notEmpty : (inner.text ++ ')' :: rest).head? ≠ some ')' := by
      rw [same]
      simpa using other
    obtain ⟨q, ended, opened, passed⟩ :=
      ih whole (p.advance '(' (p.position :: p.openings) true) (')' :: rest) rfl (.inr rfl) (by
        rintro d ⟨⟩
        exact Numeral.isPart_close)
    refine ⟨q.advance ')' p.openings false, rfl, rfl, ?_⟩
    rw [Phrase.text_group_append, check_open whole notEmpty expects, passed,
      check_close whole opened ended]
  | first negated operand ih =>
    intro whole p rest expects start stops
    cases negated with
    | false => exact ih whole p rest expects stops
    | true =>
      obtain ⟨q, ended, opened, passed⟩ := ih whole (p.advance '-' p.openings true) rest rfl stops
      refine ⟨q, ended, opened, ?_⟩
      rw [Phrase.text_negated, List.cons_append, check_sign whole start expects, passed]
  | next front op operand ihFront ihOperand =>
    intro whole p rest expects start stops
    obtain ⟨q, ended, opened, passed⟩ :=
      ihFront whole p (op.symbol :: (operand.text ++ rest)) expects start (by
        rintro c ⟨⟩
        exact Numeral.isPart_symbol op)
    obtain ⟨r, ended', opened', passed'⟩ :=
      ihOperand whole (q.advance op.symbol q.openings true) rest rfl stops
    refine ⟨r, ended', opened'.trans opened, ?_⟩
    rw [Phrase.text_next_append, passed, check_operator whole op ended, passed']

/-- **The text of an expression is accepted.** -/
theorem check_phrase (whole : Text) (e : Phrase .expression) :
    check whole .start e.text = .ok () := by
  obtain ⟨q, ended, opened, passed⟩ := passes e whole .start [] rfl (.inl rfl) (by simp)
  rw [List.append_nil] at passed
  rw [passed, check, opened, ended]
  rfl

/-! ## Blanks inside numerals -/

/-- Blanks stand between two parts of a numeral. -/
def SplitsNumeral (text : Text) : Prop :=
  ∃ before c blanks d after, text = before ++ c :: (blanks ++ d :: after)
    ∧ Numeral.isPart c = true ∧ Numeral.isPart d = true
    ∧ blanks ≠ [] ∧ ∀ b ∈ blanks, Text.isBlank b = true

theorem isBlank_of_isPart {c : Char} (part : Numeral.isPart c = true) : Text.isBlank c = false :=
  Literal.forall_isPart (Text.isBlank · = false) (by decide) (by decide) (by decide)
    (by rw [Literal.isPart, part]; rfl)

theorem blanksThenNumeral_iff {text : Text} :
    blanksThenNumeral text = true ↔ ∃ blanks d after, text = blanks ++ d :: after
      ∧ Numeral.isPart d = true ∧ blanks ≠ [] ∧ ∀ b ∈ blanks, Text.isBlank b = true := by
  constructor
  · intro found
    cases text with
    | nil => cases found
    | cons b rest =>
      rw [blanksThenNumeral, Bool.and_eq_true] at found
      obtain ⟨blank, found⟩ := found
      have split := List.takeWhile_append_dropWhile (p := Text.isBlank) (l := rest)
      cases behind : rest.dropWhile Text.isBlank with
      | nil =>
        rw [behind] at found
        cases found
      | cons d after =>
        rw [behind] at found split
        refine ⟨b :: rest.takeWhile Text.isBlank, d, after, ?_, found, by simp, ?_⟩
        · rw [List.cons_append, split]
        · exact List.forall_mem_cons.2 ⟨blank, List.all_eq_true.1 List.all_takeWhile⟩
  · rintro ⟨blanks, d, after, rfl, part, nonempty, blank⟩
    obtain ⟨b, blanks, rfl⟩ := List.exists_cons_of_ne_nil nonempty
    rw [List.forall_mem_cons] at blank
    have behind : (blanks ++ d :: after).dropWhile Text.isBlank = d :: after :=
      Text.dropWhile_span blank.2 (by
        rintro c ⟨⟩
        exact isBlank_of_isPart part)
    rw [List.cons_append, blanksThenNumeral, blank.1, behind]
    exact part

/-- A numeral is split at the front of a text or further behind. -/
theorem splitsNumeral_cons {c : Char} {rest : Text} :
    SplitsNumeral (c :: rest)
      ↔ (Numeral.isPart c = true ∧ blanksThenNumeral rest = true) ∨ SplitsNumeral rest := by
  constructor
  · rintro ⟨before, c', blanks, d, after, whole, part, part', nonempty, blank⟩
    cases before with
    | nil =>
      obtain ⟨rfl, rfl⟩ := List.cons.inj whole
      exact .inl ⟨part, blanksThenNumeral_iff.2 ⟨blanks, d, after, rfl, part', nonempty, blank⟩⟩
    | cons first before =>
      obtain ⟨rfl, rfl⟩ := List.cons.inj whole
      exact .inr ⟨before, c', blanks, d, after, rfl, part, part', nonempty, blank⟩
  · rintro (⟨part, behind⟩ | ⟨before, c', blanks, d, after, rfl, rest⟩)
    · obtain ⟨blanks, d, after, rfl, part', nonempty, blank⟩ := blanksThenNumeral_iff.1 behind
      exact ⟨[], c, blanks, d, after, rfl, part, part', nonempty, blank⟩
    · exact ⟨c :: before, c', blanks, d, after, rfl, rest⟩

/-- Without blanks no numeral is split. -/
theorem not_splitsNumeral_of_filled {text : Text} (filled : ∀ c ∈ text, Text.isBlank c = false) :
    ¬SplitsNumeral text := by
  rintro ⟨before, c, blanks, d, after, rfl, -, -, nonempty, blank⟩
  obtain ⟨b, blanks, rfl⟩ := List.exists_cons_of_ne_nil nonempty
  have filled' := filled b (by simp)
  rw [blank b List.mem_cons_self] at filled'
  cases filled'

/-- The search finds nothing exactly when no numeral is split. -/
theorem blankInNumeral?_eq_none {position : Nat} {text : Text} :
    blankInNumeral? position text = none ↔ ¬SplitsNumeral text := by
  induction text generalizing position with
  | nil =>
    refine ⟨fun _ => ?_, fun _ => rfl⟩
    rintro ⟨before, c, blanks, d, after, whole, _⟩
    cases before <;> cases whole
  | cons c rest ih =>
    rw [splitsNumeral_cons, blankInNumeral?, not_or, ← ih, ← Bool.and_eq_true]
    split
    · rename_i here
      simp [here]
    · rename_i elsewhere
      exact ⟨fun none => ⟨elsewhere, none⟩, fun both => both.2⟩

/-- A text that is empty without the blanks at its ends is blank. -/
theorem compact_eq_nil_of_strip {text : Text} (empty : text.strip = []) : text.compact = [] := by
  have trailing : ∀ c ∈ text.dropWhile Text.isBlank, Text.isBlank c = true := by
    intro c member
    have ends := List.dropWhile_eq_nil_iff.1 (List.reverse_eq_nil_iff.1 empty)
    exact ends c (List.mem_reverse.2 member)
  have leading : ∀ c ∈ text.takeWhile Text.isBlank, Text.isBlank c = true :=
    List.all_eq_true.1 List.all_takeWhile
  apply List.filter_eq_nil_iff.2
  intro c member
  rw [← List.takeWhile_append_dropWhile (p := Text.isBlank) (l := text), List.mem_append] at member
  have blank : Text.isBlank c = true := member.elim (leading c) (trailing c)
  simp [blank]

/-! ## Faults -/

theorem isShape_of_signFault? {previous : Option Char} {c : Char} {cause : Cause}
    (found : signFault? previous c = some cause) : cause.kind.IsShape := by
  unfold signFault? at found
  split at found
  · split at found <;> cases found
    trivial
  · split at found
    · cases found
    · split at found <;> cases found <;> trivial

theorem isShape_strayFault (c : Char) (expects : Bool) : (strayFault c expects).kind.IsShape := by
  unfold strayFault
  split <;> trivial

/-- What the check finds at fault is the shape of the text. -/
theorem isShape_of_check {whole rest : Text} {p : Progress} {fault : Fault}
    (refused : check whole p rest = .error fault) : fault.kind.IsShape := by
  fun_induction check whole p rest with
  | case3 => cases refused
  | case6 _ _ _ _ ih | case9 _ _ _ _ _ _ _ ih => exact ih refused
  | case13 _ _ _ _ _ _ _ _ _ _ _ ih | case15 _ _ _ _ _ _ _ _ ih => exact ih refused
  | case14 p c rest _ _ _ symbol cause found =>
    cases refused
    split at found
    · exact isShape_of_signFault? found
    · cases found
  | case16 =>
    cases refused
    exact isShape_strayFault _ _
  | case1 | case2 | case4 | case5 | case7 | case8 | case10 | case11 | case12 =>
    cases refused
    trivial

/-- What validation finds at fault is the shape of the text. -/
theorem isShape_of_validate {expression : Text} {fault : Fault}
    (refused : validate expression = .error fault) : fault.kind.IsShape := by
  obtain ⟨-, rfl⟩ | ⟨position, -, rfl⟩ | ⟨-, checked⟩ := cases_of_validate_error refused
  · trivial
  · trivial
  · exact isShape_of_check checked

/-- An expression whose numerals are not split is accepted when it is derivable without its
blanks. -/
theorem validate_of_derivable {expression : Text} (whole : ¬SplitsNumeral expression)
    (derivable : Phrase.Derivable expression.compact) :
    validate expression = .ok expression.compact := by
  obtain ⟨e, same⟩ := derivable
  have filled : expression.strip ≠ [] := fun empty =>
    Phrase.text_ne_nil e (same.trans (compact_eq_nil_of_strip empty))
  have accepted : check expression.compact .start expression.compact = .ok () := by
    rw [← same]
    exact check_phrase e.text e
  exact validate_eq_ok.2 ⟨filled, blankInNumeral?_eq_none.2 whole, accepted, rfl⟩

/-- What is accepted splits no numeral. -/
theorem not_splitsNumeral_of_validate {expression compact : Text}
    (accepted : validate expression = .ok compact) : ¬SplitsNumeral expression := by
  obtain ⟨-, none, -⟩ := validate_eq_ok.1 accepted
  exact blankInNumeral?_eq_none.1 none

/-- **Validation accepts exactly the grammar.** An expression is returned without its blanks when no
blanks split a numeral and what is left is derivable; every other text fails with an error of its
shape. -/
theorem validate_accepts_iff (expression : Text) :
    (∀ compact, validate expression = .ok compact ↔
      ¬SplitsNumeral expression ∧ compact = expression.compact ∧ Phrase.Derivable compact)
    ∧ ((∃ compact, validate expression = .ok compact)
      ∨ ∃ fault, validate expression = .error fault ∧ fault.kind.IsShape) := by
  refine ⟨fun compact => ⟨fun accepted => ?_, ?_⟩, ?_⟩
  · exact ⟨not_splitsNumeral_of_validate accepted, derivable_of_validate accepted⟩
  · rintro ⟨whole, rfl, derivable⟩
    exact validate_of_derivable whole derivable
  · cases result : validate expression with
    | ok compact => exact .inl ⟨compact, rfl⟩
    | error fault => exact .inr ⟨fault, rfl, isShape_of_validate result⟩

end Expression

end InfixCalculator
