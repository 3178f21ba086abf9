import InfixCalculator.Decimal.Numeral
import InfixCalculator.Operator

/-!
# The grammar of expressions

An expression is an operand with an optional minus in front of it, followed by any number of
operators with an operand each. An operand is a numeral or an expression in parentheses. A numeral
is a row of digits, a row of digits with a point after it and perhaps more digits behind the point,
or a point with digits behind it. Blanks are no part of the grammar.

A phrase is a derivation in this grammar. An expression grows to the right: `first` starts it with
an operand and `next` adds an operator and an operand, so a phrase shows which operands an operator
of equal rank has to its left. `Phrase.text` is the text a phrase derives, and a text is an
expression when some phrase derives it (`Phrase.Derivable`).

The grammar of numerals and the test that literals are read with agree (`Numeral.isNumeral_iff`).
-/

set_option autoImplicit false

namespace InfixCalculator

/-! ## Numerals -/

/-- The grammar of numerals. -/
inductive Numeral.Derives : Text → Prop where
  /-- A row of digits. -/
  | whole {digits : Text} (nonempty : digits ≠ []) (valid : digits.all Char.isDigit = true) :
      Derives digits
  /-- A row of digits, a point, and perhaps more digits. -/
  | pointed {digits fraction : Text} (nonempty : digits ≠ [])
      (valid : digits.all Char.isDigit = true) (validFraction : fraction.all Char.isDigit = true) :
      Derives (digits ++ '.' :: fraction)
  /-- A point and a row of digits. -/
  | fraction {digits : Text} (nonempty : digits ≠ []) (valid : digits.all Char.isDigit = true) :
      Derives ('.' :: digits)

namespace Numeral

theorem isPart_of_isDigit {c : Char} (h : c.isDigit = true) : isPart c = true := by
  simp [isPart, h]

/-- A part of a numeral that is no digit is the point. -/
theorem eq_point_of_isPart {c : Char} (part : isPart c = true) (other : c.isDigit = false) :
    c = '.' := by
  simpa [isPart, other] using part

/-- A row of digits holds no point. -/
theorem not_mem_point_of_digits {digits : Text} (h : digits.all Char.isDigit = true) :
    '.' ∉ digits := by
  intro member
  have digit := List.all_eq_true.1 h '.' member
  exact absurd digit (by decide)

theorem isNumeral_of_derives {text : Text} (h : Derives text) : isNumeral text = true := by
  have parts {digits : Text} (valid : digits.all Char.isDigit = true) :
      digits.all isPart = true :=
    List.all_eq_true.2 fun c member => isPart_of_isDigit (List.all_eq_true.1 valid c member)
  have some {digits : Text} (nonempty : digits ≠ []) (valid : digits.all Char.isDigit = true) :
      digits.any Char.isDigit = true := by
    obtain ⟨c, rest, rfl⟩ := List.exists_cons_of_ne_nil nonempty
    exact List.any_eq_true.2 ⟨c, List.mem_cons_self, List.all_eq_true.1 valid c List.mem_cons_self⟩
  have none {digits : Text} (valid : digits.all Char.isDigit = true) : digits.count '.' = 0 :=
    List.count_eq_zero.2 (not_mem_point_of_digits valid)
  cases h with
  | whole nonempty valid => simp [isNumeral, parts valid, some nonempty valid, none valid]
  | pointed nonempty valid validFraction =>
    simp [isNumeral, parts valid, parts validFraction, some nonempty valid, none valid,
      none validFraction, show isPart '.' = true by decide]
  | fraction nonempty valid =>
    simp [isNumeral, parts valid, some nonempty valid, none valid,
      show isPart '.' = true by decide]

theorem derives_of_isNumeral {text : Text} (h : isNumeral text = true) : Derives text := by
  simp only [isNumeral, Bool.and_eq_true, decide_eq_true_eq] at h
  obtain ⟨⟨parts, points⟩, digit⟩ := h
  have split := List.takeWhile_append_dropWhile (p := Char.isDigit) (l := text)
  have valid : (text.takeWhile Char.isDigit).all Char.isDigit = true := List.all_takeWhile
  generalize text.takeWhile Char.isDigit = digits at split valid
  cases ends : text.dropWhile Char.isDigit with
  | nil =>
    rw [ends, List.append_nil] at split
    subst split
    refine .whole ?_ valid
    rintro rfl
    cases digit
  | cons c fraction =>
    have other : c.isDigit = false := by
      have := List.head?_dropWhile_not Char.isDigit text
      rw [ends] at this
      simpa using this
    rw [ends] at split
    subst split
    have point : c = '.' :=
      eq_point_of_isPart (List.all_eq_true.1 parts c (by simp)) other
    subst point
    have alone : '.' ∉ fraction := by
      intro member
      have := List.count_pos_iff.2 member
      simp at points
      omega
    have validFraction : fraction.all Char.isDigit = true := by
      refine List.all_eq_true.2 fun d member => ?_
      have part := List.all_eq_true.1 parts d (by simp [member])
      cases isDigit : d.isDigit with
      | true => rfl
      | false => exact absurd (eq_point_of_isPart part isDigit ▸ member) alone
    cases digits with
    | nil =>
      refine .fraction ?_ validFraction
      rintro rfl
      simp at digit
    | cons d rest => exact .pointed (by simp) valid validFraction

/-- A text is a numeral exactly when the grammar derives it. -/
theorem isNumeral_iff {text : Text} : isNumeral text = true ↔ Derives text :=
  ⟨derives_of_isNumeral, isNumeral_of_derives⟩

end Numeral

/-! ## Phrases -/

/-- What a phrase is. -/
inductive Phrase.Role where
  /-- An operand: a numeral or a group. -/
  | operand
  /-- An expression. -/
  | expression

/-- A derivation in the grammar of expressions. -/
inductive Phrase : Phrase.Role → Type where
  /-- A numeral. -/
  | numeral (text : Text) (valid : Numeral.Derives text) : Phrase .operand
  /-- An expression in parentheses. -/
  | group (inner : Phrase .expression) : Phrase .operand
  /-- An operand, with a minus in front of it or not. -/
  | first (negated : Bool) (operand : Phrase .operand) : Phrase .expression
  /-- An expression with one more operator and operand. -/
  | next (front : Phrase .expression) (op : Operator) (operand : Phrase .operand) :
      Phrase .expression

namespace Phrase

/-- The text that a phrase derives. -/
def text : {role : Role} → Phrase role → Text
  | _, numeral text _ => text
  | _, group inner => '(' :: inner.text ++ [')']
  | _, first negated operand => if negated then '-' :: operand.text else operand.text
  | _, next front op operand => front.text ++ op.symbol :: operand.text

@[simp] theorem text_numeral (digits : Text) (valid : Numeral.Derives digits) :
    (numeral digits valid).text = digits := rfl

@[simp] theorem text_group (inner : Phrase .expression) :
    (group inner).text = '(' :: inner.text ++ [')'] := rfl

@[simp] theorem text_positive (operand : Phrase .operand) :
    (first false operand).text = operand.text :=
  rfl

@[simp] theorem text_negated (operand : Phrase .operand) :
    (first true operand).text = '-' :: operand.text := rfl

@[simp] theorem text_next (front : Phrase .expression) (op : Operator) (operand : Phrase .operand) :
    (next front op operand).text = front.text ++ op.symbol :: operand.text := rfl

/-- A group in front of other text. -/
theorem text_group_append (inner : Phrase .expression) (rest : Text) :
    (group inner).text ++ rest = '(' :: (inner.text ++ ')' :: rest) := by
  rw [text_group, List.append_assoc]
  rfl

/-- A phrase with one more operand in front of other text. -/
theorem text_next_append (front : Phrase .expression) (op : Operator) (operand : Phrase .operand)
    (rest : Text) : (next front op operand).text ++ rest
      = front.text ++ op.symbol :: (operand.text ++ rest) := by
  rw [text_next, List.append_assoc]
  rfl

/-- A text that is an expression. -/
def Derivable (text : Text) : Prop := ∃ phrase : Phrase .expression, phrase.text = text

/-- No phrase derives the empty text. -/
theorem text_ne_nil {role : Role} (phrase : Phrase role) : phrase.text ≠ [] := by
  induction phrase with
  | numeral text valid => cases valid <;> simp_all
  | group inner => simp
  | first negated operand ih => cases negated <;> simp [ih]
  | next front op operand => simp

/-! ## Levels

A level is the text of an expression, or of one group, with the groups inside it taken as atoms. -/

/-- The binary operators of the outermost level, from left to right. -/
def operators : {role : Role} → Phrase role → List Operator
  | _, numeral _ _ => []
  | _, group _ => []
  | _, first _ _ => []
  | _, next front op _ => front.operators ++ [op]

/-- A property of operator rows that holds at every level inside a phrase. -/
def AtEveryGroup (P : List Operator → Prop) : {role : Role} → Phrase role → Prop
  | _, numeral _ _ => True
  | _, group inner => P inner.operators ∧ inner.AtEveryGroup P
  | _, first _ operand => operand.AtEveryGroup P
  | _, next front _ operand => front.AtEveryGroup P ∧ operand.AtEveryGroup P

/-- A property of operator rows that holds at every level of an expression. -/
def AtEveryLevel (P : List Operator → Prop) (phrase : Phrase .expression) : Prop :=
  P phrase.operators ∧ phrase.AtEveryGroup P

/-- A row of operators that can be applied in one order only: at most one addition, and no
subtraction after it. -/
def Unambiguous (operators : List Operator) : Prop :=
  .add ∉ operators ∨
    ∃ before after, operators = before ++ .add :: after ∧
      .add ∉ before ∧ .add ∉ after ∧ .subtract ∉ after

/-! ## Redundant parentheses -/

/-- The second phrase is the first with one operand put into parentheses. -/
inductive Parenthesized : {role : Role} → Phrase role → Phrase role → Prop where
  /-- This operand. -/
  | here (operand : Phrase .operand) : Parenthesized operand (group (first false operand))
  /-- An operand inside a group. -/
  | group {inner inner' : Phrase .expression} (inside : Parenthesized inner inner') :
      Parenthesized (group inner) (group inner')
  /-- An operand inside the first operand of an expression. -/
  | first {negated : Bool} {operand operand' : Phrase .operand}
      (inside : Parenthesized operand operand') :
      Parenthesized (first negated operand) (first negated operand')
  /-- An operand left of the last operator. -/
  | front {front front' : Phrase .expression} {op : Operator} {operand : Phrase .operand}
      (inside : Parenthesized front front') :
      Parenthesized (next front op operand) (next front' op operand)
  /-- An operand inside the last one. -/
  | last {front : Phrase .expression} {op : Operator} {operand operand' : Phrase .operand}
      (inside : Parenthesized operand operand') :
      Parenthesized (next front op operand) (next front op operand')

end Phrase

end InfixCalculator
