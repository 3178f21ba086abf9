import InfixCalculator.Expression.Phrase
import InfixCalculator.Proofs.Literals
import InfixCalculator.Token.Scan

/-!
# The tokens of an expression

Scanning the text of an expression gives one token for each numeral, operator and parenthesis of its
derivation, in order (`Phrase.tokens`, `Token.scan_phrase`). A minus in front of a numeral is part
of the number; in front of a group it is a sign. Every other minus follows an operand and is an
operator.

The statement about a phrase inside other text (`Token.Scans`) asks that the text behind the phrase
does not start with a part of a numeral, so that a numeral at the end of the phrase stops there.
-/

set_option autoImplicit false

namespace InfixCalculator

namespace Phrase

/-- The tokens of a phrase that starts at a position. -/
def tokens : {role : Role} → Phrase role → Nat → List Token
  | _, numeral text _, position => [⟨.number, text, position⟩]
  | _, group inner, position =>
    ⟨.openParen, ['('], position⟩ :: inner.tokens (position + 1)
      ++ [⟨.closeParen, [')'], (position + 1 + inner.text.length : Nat)⟩]
  | _, first false operand, position => operand.tokens position
  | _, first true (numeral text _), position => [⟨.number, '-' :: text, position⟩]
  | _, first true (group inner), position =>
    ⟨.sign, ['-'], position⟩ :: (group inner).tokens (position + 1)
  | _, next front op operand, position =>
    front.tokens position
      ++ ⟨.operator, [op.symbol], (position + front.text.length : Nat)⟩
        :: operand.tokens (position + front.text.length + 1)

/-- The kind of the last token of a phrase. -/
def lastKind : {role : Role} → Phrase role → Token.Kind
  | _, numeral _ _ => .number
  | _, group _ => .closeParen
  | _, first _ operand => operand.lastKind
  | _, next _ _ operand => operand.lastKind

/-- No minus behind a phrase is a sign. -/
theorem allowsSign_lastKind {role : Role} (phrase : Phrase role) :
    Token.allowsSign (some phrase.lastKind) = false := by
  induction phrase with
  | numeral => rfl
  | group => rfl
  | first _ operand ih => exact ih
  | next _ _ operand _ ih => exact ih

end Phrase

namespace Token

/-! ## Scanning one token -/

theorem isSeparator_of_isPart {c : Char} (part : Numeral.isPart c = true) :
    isSeparator c = false := by
  refine Bool.eq_false_iff.2 fun separator => ?_
  simp only [isSeparator, Bool.or_eq_true, decide_eq_true_eq] at separator
  rcases separator with ((rfl | rfl) | rfl) | rfl <;> cases part

@[simp] theorem isSeparator_open : isSeparator '(' = false := rfl

@[simp] theorem isSeparator_close : isSeparator ')' = false := rfl

@[simp] theorem isSeparator_minus : isSeparator '-' = false := rfl

theorem isSeparator_symbol (op : Operator) : isSeparator op.symbol = false := by
  cases op <;> decide

/-- A numeral is scanned whole when no part of a numeral follows it. -/
theorem scan_numeral {numeral : Text} (valid : Numeral.Derives numeral) {rest : Text}
    (stops : ∀ c ∈ rest.head?, Numeral.isPart c = false) :
    Numeral.scan (numeral ++ rest) = some (numeral, rest) := by
  have noDigit : ∀ c ∈ rest.head?, c.isDigit = false := by
    intro c first
    have part := stops c first
    rw [Numeral.isPart, Bool.or_eq_false_iff] at part
    exact part.1
  have pointed {digits fraction : Text} (some : digits ≠ [] ∨ fraction ≠ [])
      (validDigits : digits.all Char.isDigit = true)
      (validFraction : fraction.all Char.isDigit = true) :
      Numeral.scan (digits ++ '.' :: (fraction ++ rest))
        = .some (digits ++ '.' :: fraction, rest) := by
    have inside := List.all_eq_true.1 validDigits
    have insideFraction := List.all_eq_true.1 validFraction
    unfold Numeral.scan
    dsimp only
    rw [Text.takeWhile_span inside (by simp), Text.dropWhile_span inside (by simp)]
    show (if digits = [] ∧ (fraction ++ rest).takeWhile Char.isDigit = [] then none
      else .some (digits ++ '.' :: (fraction ++ rest).takeWhile Char.isDigit,
        (fraction ++ rest).dropWhile Char.isDigit)) = _
    rw [Text.takeWhile_span insideFraction noDigit, Text.dropWhile_span insideFraction noDigit,
      if_neg (fun none => some.elim (absurd none.1) (absurd none.2))]
  cases valid with
  | whole nonempty valid =>
    have inside := List.all_eq_true.1 valid
    unfold Numeral.scan
    dsimp only
    rw [Text.takeWhile_span inside noDigit, Text.dropWhile_span inside noDigit]
    split
    · exact absurd (stops '.' rfl) (by decide)
    · rw [if_neg nonempty]
  | pointed nonempty valid validFraction =>
    have scanned := pointed (.inl nonempty) valid validFraction
    simpa using scanned
  | fraction nonempty valid =>
    have scanned :=
      pointed (.inr nonempty) (show ([] : Text).all Char.isDigit = true from rfl) valid
    simpa using scanned

/-- What does not go on with a part of a numeral does not go on with a point. -/
theorem startsWithPoint_of_stops {rest : Text}
    (stops : ∀ c ∈ rest.head?, Numeral.isPart c = false) :
      Expression.startsWithPoint rest = false := by
  cases rest with
  | nil => rfl
  | cons c rest =>
    unfold Expression.startsWithPoint
    split
    · rename_i same
      cases same
      exact absurd (stops '.' rfl) (by decide)
    · rfl

theorem scanNumeral?_numeral {numeral : Text} (valid : Numeral.Derives numeral) {rest : Text}
    (stops : ∀ c ∈ rest.head?, Numeral.isPart c = false) :
    scanNumeral? (numeral ++ rest) = some (numeral, rest) := by
  unfold scanNumeral?
  rw [scan_numeral valid stops]
  dsimp only
  rw [startsWithPoint_of_stops stops]
  rfl

variable (whole : Text)

theorem scanFrom_numeral {numeral : Text} (valid : Numeral.Derives numeral) {rest : Text}
    (stops : ∀ c ∈ rest.head?, Numeral.isPart c = false) (position : Nat) (last : Option Kind) :
    scanFrom whole position last (numeral ++ rest)
      = (scanFrom whole (position + numeral.length) (some .number) rest).map
        (⟨.number, numeral, position⟩ :: ·) := by
  have scanned := scanNumeral?_numeral valid stops
  obtain ⟨c, digits, rfl, part⟩ :=
    Numeral.exists_cons_of_isNumeral (Numeral.isNumeral_of_derives valid)
  rw [List.cons_append] at scanned ⊢
  rw [scanFrom, isSeparator_of_isPart part, part]
  simp only [Bool.false_eq_true, if_false, if_true]
  split
  · rename_i failed
    rw [scanned] at failed
    cases failed
  · rename_i numeral' after found
    rw [scanned] at found
    cases found
    rfl

theorem scanFrom_open (position : Nat) (last : Option Kind) (rest : Text) :
    scanFrom whole position last ('(' :: rest)
      = (scanFrom whole (position + 1) (some .openParen) rest).map
        (⟨.openParen, ['('], position⟩ :: ·) := by
  rw [scanFrom, isSeparator_open, Numeral.isPart_open]
  simp

theorem scanFrom_close (position : Nat) (last : Option Kind) (rest : Text) :
    scanFrom whole position last (')' :: rest)
      = (scanFrom whole (position + 1) (some .closeParen) rest).map
        (⟨.closeParen, [')'], position⟩ :: ·) := by
  rw [scanFrom, isSeparator_close, Numeral.isPart_close]
  simp

/-- Where no minus is a sign, an operator symbol is an operator. -/
theorem scanFrom_operator (op : Operator) (position : Nat) {last : Option Kind}
    (noSign : allowsSign last = false) (rest : Text) :
    scanFrom whole position last (op.symbol :: rest)
      = (scanFrom whole (position + 1) (some .operator) rest).map
        (⟨.operator, [op.symbol], position⟩ :: ·) := by
  obtain ⟨noOpening, noClosing⟩ := op.symbol_ne_parenthesis
  rw [scanFrom, isSeparator_symbol, Numeral.isPart_symbol, noSign,
    Operator.isSymbol_iff.2 ⟨op, rfl⟩]
  simp [noOpening, noClosing]

/-- Where a minus is a sign, it is folded into a numeral that follows. -/
theorem scanFrom_negated {numeral : Text} (valid : Numeral.Derives numeral) {rest : Text}
    (stops : ∀ c ∈ rest.head?, Numeral.isPart c = false) (position : Nat) {last : Option Kind}
    (sign : allowsSign last = true) :
    scanFrom whole position last ('-' :: (numeral ++ rest))
      = (scanFrom whole (position + 1 + numeral.length) (some .number) rest).map
        (⟨.number, '-' :: numeral, position⟩ :: ·) := by
  have scanned := scanNumeral?_numeral valid stops
  have nonempty := Numeral.exists_cons_of_isNumeral (Numeral.isNumeral_of_derives valid)
  have none : (numeral ++ rest).dropWhile isSeparator = numeral ++ rest := by
    obtain ⟨c, digits, rfl, part⟩ := nonempty
    exact List.dropWhile_cons_of_neg (by rw [isSeparator_of_isPart part]; decide)
  have starts : startsNumeral (numeral ++ rest) = true := by
    obtain ⟨c, digits, rfl, part⟩ := nonempty
    exact part
  rw [scanFrom, isSeparator_minus, Numeral.isPart_minus, sign]
  simp only [none, starts, Bool.false_eq_true, if_false, if_true, and_self, Nat.sub_self,
    Nat.add_zero, Char.reduceEq]
  split
  · rename_i failed
    rw [none, scanned] at failed
    cases failed
  · rename_i numeral' after found
    rw [none, scanned] at found
    cases found
    rfl

/-- Where a minus is a sign, it is a token of its own in front of a group. -/
theorem scanFrom_sign (position : Nat) {last : Option Kind} (sign : allowsSign last = true)
    (rest : Text) :
    scanFrom whole position last ('-' :: '(' :: rest)
      = (scanFrom whole (position + 1) (some .sign) ('(' :: rest)).map
        (⟨.sign, ['-'], position⟩ :: ·) := by
  rw [scanFrom, isSeparator_minus, Numeral.isPart_minus, sign]
  simp [startsNumeral, Numeral.isPart_open]

/-! ## Scanning a phrase -/

theorem map_map_cons {α : Type} (x : α) (front : List α) (result : Except Fault (List α)) :
    (result.map (front ++ ·)).map (x :: ·) = result.map (x :: front ++ ·) := by
  cases result <;> rfl

theorem map_map_append {α : Type} (first second : List α) (result : Except Fault (List α)) :
    (result.map (second ++ ·)).map (first ++ ·) = result.map (first ++ second ++ ·) := by
  cases result with
  | error fault => rfl
  | ok rest => exact congrArg Except.ok (List.append_assoc first second rest).symm

/-- What scanning does to the text of a phrase inside other text. An operand is scanned behind
anything, an expression at the start of a level only. -/
def Scans : {role : Phrase.Role} → Phrase role → Prop
  | .operand, operand => ∀ position last rest, (∀ c ∈ rest.head?, Numeral.isPart c = false) →
    scanFrom whole position last (operand.text ++ rest)
      = (scanFrom whole (position + operand.text.length) (some operand.lastKind) rest).map
        (operand.tokens position ++ ·)
  | .expression, e => ∀ position last rest, allowsSign last = true →
    (∀ c ∈ rest.head?, Numeral.isPart c = false) →
    scanFrom whole position last (e.text ++ rest)
      = (scanFrom whole (position + e.text.length) (some e.lastKind) rest).map
        (e.tokens position ++ ·)

theorem scans {role : Phrase.Role} (phrase : Phrase role) : Scans whole phrase := by
  induction phrase with
  | numeral text valid =>
    intro position last rest stops
    exact scanFrom_numeral whole valid stops position last
  | group inner ih =>
    intro position last rest stops
    have closing : ∀ c ∈ (')' :: rest).head?, Numeral.isPart c = false := by
      rintro c ⟨⟩
      exact Numeral.isPart_close
    have length : position + (Phrase.group inner).text.length
        = position + 1 + inner.text.length + 1 := by
      simp only [Phrase.text_group, List.length_append, List.length_cons, List.length_nil]
      omega
    rw [Phrase.text_group_append, scanFrom_open, ih (position + 1) (some .openParen) _ rfl closing,
      scanFrom_close, length, Phrase.lastKind, Phrase.tokens]
    cases scanFrom whole (position + 1 + inner.text.length + 1) (some .closeParen) rest with
    | error fault => rfl
    | ok tokens => simp [Except.map]
  | first negated operand ih =>
    intro position last rest sign stops
    cases negated with
    | false => exact ih position last rest stops
    | true =>
      cases operand with
      | numeral text valid =>
        have length : position + (Phrase.first true (.numeral text valid)).text.length
            = position + 1 + text.length := by
          simp only [Phrase.text_negated, Phrase.text_numeral, List.length_cons]
          omega
        rw [length]
        exact scanFrom_negated whole valid stops position sign
      | group inner =>
        have split : (Phrase.first true (.group inner)).text ++ rest
            = '-' :: '(' :: (inner.text ++ [')'] ++ rest) := by simp
        have length : position + (Phrase.first true (.group inner)).text.length
            = position + 1 + (Phrase.group inner).text.length := by
          simp only [Phrase.text_negated, List.length_cons]
          omega
        rw [split, scanFrom_sign whole position sign, length]
        have scanned := ih (position + 1) (some .sign) rest stops
        rw [Phrase.text_group, List.append_assoc, List.cons_append] at scanned
        rw [List.append_assoc, scanned]
        exact map_map_cons _ _ _
  | next front op operand ihFront ihOperand =>
    intro position last rest sign stops
    have symbol : ∀ c ∈ (op.symbol :: (operand.text ++ rest)).head?, Numeral.isPart c = false := by
      rintro c ⟨⟩
      exact Numeral.isPart_symbol op
    have length : position + (Phrase.next front op operand).text.length
        = position + front.text.length + 1 + operand.text.length := by
      simp only [Phrase.text_next, List.length_append, List.length_cons]
      omega
    rw [Phrase.text_next_append, ihFront position last _ sign symbol,
      scanFrom_operator whole op _ (Phrase.allowsSign_lastKind front), ihOperand _ _ rest stops,
      length, map_map_cons, map_map_append]
    rfl

/-- **The text of an expression is scanned** into its tokens and the mark of the end. -/
theorem scan_phrase (e : Phrase .expression) :
    scan e.text = .ok (e.tokens 0 ++ [⟨.finish, [], e.text.length⟩]) := by
  have scanned := scans e.text e 0 none [] rfl (by simp)
  rw [List.append_nil, Nat.zero_add] at scanned
  unfold scan
  rw [scanned, scanFrom]
  rfl

end Token

end InfixCalculator
