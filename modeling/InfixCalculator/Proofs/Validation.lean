import InfixCalculator.Expression.Phrase
import InfixCalculator.Expression.Validation
import InfixCalculator.Proofs.Literals

/-!
# What validation accepts is derivable

While an expression is checked from left to right, what has been passed is a front part of a
derivation (`Phrase.Front`): for every group that is still open, and for the level inside the
innermost one, what stands in front of the next operand (`Phrase.Opening`), or the part of the level
that ends in an operand.

The invariant ties a front part to the progress of the check: as many groups are open, an operand is
expected or not, and the last character passed is the one that a sign is recognised by. Every
character that the check accepts extends the front part, so an accepted text is derivable
(`Expression.derivable_of_validate`).
-/

set_option autoImplicit false

namespace InfixCalculator

/-! ## Scanned numerals -/

theorem Numeral.derives_of_scan {text numeral rest : Text} (h : scan text = some (numeral, rest)) :
    Derives numeral := by
  have digits : (text.takeWhile Char.isDigit).all Char.isDigit = true := List.all_takeWhile
  unfold scan at h
  dsimp only at h
  generalize text.takeWhile Char.isDigit = whole at digits h
  split at h
  · rename_i after _
    have fraction : (after.takeWhile Char.isDigit).all Char.isDigit = true := List.all_takeWhile
    split at h
    · cases h
    · rename_i some
      cases h
      cases whole with
      | nil => exact .fraction (fun none => some ⟨rfl, none⟩) fraction
      | cons c whole => exact .pointed (by simp) digits fraction
  · split at h
    · cases h
    · rename_i nonempty
      cases h
      exact .whole nonempty digits

/-! ## Front parts of derivations -/

namespace Phrase

/-- What stands in front of an operand, at the level of the operand. -/
inductive Opening where
  /-- Nothing. -/
  | start
  /-- A sign. -/
  | sign
  /-- An operator and what it has to its left. -/
  | operator (front : Phrase .expression) (op : Operator)

namespace Opening

/-- The text of an opening. -/
def text : Opening → Text
  | start => []
  | sign => ['-']
  | operator front op => front.text ++ [op.symbol]

/-- The expression that an operand makes of an opening. -/
def close : Opening → Phrase .operand → Phrase .expression
  | start, operand => first false operand
  | sign, operand => first true operand
  | operator front op, operand => next front op operand

theorem text_close (opening : Opening) (operand : Phrase .operand) :
    (opening.close operand).text = opening.text ++ operand.text := by
  cases opening with
  | start => rfl
  | sign => rfl
  | operator front op => simp [close, text]

end Opening

/-- A front part of an expression. -/
inductive Front where
  /-- An operand is expected; `outer` are the openings of the groups that are open, the innermost
  first. -/
  | beforeOperand (outer : List Opening) (opening : Opening)
  /-- An operand ends the front part. -/
  | afterOperand (outer : List Opening) (level : Phrase .expression)

namespace Front

/-- The text of the groups that are open. -/
def outerText : List Opening → Text
  | [] => []
  | opening :: outer => outerText outer ++ opening.text ++ ['(']

/-- The text of a front part. -/
def text : Front → Text
  | beforeOperand outer opening => outerText outer ++ opening.text
  | afterOperand outer level => outerText outer ++ level.text

/-- The character that an opening ends with; at the start of a level that is the parenthesis of the
group. -/
def lastCharacter (outer : List Opening) : Opening → Option Char
  | .start => if outer = [] then none else some '('
  | .sign => some '-'
  | .operator _ op => some op.symbol

/-- A front part is what a check has passed when it has come this far. -/
def Fits (p : Expression.Progress) : Front → Prop
  | beforeOperand outer opening =>
    p.expectsOperand = true ∧ p.openings.length = outer.length
      ∧ p.previous = lastCharacter outer opening
  | afterOperand outer _ => p.expectsOperand = false ∧ p.openings.length = outer.length

/-- Where an operand is expected, the front part ends in an opening. -/
theorem Fits.exists_beforeOperand {p : Expression.Progress} {front : Front} (fits : front.Fits p)
    (expects : p.expectsOperand = true) :
    ∃ outer opening, front = beforeOperand outer opening ∧ p.openings.length = outer.length
      ∧ p.previous = lastCharacter outer opening := by
  cases front with
  | beforeOperand outer opening => exact ⟨outer, opening, rfl, fits.2⟩
  | afterOperand outer level => rw [fits.1] at expects; cases expects

/-- Where no operand is expected, the front part ends in one. -/
theorem Fits.exists_afterOperand {p : Expression.Progress} {front : Front} (fits : front.Fits p)
    (expects : ¬p.expectsOperand = true) :
    ∃ outer level, front = afterOperand outer level ∧ p.openings.length = outer.length := by
  cases front with
  | beforeOperand outer opening => exact absurd fits.1 expects
  | afterOperand outer level => exact ⟨outer, level, rfl, fits.2⟩

end Front

end Phrase

/-! ## Signs -/

namespace Expression

/-- Where an operand is expected, an operator symbol is accepted only as a sign at the start of a
level. -/
theorem start_of_signFault? {outer : List Phrase.Opening} {opening : Phrase.Opening} {c : Char}
    (none : signFault? (Phrase.Front.lastCharacter outer opening) c = none) :
    opening = .start ∧ c = '-' := by
  have symbol (before : Char) (h : signFault? (some before) c = Option.none) :
      c = '-' ∧ before = '(' := by
    unfold signFault? at h
    dsimp only at h
    split at h
    · assumption
    · split at h <;> cases h
  cases opening with
  | start =>
    refine ⟨rfl, ?_⟩
    change signFault? (if outer = [] then Option.none else some '(') c = Option.none at none
    by_cases outermost : outer = []
    · rw [if_pos outermost] at none
      unfold signFault? at none
      dsimp only at none
      split at none
      · assumption
      · cases none
    · rw [if_neg outermost] at none
      exact (symbol _ none).1
  | sign => exact absurd (symbol _ none).2 (by decide)
  | operator front op => exact absurd (symbol _ none).2 (by cases op <;> decide)

/-! ## The check -/

/-- **An accepted text completes its front part.** Whatever derivation the passed characters belong
to, the rest of an accepted text completes it. -/
theorem derivable_of_check {whole rest : Text} {p : Progress}
    (accepted : check whole p rest = .ok ()) (front : Phrase.Front) (fits : front.Fits p) :
    Phrase.Derivable (front.text ++ rest) := by
  fun_induction check whole p rest generalizing front with
  | case3 p none expects =>
    obtain ⟨outer, level, rfl, depth⟩ := fits.exists_afterOperand expects
    rw [none, List.length_nil] at depth
    obtain rfl := List.length_eq_zero_iff.1 depth.symm
    exact ⟨level, by simp [Phrase.Front.text, Phrase.Front.outerText]⟩
  | case6 p rest expects _ ih =>
    obtain ⟨outer, opening, rfl, depth, _⟩ := fits.exists_beforeOperand (by simpa using expects)
    have completed := ih accepted (.beforeOperand (opening :: outer) .start)
      ⟨rfl, congrArg (· + 1) depth, rfl⟩
    simpa [Phrase.Front.text, Phrase.Front.outerText, Phrase.Opening.text] using completed
  | case9 p rest position openings opened expects _ ih =>
    obtain ⟨outer, level, rfl, depth⟩ := fits.exists_afterOperand expects
    cases outer with
    | nil => rw [opened] at depth; cases depth
    | cons opening outer =>
      rw [opened] at depth
      have completed := ih accepted (.afterOperand outer (opening.close (.group level)))
        ⟨rfl, Nat.succ.inj depth⟩
      simpa [Phrase.Front.text, Phrase.Front.outerText, Phrase.Opening.text_close, Phrase.text]
        using completed
  | case13 p c rest _ _ _ expects numeral after scanned _ ih =>
    obtain ⟨outer, opening, rfl, depth, _⟩ := fits.exists_beforeOperand (by simpa using expects)
    have valid := Numeral.derives_of_scan scanned
    have completed := ih accepted (.afterOperand outer (opening.close (.numeral numeral valid)))
      ⟨rfl, depth⟩
    rw [← Numeral.append_of_scan scanned]
    simpa [Phrase.Front.text, Phrase.Opening.text_close, Phrase.text] using completed
  | case15 p c rest _ _ _ symbol none ih =>
    by_cases expects : p.expectsOperand = true
    · -- only a sign is accepted here
      obtain ⟨outer, opening, rfl, depth, previous⟩ := fits.exists_beforeOperand expects
      rw [dif_pos expects, previous] at none
      obtain ⟨rfl, rfl⟩ := start_of_signFault? none
      have completed := ih accepted (.beforeOperand outer .sign) ⟨rfl, depth, rfl⟩
      simpa [Phrase.Front.text, Phrase.Opening.text] using completed
    · obtain ⟨outer, level, rfl, depth⟩ := fits.exists_afterOperand expects
      obtain ⟨op, rfl⟩ := Operator.isSymbol_iff.1 symbol
      have completed := ih accepted (.beforeOperand outer (.operator level op)) ⟨rfl, depth, rfl⟩
      simpa [Phrase.Front.text, Phrase.Opening.text] using completed
  | case1 | case2 | case4 | case5 | case7 | case8 | case10 | case11 | case12 | case14 | case16 =>
    cases accepted

/-- What is accepted passes every check, and is returned without its blanks. -/
theorem validate_eq_ok {expression compact : Text} :
    validate expression = .ok compact ↔
      expression.strip ≠ [] ∧ blankInNumeral? 0 expression = none
        ∧ check expression.compact .start expression.compact = .ok ()
        ∧ compact = expression.compact := by
  constructor
  · intro accepted
    unfold validate at accepted
    split at accepted
    · cases accepted
    · rename_i filled
      split at accepted
      · cases accepted
      · rename_i whole
        dsimp only at accepted
        split at accepted
        · cases accepted
        · rename_i checked
          cases accepted
          exact ⟨filled, whole, checked, rfl⟩
  · rintro ⟨filled, whole, checked, rfl⟩
    simp only [validate, if_neg filled, whole, checked]

/-- An expression is refused because it is empty, because blanks split a numeral, or by the check of
it without its blanks. -/
theorem cases_of_validate_error {expression : Text} {fault : Fault}
    (refused : validate expression = .error fault) :
    (expression.strip = [] ∧ fault = .unlocated .emptyExpression)
      ∨ (∃ position, blankInNumeral? 0 expression = some position
        ∧ fault = .located .blankInNumeral expression position)
      ∨ (expression.strip ≠ []
        ∧ check expression.compact .start expression.compact = .error fault) := by
  unfold validate at refused
  split at refused
  · rename_i empty
    cases refused
    exact .inl ⟨empty, rfl⟩
  · rename_i filled
    split at refused
    · rename_i position found
      cases refused
      exact .inr (.inl ⟨position, found, rfl⟩)
    · dsimp only at refused
      split at refused
      · rename_i checked
        cases refused
        exact .inr (.inr ⟨filled, checked⟩)
      · cases refused

/-- **An accepted expression is derivable**, and what is returned is the expression without its
blanks. -/
theorem derivable_of_validate {expression compact : Text}
    (accepted : validate expression = .ok compact) :
    compact = expression.compact ∧ Phrase.Derivable compact := by
  obtain ⟨-, -, checked, rfl⟩ := validate_eq_ok.1 accepted
  exact ⟨rfl, derivable_of_check checked (.beforeOperand [] .start) ⟨rfl, rfl, rfl⟩⟩

end Expression

end InfixCalculator
