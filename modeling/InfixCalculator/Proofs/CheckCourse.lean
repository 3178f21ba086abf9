import InfixCalculator.Proofs.Acceptance
import InfixCalculator.Proofs.Separators

/-!
# The course of a check

A check passes over a text piece by piece (`Expression.Piece`, `Expression.Over`) and then accepts
it or stops (`Expression.Stops`, `Expression.exists_stops_of_check`). How it passes over a piece
depends on no more of the text ahead than its first character (`Expression.Over.of_head?`). What it
has passed over is a front part of a derivation (`Expression.Over.exists_front_of_start`), and holds
an opening parenthesis at the place of every group that is open (`Expression.Over.openings`).
-/

set_option autoImplicit false

namespace InfixCalculator

namespace Expression

/-! ## Pieces -/

/-- A minus is accepted as a sign at the start of a level, and nothing else where an operand is
expected. -/
theorem signFault?_eq_none {previous : Option Char} {c : Char} :
    signFault? previous c = none ↔ c = '-' ∧ (previous = none ∨ previous = some '(') := by
  unfold signFault?
  split
  · split <;> simp_all
  · split
    · simp_all
    · split <;> simp_all

/-- An operator symbol that is no sign follows an operator, or has no left operand. -/
theorem cause_of_signFault? {previous : Option Char} {c : Char} {cause : Cause}
    (found : signFault? previous c = some cause) :
    (∃ before, previous = some before ∧ cause = .operatorSequence before c)
      ∨ cause = .operandMissingBefore c := by
  unfold signFault? at found
  split at found
  · split at found <;> cases found
    exact .inr rfl
  · split at found
    · cases found
    · split at found <;> cases found
      · exact .inl ⟨_, rfl, rfl⟩
      · exact .inr rfl

/-- What a check passes over in one turn, in front of the text ahead. -/
inductive Piece : Progress → Text → Text → Progress → Prop where
  /-- An opening parenthesis. -/
  | opening {p : Progress} {ahead : Text} (expects : p.expectsOperand = true)
      (filled : ahead.head? ≠ some ')') :
      Piece p ['('] ahead (p.advance '(' (p.position :: p.openings) true)
  /-- The parenthesis that closes the innermost group. -/
  | closing {p : Progress} {ahead : Text} {opening : Nat} {openings : List Nat}
      (opened : p.openings = opening :: openings) (ended : p.expectsOperand = false) :
      Piece p [')'] ahead (p.advance ')' openings false)
  /-- A numeral. -/
  | numeral {p : Progress} {digits ahead : Text} (expects : p.expectsOperand = true)
      (valid : Numeral.Derives digits) (stops : ∀ c ∈ ahead.head?, Numeral.isPart c = false) :
      Piece p digits ahead ⟨p.position + digits.length, digits.getLast?, p.openings, false⟩
  /-- An operator behind an operand. -/
  | operator {p : Progress} {ahead : Text} (op : Operator) (ended : p.expectsOperand = false) :
      Piece p [op.symbol] ahead (p.advance op.symbol p.openings true)
  /-- A sign at the start of a level. -/
  | sign {p : Progress} {ahead : Text} (expects : p.expectsOperand = true)
      (start : p.previous = none ∨ p.previous = some '(') :
      Piece p ['-'] ahead (p.advance '-' p.openings true)

/-- What a check passes over in any number of turns. -/
inductive Over : Progress → Text → Text → Progress → Prop where
  /-- Nothing. -/
  | nothing {p : Progress} {ahead : Text} : Over p [] ahead p
  /-- A piece and what is passed over behind it. -/
  | piece {p q r : Progress} {first others ahead : Text}
      (passed : Piece p first (others ++ ahead) q)
      (behind : Over q others ahead r) : Over p (first ++ others) ahead r

/-- A check stops: what stands ahead, and the fault. -/
inductive Stops (whole : Text) (p : Progress) : Text → Fault → Prop where
  /-- The text ends inside a group. -/
  | unmatchedOpen {opening : Nat} {openings : List Nat}
      (opened : p.openings = opening :: openings) :
      Stops whole p [] (.located .unmatchedOpen whole opening)
  /-- The text ends where an operand is expected. -/
  | trailingOperator (closed : p.openings = []) (expects : p.expectsOperand = true) :
      Stops whole p [] (.located .trailingOperator whole (whole.length - 1))
  /-- A group follows an operand. -/
  | operatorMissingBeforeGroup {rest : Text} (ended : p.expectsOperand = false) :
      Stops whole p ('(' :: rest) (.located .operatorMissingBeforeGroup whole p.position)
  /-- A group has nothing in it. -/
  | emptyGroup {rest : Text} (expects : p.expectsOperand = true) :
      Stops whole p ('(' :: ')' :: rest) (.located .emptyGroup whole p.position)
  /-- No group is open that could be closed. -/
  | unmatchedClose {rest : Text} (closed : p.openings = []) :
      Stops whole p (')' :: rest) (.located .unmatchedClose whole p.position)
  /-- A group is closed where an operand is expected. -/
  | operandMissingBeforeClose {rest : Text} {opening : Nat} {openings : List Nat}
      (opened : p.openings = opening :: openings) (expects : p.expectsOperand = true) :
      Stops whole p (')' :: rest) (.located .operandMissingBeforeClose whole p.position)
  /-- A numeral follows an operand. -/
  | operatorMissingBeforeNumeral {c : Char} {rest : Text} (part : Numeral.isPart c = true)
      (ended : p.expectsOperand = false) :
      Stops whole p (c :: rest) (.located .operatorMissingBeforeNumeral whole p.position)
  /-- What starts as a numeral is none. -/
  | malformedNumeral {c : Char} {rest : Text} (part : Numeral.isPart c = true)
      (expects : p.expectsOperand = true)
      (malformed : Token.scanNumeral? (c :: rest) = none) :
      Stops whole p (c :: rest) (.located .malformedNumeral whole p.position)
  /-- An operator symbol stands where an operand is expected, and is no sign. -/
  | misplacedOperator {op : Operator} {rest : Text} {cause : Cause}
      (expects : p.expectsOperand = true)
      (found : signFault? p.previous op.symbol = some cause) :
      Stops whole p (op.symbol :: rest) (.located cause whole p.position)
  /-- A character starts no part of an expression. -/
  | stray {c : Char} {rest : Text} (noOpening : c ≠ '(') (noClosing : c ≠ ')')
      (noPart : Numeral.isPart c = false) (noSymbol : Operator.isSymbol c = false) :
      Stops whole p (c :: rest) (.located (strayFault c p.expectsOperand) whole p.position)

/-- **A check that fails** has passed over a front part of the text and stops behind it. -/
theorem exists_stops_of_check {whole rest : Text} {p : Progress} {fault : Fault}
    (refused : check whole p rest = .error fault) :
    ∃ passed ahead q, rest = passed ++ ahead ∧ Over p passed ahead q
      ∧ Stops whole q ahead fault := by
  have here {p : Progress} {ahead : Text} (stops : Stops whole p ahead fault) :
      ∃ passed behind q, ahead = passed ++ behind ∧ Over p passed behind q
        ∧ Stops whole q behind fault :=
    ⟨[], ahead, p, rfl, .nothing, stops⟩
  have further {p q : Progress} {first rest : Text} (passed : Piece p first rest q)
      (stops : ∃ passed ahead r, rest = passed ++ ahead ∧ Over q passed ahead r
        ∧ Stops whole r ahead fault) :
      ∃ passed ahead r, first ++ rest = passed ++ ahead ∧ Over p passed ahead r
        ∧ Stops whole r ahead fault := by
    obtain ⟨others, ahead, r, rfl, course, stops⟩ := stops
    exact ⟨first ++ others, ahead, r, (List.append_assoc _ _ _).symm, .piece passed course, stops⟩
  fun_induction check whole p rest with
  | case1 _ _ _ opened =>
    cases refused
    exact here (.unmatchedOpen opened)
  | case2 _ closed expects =>
    cases refused
    exact here (.trailingOperator closed expects)
  | case3 => cases refused
  | case4 _ _ ended =>
    cases refused
    exact here (.operatorMissingBeforeGroup (by simpa using ended))
  | case5 _ rest expects empty =>
    cases refused
    obtain ⟨rest, rfl⟩ := List.head?_eq_some_iff.1 empty
    exact here (.emptyGroup (by simpa using expects))
  | case6 _ _ expects filled ih =>
    exact further (.opening (by simpa using expects) filled) (ih refused)
  | case7 _ _ closed =>
    cases refused
    exact here (.unmatchedClose closed)
  | case8 _ _ _ _ opened expects =>
    cases refused
    exact here (.operandMissingBeforeClose opened expects)
  | case9 _ _ _ _ opened ended _ ih =>
    exact further (.closing opened (by simpa using ended)) (ih refused)
  | case10 _ _ _ _ _ part ended =>
    cases refused
    exact here (.operatorMissingBeforeNumeral part (by simpa using ended))
  | case11 _ _ _ _ _ part expects none =>
    cases refused
    exact here (.malformedNumeral part (by simpa using expects) (by rw [Token.scanNumeral?, none]))
  | case12 _ _ _ _ _ part expects _ _ found point =>
    cases refused
    refine here (.malformedNumeral part (by simpa using expects) ?_)
    rw [Token.scanNumeral?, found]
    exact if_pos point
  | case13 p c rest _ _ _ expects numeral after found noPoint ih =>
    have scanned : Token.scanNumeral? (c :: rest) = some (numeral, after) := by
      rw [Token.scanNumeral?, found]
      exact if_neg noPoint
    obtain ⟨same, valid, stops⟩ := Token.scanNumeral?_eq_some.1 scanned
    rw [same]
    exact further (.numeral (by simpa using expects) valid stops) (ih refused)
  | case14 p c rest _ _ _ symbol cause found =>
    cases refused
    obtain ⟨op, rfl⟩ := Operator.isSymbol_iff.1 symbol
    split at found
    · rename_i expects
      exact here (.misplacedOperator expects found)
    · cases found
  | case15 p c rest _ _ _ symbol none ih =>
    by_cases expects : p.expectsOperand = true
    · rw [dif_pos expects] at none
      obtain ⟨rfl, start⟩ := signFault?_eq_none.1 none
      exact further (.sign expects start) (ih refused)
    · obtain ⟨op, rfl⟩ := Operator.isSymbol_iff.1 symbol
      exact further (.operator op (by simpa using expects)) (ih refused)
  | case16 p c rest noOpening noClosing noPart noSymbol =>
    cases refused
    exact here (.stray noOpening noClosing (by simpa using noPart) (by simpa using noSymbol))

/-! ## Passing over pieces -/

variable {p q : Progress} {first passed ahead : Text}

/-- A check goes on behind a piece. -/
theorem Piece.check_append (whole : Text) (piece : Piece p first ahead q) :
    check whole p (first ++ ahead) = check whole q ahead := by
  cases piece with
  | opening expects filled => exact check_open whole filled expects
  | closing opened ended => exact check_close whole opened ended ahead
  | numeral expects valid stops => exact check_numeral whole valid stops expects
  | operator op ended => exact check_operator whole op ended ahead
  | sign expects start => exact check_sign whole start expects ahead

/-- A check goes on behind what it passes over. -/
theorem Over.check_append (whole : Text) (course : Over p passed ahead q) :
    check whole p (passed ++ ahead) = check whole q ahead := by
  induction course with
  | nothing => rfl
  | piece first _ ih => rw [List.append_assoc, first.check_append whole, ih]

/-- Of what stands ahead only the first character matters. -/
theorem Piece.of_head? (piece : Piece p first ahead q) {other : Text}
    (same : other.head? = ahead.head?) :
    Piece p first other q := by
  cases piece with
  | opening expects filled => exact .opening expects (same ▸ filled)
  | closing opened ended => exact .closing opened ended
  | numeral expects valid stops => exact .numeral expects valid (same ▸ stops)
  | operator op ended => exact .operator op ended
  | sign expects start => exact .sign expects start

/-- Of what stands ahead only the first character matters. -/
theorem Over.of_head? (course : Over p passed ahead q) {other : Text}
    (same : other.head? = ahead.head?) :
    Over p passed other q := by
  induction course with
  | nothing => exact .nothing
  | @piece _ _ _ _ others _ first _ ih =>
    refine .piece (first.of_head? ?_) (ih same)
    cases others with
    | nil => exact same
    | cons c others => rfl

theorem Piece.position_eq (piece : Piece p first ahead q) :
    q.position = p.position + first.length := by
  cases piece <;> rfl

theorem Over.position_eq (course : Over p passed ahead q) :
    q.position = p.position + passed.length := by
  induction course with
  | nothing => rfl
  | piece first _ ih => rw [ih, first.position_eq, List.length_append, Nat.add_assoc]

/-- What is passed over extends a front part of a derivation. -/
theorem Piece.exists_front (piece : Piece p first ahead q) {front : Phrase.Front}
    (fits : front.Fits p) :
    ∃ front' : Phrase.Front, front'.Fits q ∧ front'.text = front.text ++ first := by
  cases piece with
  | opening expects _ =>
    obtain ⟨outer, opening, rfl, depth, -⟩ := fits.exists_beforeOperand expects
    refine ⟨.beforeOperand (opening :: outer) .start, ⟨rfl, congrArg (· + 1) depth, rfl⟩, ?_⟩
    simp [Phrase.Front.text, Phrase.Front.outerText, Phrase.Opening.text]
  | closing opened ended =>
    obtain ⟨outer, level, rfl, depth⟩ := fits.exists_afterOperand (by simp [ended])
    rw [opened] at depth
    obtain ⟨opening, outer, rfl⟩ := List.exists_cons_of_length_eq_add_one depth.symm
    refine ⟨.afterOperand outer (opening.close (.group level)), ⟨rfl, Nat.succ.inj depth⟩, ?_⟩
    simp [Phrase.Front.text, Phrase.Front.outerText, Phrase.Opening.text_close]
  | numeral expects valid _ =>
    obtain ⟨outer, opening, rfl, depth, -⟩ := fits.exists_beforeOperand expects
    refine ⟨.afterOperand outer (opening.close (.numeral first valid)), ⟨rfl, depth⟩, ?_⟩
    simp [Phrase.Front.text, Phrase.Opening.text_close]
  | operator op ended =>
    obtain ⟨outer, level, rfl, depth⟩ := fits.exists_afterOperand (by simp [ended])
    refine ⟨.beforeOperand outer (.operator level op), ⟨rfl, depth, rfl⟩, ?_⟩
    simp [Phrase.Front.text, Phrase.Opening.text]
  | sign expects start =>
    obtain ⟨outer, opening, rfl, depth, previous⟩ := fits.exists_beforeOperand expects
    rw [previous] at start
    obtain ⟨rfl, -⟩ := start_of_signFault? (signFault?_eq_none.2 ⟨rfl, start⟩)
    refine ⟨.beforeOperand outer .sign, ⟨rfl, depth, rfl⟩, ?_⟩
    simp [Phrase.Front.text, Phrase.Opening.text]

theorem Over.exists_front (course : Over p passed ahead q) {front : Phrase.Front}
    (fits : front.Fits p) :
    ∃ front' : Phrase.Front, front'.Fits q ∧ front'.text = front.text ++ passed := by
  induction course generalizing front with
  | nothing => exact ⟨front, fits, (List.append_nil _).symm⟩
  | piece first _ ih =>
    obtain ⟨front', fits', text⟩ := first.exists_front fits
    obtain ⟨front'', fits'', text'⟩ := ih fits'
    exact ⟨front'', fits'', by rw [text', text, List.append_assoc]⟩

/-- What is passed over from the start is a front part of a derivation. -/
theorem Over.exists_front_of_start (course : Over .start passed ahead q) :
    ∃ front : Phrase.Front, front.Fits q ∧ front.text = passed :=
  course.exists_front (show Phrase.Front.Fits .start (.beforeOperand [] .start) from
    ⟨rfl, rfl, rfl⟩)

/-- What is passed over holds an opening parenthesis at the place of every group that is open. -/
theorem Piece.openings (piece : Piece p first ahead q) {before : Text}
    (place : p.position = before.length) (marked : ∀ o ∈ p.openings, before[o]? = some '(') :
    ∀ o ∈ q.openings, (before ++ first)[o]? = some '(' := by
  have kept : ∀ o ∈ p.openings, (before ++ first)[o]? = some '(' := by
    intro o member
    obtain ⟨inside, mark⟩ := List.getElem?_eq_some_iff.1 (marked o member)
    rw [List.getElem?_append_left inside, marked o member]
  cases piece with
  | opening expects _ => exact List.forall_mem_cons.2 ⟨by simp [place], kept⟩
  | closing opened ended =>
    rw [opened] at kept
    exact (List.forall_mem_cons.1 kept).2
  | numeral | operator | sign => exact kept

theorem Over.openings (course : Over p passed ahead q) {before : Text}
    (place : p.position = before.length) (marked : ∀ o ∈ p.openings, before[o]? = some '(') :
    ∀ o ∈ q.openings, (before ++ passed)[o]? = some '(' := by
  induction course generalizing before with
  | nothing => rwa [List.append_nil]
  | piece first _ ih =>
    have place' := first.position_eq
    rw [place, ← List.length_append] at place'
    rw [← List.append_assoc]
    exact ih place' (first.openings place marked)

end Expression

end InfixCalculator
