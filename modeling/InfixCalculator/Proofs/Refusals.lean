import InfixCalculator.Proofs.CheckCourse

/-!
# The first place where a text goes wrong

Every front part of a derivation can be completed: an operand is put where one is expected, and the
open groups are closed (`Phrase.Front.exists_derivable`). So what a check has passed over can be
completed to an accepted expression (`Expression.Over.completable`). Where it stops at a character
that is out of place, every check of a text with the same characters up to there stops too
(`Expression.Stops.check_ne_ok`).

A refusal is therefore placed at the first character that spoils the text, or inside a text that
something could still be added to (`Expression.validate_refuses_first`). A character that belongs to
no expression is reported by what stands in front of it: a check expects an operand exactly where no
operand has ended (`Expression.endsOperand_iff`).
-/

set_option autoImplicit false

namespace InfixCalculator

/-- The causes that lie in one character, whatever follows it. -/
def Cause.IsAtCharacter : Cause → Prop
  | operatorMissingBeforeGroup | operatorMissingBeforeNumeral | unmatchedClose
  | operandMissingBeforeClose | operandMissingBefore _ | operatorSequence _ _
  | unexpectedCharacter _ | unknownOperator _ => True
  | _ => False

/-- The causes that lie in what is missing behind the text. -/
def Cause.IsAtEnd : Cause → Prop
  | unmatchedOpen | trailingOperator => True
  | _ => False

theorem Cause.not_isAtEnd_of_isAtCharacter {cause : Cause} (atCharacter : cause.IsAtCharacter) :
    ¬cause.IsAtEnd := by
  cases cause <;> simp_all [Cause.IsAtCharacter, Cause.IsAtEnd]

/-! ## Front parts that can be completed -/

namespace Phrase

/-- The text of a phrase holds no blanks. -/
theorem isBlank_of_mem {role : Role} (phrase : Phrase role) :
    ∀ c ∈ phrase.text, Text.isBlank c = false := by
  induction phrase with
  | numeral text valid =>
    intro c member
    exact Expression.isBlank_of_isPart
      (Numeral.isPart_of_mem (Numeral.isNumeral_of_derives valid) member)
  | group inner ih => simpa [or_imp, forall_and] using ⟨by decide, ih, by decide⟩
  | first negated operand ih =>
    cases negated with
    | false => exact ih
    | true => exact List.forall_mem_cons.2 ⟨by decide, ih⟩
  | next front op operand ihFront ihOperand =>
    rw [text_next]
    exact List.forall_mem_append.2 ⟨ihFront,
      List.forall_mem_cons.2 ⟨by cases op <;> decide, ihOperand⟩⟩

namespace Front

/-- A front part that ends in an operand is completed by closing the groups that are open. -/
theorem derivable_of_afterOperand (outer : List Opening) (level : Phrase .expression) :
    Derivable ((afterOperand outer level).text ++ List.replicate outer.length ')') := by
  induction outer generalizing level with
  | nil => exact ⟨level, by simp [text, outerText]⟩
  | cons opening outer ih =>
    have closed := ih (opening.close (.group level))
    simpa [text, outerText, Opening.text_close, List.replicate_succ]
      using closed

/-- Every front part can be completed to an expression. -/
theorem exists_derivable (front : Front) : ∃ rest, Derivable (front.text ++ rest) := by
  cases front with
  | afterOperand outer level => exact ⟨_, derivable_of_afterOperand outer level⟩
  | beforeOperand outer opening =>
    let one : Phrase .operand := .numeral ['1'] (.whole (List.cons_ne_nil _ _) rfl)
    have ended := derivable_of_afterOperand outer (opening.close one)
    refine ⟨'1' :: List.replicate outer.length ')', ?_⟩
    simpa [one, text, Opening.text_close] using ended

/-- In front of an operand the last character is that of the opening. -/
theorem getLast?_beforeOperand (outer : List Opening) (opening : Opening) :
    (beforeOperand outer opening).text.getLast? = lastCharacter outer opening := by
  cases opening with
  | start =>
    cases outer with
    | nil => rfl
    | cons opening outer =>
      simp [text, outerText, Opening.text, lastCharacter]
  | sign => simp [text, Opening.text, lastCharacter]
  | operator front op => simp [text, Opening.text, lastCharacter]

/-- A front part in front of an operand ends in a symbol or an opening parenthesis, if it is not
empty. -/
theorem lastCharacter_cases (outer : List Opening) (opening : Opening) :
    ∀ c ∈ lastCharacter outer opening, Operator.isSymbol c = true ∨ (c = '(' ∧ outer ≠ []) := by
  intro c last
  cases opening with
  | start =>
    cases outer with
    | nil => cases last
    | cons =>
      cases last
      exact .inr ⟨rfl, List.cons_ne_nil _ _⟩
  | sign =>
    cases last
    exact .inl rfl
  | operator front op =>
    cases last
    exact .inl (Operator.isSymbol_iff.2 ⟨op, rfl⟩)

end Front

end Phrase

namespace Expression

variable {p q : Progress} {passed ahead : Text}

/-- A text is an accepted expression. -/
def Accepted (text : Text) : Prop := ∃ compact, validate text = .ok compact

/-- Some text behind it makes a front part an accepted expression. -/
def Completable (front : Text) : Prop := ∃ rest, Accepted (front ++ rest)

theorem accepted_of_derivable {text : Text} (derivable : Phrase.Derivable text) :
    Accepted text := by
  obtain ⟨e, rfl⟩ := derivable
  have filled := e.isBlank_of_mem
  have compact := Text.compact_of_forall filled
  exact ⟨_, validate_of_derivable (not_splitsNumeral_of_filled filled) ⟨e, compact.symm⟩⟩

theorem Completable.of_append {front rest : Text} (completable : Completable (front ++ rest)) :
    Completable front := by
  obtain ⟨behind, accepted⟩ := completable
  exact ⟨rest ++ behind, by rwa [List.append_assoc] at accepted⟩

/-- **What a check has passed over** can be completed to an accepted expression. -/
theorem Over.completable (course : Over .start passed ahead q) : Completable passed := by
  obtain ⟨front, -, rfl⟩ := course.exists_front_of_start
  obtain ⟨rest, derivable⟩ := front.exists_derivable
  exact ⟨rest, accepted_of_derivable derivable⟩

/-- A front part that no check goes beyond cannot be completed. -/
theorem not_completable_of_check {front : Text} (filled : ∀ c ∈ front, Text.isBlank c = false)
    (refused : ∀ whole rest, check whole .start (front ++ rest) ≠ .ok ()) : ¬Completable front := by
  rintro ⟨rest, compact, valid⟩
  obtain ⟨-, -, checked, -⟩ := validate_eq_ok.1 valid
  rw [Text.compact_append, Text.compact_of_forall filled] at checked
  exact refused _ _ checked

/-! ## Operands that have ended -/

/-- A text ends in an operand. -/
def EndsOperand (text : Text) : Prop :=
  ∃ before, ∃ operand : Phrase .operand, text = before ++ operand.text

/-- An operand ends in a part of a numeral or a closing parenthesis. -/
theorem exists_getLast?_operand (operand : Phrase .operand) :
    ∃ c, operand.text.getLast? = some c ∧ (Numeral.isPart c = true ∨ c = ')') := by
  cases operand with
  | numeral text valid =>
    have numeral := Numeral.isNumeral_of_derives valid
    have last := List.getLast?_eq_some_getLast (Numeral.ne_nil_of_isNumeral numeral)
    exact ⟨_, last, .inl (Numeral.isPart_of_mem numeral (List.getLast_mem _))⟩
  | group inner => exact ⟨')', List.getLast?_concat, .inr rfl⟩

/-- An expression ends in an operand. -/
theorem endsOperand_text (e : Phrase .expression) : EndsOperand e.text := by
  cases e with
  | first negated operand =>
    cases negated with
    | false => exact ⟨[], operand, rfl⟩
    | true => exact ⟨['-'], operand, rfl⟩
  | next front op operand => exact ⟨front.text ++ [op.symbol], operand, by simp⟩

/-- A check expects an operand exactly where the front part does not end in one. -/
theorem endsOperand_iff {front : Phrase.Front} (fits : front.Fits p) :
    EndsOperand front.text ↔ p.expectsOperand = false := by
  cases front with
  | afterOperand outer level =>
    obtain ⟨before, operand, same⟩ := endsOperand_text level
    refine ⟨fun _ => fits.1, fun _ => ⟨Phrase.Front.outerText outer ++ before, operand, ?_⟩⟩
    rw [Phrase.Front.text, same, List.append_assoc]
  | beforeOperand outer opening =>
    rw [fits.1]
    refine ⟨?_, fun ended => (by cases ended)⟩
    rintro ⟨before, operand, same⟩
    obtain ⟨c, last, ends⟩ := exists_getLast?_operand operand
    have last' := Phrase.Front.getLast?_beforeOperand outer opening
    rw [same, List.getLast?_append, last, Option.some_or] at last'
    rcases Phrase.Front.lastCharacter_cases outer opening c last'.symm with symbol | ⟨rfl, -⟩
    · obtain ⟨op, rfl⟩ := Operator.isSymbol_iff.1 symbol
      rw [Numeral.isPart_symbol] at ends
      cases op <;> simp_all [Operator.symbol]
    · rcases ends with part | same
      · cases part
      · cases same

/-! ## Characters that are out of place -/

/-- A character at fault stays at fault whatever follows it. -/
theorem Stops.check_ne_ok {whole rest : Text} {c : Char} {fault : Fault}
    (stops : Stops whole q (c :: rest) fault) (atCharacter : fault.cause.IsAtCharacter)
    (whole' rest' : Text) : check whole' q (c :: rest') ≠ .ok () := by
  cases stops with
  | operatorMissingBeforeGroup ended => simp [check, ended]
  | emptyGroup | malformedNumeral => cases atCharacter
  | unmatchedClose closed =>
    rw [check, if_neg (by decide), if_pos rfl]
    simp [closed]
  | operandMissingBeforeClose opened expects =>
    rw [check, if_neg (by decide), if_pos rfl]
    simp [opened, expects]
  | operatorMissingBeforeNumeral part ended =>
    obtain ⟨noOpening, noClosing⟩ := Numeral.ne_parenthesis_of_isPart part
    rw [check, if_neg noOpening, if_neg noClosing, if_pos part, ended]
    simp
  | @misplacedOperator op _ _ expects found =>
    obtain ⟨noOpening, noClosing⟩ := op.symbol_ne_parenthesis
    rw [check, if_neg noOpening, if_neg noClosing, Numeral.isPart_symbol,
      Operator.isSymbol_iff.2 ⟨op, rfl⟩, expects]
    simp [found]
  | stray noOpening noClosing noPart noSymbol =>
    rw [check, if_neg noOpening, if_neg noClosing, noPart, noSymbol]
    simp

/-! ## Refusals -/

/-- A text is refused for a cause at a place of it. -/
structure RefusedAt (text : Text) (cause : Cause) (place : Nat) : Prop where
  /-- The place lies in the text. -/
  inside : place < text.length
  /-- What stands in front of the place can be completed. -/
  completable : Completable (text.take place)
  /-- Together with a character at fault it cannot. -/
  character : cause.IsAtCharacter → ¬Completable (text.take (place + 1))
  /-- Together with an empty group it cannot. -/
  emptyGroup : cause = .emptyGroup → ¬Completable (text.take (place + 2))
  /-- A text that only ends too early can be completed itself. -/
  ending : cause.IsAtEnd → Completable text
  /-- A character that starts no part of an expression is unexpected when it is alphanumeric or an
  underscore and no operand ends in front of it; otherwise it is an unknown operator. -/
  stray : ∀ c, text[place]? = some c → Numeral.isPart c = false → c ≠ '(' → c ≠ ')' →
    Operator.isSymbol c = false →
    ((Text.isAlphanumeric c = true ∨ c = '_') ∧ ¬EndsOperand (text.take place) →
      cause = .unexpectedCharacter c)
    ∧ (¬((Text.isAlphanumeric c = true ∨ c = '_') ∧ ¬EndsOperand (text.take place)) →
      cause = .unknownOperator [c])

theorem isAtCharacter_of_signFault? {previous : Option Char} {c : Char} {cause : Cause}
    (found : signFault? previous c = some cause) : cause.IsAtCharacter := by
  rcases cause_of_signFault? found with ⟨before, -, rfl⟩ | rfl <;> trivial

theorem isAtCharacter_strayFault (c : Char) (expects : Bool) :
    (strayFault c expects).IsAtCharacter := by
  unfold strayFault
  split <;> trivial

/-- Where text stands ahead, the fault is placed there; it lies in a character, an empty group, or a
numeral. -/
theorem Stops.fault_cons {whole rest : Text} {q : Progress} {c : Char} {fault : Fault}
    (stops : Stops whole q (c :: rest) fault) :
    fault.location = some ⟨whole, q.position⟩
      ∧ (fault.cause.IsAtCharacter
        ∨ (fault.cause = .emptyGroup ∧ ∃ others, c :: rest = '(' :: ')' :: others)
        ∨ fault.cause = .malformedNumeral) := by
  cases stops with
  | emptyGroup => exact ⟨rfl, .inr (.inl ⟨rfl, _, rfl⟩)⟩
  | malformedNumeral => exact ⟨rfl, .inr (.inr rfl)⟩
  | misplacedOperator _ found => exact ⟨rfl, .inl (isAtCharacter_of_signFault? found)⟩
  | stray => exact ⟨rfl, .inl (isAtCharacter_strayFault _ _)⟩
  | operatorMissingBeforeGroup | unmatchedClose | operandMissingBeforeClose
  | operatorMissingBeforeNumeral =>
    exact ⟨rfl, .inl trivial⟩

/-- Only a character that starts no part of an expression is reported as one. -/
theorem Stops.cause_of_stray {whole rest : Text} {q : Progress} {c : Char} {fault : Fault}
    (stops : Stops whole q (c :: rest) fault) (noPart : Numeral.isPart c = false)
    (noOpening : c ≠ '(')
    (noClosing : c ≠ ')') (noSymbol : Operator.isSymbol c = false) :
    fault.cause = strayFault c q.expectsOperand := by
  cases stops with
  | operatorMissingBeforeGroup | emptyGroup => exact absurd rfl noOpening
  | unmatchedClose | operandMissingBeforeClose => exact absurd rfl noClosing
  | operatorMissingBeforeNumeral part | malformedNumeral part =>
    rw [part] at noPart
    cases noPart
  | @misplacedOperator op =>
    rw [Operator.isSymbol_iff.2 ⟨op, rfl⟩] at noSymbol
    cases noSymbol
  | stray => rfl

section

variable {whole rest : Text} {q : Progress} {fault : Fault} {passed : Text}

/-- **A text that goes wrong at a character** is refused at its place. -/
theorem Stops.refusedAt {c : Char} (filled : ∀ d ∈ passed ++ c :: rest, Text.isBlank d = false)
    (course : Over .start passed (c :: rest) q) (stops : Stops whole q (c :: rest) fault) :
    RefusedAt (passed ++ c :: rest) fault.cause passed.length := by
  -- whatever stands behind the character, a check comes to it in the same way
  have comes (whole' rest' : Text) :
      check whole' .start (passed ++ c :: rest') = check whole' q (c :: rest') := by
    have same : (c :: rest').head? = (c :: rest).head? := rfl
    exact (course.of_head? same).check_append whole'
  have blocked {n : Nat} (refused : ∀ whole' rest',
      check whole' .start ((passed ++ c :: rest).take n ++ rest') ≠ .ok ()) :
      ¬Completable ((passed ++ c :: rest).take n) :=
    not_completable_of_check (fun d member => filled d (List.mem_of_mem_take member)) refused
  obtain ⟨-, kinds⟩ := stops.fault_cons
  refine ⟨by simp, ?_, fun atCharacter => blocked fun whole' rest' => ?_,
    fun empty => blocked fun whole' rest' => ?_, fun ending => ?_,
    fun d found noPart noOpening noClosing noSymbol => ?_⟩
  · rw [List.take_left]
    exact course.completable
  · have front : (passed ++ c :: rest).take (passed.length + 1) = passed ++ [c] := by
      rw [List.take_length_add_append]
      rfl
    rw [front, List.append_assoc, List.singleton_append, comes]
    exact stops.check_ne_ok atCharacter whole' rest'
  · rw [empty] at kinds
    rcases kinds with atCharacter | ⟨-, others, same⟩ | malformed
    · exact atCharacter.elim
    · have front : (passed ++ c :: rest).take (passed.length + 2) = passed ++ ['(', ')'] := by
        rw [same, List.take_length_add_append]
        rfl
      obtain ⟨rfl, -⟩ := List.cons.inj same
      rw [front, List.append_assoc, List.cons_append, comes, check, if_pos rfl]
      split <;> simp
    · cases malformed
  · rcases kinds with atCharacter | ⟨empty, -⟩ | malformed
    · exact (Cause.not_isAtEnd_of_isAtCharacter atCharacter ending).elim
    · rw [empty] at ending
      exact ending.elim
    · rw [malformed] at ending
      exact ending.elim
  · obtain rfl : c = d := by simpa using found
    obtain ⟨front, fits, text⟩ := course.exists_front_of_start
    have ends := endsOperand_iff fits
    rw [text] at ends
    rw [stops.cause_of_stray noPart noOpening noClosing noSymbol, List.take_left, ends, strayFault]
    simp only [Bool.and_eq_true, Bool.or_eq_true, decide_eq_true_eq, Bool.not_eq_false]
    exact ⟨fun unexpected => if_pos unexpected, fun unknown => if_neg unknown⟩

/-- A place inside a text at whose end a check stops is as good as its end: a text that can be
completed is refused there, if no stray character stands there. -/
theorem refusedAt_of_mark {place : Nat} {c : Char} {cause : Cause}
    (completable : Completable passed) (ending : cause.IsAtEnd) (found : passed[place]? = some c)
    (known : c = '(' ∨ Operator.isSymbol c = true) : RefusedAt passed cause place := by
  obtain ⟨inside, -⟩ := List.getElem?_eq_some_iff.1 found
  refine ⟨inside, ?_, fun atCharacter =>
    (Cause.not_isAtEnd_of_isAtCharacter atCharacter ending).elim, ?_,
    fun _ => completable, fun d found' _ noOpening _ noSymbol => ?_⟩
  · rw [← List.take_append_drop place passed] at completable
    exact completable.of_append
  · rintro rfl
    exact ending.elim
  · obtain rfl : c = d := Option.some.inj (found.symm.trans found')
    rcases known with rfl | symbol
    · exact absurd rfl noOpening
    · rw [symbol] at noSymbol
      cases noSymbol

/-- **At the end of a text** a check stops for the innermost open group, or for an operator in front
of the end. -/
theorem Stops.exists_mark (nonempty : passed ≠ []) (course : Over .start passed [] q)
    (stops : Stops passed q [] fault) :
    ∃ (place : Nat) (c : Char), fault.location = some ⟨passed, place⟩ ∧ passed[place]? = some c
      ∧ ((fault.cause = .unmatchedOpen ∧ c = '(')
        ∨ (fault.cause = .trailingOperator ∧ Operator.isSymbol c = true)) := by
  cases stops with
  | @unmatchedOpen opening openings opened =>
    have marked : ∀ o ∈ q.openings, passed[o]? = some '(' := by
      have none : ∀ o ∈ Progress.start.openings, ([] : Text)[o]? = some '(' := List.forall_mem_nil _
      exact course.openings rfl none
    exact ⟨opening, '(', rfl, marked opening (by simp [opened]), .inl ⟨rfl, rfl⟩⟩
  | trailingOperator closed expects =>
    obtain ⟨front, fits, text⟩ := course.exists_front_of_start
    obtain ⟨outer, opening, rfl, depth, -⟩ := fits.exists_beforeOperand expects
    rw [closed] at depth
    obtain rfl := List.length_eq_zero_iff.1 depth.symm
    have last := Phrase.Front.getLast?_beforeOperand [] opening
    rw [text, List.getLast?_eq_some_getLast nonempty] at last
    have found : passed[passed.length - 1]? = some (passed.getLast nonempty) := by
      rw [← List.getLast?_eq_getElem?, List.getLast?_eq_some_getLast nonempty]
    have symbol := (Phrase.Front.lastCharacter_cases [] opening _ last.symm).resolve_right
      fun group => group.2 rfl
    exact ⟨passed.length - 1, _, rfl, found, .inr ⟨rfl, symbol⟩⟩

/-- **A text that goes wrong at its end** is refused at the innermost open group or at its last
character. -/
theorem Stops.exists_refusedAt (nonempty : passed ≠ []) (course : Over .start passed [] q)
    (stops : Stops passed q [] fault) :
    ∃ place : Nat, fault.location = some ⟨passed, place⟩ ∧ RefusedAt passed fault.cause place := by
  obtain ⟨place, c, location, found, kinds⟩ := stops.exists_mark nonempty course
  refine ⟨place, location, ?_⟩
  rcases kinds with ⟨cause, rfl⟩ | ⟨cause, symbol⟩
  · rw [cause]
    exact refusedAt_of_mark course.completable trivial found (.inl rfl)
  · rw [cause]
    exact refusedAt_of_mark course.completable trivial found (.inr symbol)

end

/-- What is not blank is not empty without its blanks. -/
theorem compact_ne_nil_of_strip {text : Text} (filled : text.strip ≠ []) : text.compact ≠ [] := by
  intro empty
  have blank : text.dropWhile Text.isBlank = [] :=
    List.dropWhile_eq_nil_iff.2 fun c member => by
      simpa using List.filter_eq_nil_iff.1 empty c member
  exact filled (by rw [Text.strip, blank]; rfl)

/-- A refusal with a place in the text without blanks comes from the check of that text. -/
theorem check_of_validate {s : Text} {cause : Cause} {position : Int}
    (refused : validate s = .error ⟨cause, some ⟨s.compact, position⟩⟩) :
    s.compact ≠ [] ∧ check s.compact .start s.compact
      = .error ⟨cause, some ⟨s.compact, position⟩⟩ := by
  obtain ⟨-, same⟩ | ⟨_, found, same⟩ | ⟨nonempty, checked⟩ := cases_of_validate_error refused
  · cases same
  · -- the place would be in the text with its blanks, but without blanks no numeral is split
    injection same with _ location
    injection location with location
    injection location with same
    have filled : ∀ c ∈ s, Text.isBlank c = false := by
      rw [← same]
      exact fun c member => (Text.mem_compact.1 member).2
    rw [blankInNumeral?_eq_none.2 (not_splitsNumeral_of_filled filled)] at found
    cases found
  · exact ⟨compact_ne_nil_of_strip nonempty, checked⟩

/-- **Validation reports the first place where a text goes wrong**, if it reports one in the text
without its blanks: what stands in front of the place can be completed, and what ends with the
character at fault cannot. -/
theorem validate_refuses_first {s : Text} {cause : Cause} {position : Int}
    (refused : validate s = .error ⟨cause, some ⟨s.compact, position⟩⟩) :
    ∃ place : Nat, position = place ∧ RefusedAt s.compact cause place := by
  obtain ⟨nonempty, checked⟩ := check_of_validate refused
  have filled : ∀ c ∈ s.compact, Text.isBlank c = false :=
    fun c member => (Text.mem_compact.1 member).2
  obtain ⟨passed, ahead, q, whole, course, stops⟩ := exists_stops_of_check checked
  rw [whole] at nonempty filled stops ⊢
  cases ahead with
  | nil =>
    rw [List.append_nil] at nonempty stops ⊢
    obtain ⟨place, location, refusal⟩ := stops.exists_refusedAt nonempty course
    injection location with location
    injection location with _ same
    exact ⟨place, same, refusal⟩
  | cons c rest =>
    obtain ⟨location, -⟩ := stops.fault_cons
    injection location with location
    injection location with _ same
    have place := course.position_eq
    rw [Progress.start, Nat.zero_add] at place
    exact ⟨passed.length, by rw [same, place], stops.refusedAt filled course⟩

/-- A text to which it applies: a number that is no digit stands behind a group, in front of more
that is wrong. -/
theorem validate_refuses_first_stray :
    let s : Text := "( 1 -2) ² + (".toList
    validate s = .error ⟨.unknownOperator ['²'], some ⟨s.compact, 5⟩⟩
      ∧ ∃ place : Nat, (5 : Int) = place ∧ RefusedAt s.compact (.unknownOperator ['²']) place := by
  have refused : validate "( 1 -2) ² + (".toList
      = .error ⟨.unknownOperator ['²'], some ⟨Text.compact "( 1 -2) ² + (".toList, 5⟩⟩ := by
        decide +kernel
  exact ⟨refused, validate_refuses_first refused⟩

end Expression

end InfixCalculator
