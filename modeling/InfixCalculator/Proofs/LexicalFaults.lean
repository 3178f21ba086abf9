import InfixCalculator.Proofs.CheckCourse

/-!
# Lexical faults

A check of a text and a scan of it into tokens recognise the same numerals and the same characters,
each in its own way. A check remembers whether an operand is expected and the character before; a
scan looks at the kind of the last token. On a text without blanks the two say the same at every
piece (`Expression.Agrees`, `Expression.Over.scans`), also behind a sign, which a scan may take
together with a numeral.

So a text that validation accepts is scanned into tokens, and when validation stops at a character
or a numeral that belongs to no expression, a scan fails with the very same fault
(`Expression.scan_of_validate`).
-/

set_option autoImplicit false

namespace InfixCalculator

/-- The causes that lie in what is no numeral and no symbol. -/
def Cause.IsLexical : Cause → Prop
  | unknownOperator _ | unexpectedCharacter _ | malformedNumeral => True
  | _ => False

namespace Token

/-- Behind an operand no minus is a sign. -/
theorem allowsSign_of_endsOperand {last : Option Kind} (ended : endsOperand last = true) :
    allowsSign last = false := by
  cases last with
  | none => cases ended
  | some kind => cases kind <;> simp_all [endsOperand, allowsSign]

/-- In front of text without blanks a scan goes wrong behind a sign as it does when the sign is a
token of its own. -/
theorem scanFrom_minus_error (whole : Text) (position : Nat) {last : Option Kind}
    (sign : allowsSign last = true) {ahead : Text} (filled : ∀ c ∈ ahead, Text.isBlank c = false)
    {fault : Fault} (failed : scanFrom whole (position + 1) (some .sign) ahead = .error fault) :
    scanFrom whole position last ('-' :: ahead) = .error fault := by
  have compact : ahead.compact = ahead := Text.compact_of_forall filled
  have skips : ahead.dropWhile isSeparator = ahead := compact ▸ dropWhile_compact ahead
  have separators : BlanksSeparate ahead := by
    intro c member blank
    rw [filled c member] at blank
    cases blank
  have scanned := scanFrom_minus_compact whole position sign separators
    (Expression.not_splitsNumeral_of_filled filled)
  rw [compact, skips] at scanned
  rw [scanned]
  by_cases starts : startsNumeral ahead = true
  · rw [if_pos starts]
    cases found : scanNumeral? ahead with
    | none =>
      rw [scanFrom_malformed whole (position + 1) (some .sign) starts found] at failed
      exact failed
    | some both =>
      obtain ⟨numeral, after⟩ := both
      obtain ⟨same, valid, stops⟩ := scanNumeral?_eq_some.1 found
      rw [same, scanFrom_numeral whole valid stops] at failed
      have compact' : after.compact = after :=
        Text.compact_of_forall fun c member =>
          filled c (by rw [same]; exact List.mem_append_right _ member)
      dsimp only
      rw [compact']
      cases behind : scanFrom whole (position + 1 + numeral.length) (some .number) after with
      | ok tokens =>
        rw [behind] at failed
        cases failed
      | error fault' =>
        rw [behind] at failed
        exact failed
  · rw [if_neg starts, failed]
    rfl

end Token

namespace Expression

/-- What a check expects is told by the kind of the last token. -/
structure Agrees (p : Progress) (last : Option Token.Kind) : Prop where
  /-- An operand has ended when none is expected. -/
  operand : Token.endsOperand last = !p.expectsOperand
  /-- Where an operand is expected, a minus is a sign for both or for none. -/
  sign : p.expectsOperand = true → (p.previous = none ∨ p.previous = some '(') →
    Token.allowsSign last = true

/-- A scan that goes wrong behind a piece goes wrong with it. -/
theorem Piece.scans {p q : Progress} {first ahead : Text} (whole : Text)
    (piece : Piece p first ahead q) (filled : ∀ c ∈ ahead, Text.isBlank c = false)
    {last : Option Token.Kind} (agrees : Agrees p last) :
    ∃ last', Agrees q last' ∧ ∀ fault, Token.scanFrom whole q.position last' ahead = .error fault →
      Token.scanFrom whole p.position last (first ++ ahead) = .error fault := by
  cases piece with
  | opening =>
    refine ⟨some .openParen, ⟨rfl, fun _ _ => rfl⟩, fun fault failed => ?_⟩
    rw [List.singleton_append, Token.scanFrom_open]
    exact congrArg (Except.map _) failed
  | closing =>
    refine ⟨some .closeParen, ⟨rfl, nofun⟩, fun fault failed => ?_⟩
    rw [List.singleton_append, Token.scanFrom_close]
    exact congrArg (Except.map _) failed
  | numeral _ valid stops =>
    refine ⟨some .number, ⟨rfl, nofun⟩, fun fault failed => ?_⟩
    rw [Token.scanFrom_numeral whole valid stops]
    exact congrArg (Except.map _) failed
  | operator op ended =>
    refine ⟨some .operator, ⟨rfl, fun _ start => ?_⟩, fun fault failed => ?_⟩
    · simp [Progress.advance, op.symbol_ne_parenthesis.1] at start
    · have noSign := Token.allowsSign_of_endsOperand (agrees.operand.trans (by rw [ended]; rfl))
      rw [List.singleton_append, Token.scanFrom_operator whole op p.position noSign]
      exact congrArg (Except.map _) failed
  | sign expects start =>
    refine ⟨some .sign, ⟨rfl, fun _ start => ?_⟩, fun fault failed => ?_⟩
    · simp [Progress.advance] at start
    · exact Token.scanFrom_minus_error whole p.position (agrees.sign expects start) filled failed

/-- **A scan that goes wrong** behind what a check passes over goes wrong with it. -/
theorem Over.scans {p q : Progress} {passed ahead : Text} (whole : Text)
    (course : Over p passed ahead q) (filled : ∀ c ∈ passed ++ ahead, Text.isBlank c = false)
    {last : Option Token.Kind} (agrees : Agrees p last) :
    ∃ last', Agrees q last' ∧ ∀ fault, Token.scanFrom whole q.position last' ahead = .error fault →
      Token.scanFrom whole p.position last (passed ++ ahead) = .error fault := by
  induction course generalizing last with
  | nothing => exact ⟨last, agrees, fun _ failed => failed⟩
  | piece first _ ih =>
    rw [List.append_assoc] at filled
    have filled' := (List.forall_mem_append.1 filled).2
    obtain ⟨middle, agrees', further⟩ := first.scans whole filled' agrees
    obtain ⟨last', agrees'', furthest⟩ := ih filled' agrees'
    refine ⟨last', agrees'', fun fault failed => ?_⟩
    rw [List.append_assoc]
    exact further fault (furthest fault failed)

/-- Where a check stops for a lexical cause, a scan stops with the same fault. -/
theorem Stops.scanFrom_eq {whole ahead : Text} {q : Progress} {fault : Fault}
    (stops : Stops whole q ahead fault) (filled : ∀ c ∈ ahead, Text.isBlank c = false)
    (lexical : fault.cause.IsLexical) {last : Option Token.Kind} (agrees : Agrees q last) :
    Token.scanFrom whole q.position last ahead = .error fault := by
  cases stops with
  | malformedNumeral part expects malformed =>
    exact Token.scanFrom_malformed whole q.position last part malformed
  | @stray c rest noOpening noClosing noPart noSymbol =>
    have noSeparator : Token.isSeparator c = false := by
      refine Bool.eq_false_iff.2 fun separator => ?_
      have blank := Token.isBlank_of_isSeparator separator
      rw [filled c List.mem_cons_self] at blank
      cases blank
    have noMinus : c ≠ '-' := by
      rintro rfl
      cases noSymbol
    rw [Token.scanFrom, noSeparator, noPart, noSymbol, agrees.operand, Bool.not_not]
    simp [noOpening, noClosing, noMinus]
  | misplacedOperator _ found =>
    obtain ⟨before, -, same⟩ | same := cause_of_signFault? found
    all_goals
      rw [Fault.located, same] at lexical
      exact lexical.elim
  | unmatchedOpen | trailingOperator | operatorMissingBeforeGroup | emptyGroup | unmatchedClose
  | operandMissingBeforeClose | operatorMissingBeforeNumeral => exact lexical.elim

/-- Without blanks, a refusal for a lexical cause comes from the check. -/
theorem check_of_validate_filled {t : Text} (filled : ∀ c ∈ t, Text.isBlank c = false)
    {fault : Fault} (refused : validate t = .error fault) (lexical : fault.cause.IsLexical) :
    check t .start t = .error fault := by
  obtain ⟨-, rfl⟩ | ⟨position, -, rfl⟩ | ⟨-, checked⟩ := cases_of_validate_error refused
  · exact lexical.elim
  · exact lexical.elim
  · rwa [Text.compact_of_forall filled] at checked

/-- **Validation and scanning agree on lexical faults.** A text without blanks that validation
accepts is scanned into tokens. One that validation refuses for an unknown operator, an unexpected
character or a malformed numeral is not, and the fault is the same: its kind, its message and its
place. -/
theorem scan_of_validate {t : Text} (filled : ∀ c ∈ t, Text.isBlank c = false) :
    (∀ compact, validate t = .ok compact → ∃ tokens, Token.scan t = .ok tokens)
    ∧ ∀ fault, validate t = .error fault → fault.cause.IsLexical → Token.scan t = .error fault := by
  refine ⟨fun compact valid => ?_, fun fault refused lexical => ?_⟩
  · obtain ⟨rfl, e, same⟩ := derivable_of_validate valid
    rw [Text.compact_of_forall filled] at same
    exact ⟨_, same ▸ Token.scan_phrase e⟩
  · have checked := check_of_validate_filled filled refused lexical
    obtain ⟨passed, ahead, q, whole, course, stops⟩ := exists_stops_of_check checked
    have filled' : ∀ c ∈ passed ++ ahead, Text.isBlank c = false := whole ▸ filled
    have atStart : Agrees .start none := ⟨rfl, fun _ _ => rfl⟩
    obtain ⟨last, agrees, behind⟩ := course.scans t filled' atStart
    have stopped := stops.scanFrom_eq (List.forall_mem_append.1 filled').2 lexical agrees
    have failed := behind fault stopped
    rw [← whole] at failed
    exact failed

/-- A text to which it applies: validation passes over the sign by itself, and a scan takes it with
the numeral. -/
theorem scan_of_validate_signed :
    let t : Text := "3*(-1.2.3)".toList
    let fault : Fault := .located .malformedNumeral t 4
    (∀ c ∈ t, Text.isBlank c = false) ∧ validate t = .error fault ∧ fault.cause.IsLexical
      ∧ Token.scan t = .error fault := by
  have compact : Text.compact "3*(-1.2.3)".toList = "3*(-1.2.3)".toList := by decide +kernel
  have filled : ∀ c ∈ "3*(-1.2.3)".toList, Text.isBlank c = false := by
    intro c member
    rw [← compact] at member
    exact (Text.mem_compact.1 member).2
  have refused : validate "3*(-1.2.3)".toList
      = .error (.located .malformedNumeral "3*(-1.2.3)".toList 4) := by
    decide +kernel
  exact ⟨filled, refused, trivial, (scan_of_validate filled).2 _ refused trivial⟩

end Expression

end InfixCalculator
