import InfixCalculator.Proofs.Recognition
import InfixCalculator.Proofs.Refusals
import InfixCalculator.Proofs.TokenLayout

/-!
# Faults at what they name

A fault with a place holds a text and a position in it. What its cause names stands in the text
there (`Cause.PointsAt`): the operator or the character that is out of place, the parenthesis that
is unmatched or has nothing in it, the blank inside a numeral. So the position lies inside the text;
only the end of the tokens is placed behind it (`Cause.PointsAt.inside`).
-/

set_option autoImplicit false

namespace InfixCalculator

/-! ## Places -/

theorem Text.getElem?_append_cons (front : Text) (c : Char) (rest : Text) :
    (front ++ c :: rest)[front.length]? = some c := by
  rw [List.getElem?_append_right (Nat.le_refl _), Nat.sub_self]
  rfl

namespace Cause

/-- What a cause names stands at a place of a text; a cause that names no place stands nowhere. -/
def PointsAt (text : Text) (place : Nat) : Cause → Prop
  | unknownOperator symbol | leftOperandMissing symbol | rightOperandMissing symbol =>
    ∃ c, symbol = [c] ∧ text[place]? = some c
  | unexpectedCharacter c | operandMissingBefore c => text[place]? = some c
  | operatorSequence first second => text[place]? = some second
      ∧ (text.take place).getLast? = some first
  | operatorMissingBeforeGroup | emptyGroup | unmatchedOpen => text[place]? = some '('
  | unmatchedClose | operandMissingBeforeClose => text[place]? = some ')'
  | operatorMissingBeforeNumeral | malformedNumeral => ∃ c, text[place]? = some c
      ∧ Numeral.isPart c = true
  | blankInNumeral =>
    ∃ part blank, (text.take place).getLast? = some part ∧ Numeral.isPart part = true
      ∧ text[place]? = some blank ∧ Text.isBlank blank = true
  | trailingOperator => ∃ c, text[place]? = some c ∧ Operator.isSymbol c = true
  | unexpectedToken _ shown | unexpectedTokenAfterOperand shown =>
    ∃ c, text[place]? = some c ∧ shown.head? = some c
  | unexpectedEnd | closeExpected _ _ => place = text.length
  | _ => False

/-- The place of a cause lies inside the text, or behind it where the tokens end too early. -/
theorem PointsAt.inside {text : Text} {place : Nat} {cause : Cause}
    (points : cause.PointsAt text place) :
    place < text.length
      ∨ (place = text.length
        ∧ (cause = .unexpectedEnd ∨ ∃ kind shown, cause = .closeExpected kind shown)) := by
  have lies {c : Char} (found : text[place]? = some c) : place < text.length :=
    (List.getElem?_eq_some_iff.1 found).1
  cases cause with
  | unexpectedEnd => exact .inr ⟨points, .inl rfl⟩
  | closeExpected kind shown => exact .inr ⟨points, .inr ⟨kind, shown, rfl⟩⟩
  | unexpectedCharacter | operandMissingBefore | operatorMissingBeforeGroup | emptyGroup
  | unmatchedOpen | unmatchedClose | operandMissingBeforeClose => exact .inl (lies points)
  | operatorSequence => exact .inl (lies points.1)
  | unknownOperator | leftOperandMissing | rightOperandMissing =>
    obtain ⟨c, -, found⟩ := points
    exact .inl (lies found)
  | operatorMissingBeforeNumeral | malformedNumeral | trailingOperator | unexpectedToken
  | unexpectedTokenAfterOperand =>
    obtain ⟨c, found, -⟩ := points
    exact .inl (lies found)
  | blankInNumeral =>
    obtain ⟨part, blank, -, -, found, -⟩ := points
    exact .inl (lies found)
  | _ => exact points.elim

end Cause

namespace Fault

/-- A fault has no place, or what its cause names stands there. -/
def Placed (fault : Fault) : Prop :=
  ∀ location, fault.location = some location →
    ∃ place : Nat, location.position = place ∧ fault.cause.PointsAt location.text place

theorem Placed.of_position {cause : Cause} {text : Text} {position : Int} {place : Nat}
    (same : position = place) (points : cause.PointsAt text place) :
    (⟨cause, some ⟨text, position⟩⟩ : Fault).Placed := by
  rintro _ ⟨⟩
  exact ⟨place, same, points⟩

theorem Placed.located {cause : Cause} {text : Text} {place : Nat}
    (points : cause.PointsAt text place) :
    (located cause text place).Placed :=
  .of_position rfl points

theorem Placed.unlocated (cause : Cause) : (unlocated cause).Placed := nofun

/-- A fault without a place. -/
theorem Placed.of_unplaced {fault : Fault} (none : fault.location = none) : fault.Placed := by
  intro location some_
  rw [none] at some_
  cases some_

end Fault

/-! ## Validation -/

namespace Expression

/-- Of blanks between two parts of a numeral the first one is found. -/
theorem pointsAt_of_blankInNumeral? {start position : Nat} {text : Text}
    (found : blankInNumeral? start text = some position) :
    ∃ place, position = start + place ∧ Cause.blankInNumeral.PointsAt text place := by
  fun_induction blankInNumeral? start text with
  | case1 => cases found
  | case2 start c rest split =>
    cases found
    obtain ⟨part, blanks⟩ := Bool.and_eq_true_iff.1 split
    cases rest with
    | nil => cases blanks
    | cons blank rest => exact ⟨1, rfl, c, blank, rfl, part, rfl, (Bool.and_eq_true_iff.1 blanks).1⟩
  | case3 start c rest _ ih =>
    obtain ⟨place, rfl, part, blank, last, isPart, here, isBlank⟩ := ih found
    refine ⟨place + 1, by omega, part, blank, ?_, isPart, here, isBlank⟩
    rw [List.take_succ_cons, List.getLast?_cons, last]
    rfl

theorem placed_strayFault {c : Char} {text : Text} {place : Nat} (found : text[place]? = some c)
    (expects : Bool) :
    (Fault.located (strayFault c expects) text place).Placed := by
  rw [strayFault]
  split
  · exact .located found
  · exact .located ⟨c, rfl, found⟩

variable {passed rest : Text} {q : Progress} {fault : Fault}

/-- A check that stops at a character reports what stands there. -/
theorem Stops.placed {c : Char} (course : Over .start passed (c :: rest) q)
    (stops : Stops (passed ++ c :: rest) q (c :: rest) fault) : fault.Placed := by
  have place : q.position = passed.length := by
    rw [course.position_eq, Progress.start, Nat.zero_add]
  have found : (passed ++ c :: rest)[q.position]? = some c := by
    rw [place, Text.getElem?_append_cons]
  cases stops with
  | operatorMissingBeforeGroup | emptyGroup | unmatchedClose | operandMissingBeforeClose =>
    exact .located found
  | operatorMissingBeforeNumeral part | malformedNumeral part => exact .located ⟨c, found, part⟩
  | stray => exact placed_strayFault found _
  | misplacedOperator expects symbol =>
    rcases cause_of_signFault? symbol with ⟨before, previous, rfl⟩ | rfl
    · -- the operator in front of it is the last character that was passed over
      obtain ⟨front, fits, text⟩ := course.exists_front_of_start
      obtain ⟨outer, opening, rfl, -, last⟩ := fits.exists_beforeOperand expects
      have ends : passed.getLast? = some before := by
        rw [← text, Phrase.Front.getLast?_beforeOperand, ← last, previous]
      refine .located ⟨found, ?_⟩
      rw [place, List.take_left, ends]
    · exact .located found

/-- **The faults of validation** are placed at what they name. -/
theorem placed_validate (s : Text) : FaultsHave Fault.Placed (validate s) := by
  intro fault refused
  obtain ⟨-, rfl⟩ | ⟨position, found, rfl⟩ | ⟨filled, checked⟩ := cases_of_validate_error refused
  · exact .unlocated _
  · obtain ⟨place, rfl, points⟩ := pointsAt_of_blankInNumeral? found
    rw [Nat.zero_add]
    exact .located points
  · have nonempty := compact_ne_nil_of_strip filled
    obtain ⟨passed, ahead, q, whole, course, stops⟩ := exists_stops_of_check checked
    rw [whole] at nonempty stops
    cases ahead with
    | cons c rest => exact stops.placed course
    | nil =>
      rw [List.append_nil] at nonempty stops
      obtain ⟨place, c, location, found, kinds⟩ := stops.exists_mark nonempty course
      intro location' same
      cases location.symm.trans same
      refine ⟨place, rfl, ?_⟩
      rcases kinds with ⟨cause, rfl⟩ | ⟨cause, symbol⟩
      · rw [cause]
        exact found
      · rw [cause]
        exact ⟨c, found, symbol⟩

end Expression

/-! ## Scanning -/

namespace Token

/-- The rest of a text behind more of it. -/
theorem drop_add {text rest : Text} {position : Nat} (front : Text)
    (here : text.drop position = front ++ rest) :
    text.drop (position + front.length) = rest := by
  rw [← List.drop_drop, here, List.drop_left]

theorem getElem?_of_drop {text rest : Text} {position : Nat} {c : Char}
    (here : text.drop position = c :: rest) :
    text[position]? = some c := by
  rw [← List.head?_drop, here]
  rfl

theorem placed_scanFrom {whole rest : Text} {position : Nat} (last : Option Kind)
    (here : whole.drop position = rest) :
      FaultsHave Fault.Placed (scanFrom whole position last rest) := by
  have next {position : Nat} {c : Char} {tail : Text} (here : whole.drop position = c :: tail) :
      whole.drop (position + 1) = tail := drop_add [c] here
  have behind {position : Nat} {tail : Text} (here : whole.drop position = tail) :
      whole.drop (position + (tail.length - (tail.dropWhile isSeparator).length))
        = tail.dropWhile isSeparator := by
    have parts := List.takeWhile_append_dropWhile (p := isSeparator) (l := tail)
    have length : tail.length - (tail.dropWhile isSeparator).length
        = (tail.takeWhile isSeparator).length := by
      have total := congrArg List.length parts
      rw [List.length_append] at total
      omega
    rw [length]
    exact drop_add _ (here.trans parts.symm)
  fun_induction scanFrom whole position last rest with
  | case1 => exact .ok _
  | case2 _ _ _ _ _ ih => exact ih (next here)
  | case3 _ _ c _ _ part => exact .error (.located ⟨c, getElem?_of_drop here, part⟩)
  | case4 _ _ _ _ _ _ numeral after found ih =>
    obtain ⟨same, -, -⟩ := scanNumeral?_eq_some.1 found
    exact (ih (drop_add numeral (here.trans same))).map _
  | case5 _ _ _ _ _ ih => exact (ih (next here)).map _
  | case6 _ _ _ _ _ _ ih => exact (ih (next here)).map _
  | case7 position last c tail other _ _ _ sign digits skipped starts =>
    -- behind the minus and separators stands a part of a numeral
    have here' : whole.drop skipped = digits := behind (next here)
    cases digits' : digits with
    | nil => simp [digits', startsNumeral] at starts
    | cons d more =>
      rw [digits'] at here' starts
      exact .error (.located ⟨d, getElem?_of_drop here', starts⟩)
  | case8 position last c tail other _ _ _ sign digits skipped starts numeral after found =>
    rename_i ih
    have here' : whole.drop skipped = digits := behind (next here)
    obtain ⟨same, -, -⟩ := scanNumeral?_eq_some.1 found
    exact (ih (drop_add numeral (here'.trans same))).map _
  | case9 _ _ _ _ _ _ _ _ _ _ _ ih => exact (ih (next here)).map _
  | case10 _ _ _ _ _ _ _ _ _ _ ih => exact (ih (next here)).map _
  | case11 => exact .error (Expression.placed_strayFault (getElem?_of_drop here) _)

/-! ## Tokens -/

section

variable {source : Text} {t : Token}

/-- A fault at the end mark is placed behind the source. -/
theorem LiesIn.placed_finish (lies : t.LiesIn source) (kind : t.kind = .finish) {cause : Cause}
    (points : cause.PointsAt source source.length) : (t.fault source cause).Placed := by
  rw [fault_of_markable lies.markable]
  obtain ⟨place, same, there⟩ := lies
  rw [if_pos kind] at there
  rw [there] at same
  exact .of_position same points

/-- A fault at another token is placed at the first character of its text. -/
theorem LiesIn.placed (lies : t.LiesIn source) (kind : t.kind ≠ .finish) {cause : Cause}
    (points : ∀ place c, source[place]? = some c → t.text.head? = some c →
      cause.PointsAt source place) :
    (t.fault source cause).Placed := by
  rw [fault_of_markable lies.markable]
  obtain ⟨place, same, there⟩ := lies
  rw [if_neg kind] at there
  obtain ⟨c, found, head⟩ := there
  exact .of_position same (points place c found head)

/-- A fault at a parenthesis is placed at it. -/
theorem LiesIn.placed_mark (lies : t.LiesIn source) (kind : t.kind ≠ .finish) {mark : Char}
    (text : t.text = [mark]) {cause : Cause}
    (points : ∀ place, source[place]? = some mark → cause.PointsAt source place) :
    (t.fault source cause).Placed := by
  refine lies.placed kind fun place c found head => points place ?_
  rw [text] at head
  exact found.trans head.symm

theorem placed_number (t : Token) : FaultsHave Fault.Placed t.number := by
  rw [number]
  split
  · exact .error (.unlocated _)
  · split
    · exact .ok _
    · exact .error (.unlocated _)

theorem placed_takeOperand (next : Option Token) (negate : Bool) (waiting : Stacks)
    (lies : t.LiesIn source) (spelled : t.Spelled) :
    FaultsHave Fault.Placed (takeOperand source next negate waiting t) := by
  rw [takeOperand]
  rw [Spelled] at spelled
  cases kind : t.kind <;> simp only [kind] at spelled
  case sign => exact .ok _
  case number => exact (placed_number t).bind fun _ _ => .ok _
  case openParen =>
    dsimp only
    split
    · exact .error (lies.placed_mark (by simp [kind]) spelled fun _ => id)
    · exact .ok _
  case finish => exact .error (lies.placed_finish kind rfl)
  case operator => exact .error (lies.placed (by simp [kind]) fun _ c found head =>
    ⟨c, found, head⟩)
  case closeParen => exact .error (lies.placed (by simp [kind]) fun _ c found head =>
    ⟨c, found, head⟩)

end

end Token

end InfixCalculator
