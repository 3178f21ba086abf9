import InfixCalculator.Proofs.FaultPlaces
import InfixCalculator.Proofs.SingleApplication

/-!
# Where reported faults are placed

Every function that can fail on a text places its faults at what they name. An evaluation of tokens
places them at the tokens, which stand at their texts in the source (`Token.placed_evaluate`). A
reduction places them in the text that it has come to, which is that of a group or one with values
in it, and so do the functions that look for a group or for a binary expression
(`Nested.placed_resolve`, `Flat.placed_extractBinary`).

A position is therefore inside the text that is shown with it, or behind it where tokens are missing
at the end (`Fault.reported_points`).
-/

set_option autoImplicit false

namespace InfixCalculator

/-! ## Evaluating tokens -/

namespace Token

variable {source : Text} {t : Token}

theorem placed_applyWaiting (rank : Nat) (values : List Binary64) (pending : List Pending) :
    FaultsHave Fault.Placed (applyWaiting rank values pending).outcome := by
  fun_induction applyWaiting rank values pending with
  | case1 | case5 => exact .ok _
  | case2 | case4 => exact .error (.unlocated _)
  | case3 op pending tight right left values result applied ih =>
    rw [Traced.outcome_bind]
    exact FaultsHave.bind (.ok _) fun _ _ => ih

theorem placed_closeGroup (waiting : Stacks) (lies : t.LiesIn source) (spelled : t.Spelled)
    (kind : t.kind = .closeParen) :
      FaultsHave Fault.Placed (closeGroup source t waiting).outcome := by
  rw [closeGroup, Traced.outcome_bind]
  refine (placed_applyWaiting _ _ _).bind fun applied _ => ?_
  obtain ⟨values, pending⟩ := applied
  rw [Spelled, kind] at spelled
  have unmatched : (t.fault source .unmatchedClose).Placed :=
    lies.placed_mark (by simp [kind]) spelled fun _ => id
  cases pending with
  | nil => exact .error unmatched
  | cons top pending =>
    cases top with
    | operator op => exact .error unmatched
    | group negate =>
      cases negate with
      | false => exact .ok _
      | true =>
        cases values with
        | nil => exact .error (.unlocated _)
        | cons value values => exact .ok _

theorem placed_conclude (waiting : Stacks) (lies : t.LiesIn source) (kind : t.kind = .finish) :
    FaultsHave Fault.Placed (conclude source t waiting).outcome := by
  rw [conclude, Traced.outcome_bind]
  refine (placed_applyWaiting _ _ _).bind fun applied _ => ?_
  obtain ⟨values, pending⟩ := applied
  cases pending with
  | nil =>
    cases values with
    | nil => exact .error (.unlocated _)
    | cons value values => exact .ok _
  | cons top pending => exact .error (lies.placed_finish kind rfl)

/-- **The faults at a token** are placed at it. -/
theorem placed_advance (next : Option Token) (waiting : Stacks) (mode : Mode)
    (lies : t.LiesIn source) (spelled : t.Spelled) :
    FaultsHave Fault.Placed (advance source next waiting mode t).outcome := by
  cases mode with
  | operand negate =>
    rw [advance, Traced.outcome_bind]
    exact (placed_takeOperand next negate waiting lies spelled).bind fun _ _ => .ok _
  | operator =>
    rw [advance]
    have unexpected (kind : t.kind ≠ .finish) :
        FaultsHave Fault.Placed (.error (t.fault source (.unexpectedTokenAfterOperand t.text))
          : Except Fault Advance) :=
      .error (lies.placed kind fun _ c found head => ⟨c, found, head⟩)
    cases kind : t.kind with
    | operator =>
      dsimp only
      cases Operator.get t.text with
      | error unknown => exact .error (.unlocated _)
      | ok op =>
        dsimp only
        rw [Traced.outcome_bind]
        exact (placed_applyWaiting _ _ _).bind fun _ _ => .ok _
    | closeParen =>
      dsimp only
      rw [Traced.outcome_bind]
      exact (placed_closeGroup waiting lies spelled kind).bind fun _ _ => .ok _
    | finish =>
      dsimp only
      rw [Traced.outcome_bind]
      exact (placed_conclude waiting lies kind).bind fun _ _ => .ok _
    | number | sign | openParen => exact unexpected (by simp [kind])

theorem placed_run (waiting : Stacks) (mode : Mode) {tokens : List Token}
    (placed : ∀ t ∈ tokens, t.LiesIn source ∧ t.Spelled) :
    FaultsHave Fault.Placed (run source waiting mode tokens).outcome := by
  induction tokens generalizing waiting mode with
  | nil => exact .error (.located rfl)
  | cons t rest ih =>
    obtain ⟨⟨lies, spelled⟩, behind⟩ := List.forall_mem_cons.1 placed
    rw [run, Traced.outcome_bind]
    refine (placed_advance rest.head? waiting mode lies spelled).bind fun taken _ => ?_
    cases taken with
    | more waiting mode => exact ih waiting mode behind
    | done value => exact .ok _

/-- **The faults of evaluating the tokens of a text** are placed at what they name. -/
theorem placed_evaluate {tokens : List Token} (scanned : scan source = .ok tokens) :
    FaultsHave Fault.Placed (evaluate tokens source).outcome := by
  have placed : ∀ t ∈ tokens, t.LiesIn source ∧ t.Spelled := fun t member =>
    ⟨liesIn_of_scan scanned t member, spelled_of_scanFrom scanned t member⟩
  rw [evaluate, Traced.outcome_bind]
  exact (placed_run _ _ placed).bind fun _ _ => .ok _

end Token

/-! ## Reducing -/

/-- The first of some characters stands behind all that are different. -/
theorem Text.getElem?_takeWhile {text : Text} {c : Char} (member : c ∈ text) :
    text[(text.takeWhile (· ≠ c)).length]? = some c := by
  induction text with
  | nil => cases member
  | cons d text ih =>
    by_cases same : d = c
    · rw [List.takeWhile_cons_of_neg (by simpa using same), same]
      rfl
    · rw [List.takeWhile_cons_of_pos (by simpa using same)]
      exact ih (List.mem_of_ne_of_mem (Ne.symm same) member)

namespace Flat

/-- **The faults of looking for a binary expression** are placed at the operator. -/
theorem placed_extractBinary (text symbol : Text) :
    FaultsHave Fault.Placed (extractBinary text symbol) := by
  intro fault failed
  obtain ⟨-, rfl⟩ | ⟨front, c, after, rfl, rfl, missing⟩ := cases_of_extractBinary_error failed
  · exact .unlocated _
  · have here := Text.getElem?_append_cons front c after
    rcases missing with rfl | rfl
    · exact .located ⟨c, rfl, here⟩
    · exact .located ⟨c, rfl, here⟩

theorem placed_parseNumber (text : Text) : FaultsHave Fault.Placed (parseNumber text) :=
  FaultsHave.mono (Unplaced.parseNumber text) fun _ => Fault.Placed.of_unplaced

theorem placed_value (op : Operator) (b : BinaryExpression) :
    FaultsHave Fault.Placed (b.value op) :=
  faultsHave_value (placed_parseNumber b.left) (placed_parseNumber b.right) fun _ => .unlocated _

/-- **The faults of reducing a flat text** are placed at what they name, in the text that has been
come to. -/
theorem placed_reduce (text : Text) : FaultsHave Fault.Placed (reduce text).outcome :=
  faultsHave_reduce (fun _ => placed_extractBinary _ _) (fun _ => placed_value _ _) (fun _ =>
    .unlocated _) text

end Flat

/-- **The fault of looking for a group** is placed at the parenthesis that is not closed. -/
theorem Group.placed_find (text : Text) : FaultsHave Fault.Placed (find text) := by
  rw [find]
  split
  · exact .error (.unlocated _)
  · rename_i found
    split
    · exact .ok _
    · refine .error (.located (Text.getElem?_takeWhile ?_))
      by_contra absent
      have none : text.dropWhile (· ≠ '(') = [] := by
        refine List.dropWhile_eq_nil_iff.2 fun c member => ?_
        have different : c ≠ '(' := by
          rintro rfl
          exact absent member
        simpa using different
      rw [none] at found
      cases found

namespace Nested

/-- **The faults of resolving groups** are placed at what they name, in the text that has been come
to. -/
theorem placed_resolve (text : Text) : FaultsHave Fault.Placed (resolve text) := by
  fun_induction resolve text with
  | case1 text _ fault failed => exact .error (Group.placed_find text fault failed)
  | case2 text _ g found empty =>
    refine .error (.located ?_)
    rw [← Group.append_of_find found, List.append_assoc, List.cons_append]
    exact Text.getElem?_append_cons g.head '(' _
  | case3 text _ g found _ fault failed ih =>
    rw [failed] at ih
    exact ih
  | case4 text _ g found _ value resolved _ ih => exact ih
  | case5 text _ closes => exact .error (.located (Text.getElem?_takeWhile closes))
  | case6 text => exact Flat.placed_reduce text

end Nested

/-! ## Faults of a text -/

namespace Fault

/-- A fault that is reported for a text, by one of the functions that read it. -/
inductive Reported (s : Text) (fault : Fault) : Prop where
  /-- The text does not pass validation. -/
  | validate (failed : Expression.validate s = .error fault)
  /-- The text cannot be scanned. -/
  | scan (failed : Token.scan s = .error fault)
  /-- The tokens of the text cannot be evaluated. -/
  | evaluate {tokens : List Token} (scanned : Token.scan s = .ok tokens)
    (failed : (Token.evaluate tokens s).outcome = .error fault)
  /-- The text has no group. -/
  | findGroup (failed : Group.find s = .error fault)
  /-- The text cannot be reduced with its groups. -/
  | reduceNested (failed : (Nested.reduce s).outcome = .error fault)
  /-- The text has no binary expression with a symbol. -/
  | extractBinary (symbol : Text) (failed : Flat.extractBinary s symbol = .error fault)
  /-- The text cannot be reduced as a flat text. -/
  | reduceFlat (failed : (Flat.reduce s).outcome = .error fault)

theorem Reported.placed {s : Text} {fault : Fault} (reported : fault.Reported s) :
    fault.Placed := by
  cases reported with
  | validate failed => exact Expression.placed_validate s fault failed
  | scan failed => exact Token.placed_scanFrom none rfl fault failed
  | evaluate scanned failed => exact Token.placed_evaluate scanned fault failed
  | findGroup failed => exact Group.placed_find s fault failed
  | reduceNested failed =>
    rw [Nested.outcome_reduce] at failed
    exact Nested.placed_resolve s fault failed
  | extractBinary symbol failed => exact Flat.placed_extractBinary s symbol fault failed
  | reduceFlat failed => exact Flat.placed_reduce s fault failed

/-- **A fault points at what it names.** Whatever function reports a fault for a text, its position
lies inside the text that is shown with it, or behind that text where the tokens end too early; and
what the cause names stands there. -/
theorem reported_points {s : Text} {fault : Fault} (reported : fault.Reported s) {text : Text}
    {position : Int} (located : fault.location = some ⟨text, position⟩) :
    0 ≤ position ∧ position ≤ text.length
      ∧ (position = text.length →
        fault.cause = .unexpectedEnd ∨ ∃ kind shown, fault.cause = .closeExpected kind shown)
      ∧ ∃ place : Nat, position = place ∧ fault.cause.PointsAt text place := by
  obtain ⟨place, same, points⟩ := reported.placed _ located
  obtain rfl : position = place := same
  have inside : place < text.length ∨ (place = text.length
      ∧ (fault.cause = .unexpectedEnd ∨ ∃ kind shown, fault.cause = .closeExpected kind shown)) :=
        points.inside
  refine ⟨Int.natCast_nonneg place, ?_, fun behind => ?_, place, rfl, points⟩
  · omega
  · rcases inside with before | ⟨-, ends⟩
    · omega
    · exact ends

/-- Texts to which it applies: the fault of a group is placed in the text of the group, and that of
tokens that end inside a group behind the text. -/
theorem reported_points_group :
    let inner : Fault := ⟨.rightOperandMissing ['+'], some ⟨"1+.".toList, 1⟩⟩
    let tokens : List Token := [⟨.openParen, ['('], 0⟩, ⟨.number, ['2'], 1⟩, ⟨.finish, [], 2⟩]
    let ended : Fault := ⟨.closeExpected "eof".toList [], some ⟨"(2".toList, 2⟩⟩
    (Nested.reduce "2*(1+.)".toList).outcome = .error inner
      ∧ (∃ place : Nat, (1 : Int) = place ∧ inner.cause.PointsAt "1+.".toList place)
      ∧ (Token.evaluate tokens "(2".toList).outcome = .error ended
      ∧ ∃ place : Nat, (2 : Int) = place ∧ ended.cause.PointsAt "(2".toList place := by
  intro inner tokens ended
  have inside : (Flat.reduce "1+.".toList).outcome = .error inner := by
    have failed : (Flat.reduce "1+.".toList).outcome.map (fun _ => ()) = .error inner := by
      decide +kernel
    exact map_eq_error.1 failed
  have found : Group.find "2*(1+.)".toList = .ok ⟨"2*".toList, "1+.".toList, []⟩ := by
    decide +kernel
  have reduced : (Nested.reduce "2*(1+.)".toList).outcome = .error inner := by
    rw [Nested.outcome_reduce, Nested.resolve_of_group found (by decide) (by decide),
      Nested.resolve_of_flat (by decide) (by decide), inside, bind_error]
  have scanned : Token.scan "(2".toList = .ok tokens := by decide +kernel
  have evaluated : (Token.evaluate tokens "(2".toList).outcome = .error ended := by decide +kernel
  obtain ⟨-, -, -, points⟩ := reported_points (.reduceNested reduced) rfl
  obtain ⟨-, -, -, points'⟩ := reported_points (.evaluate scanned evaluated) rfl
  exact ⟨reduced, points, evaluated, points'⟩

end Fault

end InfixCalculator
