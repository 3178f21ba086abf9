import InfixCalculator.Proofs.Arithmetic
import InfixCalculator.Proofs.Parentheses
import InfixCalculator.Proofs.PlainForms

/-!
# Signs in front of groups

A minus in front of a group negates the number of the group. Reduction does it on the text: the
group reduces to a literal, and its minus is dropped or one is put in front of it
(`Phrase.byRank_negated`), whatever the literal looks like. The literal so made is read as the
negated number (`parseNumber_opposite`). Precedence negates the number itself when the group ends
(`Phrase.fromLeft_negated`).

The negated expression is an expression again, so the sign can be repeated to any depth, and two
signs cancel because the numbers that an engine returns have a positive zero
(`Engine.evaluate_negated`).
-/

set_option autoImplicit false

namespace InfixCalculator

/-! ## One sign -/

/-- The opposite literal is read as the opposite number, but for the message when it is too
large. -/
theorem parseNumber_opposite (x : Literal) :
    (parseNumber x.opposite.text).mapError Fault.kind
      = ((parseNumber x.text).mapError Fault.kind).map fun v => -v := by
  rw [parseNumber_of_isLiteral x.opposite.valid, parseNumber_of_isLiteral x.valid,
    Literal.toBinary64_opposite, Binary64.isFinite_neg]
  split <;> rfl

namespace Phrase

/-- A group of an expression with a minus in front of it. -/
def negated (e : Phrase .expression) : Phrase .expression := first true (group e)

@[simp] theorem text_negated_group (e : Phrase .expression) :
    e.negated.text = '-' :: '(' :: e.text ++ [')'] := rfl

/-- **A sign in front of a group** reduces to the opposite literal. -/
theorem byRank_negated (e : Phrase .expression) :
    e.negated.byRank = e.byRank.map Literal.opposite := by
  have value : (group e).row = e.byRank.map fun x => ⟨x, []⟩ := rfl
  rw [negated, byRank, row, value, bind_of_map, bind_of_map]
  cases e.byRank with
  | error fault => rfl
  | ok x => exact Chain.reduce_single Literal.rules x.opposite

/-- **A sign in front of a group** negates the number of the group. -/
theorem fromLeft_negated (e : Phrase .expression) :
    e.negated.fromLeft = e.fromLeft.map fun v => -v := by
  rw [negated, fromLeft, spine_first_group, bind_of_map]
  cases e.fromLeft <;> rfl

end Phrase

namespace Engine

/-- The value of a negated expression is the opposite of its value. -/
theorem value_negated (engine : Engine) (e : Phrase .expression) :
    (engine.value e.negated).mapError Fault.kind
      = ((engine.value e).mapError Fault.kind).map Binary64.opposite := by
  -- zero is made positive after the sign in one case, and before and after it in the other
  have zeros (number : Except Diagnostic.Kind Binary64) :
      (number.map fun v => -v).map Binary64.normalizeZero
        = (number.map Binary64.normalizeZero).map Binary64.opposite := by
    cases number with
    | error kind => rfl
    | ok v => exact congrArg Except.ok (Binary64.opposite_normalizeZero v).symm
  cases engine with
  | reduce =>
    have number : e.negated.numberByRank.mapError Fault.kind
        = (e.numberByRank.mapError Fault.kind).map fun v => -v := by
      rw [Phrase.numberByRank, Phrase.byRank_negated, bind_of_map, Phrase.numberByRank]
      cases e.byRank with
      | error fault => rfl
      | ok x => exact parseNumber_opposite x
    rw [value, value, mapError_of_map, mapError_of_map, number, zeros]
  | precedence =>
    rw [value, value, mapError_of_map, mapError_of_map, Phrase.fromLeft_negated, mapError_of_map,
      zeros]

end Engine

/-- A valid text stays valid in parentheses with a minus in front of them. -/
theorem Expression.validate_negated {s : Text} {e : Phrase .expression}
    (valid : validate s = .ok e.text) :
    validate ('-' :: '(' :: s ++ [')']) = .ok e.negated.text := by
  obtain ⟨same, -⟩ := derivable_of_validate valid
  have compact : Text.compact ('-' :: '(' :: s ++ [')']) = e.negated.text := by
    rw [Phrase.text_negated_group, same]
    exact Text.compact_parentheses ['-'] s []
  have unsplit : ¬SplitsNumeral ('-' :: '(' :: s ++ [')']) := by
    intro split
    have parts := (splitsNumeral_parentheses (a := ['-']) (q := s) (b := [])).1 split
    have none {text : Text} (filled : ∀ c ∈ text, Text.isBlank c = false) :=
      not_splitsNumeral_of_filled filled
    rcases parts with sign | inside | behind
    · exact none (List.forall_mem_singleton.2 rfl) sign
    · exact not_splitsNumeral_of_validate valid inside
    · exact none (List.forall_mem_nil _) behind
  rw [← compact]
  exact validate_of_derivable unsplit ⟨e.negated, compact.symm⟩

/-! ## Signs to any depth -/

/-- A text in layers of parentheses with a minus in front of each. -/
def Text.negated : Nat → Text → Text
  | 0, text => text
  | layers + 1, text => '-' :: '(' :: negated layers text ++ [')']

/-- An expression that is negated a number of times. -/
def Phrase.negatedTimes : Nat → Phrase .expression → Phrase .expression
  | 0, e => e
  | layers + 1, e => (negatedTimes layers e).negated

theorem Phrase.text_negatedTimes (layers : Nat) (e : Phrase .expression) :
    (e.negatedTimes layers).text = e.text.negated layers := by
  induction layers with
  | zero => rfl
  | succ layers ih => rw [negatedTimes, text_negated_group, ih, Text.negated]

theorem Expression.validate_negatedTimes {s : Text} {e : Phrase .expression}
    (valid : validate s = .ok e.text) (layers : Nat) :
    validate (s.negated layers) = .ok (e.negatedTimes layers).text := by
  induction layers with
  | zero => exact valid
  | succ layers ih => exact validate_negated ih

namespace Engine

/-- Of several signs in a row each two cancel. -/
theorem value_negatedTimes (engine : Engine) (e : Phrase .expression) (layers : Nat) :
    (engine.value (e.negatedTimes layers)).mapError Fault.kind
      = ((engine.value e).mapError Fault.kind).map fun v =>
        if layers % 2 = 0 then v else v.opposite := by
  induction layers with
  | zero =>
    rw [Phrase.negatedTimes]
    cases engine.value e <;> rfl
  | succ layers ih =>
    rw [Phrase.negatedTimes, value_negated, ih]
    have orderly := engine.orderly_value e
    generalize engine.value e = result at orderly
    cases orderly with
    | error numeric => rfl
    | @ok v canonical =>
      refine congrArg Except.ok ?_
      show (if layers % 2 = 0 then v else v.opposite).opposite
        = if (layers + 1) % 2 = 0 then v else v.opposite
      rcases Nat.mod_two_eq_zero_or_one layers with even | odd
      · have next : ¬(layers + 1) % 2 = 0 := by omega
        rw [if_pos even, if_neg next]
      · have now : ¬layers % 2 = 0 := by omega
        have next : (layers + 1) % 2 = 0 := by omega
        rw [if_neg now, if_pos next, Binary64.opposite_opposite canonical]

/-- **A sign in front of a group negates its value, to any depth.** In parentheses with a minus in
front of them a valid text is valid, and every engine returns the opposite of the number that it
returns for the text, with zero positive, or fails with an error of the same kind. In any number of
such layers it is valid too; an even number of them leaves the value as it is, and an odd number
gives the opposite. -/
theorem evaluate_negated (engine : Engine) {s compact : Text}
    (valid : Expression.validate s = .ok compact) :
    (engine.evaluate ('-' :: '(' :: s ++ [')'])).outcome.mapError Fault.kind
        = ((engine.evaluate s).outcome.mapError Fault.kind).map (fun v => (-v).normalizeZero)
      ∧ ∀ layers,
        Expression.validate (s.negated layers) = .ok (compact.negated layers)
        ∧ (engine.evaluate (s.negated layers)).outcome.mapError Fault.kind
          = ((engine.evaluate s).outcome.mapError Fault.kind).map
            (fun v => if layers % 2 = 0 then v else (-v).normalizeZero) := by
  obtain ⟨-, e, rfl⟩ := Expression.derivable_of_validate valid
  refine ⟨?_, fun layers => ?_⟩
  · rw [outcome_evaluate engine (Expression.validate_negated valid), outcome_evaluate engine valid]
    exact value_negated engine e
  · have valid' := Expression.validate_negatedTimes valid layers
    rw [← Phrase.text_negatedTimes, outcome_evaluate engine valid', outcome_evaluate engine valid]
    exact ⟨valid', value_negatedTimes engine e layers⟩

/-- A text to which it applies: a difference that is negative, with three signs in front of it. -/
theorem evaluate_negated_difference :
    Expression.validate " .5 - 1 ".toList = .ok ".5-1".toList
      ∧ Expression.validate "-(-(-( .5 - 1 )))".toList = .ok "-(-(-(.5-1)))".toList
      ∧ ∀ engine : Engine, (engine.evaluate "-(-(-( .5 - 1 )))".toList).outcome.mapError Fault.kind
        = ((engine.evaluate " .5 - 1 ".toList).outcome.mapError Fault.kind).map fun v =>
          (-v).normalizeZero := by
  have valid : Expression.validate " .5 - 1 ".toList = .ok ".5-1".toList :=
    toOption_eq_some.1 (by decide +kernel)
  refine ⟨valid, (evaluate_negated .reduce valid).2 3 |>.1, fun engine => ?_⟩
  exact (evaluate_negated engine valid).2 3 |>.2

end Engine

end InfixCalculator
