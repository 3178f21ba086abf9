import InfixCalculator.Proofs.Places
import InfixCalculator.Proofs.Separators

/-!
# Redundant parentheses

An operand in parentheses of its own is read like the operand: it reduces to the same literal
(`Phrase.row_parenthesized`), and reading it from the left leaves the same number
(`Phrase.spine_parenthesized`). The same holds of a whole expression. A sign is where the two forms
differ. In front of a numeral it belongs to the literal that is read, in front of a group it negates
the number of the group; both lead to the same number, and only the message for a literal past the
finite numbers shows the sign (`parseNumber_withSign`).

Parentheses split no numeral (`Expression.splitsNumeral_parentheses`), so a valid text stays valid
when a pair of them is put around an operand or around the whole expression, and each engine returns
the same number or an error of the same kind (`Engine.evaluate_parenthesized`). The blanks of a text
leave room for every such pair (`Engine.exists_parentheses`).
-/

set_option autoImplicit false

namespace InfixCalculator

/-! ## Parentheses in a text with blanks -/

namespace Text

theorem compact_parentheses (a q b : Text) :
    compact (a ++ '(' :: q ++ ')' :: b) = a.compact ++ '(' :: q.compact ++ ')' :: b.compact := by
  have opening (rest : Text) : compact ('(' :: rest) = '(' :: rest.compact :=
    compact_cons_of_not_isBlank (by decide) rest
  have closing (rest : Text) : compact (')' :: rest) = ')' :: rest.compact :=
    compact_cons_of_not_isBlank (by decide) rest
  rw [compact_append, compact_append, opening, closing]

/-- A text that has three parts without its blanks has three parts with them. -/
theorem exists_of_compact_eq_append {s head middle tail : Text}
    (same : s.compact = head ++ middle ++ tail) :
    ∃ a q b, s = a ++ q ++ b ∧ a.compact = head ∧ q.compact = middle ∧ b.compact = tail := by
  obtain ⟨front, b, rfl, first, last⟩ := List.filter_eq_append_iff.1 same
  obtain ⟨a, q, rfl, first, second⟩ := List.filter_eq_append_iff.1 first
  exact ⟨a, q, b, rfl, first, second, last⟩

end Text

namespace Expression

/-- What splits a numeral in the front of a text splits it in the text. -/
theorem SplitsNumeral.append_right {front : Text} (split : SplitsNumeral front) (rest : Text) :
    SplitsNumeral (front ++ rest) := by
  obtain ⟨before, c, blanks, d, after, rfl, others⟩ := split
  exact ⟨before, c, blanks, d, after ++ rest, by simp, others⟩

/-- A numeral is split on one side of a character that is neither a blank nor a part of a
numeral. -/
theorem SplitsNumeral.beside {front rest : Text} {c : Char} (filled : Text.isBlank c = false)
    (noPart : Numeral.isPart c = false) (split : SplitsNumeral (front ++ c :: rest)) :
    SplitsNumeral front ∨ SplitsNumeral rest := by
  obtain ⟨before, d, blanks, e, after, same, first, second, nonempty, blank⟩ := split
  rcases Text.append_eq_append_cons.1 same.symm with ⟨between, whole, rfl⟩ | ⟨between, rfl, whole⟩
  · exact .inr ⟨between, d, blanks, e, after, by simp, first, second, nonempty, blank⟩
  · have other {x : Char} (part : Numeral.isPart x = true) : c ≠ x := by
      rintro rfl
      rw [noPart] at part
      cases part
    rcases List.cons_eq_append_iff.1 whole with ⟨-, here⟩ | ⟨behind, rfl, further⟩
    · exact absurd (List.cons.inj here).1 (other first)
    · rcases Text.append_eq_append_cons.1 further with ⟨between, rfl, -⟩ | ⟨between, rfl, last⟩
      · have blank' := blank c (by simp)
        rw [filled] at blank'
        cases blank'
      · rcases List.cons_eq_append_iff.1 last with ⟨-, here⟩ | ⟨between, rfl, -⟩
        · exact absurd (List.cons.inj here).1 (other second)
        · exact .inl ⟨before, d, blanks, e, between, by simp, first, second, nonempty, blank⟩

/-- With parentheses around a part of it, a text splits a numeral only within one of its three
parts. -/
theorem splitsNumeral_parentheses {a q b : Text} :
    SplitsNumeral (a ++ '(' :: q ++ ')' :: b)
      ↔ SplitsNumeral a ∨ SplitsNumeral q ∨ SplitsNumeral b := by
  rw [List.append_assoc, List.cons_append]
  constructor
  · intro split
    rcases split.beside (by decide) Numeral.isPart_open with split | split
    · exact .inl split
    · exact .inr (split.beside (by decide) Numeral.isPart_close)
  · rintro (split | split | split)
    · exact split.append_right _
    · exact ((split.append_right _).append_left ['(']).append_left a
    · exact (((split.append_left [')']).append_left q).append_left ['(']).append_left a

/-- What splits a numeral in a part of a text splits it in the text. -/
theorem splitsNumeral_of_part {a q b : Text}
    (split : SplitsNumeral a ∨ SplitsNumeral q ∨ SplitsNumeral b) :
    SplitsNumeral (a ++ q ++ b) := by
  rcases split with split | split | split
  · exact (split.append_right q).append_right b
  · exact (split.append_left a).append_right b
  · exact split.append_left (a ++ q)

end Expression

/-! ## Operands in parentheses -/

namespace Phrase

/-- The row of an operand is a literal alone. -/
theorem exists_row_operand (operand : Phrase .operand) :
    ∃ value : Except Fault Literal, operand.row = value.map fun literal => ⟨literal, []⟩ := by
  cases operand with
  | numeral text valid => exact ⟨.ok _, rfl⟩
  | group inner => exact ⟨inner.byRank, rfl⟩

/-- An operand as an expression of its own reduces to its literal. -/
theorem byRank_first {operand : Phrase .operand} {value : Except Fault Literal}
    (alone : operand.row = value.map fun literal => ⟨literal, []⟩) :
    (first false operand).byRank = value := by
  rw [byRank, row, alone, bind_of_map, bind_of_map]
  cases value with
  | error fault => rfl
  | ok literal => exact Chain.reduce_single Literal.rules literal

/-- **An operand in parentheses reduces to the same literal.** -/
theorem row_parenthesized (operand : Phrase .operand) :
    (group (first false operand)).row = operand.row := by
  obtain ⟨value, alone⟩ := exists_row_operand operand
  show (first false operand).byRank.map _ = _
  rw [byRank_first alone, alone]

theorem spine_group (inner : Phrase .expression) :
    (group inner).spine = inner.fromLeft.map .single :=
  (map_of_bind _ _ _).symm

theorem spine_first_group (negated : Bool) (inner : Phrase .expression) :
    (first negated (group inner)).spine
      = inner.fromLeft.map fun x => .single (if negated then -x else x) := by
  rw [spine, spine_group]
  cases inner.fromLeft <;> rfl

/-- The spine of an operand is a number alone. -/
theorem exists_spine_operand (operand : Phrase .operand) :
    ∃ value : Except Fault Binary64, operand.spine = value.map .single := by
  cases operand with
  | numeral text valid => exact ⟨parseNumber text, rfl⟩
  | group inner => exact ⟨inner.fromLeft, spine_group inner⟩

/-- An operand as an expression of its own comes to its number. -/
theorem fromLeft_first {operand : Phrase .operand} {value : Except Fault Binary64}
    (alone : operand.spine = value.map .single) : (first false operand).fromLeft = value := by
  have positive : (first false operand).spine = operand.spine := by
    cases operand with
    | numeral text valid => rfl
    | group inner => exact (spine_first_group false inner).trans (spine_group inner).symm
  rw [fromLeft, positive, alone]
  cases value <;> rfl

/-- **An operand in parentheses is read as the same number.** -/
theorem spine_parenthesized (operand : Phrase .operand) :
    (group (first false operand)).spine = operand.spine := by
  obtain ⟨value, alone⟩ := exists_spine_operand operand
  rw [spine_group, fromLeft_first alone, alone]

end Phrase

/-- A numeral with a sign is read as its number with the sign, but for the message when it is too
large. -/
theorem parseNumber_withSign (negated : Bool) {numeral : Text}
    (valid : Numeral.isNumeral numeral = true) :
    (parseNumber (Binary64.withSign negated numeral)).mapError Fault.kind
      = ((parseNumber numeral).map fun x => if negated then -x else x).mapError Fault.kind := by
  have read := parseNumber_of_isLiteral (Literal.isLiteral_withSign false valid)
  rw [Binary64.withSign_false] at read
  cases negated with
  | false =>
    rw [Binary64.withSign_false]
    cases parseNumber numeral <;> rfl
  | true =>
    have value : Literal.toBinary64 ('-' :: numeral) = -Literal.toBinary64 numeral := by
      have signed := Literal.toBinary64_withSign true valid
      have unsigned := Literal.toBinary64_withSign false valid
      rw [Binary64.withSign_false] at unsigned
      rw [unsigned, Literal.neg_signed]
      exact signed
    rw [read, parseNumber_of_isLiteral (Literal.isLiteral_withSign true valid),
      Binary64.withSign_true, value, Binary64.isFinite_neg]
    split <;> rfl

namespace Phrase

/-- In front of parentheses around an operand, a sign makes of it what it makes of the operand. -/
theorem spine_first_parenthesized (negated : Bool) (operand : Phrase .operand) :
    (first negated (group (first false operand))).spine.mapError Fault.kind
      = (first negated operand).spine.mapError Fault.kind := by
  cases operand with
  | numeral text valid =>
    have read := parseNumber_withSign negated (Numeral.isNumeral_of_derives valid)
    have alone : (numeral text valid).spine = (parseNumber text).map .single := rfl
    rw [spine_first_group, fromLeft_first alone, spine, mapError_of_map Spine.single, read]
    cases parseNumber text <;> rfl
  | group inner =>
    rw [spine_first_group, spine_first_group, fromLeft_first (spine_group inner)]

end Phrase

/-! ## Redundant parentheses -/

namespace Engine

/-- An expression with an operand in parentheses, or in parentheses as a whole, has the same
value. -/
theorem value_parenthesized (engine : Engine) {x y : Phrase .expression}
    (extra : Phrase.Parenthesized x y ∨ y = .first false (.group x)) :
    (engine.value y).mapError Fault.kind = (engine.value x).mapError Fault.kind := by
  rcases extra with parenthesized | rfl
  · obtain ⟨place, operand, rfl, rfl⟩ := Phrase.parenthesized_iff.1 parenthesized
    cases engine with
    | reduce =>
      have same : (Phrase.group (.first false operand)).standardRow = operand.standardRow :=
        congrArg (Except.map (Chain.map Literal.standard)) (Phrase.row_parenthesized operand)
      rw [value, value, Phrase.Place.numberByRank_fill same place]
    | precedence =>
      have same := place.fromLeft_fill (congrArg (Except.mapError Fault.kind)
        (Phrase.spine_parenthesized operand)) (Phrase.spine_first_parenthesized · operand)
      rw [value, value, mapError_of_map, mapError_of_map, same]
  · cases engine with
    | reduce =>
      have same : (Phrase.first false (.group x)).byRank = x.byRank := Phrase.byRank_first rfl
      rw [value, value, Phrase.numberByRank, Phrase.numberByRank, same]
    | precedence => rw [value, value, Phrase.fromLeft_first (Phrase.spine_group x)]

/-- Redundant parentheses can be put into the text of an expression, wherever its blanks are. -/
theorem exists_parentheses {s : Text} {x y : Phrase .expression}
    (valid : Expression.validate s = .ok x.text)
    (extra : Phrase.Parenthesized x y ∨ y = .first false (.group x)) :
    ∃ a q b, s = a ++ q ++ b ∧ (a ++ '(' :: q ++ ')' :: b).compact = y.text := by
  have text := (Expression.derivable_of_validate valid).1
  rcases extra with parenthesized | rfl
  · obtain ⟨place, operand, rfl, rfl⟩ := Phrase.parenthesized_iff.1 parenthesized
    rw [Phrase.Place.text_fill] at text
    obtain ⟨a, q, b, rfl, front, middle, behind⟩ := Text.exists_of_compact_eq_append text.symm
    refine ⟨a, q, b, rfl, ?_⟩
    rw [Text.compact_parentheses, front, middle, behind, Phrase.Place.text_fill]
    simp
  · exact ⟨[], s, [], by simp, by rw [Text.compact_parentheses, ← text]; rfl⟩

/-- **Redundant parentheses never change the result.** When a part of a valid text is put into
parentheses and the text then is that of the expression with one operand in parentheses, or with
parentheses around it, it is valid again, and every engine returns the same number or an error of
the same kind. -/
theorem evaluate_parenthesized (engine : Engine) {a q b : Text} {x y : Phrase .expression}
    (valid : Expression.validate (a ++ q ++ b) = .ok x.text)
    (extra : Phrase.Parenthesized x y ∨ y = .first false (.group x))
    (inserted : (a ++ '(' :: q ++ ')' :: b).compact = y.text) :
    Expression.validate (a ++ '(' :: q ++ ')' :: b) = .ok y.text
      ∧ (engine.evaluate (a ++ '(' :: q ++ ')' :: b)).outcome.mapError Fault.kind
        = (engine.evaluate (a ++ q ++ b)).outcome.mapError Fault.kind := by
  have unsplit : ¬Expression.SplitsNumeral (a ++ '(' :: q ++ ')' :: b) := by
    rw [Expression.splitsNumeral_parentheses]
    exact mt Expression.splitsNumeral_of_part (Expression.not_splitsNumeral_of_validate valid)
  have valid' : Expression.validate (a ++ '(' :: q ++ ')' :: b) = .ok y.text := by
    rw [← inserted]
    exact Expression.validate_of_derivable unsplit ⟨y, inserted.symm⟩
  refine ⟨valid', ?_⟩
  rw [outcome_evaluate engine valid', outcome_evaluate engine valid]
  exact value_parenthesized engine extra

/-- A text to which it applies: the numeral right behind a sign is put into parentheses. -/
theorem evaluate_parenthesized_sign :
    Expression.validate ("- ".toList ++ "2".toList ++ " ^ 2".toList) = .ok "-2^2".toList
      ∧ ∀ engine : Engine,
        Expression.validate ("- ".toList ++ '(' :: "2".toList ++ ')' :: " ^ 2".toList)
          = .ok "-(2)^2".toList
        ∧ (engine.evaluate
            ("- ".toList ++ '(' :: "2".toList ++ ')' :: " ^ 2".toList)).outcome.mapError Fault.kind
          = (engine.evaluate ("- ".toList ++ "2".toList ++ " ^ 2".toList)).outcome.mapError
            Fault.kind := by
  let two : Phrase .operand := .numeral ['2'] (.whole (List.cons_ne_nil _ _) rfl)
  let x : Phrase .expression := .next (.first true two) .power two
  let y : Phrase .expression := .next (.first true (.group (.first false two))) .power two
  have valid : Expression.validate ("- ".toList ++ "2".toList ++ " ^ 2".toList) = .ok x.text :=
    toOption_eq_some.1 (by decide +kernel)
  have extra : Phrase.Parenthesized x y := .front (.first (.here two))
  have inserted : Text.compact ("- ".toList ++ '(' :: "2".toList ++ ')' :: " ^ 2".toList)
      = y.text := by
    decide +kernel
  exact ⟨valid, fun engine => evaluate_parenthesized engine valid (.inl extra) inserted⟩

end Engine

end InfixCalculator
