import InfixCalculator.Proofs.Agreement
import InfixCalculator.Proofs.Parentheses
import InfixCalculator.Proofs.PlainForms
import Mathlib.Data.List.Infix

/-!
# A group may be replaced by its value

Of a group nothing matters but the number it comes to. Two groups that an engine ascribes the same
number to may stand for each other in any place, if the number is not zero
(`Engine.value_fill_group`). A zero has two signs, of which the value that an engine returns shows
none, so zero is left out.

Among the groups with a given value is the one of its plain form: a literal is an expression, which
reduces to itself and is read as its number (`Phrase.exists_of_literal`). Which group of a text a
pair of parentheses encloses is told by counting: parentheses match when the text between them is
balanced (`Group.Balanced`), and no other text in front of a closing parenthesis is
(`Group.Balanced.eq_text`). So a pair of matching parentheses with the text between them may be
replaced by its value in parentheses (`Engine.evaluate_group`).
-/

set_option autoImplicit false

namespace InfixCalculator

/-! ## Matching parentheses -/

namespace Group

/-- Parentheses around a balanced text match each other: in the text as many are closed as are
opened, and nowhere more. -/
structure Balanced (text : Text) : Prop where
  /-- As many parentheses are closed as are opened. -/
  closed : text.count ')' = text.count '('
  /-- Nowhere more have been closed than opened. -/
  nested : ∀ front, front <+: text → front.count ')' ≤ front.count '('

instance (text : Text) : Decidable (Balanced text) :=
  decidable_of_iff
    (text.count ')' = text.count '(' ∧ ∀ front ∈ text.inits, front.count ')' ≤ front.count '(')
    ⟨fun both => ⟨both.1, fun front inside => both.2 front ((List.mem_inits front text).2 inside)⟩,
      fun balanced => ⟨balanced.closed, fun front inside =>
        balanced.nested front ((List.mem_inits front text).1 inside)⟩⟩

/-- One step of the search for the end of a group, which counts the groups that are open. -/
theorem close?_count {c : Char} {depth : Nat} (nested : [c].count ')' ≤ depth + [c].count '(')
    (passed rest : Text) :
    close? depth passed (c :: rest)
      = close? (depth + [c].count '(' - [c].count ')') (c :: passed) rest := by
  by_cases opening : c = '('
  · subst opening
    rfl
  · by_cases closing : c = ')'
    · subst closing
      obtain ⟨outer, rfl⟩ : ∃ outer, depth = outer + 1 := Nat.exists_eq_add_one.2 nested
      rfl
    · rw [close?_cons (Ne.symm opening) (Ne.symm closing)]
      simp [opening, closing]

/-- The search for the end of a group passes over a text that nowhere closes more groups than are
open. -/
theorem close?_of_nested {text : Text} {depth : Nat}
    (nested : ∀ front, front <+: text → front.count ')' ≤ depth + front.count '(')
    (passed rest : Text) :
    close? depth passed (text ++ rest)
      = close? (depth + text.count '(' - text.count ')') (text.reverse ++ passed) rest := by
  induction text generalizing depth passed with
  | nil => rfl
  | cons c text ih =>
    have counts (p : Char) (front : Text) : (c :: front).count p = [c].count p + front.count p := by
      rw [← List.count_append, List.singleton_append]
    have first := nested [c] (List.cons_prefix_cons.2 ⟨rfl, List.nil_prefix⟩)
    have further (front : Text) (inside : front <+: text) :
        front.count ')' ≤ depth + [c].count '(' - [c].count ')' + front.count '(' := by
      have := nested (c :: front) (List.cons_prefix_cons.2 ⟨rfl, inside⟩)
      rw [counts _ front, counts _ front] at this
      omega
    have depths : depth + [c].count '(' - [c].count ')' + text.count '(' - text.count ')'
        = depth + (c :: text).count '(' - (c :: text).count ')' := by
      rw [counts _ text, counts _ text]
      omega
    rw [List.cons_append, close?_count first, ih further, depths, List.reverse_cons,
      List.append_assoc, List.singleton_append]

/-- A balanced text in front of a closing parenthesis is what the search for the end of a group
returns. -/
theorem Balanced.close?_eq {inner : Text} (balanced : Balanced inner) (tail : Text) :
    close? 0 [] (inner ++ ')' :: tail) = some (inner, tail) := by
  have nested (front : Text) (inside : front <+: inner) :
      front.count ')' ≤ 0 + front.count '(' := by
    rw [Nat.zero_add]
    exact balanced.nested front inside
  rw [close?_of_nested nested, balanced.closed, Nat.zero_add, Nat.sub_self, close?]
  simp

/-- Only one text in front of a closing parenthesis is balanced: that of the group. -/
theorem Balanced.eq_text {inner tail tail' : Text} (balanced : Balanced inner)
    {e : Phrase .expression} (same : inner ++ ')' :: tail = e.text ++ ')' :: tail') :
    inner = e.text ∧ tail = tail' := by
  have found := balanced.close?_eq tail
  have group : close? 0 [] (e.text ++ ')' :: tail') = some (e.text, tail') := by
    rw [close?_phrase, close?]
    simp
  rw [same, group] at found
  obtain ⟨inner', tail''⟩ := Prod.mk.inj (Option.some.inj found)
  exact ⟨inner'.symm, tail''.symm⟩

/-- Blanks do not matter for whether parentheses match. -/
theorem Balanced.compact {inner : Text} (balanced : Balanced inner) : Balanced inner.compact := by
  have counts (text : Text) :
      text.compact.count '(' = text.count '(' ∧ text.compact.count ')' = text.count ')' :=
    ⟨List.count_filter (by decide), List.count_filter (by decide)⟩
  refine ⟨by rw [(counts inner).1, (counts inner).2, balanced.closed], fun front inside => ?_⟩
  obtain ⟨front, inside', rfl⟩ := List.prefix_filter_iff.1 inside
  have nested := balanced.nested front inside'
  rwa [← (counts front).1, ← (counts front).2] at nested

end Group

/-! ## Groups with one value -/

namespace Phrase

/-- **A literal is an expression**, which reduces to itself and is read as its number. -/
theorem exists_of_literal (x : Literal) :
    ∃ e : Phrase .expression, e.text = x.text ∧ e.byRank = .ok x
      ∧ e.fromLeft = parseNumber x.text := by
  obtain ⟨negative, numeral, valid, rfl⟩ := Literal.exists_ofNumeral x
  refine ⟨.first negative (.numeral numeral (Numeral.derives_of_isNumeral valid)), rfl, ?_, ?_⟩
  · rw [byRank, row, row]
    cases negative with
    | false => exact Chain.reduce_single Literal.rules _
    | true =>
      show Chain.reduce Literal.rules ⟨Literal.opposite _, []⟩ = _
      rw [Literal.opposite_ofNumeral]
      exact Chain.reduce_single Literal.rules _
  · rw [fromLeft, spine, bind_of_map, Literal.text_ofNumeral]
    cases parseNumber (Binary64.withSign negative numeral) <;> rfl

end Phrase

namespace Engine

/-- Of a nonzero number the engine has seen the same number before its zero was made positive. -/
theorem eq_ok_of_normalizeZero {result : Except Fault Binary64} {v : Binary64}
    (value : result.map Binary64.normalizeZero = .ok v) (nonzero : v.isZero = false) :
      result = .ok v := by
  obtain ⟨w, rfl, rfl⟩ := map_eq_ok.1 value
  rw [Binary64.isZero_normalizeZero] at nonzero
  rw [Binary64.normalizeZero_of_not_isZero nonzero]

variable {engine : Engine} {v : Binary64}

/-- **Groups with one value may stand for each other** in any place, if the value is not zero. -/
theorem value_fill_group {inner inner' : Phrase .expression} (value : engine.value inner = .ok v)
    (value' : engine.value inner' = .ok v) (nonzero : v.isZero = false)
    (place : Phrase.Place .expression) :
    engine.value (place.fill (.group inner)) = engine.value (place.fill (.group inner')) := by
  cases engine with
  | reduce =>
    obtain ⟨x, reduced, read⟩ := bind_eq_ok.1 (eq_ok_of_normalizeZero value nonzero)
    obtain ⟨x', reduced', read'⟩ := bind_eq_ok.1 (eq_ok_of_normalizeZero value' nonzero)
    obtain ⟨finite, number⟩ := Literal.parseNumber_eq_ok.1 read
    obtain ⟨-, number'⟩ := Literal.parseNumber_eq_ok.1 read'
    have standard := Literal.standard_congr finite (number.trans number'.symm)
    have same : (Phrase.group inner).standardRow = (Phrase.group inner').standardRow := by
      rw [Phrase.standardRow_group, Phrase.standardRow_group, ← Phrase.byRank_standard,
        ← Phrase.byRank_standard, reduced, reduced']
      show Except.ok (⟨x.standard, []⟩ : Row) = .ok ⟨x'.standard, []⟩
      rw [standard]
    rw [Engine.value, Engine.value, Phrase.Place.numberByRank_fill same place]
  | precedence =>
    have read := eq_ok_of_normalizeZero value nonzero
    have read' := eq_ok_of_normalizeZero value' nonzero
    have same : (Phrase.group inner).spine = (Phrase.group inner').spine := by
      rw [Phrase.spine_group, Phrase.spine_group, read, read']
    have signed (negated : Bool) :
        (Phrase.first negated (.group inner)).spine
          = (Phrase.first negated (.group inner')).spine := by
      rw [Phrase.spine_first_group, Phrase.spine_first_group, read, read']
    have filled := place.fromLeft_fill (congrArg (Except.mapError id) same) fun negated =>
      congrArg (Except.mapError id) (signed negated)
    rw [mapError_id, mapError_id] at filled
    rw [Engine.value, Engine.value, filled]

/-- The plain form of a number is an expression of that value. -/
theorem exists_phrase_of_plain (engine : Engine) (canonical : v.IsCanonical) :
    ∃ e : Phrase .expression, e.text = v.plain ∧ engine.value e = .ok v := by
  obtain ⟨e, text, byRank, fromLeft⟩ := Phrase.exists_of_literal (Literal.write v canonical.1)
  have read : parseNumber (Literal.write v canonical.1).text = .ok v :=
    (Binary64.parseNumber_plain canonical.1).trans
      (congrArg Except.ok (Binary64.normalizeZero_of_isCanonical canonical))
  refine ⟨e, text, ?_⟩
  cases engine with
  | reduce =>
    rw [value, Phrase.numberByRank, byRank, bind_ok, read]
    exact congrArg Except.ok (Binary64.normalizeZero_of_isCanonical canonical)
  | precedence =>
    rw [value, fromLeft, read]
    exact congrArg Except.ok (Binary64.normalizeZero_of_isCanonical canonical)

end Engine

/-! ## A group and its value -/

/-- A literal holds no blanks. -/
theorem Literal.isBlank_of_mem {text : Text} (literal : isLiteral text = true) :
    ∀ c ∈ text, Text.isBlank c = false := by
  intro c member
  exact forall_isPart (Text.isBlank · = false) (by decide) (by decide) (by decide)
    (isPart_of_mem literal member)

namespace Engine

/-- **A group may be replaced by its value.** In a valid text with a pair of matching parentheses,
the text between them may be replaced by the plain form of the number that an engine returns for it,
if that is not zero: the engine returns the same number for the whole text, or fails with the same
fault. -/
theorem evaluate_group (engine : Engine) {a inner b : Text} {v : Binary64}
    (valid : ∃ compact, Expression.validate (a ++ '(' :: inner ++ ')' :: b) = .ok compact)
    (matched : Group.Balanced inner) (returns : (engine.evaluate inner).outcome = .ok v)
    (nonzero : v.isZero = false) :
    (engine.evaluate (a ++ '(' :: inner ++ ')' :: b)).outcome
      = (engine.evaluate (a ++ '(' :: v.plain ++ ')' :: b)).outcome := by
  obtain ⟨compact, valid⟩ := valid
  obtain ⟨x, valid⟩ := exists_phrase_of_validate valid
  have unsplit := Expression.not_splitsNumeral_of_validate valid
  rw [Expression.splitsNumeral_parentheses, not_or, not_or] at unsplit
  -- the parentheses enclose a group of the expression, whose value is the one returned
  have whole : x.text = a.compact ++ '(' :: (inner.compact ++ ')' :: b.compact) := by
    rw [(Expression.derivable_of_validate valid).1, Text.compact_parentheses]
    simp
  obtain ⟨place, group, rfl, front, behind⟩ := Phrase.exists_group_of_text x whole
  obtain ⟨inside, behind⟩ := matched.compact.eq_text behind
  have validGroup : Expression.validate inner = .ok group.text := by
    rw [← inside]
    exact Expression.validate_of_derivable unsplit.2.1 ⟨group, inside.symm⟩
  rw [outcome_evaluate engine validGroup] at returns
  -- so is the value of the plain form
  have orderly := engine.orderly_value group
  rw [returns] at orderly
  cases orderly with
  | ok canonical =>
    obtain ⟨e, text, value⟩ := exists_phrase_of_plain engine canonical
    have filled := Literal.isBlank_of_mem (Binary64.isLiteral_plain canonical.1)
    have replaced : (a ++ '(' :: v.plain ++ ')' :: b).compact = (place.fill (.group e)).text := by
      rw [Text.compact_parentheses, Text.compact_of_forall filled, Phrase.Place.text_fill,
        Phrase.text_group, text, front, behind]
      simp
    have valid' : Expression.validate (a ++ '(' :: v.plain ++ ')' :: b)
        = .ok (place.fill (.group e)).text := by
      rw [← replaced]
      refine Expression.validate_of_derivable ?_ ⟨_, replaced.symm⟩
      rw [Expression.splitsNumeral_parentheses, not_or, not_or]
      exact ⟨unsplit.1, Expression.not_splitsNumeral_of_filled filled, unsplit.2.2⟩
    rw [outcome_evaluate engine valid, outcome_evaluate engine valid']
    exact value_fill_group returns value nonzero place

/-- A text to which it applies: a difference between blanks, of a number without digits in front of
its point. -/
theorem evaluate_group_half :
    ∃ v : Binary64, v.plain = "0.5".toList ∧ v.isZero = false ∧ Group.Balanced " 1 - .5 ".toList
      ∧ ∀ engine : Engine, (engine.evaluate " 1 - .5 ".toList).outcome = .ok v
        ∧ (engine.evaluate
            ("2 * ".toList ++ '(' :: " 1 - .5 ".toList ++ ')' :: " ^ 2".toList)).outcome
          = (engine.evaluate
            ("2 * ".toList ++ '(' :: v.plain ++ ')' :: " ^ 2".toList)).outcome := by
  let e : Phrase .expression :=
    .next (.first false (.numeral ['1'] (.whole (List.cons_ne_nil _ _) rfl))) .subtract
      (.numeral ['.', '5'] (.fraction (List.cons_ne_nil _ _) rfl))
  let v := Literal.toBinary64 "0.5".toList
  have validInner : Expression.validate " 1 - .5 ".toList = .ok e.text :=
    toOption_eq_some.1 (by decide +kernel)
  have balanced : Group.Balanced " 1 - .5 ".toList := by decide
  have read : (precedence.evaluate " 1 - .5 ".toList).outcome = .ok v :=
    toOption_eq_some.1 (by decide +kernel)
  have returns (engine : Engine) : (engine.evaluate " 1 - .5 ".toList).outcome = .ok v := by
    cases engine with
    | precedence => exact read
    | reduce =>
      have levels : e.AtEveryLevel Phrase.Unambiguous := ⟨.inl (by decide), ⟨trivial, trivial⟩⟩
      rw [outcome_evaluate reduce validInner, ← toOption_eq_some,
        toOption_value_of_unambiguous levels, toOption_eq_some,
        ← outcome_evaluate precedence validInner, read]
  have valid : ∃ compact, Expression.validate
      ("2 * ".toList ++ '(' :: " 1 - .5 ".toList ++ ')' :: " ^ 2".toList) = .ok compact :=
    ⟨"2*(1-.5)^2".toList, toOption_eq_some.1 (by decide +kernel)⟩
  have nonzero : v.isZero = false := by decide +kernel
  refine ⟨v, by decide +kernel, nonzero, balanced, fun engine => ⟨returns engine, ?_⟩⟩
  exact evaluate_group engine valid balanced (returns engine) nonzero

end Engine

end InfixCalculator
