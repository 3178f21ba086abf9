import InfixCalculator.Proofs.Engines
import InfixCalculator.Proofs.Levels

/-!
# Operands and their places

A place is a phrase with an operand left out of it (`Phrase.Place`). Filling the place with an
operand gives a phrase again, whose text is that of the operand between two texts that belong to the
place (`Phrase.Place.text_fill`). Putting an operand of an expression into parentheses fills one
place in two ways (`Phrase.parenthesized_iff`), and every opening parenthesis in the text of a
phrase starts a group that fills a place (`Phrase.exists_group_of_text`).

What an engine makes of an expression depends on what it makes of the operand in a place. For
reading from the left this is the number of the operand, or its fault, with a sign in front of it
and without (`Phrase.Place.spine_fill`). For reduction it is the literal that the operand reduces
to, and of that literal no more than the number it stands for: each finite literal may be replaced
by one standard way of writing its number (`Literal.standard`), because the rules of literals
respect it (`Literal.respects_standard`). So rows that are alike in standard form lead to the same
number (`Phrase.Place.standardRow_fill`, `Phrase.numberByRank_eq`).
-/

set_option autoImplicit false

namespace InfixCalculator

/-- A character in a text of two parts stands in one of them. -/
theorem Text.append_eq_append_cons {front behind before after : Text} {c : Char} :
    front ++ behind = before ++ c :: after
      ↔ (∃ between, front = before ++ c :: between ∧ after = between ++ behind)
        ∨ ∃ between, before = front ++ between ∧ behind = between ++ c :: after := by
  constructor
  · intro same
    rcases List.append_eq_append_iff.1 same with ⟨between, first, second⟩ | ⟨overlap, first, second⟩
    · exact .inr ⟨between, first, second⟩
    · rcases List.cons_eq_append_iff.1 second with ⟨rfl, rest⟩ | ⟨between, rfl, rest⟩
      · exact .inr ⟨[], by simpa using first.symm, rest⟩
      · exact .inl ⟨between, first, rest⟩
  · rintro (⟨between, rfl, rfl⟩ | ⟨between, rfl, rfl⟩) <;> simp

namespace Phrase

/-! ## Places -/

/-- A phrase with an operand left out of it. -/
inductive Place : Role → Type where
  /-- Nothing but the operand. -/
  | here : Place .operand
  /-- Inside a group. -/
  | inGroup (inside : Place .expression) : Place .operand
  /-- Inside the first operand of an expression. -/
  | inFirst (negated : Bool) (inside : Place .operand) : Place .expression
  /-- Left of the last operator. -/
  | inFront (inside : Place .expression) (op : Operator) (last : Phrase .operand) :
    Place .expression
  /-- Inside the last operand. -/
  | inLast (front : Phrase .expression) (op : Operator) (inside : Place .operand) :
    Place .expression

namespace Place

/-- The phrase with an operand in the place. -/
def fill (operand : Phrase .operand) : {role : Role} → Place role → Phrase role
  | _, here => operand
  | _, inGroup inside => .group (inside.fill operand)
  | _, inFirst negated inside => .first negated (inside.fill operand)
  | _, inFront inside op last => .next (inside.fill operand) op last
  | _, inLast front op inside => .next front op (inside.fill operand)

/-- The text in front of the place. -/
def head : {role : Role} → Place role → Text
  | _, here => []
  | _, inGroup inside => '(' :: inside.head
  | _, inFirst negated inside => Binary64.withSign negated inside.head
  | _, inFront inside _ _ => inside.head
  | _, inLast front op inside => front.text ++ op.symbol :: inside.head

/-- The text behind the place. -/
def tail : {role : Role} → Place role → Text
  | _, here => []
  | _, inGroup inside => inside.tail ++ [')']
  | _, inFirst _ inside => inside.tail
  | _, inFront inside op last => inside.tail ++ op.symbol :: last.text
  | _, inLast _ _ inside => inside.tail

/-- The text of a filled place is that of the operand between the two texts of the place. -/
theorem text_fill {role : Role} (place : Place role) (operand : Phrase .operand) :
    (place.fill operand).text = place.head ++ operand.text ++ place.tail := by
  induction place with
  | here => simp [fill, head, tail]
  | inGroup inside ih => simp [fill, head, tail, ih]
  | inFirst negated inside ih => cases negated <;> simp [fill, head, tail, ih]
  | inFront inside op last ih => simp [fill, head, tail, ih]
  | inLast front op inside ih => simp [fill, head, tail, ih]

end Place

/-- Putting an operand into parentheses fills its place with a group of it alone. -/
theorem parenthesized_iff {role : Role} {x y : Phrase role} :
    Parenthesized x y ↔ ∃ (place : Place role) (operand : Phrase .operand),
      x = place.fill operand ∧ y = place.fill (.group (.first false operand)) := by
  constructor
  · intro parenthesized
    induction parenthesized with
    | here operand => exact ⟨.here, operand, rfl, rfl⟩
    | group _ ih =>
      obtain ⟨place, operand, rfl, rfl⟩ := ih
      exact ⟨.inGroup place, operand, rfl, rfl⟩
    | @first negated _ _ _ ih =>
      obtain ⟨place, operand, rfl, rfl⟩ := ih
      exact ⟨.inFirst negated place, operand, rfl, rfl⟩
    | @front _ _ op last _ ih =>
      obtain ⟨place, operand, rfl, rfl⟩ := ih
      exact ⟨.inFront place op last, operand, rfl, rfl⟩
    | @last front op _ _ _ ih =>
      obtain ⟨place, operand, rfl, rfl⟩ := ih
      exact ⟨.inLast front op place, operand, rfl, rfl⟩
  · rintro ⟨place, operand, rfl, rfl⟩
    induction place with
    | here => exact .here operand
    | inGroup _ ih => exact .group ih
    | inFirst _ _ ih => exact .first ih
    | inFront _ _ _ ih => exact .front ih
    | inLast _ _ _ ih => exact .last ih

/-- **Every opening parenthesis starts a group**, which fills a place behind the text in front of
the parenthesis. -/
theorem exists_group_of_text {role : Role} (phrase : Phrase role) {before after : Text}
    (split : phrase.text = before ++ '(' :: after) :
    ∃ (place : Place role) (inner : Phrase .expression), phrase = place.fill (.group inner)
      ∧ place.head = before ∧ after = inner.text ++ ')' :: place.tail := by
  induction phrase generalizing before after with
  | numeral text valid =>
    have noOpening := (Group.isPart_not_paren (Numeral.isNumeral_of_derives valid)).1
    rw [text_numeral] at split
    exact absurd (by simp [split]) noOpening
  | group inner ih =>
    rcases List.cons_eq_append_iff.1 split with ⟨rfl, rest⟩ | ⟨front, rfl, rest⟩
    · obtain ⟨-, rfl⟩ := List.cons.inj rest
      exact ⟨.here, inner, rfl, rfl, rfl⟩
    · rcases Text.append_eq_append_cons.1 rest with ⟨between, inside, rfl⟩ | ⟨between, rfl, closing⟩
      · obtain ⟨place, group, rfl, rfl, rfl⟩ := ih inside
        exact ⟨.inGroup place, group, rfl, rfl, by simp [Place.tail]⟩
      · have opens : '(' ∈ [')'] := by simp [closing]
        cases List.mem_singleton.1 opens
  | first negated operand ih =>
    cases negated with
    | false =>
      obtain ⟨place, group, rfl, rfl, rfl⟩ := ih split
      exact ⟨.inFirst false place, group, rfl, rfl, rfl⟩
    | true =>
      rcases List.cons_eq_append_iff.1 split with ⟨-, rest⟩ | ⟨front, rfl, rest⟩
      · cases rest
      · obtain ⟨place, group, rfl, rfl, rfl⟩ := ih rest
        exact ⟨.inFirst true place, group, rfl, rfl, rfl⟩
  | next front op operand ihFront ihOperand =>
    rcases Text.append_eq_append_cons.1 split with ⟨between, inside, rfl⟩ | ⟨between, rfl, rest⟩
    · obtain ⟨place, group, rfl, rfl, rfl⟩ := ihFront inside
      exact ⟨.inFront place op operand, group, rfl, rfl, by simp [Place.tail]⟩
    · rcases List.cons_eq_append_iff.1 rest with ⟨-, symbol⟩ | ⟨behind, rfl, inside⟩
      · exact absurd (List.cons.inj symbol).1 (Group.symbol_not_paren op).1
      · obtain ⟨place, group, rfl, rfl, rfl⟩ := ihOperand inside
        exact ⟨.inLast front op place, group, rfl, rfl, rfl⟩

/-! ## Reading a filled place from the left -/

namespace Place

section

variable {ε : Type} {f : Fault → ε} {x y : Phrase .operand}
  (same : x.spine.mapError f = y.spine.mapError f)
  (signed : ∀ negated,
    (Phrase.first negated x).spine.mapError f = (Phrase.first negated y).spine.mapError f)
include same signed

/-- **Operands that read alike, with a sign and without, may stand for each other** in any place, up
to names of faults. -/
theorem spine_fill {role : Role} (place : Place role) :
    (place.fill x).spine.mapError f = (place.fill y).spine.mapError f := by
  induction place with
  | here => exact same
  | inGroup inside ih =>
    simp only [fill, spine, mapError_of_bind, ih]
  | inFirst negated inside ih =>
    cases inside with
    | here => exact signed negated
    | inGroup inside =>
      simp only [fill, spine, mapError_of_map, mapError_of_bind] at ih ⊢
      rw [ih]
  | inFront inside op last ih =>
    simp only [fill, spine, mapError_of_bind, ih]
  | inLast front op inside ih =>
    simp only [fill, spine, mapError_of_bind, mapError_of_map, ih]

theorem fromLeft_fill (place : Place .expression) :
    (place.fill x).fromLeft.mapError f = (place.fill y).fromLeft.mapError f := by
  rw [fromLeft, fromLeft, mapError_of_bind, mapError_of_bind, spine_fill same signed place]

end

end Place

end Phrase

/-! ## Standard literals -/

namespace Literal

/-- The literal that a finite number is written as, with the sign that a zero may have; a literal
past the finite numbers stays as it is. -/
def standard (x : Literal) : Literal :=
  match toBinary64 x.text with
  | .finite negative magnitude =>
    ofNumeral negative magnitude.shortest.positional (Decimal.isNumeral_positional _)
  | _ => x

theorem standard_of_finite {x : Literal} {negative : Bool} {magnitude : Magnitude}
    (value : toBinary64 x.text = .finite negative magnitude) :
    x.standard
      = ofNumeral negative magnitude.shortest.positional (Decimal.isNumeral_positional _) := by
  unfold standard
  rw [value]

theorem standard_of_not_finite {x : Literal} (large : ¬x.IsFinite) : x.standard = x := by
  unfold standard
  split
  · rename_i value
    exact absurd (congrArg Binary64.isFinite value) large
  · rfl

theorem IsFinite.exists_value {x : Literal} (finite : x.IsFinite) :
    ∃ negative magnitude, toBinary64 x.text = .finite negative magnitude := by
  unfold IsFinite at finite
  generalize toBinary64 x.text = value at finite
  cases value with
  | finite negative magnitude => exact ⟨negative, magnitude, rfl⟩
  | infinite => cases finite
  | notANumber => cases finite

/-- The standard literal stands for the same number. -/
theorem toBinary64_standard (x : Literal) : toBinary64 x.standard.text = toBinary64 x.text := by
  by_cases finite : x.IsFinite
  · obtain ⟨negative, magnitude, value⟩ := finite.exists_value
    rw [standard_of_finite value, value, text_ofNumeral,
      toBinary64_withSign negative (Decimal.isNumeral_positional _),
        Decimal.round_toDecimal_positional,
      Magnitude.round_shortest]
    rfl
  · rw [standard_of_not_finite finite]

/-- Finite literals for one number have one standard form. -/
theorem standard_congr {x y : Literal} (finite : x.IsFinite)
    (same : toBinary64 x.text = toBinary64 y.text) : x.standard = y.standard := by
  obtain ⟨negative, magnitude, value⟩ := finite.exists_value
  rw [standard_of_finite value, standard_of_finite (same ▸ value)]

/-- The standard literal is read with the same result. -/
theorem parseNumber_standard (x : Literal) : parseNumber x.standard.text = parseNumber x.text := by
  by_cases finite : x.IsFinite
  · have same := toBinary64_standard x
    have finite' : x.standard.IsFinite := (congrArg Binary64.isFinite same).trans finite
    rw [parseNumber_eq_ok.2 ⟨finite, rfl⟩, parseNumber_eq_ok.2 ⟨finite', same⟩]
  · rw [standard_of_not_finite finite]

theorem hasSign_standard (x : Literal) : x.standard.hasSign = x.hasSign := by
  rw [← isNegative_toBinary64, ← isNegative_toBinary64, toBinary64_standard]

theorem opposite_standard (x : Literal) : x.standard.opposite = x.opposite.standard := by
  by_cases finite : x.IsFinite
  · obtain ⟨negative, magnitude, value⟩ := finite.exists_value
    have opposite : toBinary64 x.opposite.text = .finite (!negative) magnitude := by
      rw [toBinary64_opposite, value]
      rfl
    rw [standard_of_finite value, standard_of_finite opposite, opposite_ofNumeral]
  · rw [standard_of_not_finite finite, standard_of_not_finite (mt (isFinite_opposite x).1 finite)]

/-- What a result is written as is standard. -/
theorem standard_write {x : Binary64} (canonical : x.IsCanonical) :
    (write x canonical.1).standard = write x canonical.1 := by
  obtain ⟨negative, magnitude, value, same⟩ := Binary64.exists_plain canonical.1
  rw [Binary64.normalizeZero_of_isCanonical canonical] at value
  rw [standard_of_finite ((toBinary64_write canonical).trans value)]
  exact ext same.symm

theorem applyOperator_standard (op : Operator) (x y : Literal) :
    applyOperator op x.standard y.standard = applyOperator op x y := by
  unfold applyOperator
  rw [parseNumber_standard, parseNumber_standard]

theorem standard_of_applyOperator {op : Operator} {x y z : Literal}
    (applied : applyOperator op x y = .ok z) : z.standard = z := by
  unfold applyOperator at applied
  split at applied
  · cases applied
  · split at applied
    · cases applied
    · split at applied
      · cases applied
      · rename_i result
        cases applied
        exact standard_write (Operator.isCanonical_of_apply result)

/-- **Literals may be computed with in standard form.** -/
theorem respects_standard : Chain.Respects rules rules (fun _ => True) standard id where
  apply op x y _ _ := by
    rw [rules_apply, rules_apply, applyOperator_standard]
    cases applied : applyOperator op x y with
    | error fault => rfl
    | ok z => exact congrArg Except.ok (standard_of_applyOperator applied)
  result _ _ _ _ _ _ _ := trivial
  isNegative := hasSign_standard
  opposite := opposite_standard
  opposite_property _ := Iff.rfl

end Literal

/-! ## Reducing a filled place -/

namespace Phrase

/-- The row of a phrase with its literals in standard form, or the first fault met. -/
def standardRow {role : Role} (phrase : Phrase role) : Except Fault Row :=
  phrase.row.map (Chain.map Literal.standard)

/-- Rows that are alike in standard form reduce to literals that are. -/
theorem reduce_standard (row : Row) :
    (row.reduce Literal.rules).map Literal.standard
      = (row.map Literal.standard).reduce Literal.rules := by
  have all : row.All fun _ => True := ⟨trivial, fun _ _ => trivial⟩
  have reduced := (Literal.respects_standard.reduce_map all).1
  rwa [mapError_id] at reduced

/-- The literal of a level in standard form comes from its row in standard form. -/
theorem byRank_standard (e : Phrase .expression) :
    e.byRank.map Literal.standard = e.standardRow.bind fun row => row.reduce Literal.rules := by
  rw [byRank, standardRow, map_of_bind, bind_of_map]
  simp only [reduce_standard]

theorem standardRow_group (inner : Phrase .expression) :
    (group inner).standardRow
      = (inner.standardRow.bind fun row => row.reduce Literal.rules).map fun value =>
        ⟨value, []⟩ := by
  rw [← byRank_standard, standardRow]
  show (inner.byRank.map _).map _ = _
  cases inner.byRank <;> rfl

theorem standardRow_first (negated : Bool) (operand : Phrase .operand) :
    (first negated operand).standardRow = operand.standardRow.map fun row =>
      ⟨if negated then row.first.opposite else row.first, []⟩ := by
  unfold standardRow
  rw [row]
  cases operand.row with
  | error fault => rfl
  | ok row => cases negated <;> simp [Except.map, Chain.map, Literal.opposite_standard]

theorem standardRow_next (front : Phrase .expression) (op : Operator) (operand : Phrase .operand) :
    (next front op operand).standardRow = front.standardRow.bind fun row =>
      operand.standardRow.map fun last => ⟨row.first, row.rest ++ [(op, last.first)]⟩ := by
  unfold standardRow
  rw [row]
  cases front.row with
  | error fault => rfl
  | ok row =>
    cases operand.row with
    | error fault => rfl
    | ok last => simp [Except.map, Except.bind, Chain.map]

/-- The number of an expression comes from its row in standard form. -/
theorem numberByRank_eq (e : Phrase .expression) :
    e.numberByRank = (e.standardRow.bind fun row => row.reduce Literal.rules).bind fun literal =>
      parseNumber literal.text := by
  rw [← byRank_standard, numberByRank, bind_of_map]
  simp only [Literal.parseNumber_standard]

namespace Place

/-- **Operands that reduce to literals for one number may stand for each other** in any place. -/
theorem standardRow_fill {x y : Phrase .operand} (same : x.standardRow = y.standardRow)
    {role : Role} (place : Place role) :
    (place.fill x).standardRow = (place.fill y).standardRow := by
  induction place with
  | here => exact same
  | inGroup inside ih => simp only [fill, standardRow_group, ih]
  | inFirst negated inside ih => simp only [fill, standardRow_first, ih]
  | inFront inside op last ih => simp only [fill, standardRow_next, ih]
  | inLast front op inside ih => simp only [fill, standardRow_next, ih]

theorem numberByRank_fill {x y : Phrase .operand} (same : x.standardRow = y.standardRow)
    (place : Place .expression) : (place.fill x).numberByRank = (place.fill y).numberByRank := by
  rw [numberByRank_eq, numberByRank_eq, standardRow_fill same place]

end Place

end Phrase

end InfixCalculator
