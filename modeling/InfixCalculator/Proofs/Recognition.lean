import InfixCalculator.Proofs.Engines
import InfixCalculator.Proofs.Stacks
import InfixCalculator.Proofs.TokenLayout

/-!
# Validation and tokens recognise the same texts

Whatever values come out, tokens that evaluate to a number are derived from the grammar of tokens,
and so they stand in the order of an expression: numbers and groups where an operand is expected,
operators and the ends of open groups behind one, and the end mark behind an operand when no group
is open (`Token.Shaped`, `Token.Yields.shaped`). Faults of arithmetic may end an evaluation early,
but none makes a misshapen list of tokens return a number.

This order says as much as a check of the text does. When scanning a text gives tokens in it, the
check passes over the text without its blanks, piece by piece, with the same number of groups open
and an operand expected in the same places; and no numeral of the text is split, because its parts
would be two numbers in a row (`Token.check_of_shaped`).

So on texts whose blanks are separators, what validation refuses never evaluates to a number, and
what it accepts evaluates as the text without its blanks does
(`Engine.evaluateByPrecedence_of_validate`).
-/

set_option autoImplicit false

namespace InfixCalculator

namespace Token

/-! ## The order of tokens -/

/-- The kinds of tokens in an order that an expression allows, when a number of groups are open and
an operand is expected or not. What stands behind the end mark does not matter. -/
inductive Shaped : Nat → Bool → List Kind → Prop where
  /-- A number in place of an operand. -/
  | number {groups : Nat} {rest : List Kind} (behind : Shaped groups false rest) :
      Shaped groups true (.number :: rest)
  /-- A sign in front of an operand. -/
  | sign {groups : Nat} {rest : List Kind} (behind : Shaped groups true rest) :
      Shaped groups true (.sign :: rest)
  /-- The start of a group in place of an operand. -/
  | openParen {groups : Nat} {rest : List Kind} (behind : Shaped (groups + 1) true rest) :
      Shaped groups true (.openParen :: rest)
  /-- The end of a group behind an operand. -/
  | closeParen {groups : Nat} {rest : List Kind} (behind : Shaped groups false rest) :
      Shaped (groups + 1) false (.closeParen :: rest)
  /-- An operator behind an operand. -/
  | operator {groups : Nat} {rest : List Kind} (behind : Shaped groups true rest) :
      Shaped groups false (.operator :: rest)
  /-- The end behind an operand, with no group open. -/
  | finish {rest : List Kind} : Shaped 0 false (.finish :: rest)

/-- The kind in front tells what was expected there, and how the rest is in order. -/
theorem Shaped.front {groups : Nat} {expects : Bool} {first : Kind} {rest : List Kind}
    (shaped : Shaped groups expects (first :: rest)) :
    match first with
    | .number => expects = true ∧ Shaped groups false rest
    | .sign => expects = true ∧ Shaped groups true rest
    | .openParen => expects = true ∧ Shaped (groups + 1) true rest
    | .closeParen => expects = false ∧ ∃ outer, groups = outer + 1 ∧ Shaped outer false rest
    | .operator => expects = false ∧ Shaped groups true rest
    | .finish => groups = 0 ∧ expects = false := by
  cases shaped with
  | number behind | sign behind | openParen behind | operator behind => exact ⟨rfl, behind⟩
  | closeParen behind => exact ⟨rfl, _, rfl, behind⟩
  | finish => exact ⟨rfl, rfl⟩

/-- **Derived tokens are in order** in place of an operand, if what follows is in order behind
one. -/
theorem Yields.shaped {level : Nat} {tokens : List Token} {x : Binary64}
    (derived : Yields level tokens x) {groups : Nat} {rest : List Kind}
    (behind : Shaped groups false rest) : Shaped groups true (tokens.map kind ++ rest) := by
  induction derived generalizing groups rest with
  | number kind => simpa [kind] using Shaped.number behind
  | group opens closes _ ih =>
    simpa [opens, closes] using Shaped.openParen (ih (.closeParen behind))
  | sign kind _ ih => simpa [kind] using Shaped.sign (ih behind)
  | lift _ _ ih => exact ih behind
  | apply kind _ _ _ _ ihFirst ihSecond =>
    simpa [kind] using ihFirst (.operator (ihSecond behind))

/-! ## Scanned tokens -/

/-- The text of a token is written as its kind says. -/
def Spelled (t : Token) : Prop :=
  match t.kind with
  | .number => Literal.isLiteral t.text = true
  | .operator => ∃ op : Operator, t.text = [op.symbol]
  | .sign => t.text = ['-']
  | .openParen => t.text = ['(']
  | .closeParen => t.text = [')']
  | .finish => t.text = []

/-- The tokens of a scan are written as their kinds say. -/
theorem spelled_of_scanFrom {whole rest : Text} {position : Nat} {last : Option Kind}
    {tokens : List Token} (scanned : scanFrom whole position last rest = .ok tokens) :
      ∀ t ∈ tokens, t.Spelled := by
  have literal (negative : Bool) {text numeral after : Text}
      (found : scanNumeral? text = some (numeral, after)) :
      Literal.isLiteral (Binary64.withSign negative numeral) = true := by
    obtain ⟨-, valid, -⟩ := scanNumeral?_eq_some.1 found
    exact Literal.isLiteral_withSign negative (Numeral.isNumeral_of_derives valid)
  fun_induction scanFrom whole position last rest generalizing tokens with
  | case1 =>
    cases scanned
    exact List.forall_mem_singleton.2 rfl
  | case2 _ _ _ _ _ ih => exact ih scanned
  | case3 | case7 | case11 => cases scanned
  | case4 position last c tail other part numeral after found ih =>
    obtain ⟨behind, scanned', rfl⟩ := map_eq_ok.1 scanned
    exact List.forall_mem_cons.2 ⟨literal false found, ih scanned'⟩
  | case8 position last c tail other _ _ _ sign digits skipped starts numeral after found =>
    rename_i ih
    obtain ⟨behind, scanned', rfl⟩ := map_eq_ok.1 scanned
    exact List.forall_mem_cons.2 ⟨literal true found, ih scanned'⟩
  | case9 position last c tail other _ _ _ sign =>
    rename_i ih
    obtain ⟨behind, scanned', rfl⟩ := map_eq_ok.1 scanned
    obtain ⟨rfl, -⟩ := sign
    exact List.forall_mem_cons.2 ⟨rfl, ih scanned'⟩
  | case10 position last c tail other _ _ _ _ symbol ih =>
    obtain ⟨behind, scanned', rfl⟩ := map_eq_ok.1 scanned
    obtain ⟨op, rfl⟩ := Operator.isSymbol_iff.1 symbol
    exact List.forall_mem_cons.2 ⟨⟨op, rfl⟩, ih scanned'⟩
  | case5 | case6 =>
    rename_i ih
    obtain ⟨behind, scanned', rfl⟩ := map_eq_ok.1 scanned
    exact List.forall_mem_cons.2 ⟨rfl, ih scanned'⟩

/-- The number tokens of a scan are literals. -/
theorem isLiteral_of_scanFrom {whole rest : Text} {position : Nat} {last : Option Kind}
    {tokens : List Token} (scanned : scanFrom whole position last rest = .ok tokens) :
    ∀ t ∈ tokens, t.kind = .number → Literal.isLiteral t.text = true := by
  intro t member kind
  have spelled := spelled_of_scanFrom scanned t member
  rwa [Spelled, kind] at spelled

/-- What a scan finds at fault is the shape of the text. -/
theorem isShape_of_scanFrom {whole rest : Text} {position : Nat} {last : Option Kind}
    {fault : Fault} (failed : scanFrom whole position last rest = .error fault) :
    fault.kind.IsShape := by
  fun_induction scanFrom whole position last rest with
  | case1 => cases failed
  | case2 _ _ _ _ _ ih => exact ih failed
  | case3 | case7 =>
    cases failed
    trivial
  | case11 =>
    cases failed
    exact Expression.isShape_strayFault _ _
  | case4 | case5 | case6 | case8 | case9 | case10 =>
    rename_i ih
    exact ih (map_eq_error.1 failed)

/-- The first token behind the blanks is a number or the end of a group, as its character tells. -/
theorem exists_of_scanFrom {whole rest : Text} {position : Nat} {last : Option Kind}
    {tokens : List Token} (separators : BlanksSeparate rest)
    (scanned : scanFrom whole position last rest = .ok tokens) {c : Char}
    (head : c ∈ rest.compact.head?) :
    ∃ t behind, tokens = t :: behind ∧ (Numeral.isPart c = true → t.kind = .number)
      ∧ (c = ')' → t.kind = .closeParen) := by
  have first {d : Char} {tail : Text} (separators : BlanksSeparate (d :: tail))
      (other : ¬isSeparator d = true) (head : c ∈ (Text.compact (d :: tail)).head?) : d = c := by
    rw [separators.compact_cons other] at head
    exact Option.some.inj head
  fun_induction scanFrom whole position last rest generalizing tokens with
  | case1 => cases head
  | case2 _ _ _ _ separator ih =>
    rw [Text.compact_cons_of_isBlank (isBlank_of_isSeparator separator)] at head
    exact ih (blanksSeparate_cons.1 separators).2 scanned head
  | case3 | case7 | case11 => cases scanned
  | case4 position last d tail other part numeral after found =>
    obtain rfl := first separators other head
    obtain ⟨behind, -, rfl⟩ := map_eq_ok.1 scanned
    refine ⟨_, _, rfl, fun _ => rfl, ?_⟩
    rintro rfl
    cases part
  | case5 position last tail other =>
    obtain rfl := first separators other head
    obtain ⟨behind, -, rfl⟩ := map_eq_ok.1 scanned
    exact ⟨_, _, rfl, fun part => (by cases part), fun same => (by cases same)⟩
  | case6 position last tail other =>
    obtain rfl := first separators other head
    obtain ⟨behind, -, rfl⟩ := map_eq_ok.1 scanned
    exact ⟨_, _, rfl, fun part => (by cases part), fun _ => rfl⟩
  | case8 position last d tail other noPart _ noClosing
  | case9 position last d tail other noPart _ noClosing
  | case10 position last d tail other noPart _ noClosing =>
    obtain rfl := first separators other head
    obtain ⟨behind, -, rfl⟩ := map_eq_ok.1 scanned
    exact ⟨_, _, rfl, fun part => absurd part noPart, fun same => absurd same noClosing⟩

end Token

/-! ## Numerals that are not split -/

namespace Expression

theorem not_splitsNumeral_nil : ¬SplitsNumeral [] := by
  rintro ⟨before, c, blanks, d, after, whole, _⟩
  cases before <;> cases whole

/-- What holds no part of a numeral splits none that follows. -/
theorem not_splitsNumeral_append {front rest : Text}
    (noParts : ∀ c ∈ front, Numeral.isPart c = false) (unsplit : ¬SplitsNumeral rest) :
    ¬SplitsNumeral (front ++ rest) := by
  induction front with
  | nil => exact unsplit
  | cons c front ih =>
    rw [List.forall_mem_cons] at noParts
    rw [List.cons_append, splitsNumeral_cons, noParts.1]
    rintro (⟨⟨⟩, -⟩ | split)
    exact ih noParts.2 split

/-- A numeral is not split when the text behind it goes on with no part of one. -/
theorem not_splitsNumeral_numeral {numeral rest : Text}
    (parts : ∀ c ∈ numeral, Numeral.isPart c = true)
    (stops : ∀ c ∈ rest.compact.head?, Numeral.isPart c = false)
    (unsplit : ¬SplitsNumeral rest) : ¬SplitsNumeral (numeral ++ rest) := by
  induction numeral with
  | nil => exact unsplit
  | cons c numeral ih =>
    rw [List.forall_mem_cons] at parts
    rw [List.cons_append, splitsNumeral_cons, blanksThenNumeral_iff]
    rintro (⟨-, blanks, d, after, whole, part, nonempty, blank⟩ | split)
    · obtain ⟨b, blanks, rfl⟩ := List.exists_cons_of_ne_nil nonempty
      cases numeral with
      | nil =>
        have head : d ∈ rest.compact.head? := by
          rw [show rest = b :: blanks ++ d :: after from whole, Text.compact_append,
            Text.compact, List.filter_eq_nil_iff.2 (by simpa using blank), List.nil_append,
            Text.compact_cons_of_not_isBlank (isBlank_of_isPart part)]
          rfl
        rw [stops d head] at part
        cases part
      | cons e numeral =>
        obtain ⟨rfl, -⟩ := List.cons.inj whole
        rw [List.forall_mem_cons] at parts blank
        have filled := isBlank_of_isPart parts.2.1
        rw [blank.1] at filled
        cases filled
    · exact ih parts.2 split

end Expression

namespace Token

/-! ## The check passes over shaped tokens -/

/-- Behind tokens in order that end an operand, no part of a numeral follows. -/
theorem stops_of_shaped {source rest : Text} {position : Nat} {last : Option Kind}
    {tokens : List Token} (separators : BlanksSeparate rest)
    (scanned : scanFrom source position last rest = .ok tokens) {groups : Nat}
    (shaped : Shaped groups false (tokens.map kind)) :
    ∀ c ∈ rest.compact.head?, Numeral.isPart c = false := by
  intro c head
  obtain ⟨t, behind, rfl, number, -⟩ := exists_of_scanFrom separators scanned head
  refine Bool.eq_false_iff.2 fun part => ?_
  rw [List.map_cons, number part] at shaped
  cases shaped

/-- The check passes over a numeral where an operand is expected, if it passes over what follows. -/
theorem check_numeral_of_shaped (whole : Text) {source numeral rest : Text} {position : Nat}
    {last : Option Kind} {tokens : List Token} {p : Expression.Progress}
    (valid : Numeral.Derives numeral)
    (separators : BlanksSeparate rest) (scanned : scanFrom source position last rest = .ok tokens)
    (shaped : Shaped p.openings.length false (tokens.map kind)) (expects : p.expectsOperand = true)
    (behind : ∀ q : Expression.Progress, q.openings = p.openings → q.expectsOperand = false →
      Expression.check whole q rest.compact = .ok () ∧ ¬Expression.SplitsNumeral rest) :
    Expression.check whole p (numeral ++ rest).compact = .ok ()
      ∧ ¬Expression.SplitsNumeral (numeral ++ rest) := by
  have stops := stops_of_shaped separators scanned shaped
  have parts : ∀ c ∈ numeral, Numeral.isPart c = true := fun c =>
    Numeral.isPart_of_mem (Numeral.isNumeral_of_derives valid)
  have filled : Text.compact numeral = numeral :=
    Text.compact_of_forall fun c member => Expression.isBlank_of_isPart (parts c member)
  obtain ⟨accepted, unsplit⟩ :=
    behind ⟨p.position + numeral.length, numeral.getLast?, p.openings, false⟩ rfl rfl
  rw [Text.compact_append, filled, Expression.check_numeral whole valid stops expects]
  exact ⟨accepted, Expression.not_splitsNumeral_numeral parts stops unsplit⟩

/-- **Tokens in order, a text in shape.** When a scan of the rest of a text gives tokens in order,
the check passes over it without its blanks, and none of its numerals is split. -/
theorem check_of_shaped (whole : Text) {source rest : Text} {position : Nat} {last : Option Kind}
    {tokens : List Token} {p : Expression.Progress} (separators : BlanksSeparate rest)
    (scanned : scanFrom source position last rest = .ok tokens)
    (shaped : Shaped p.openings.length p.expectsOperand (tokens.map kind))
    (start : allowsSign last = true → p.previous = none ∨ p.previous = some '(') :
    Expression.check whole p rest.compact = .ok () ∧ ¬Expression.SplitsNumeral rest := by
  have one {c : Char} (noPart : Numeral.isPart c = false) : ∀ d ∈ [c], Numeral.isPart d = false :=
    List.forall_mem_singleton.2 noPart
  have noPart_of_separator {c : Char} (separator : isSeparator c = true) :
      Numeral.isPart c = false :=
    Bool.eq_false_iff.2 fun part => by simp [isSeparator_of_isPart part] at separator
  fun_induction scanFrom source position last rest generalizing tokens p with
  | case1 =>
    cases scanned
    obtain ⟨none, ended⟩ := shaped.front
    refine ⟨?_, Expression.not_splitsNumeral_nil⟩
    rw [Text.compact, List.filter_nil, Expression.check, List.length_eq_zero_iff.1 none, ended]
    rfl
  | case2 position last c tail separator ih =>
    obtain ⟨accepted, unsplit⟩ := ih (blanksSeparate_cons.1 separators).2 scanned shaped start
    rw [Text.compact_cons_of_isBlank (isBlank_of_isSeparator separator)]
    exact ⟨accepted,
      Expression.not_splitsNumeral_append (one (noPart_of_separator separator)) unsplit⟩
  | case3 | case7 | case11 => cases scanned
  | case4 position last c tail other part numeral after found ih =>
    obtain ⟨same, valid, -⟩ := scanNumeral?_eq_some.1 found
    obtain ⟨behind, scanned', rfl⟩ := map_eq_ok.1 scanned
    obtain ⟨expects, shaped'⟩ := shaped.front
    rw [same] at separators ⊢
    refine check_numeral_of_shaped whole valid separators.of_append scanned' shaped' expects ?_
    intro q opened ended
    refine ih separators.of_append scanned' ?_ fun allows => (by cases allows)
    rw [opened, ended]
    exact shaped'
  | case5 position last tail other _ ih =>
    have separators' := (blanksSeparate_cons.1 separators).2
    obtain ⟨behind, scanned', rfl⟩ := map_eq_ok.1 scanned
    obtain ⟨expects, shaped'⟩ := shaped.front
    have notEmpty : (Text.compact tail).head? ≠ some ')' := by
      intro head
      obtain ⟨t, behind, rfl, -, close⟩ := exists_of_scanFrom separators' scanned' head
      rw [List.map_cons, close rfl] at shaped'
      cases shaped'
    obtain ⟨accepted, unsplit⟩ :=
      ih (p := p.advance '(' (p.position :: p.openings) true) separators' scanned' shaped' fun _ =>
        .inr rfl
    rw [separators.compact_cons other, Expression.check_open whole notEmpty expects]
    exact ⟨accepted, Expression.not_splitsNumeral_append (one Numeral.isPart_open) unsplit⟩
  | case6 position last tail other _ _ ih =>
    obtain ⟨behind, scanned', rfl⟩ := map_eq_ok.1 scanned
    obtain ⟨ended, outer, deeper, shaped'⟩ := shaped.front
    obtain ⟨opening, openings, opened⟩ := List.exists_cons_of_length_eq_add_one deeper
    have length : openings.length = outer := by simpa [opened] using deeper
    obtain ⟨accepted, unsplit⟩ := ih (p := p.advance ')' openings false)
      (blanksSeparate_cons.1 separators).2 scanned' (length ▸ shaped') fun allows =>
        (by cases allows)
    rw [separators.compact_cons other, Expression.check_close whole opened ended]
    exact ⟨accepted, Expression.not_splitsNumeral_append (one Numeral.isPart_close) unsplit⟩
  | case8 position last c tail other _ _ _ sign digits skipped starts numeral after =>
    rename_i found ih
    obtain ⟨rfl, sign⟩ := sign
    obtain ⟨same, valid, -⟩ := scanNumeral?_eq_some.1 found
    obtain ⟨behind, scanned', rfl⟩ := map_eq_ok.1 scanned
    obtain ⟨expects, shaped'⟩ := shaped.front
    have separators' := (blanksSeparate_cons.1 separators).2
    have split : tail = tail.takeWhile isSeparator ++ (numeral ++ after) := by
      rw [← same, List.takeWhile_append_dropWhile]
    have digits : Text.compact tail = (numeral ++ after).compact := by
      rw [← same, compact_dropWhile]
    rw [split] at separators'
    have separators'' := separators'.of_append.of_append
    obtain ⟨accepted, unsplit⟩ := check_numeral_of_shaped whole
      (p := p.advance '-' p.openings true) valid separators'' scanned' shaped' rfl
      (fun q opened ended => ih separators'' scanned' (by rw [opened, ended]; exact shaped')
        fun allows => (by cases allows))
    rw [separators.compact_cons other, Expression.check_sign whole (start sign) expects, digits]
    refine ⟨accepted, Expression.not_splitsNumeral_append (one Numeral.isPart_minus) ?_⟩
    rw [split]
    refine Expression.not_splitsNumeral_append (fun d member => ?_) unsplit
    exact noPart_of_separator (List.all_eq_true.1 List.all_takeWhile d member)
  | case9 position last c tail other _ _ _ sign digits noNumeral =>
    rename_i ih
    obtain ⟨rfl, sign⟩ := sign
    obtain ⟨behind, scanned', rfl⟩ := map_eq_ok.1 scanned
    obtain ⟨expects, shaped'⟩ := shaped.front
    obtain ⟨accepted, unsplit⟩ := ih (p := p.advance '-' p.openings true)
      (blanksSeparate_cons.1 separators).2 scanned' shaped' fun allows => (by cases allows)
    rw [separators.compact_cons other, Expression.check_sign whole (start sign) expects]
    exact ⟨accepted, Expression.not_splitsNumeral_append (one Numeral.isPart_minus) unsplit⟩
  | case10 position last c tail other noPart noOpening noClosing noSign symbol ih =>
    obtain ⟨op, rfl⟩ := Operator.isSymbol_iff.1 symbol
    obtain ⟨behind, scanned', rfl⟩ := map_eq_ok.1 scanned
    obtain ⟨ended, shaped'⟩ := shaped.front
    obtain ⟨accepted, unsplit⟩ := ih (p := p.advance op.symbol p.openings true)
      (blanksSeparate_cons.1 separators).2 scanned' shaped' fun allows => (by cases allows)
    rw [separators.compact_cons other, Expression.check_operator whole op ended]
    exact ⟨accepted, Expression.not_splitsNumeral_append (one (Numeral.isPart_symbol op)) unsplit⟩

end Token

/-! ## Faults without a place -/

theorem Diagnostic.Kind.IsShape.isEvaluation {kind : Diagnostic.Kind} (shape : kind.IsShape) :
    kind.IsEvaluation := by
  cases kind <;> trivial

/-- A result whose fault, if it is one, has no place. -/
def Unplaced {α : Type} (result : Except Fault α) : Prop :=
  ∀ fault, result = .error fault → fault.location = none

namespace Unplaced

variable {α β : Type} {result : Except Fault α}

theorem ok (value : α) : Unplaced (.ok value) := FaultsHave.ok value

theorem unlocated (cause : Cause) : Unplaced (.error (.unlocated cause) : Except Fault α) :=
  FaultsHave.error rfl

theorem bind (first : Unplaced result) {next : α → Except Fault β}
    (then_ : ∀ value, Unplaced (next value)) :
    Unplaced (result.bind next) :=
  FaultsHave.bind first fun value _ => then_ value

theorem map (first : Unplaced result) (f : α → β) : Unplaced (result.map f) :=
  FaultsHave.map first f

theorem ofArithmetic (result : Except ArithmeticFault α) :
    Unplaced (result.mapError Fault.ofArithmetic) := by
  cases result with
  | error fault => exact .unlocated _
  | ok value => exact .ok value

theorem parseNumber (text : Text) : Unplaced (parseNumber text) := by
  unfold InfixCalculator.parseNumber
  dsimp only
  split
  · split
    · exact .ok _
    · exact .unlocated _
  · exact .unlocated _

/-- Up to places, a result without a place is only like itself. -/
theorem eq_of_mapError {result' : Except Fault α} (unplaced : Unplaced result')
    (same : result.mapError Fault.withoutPlace = result'.mapError Fault.withoutPlace) :
    result = result' := by
  cases result with
  | ok value =>
    cases result' with
    | ok value' => exact congrArg Except.ok (Except.ok.inj same)
    | error fault' => cases same
  | error fault =>
    cases result' with
    | ok value' => cases same
    | error fault' =>
      obtain ⟨cause, location⟩ := fault
      obtain ⟨cause', location'⟩ := fault'
      obtain rfl : location' = none := unplaced _ rfl
      obtain ⟨rfl, none⟩ := Prod.mk.inj (Except.error.inj same)
      cases location with
      | none => rfl
      | some place => cases none

end Unplaced

namespace Phrase

theorem unplaced_spine {role : Role} (phrase : Phrase role) : Unplaced phrase.spine := by
  induction phrase with
  | numeral text valid => exact (Unplaced.parseNumber text).map _
  | group inner ih => exact ih.bind fun s => (Unplaced.ofArithmetic s.total).map _
  | first negated operand ih =>
    cases operand with
    | numeral text valid => exact (Unplaced.parseNumber _).map _
    | group inner => exact ih.map _
  | next front op operand ihFront ihOperand =>
    exact ihFront.bind fun s => (Unplaced.ofArithmetic _).bind fun _ => ihOperand.map _

/-- The faults of an expression read from the left lie in its numbers, and have no place. -/
theorem unplaced_fromLeft (e : Phrase .expression) : Unplaced e.fromLeft :=
  e.unplaced_spine.bind fun s => .ofArithmetic s.total

end Phrase

/-! ## Two ways to recognise an expression -/

namespace Engine

/-- **Separators make no difference** to what the tokens of a text come to, but for the place of a
fault. -/
theorem outcome_evaluateByPrecedence_compact {s : Text} (separators : Token.BlanksSeparate s)
    (unsplit : ¬Expression.SplitsNumeral s) :
    (evaluateByPrecedence s).outcome.mapError Fault.withoutPlace
      = (evaluateByPrecedence s.compact).outcome.mapError Fault.withoutPlace := by
  unfold evaluateByPrecedence
  rw [Traced.outcome_bind, Traced.outcome_bind, Traced.outcome_liftM, Traced.outcome_liftM]
  refine mapError_bind_of_map (Token.lexemes_scan_compact separators unsplit) ?_
  intro tokens tokens' scanned scanned' same
  rw [Token.outcome_evaluate, Token.outcome_evaluate, mapError_of_map, mapError_of_map,
    Token.run_congr same (Token.markable_of_scan scanned) (Token.markable_of_scan scanned')]

/-- Tokens that evaluate to a number are in order; others end in an error of an evaluation. -/
theorem shaped_of_evaluateByPrecedence (s : Text) :
    match (evaluateByPrecedence s).outcome with
    | .error fault => fault.kind.IsEvaluation
    | .ok _ => ∃ tokens, Token.scan s = .ok tokens
        ∧ Token.Shaped 0 true (tokens.map Token.kind) := by
  unfold evaluateByPrecedence
  rw [Traced.outcome_bind, Traced.outcome_liftM]
  cases scanned : Token.scan s with
  | error fault => exact (Token.isShape_of_scanFrom scanned).isEvaluation
  | ok tokens =>
    have readable : ∀ t ∈ tokens, t.kind = .number → (FreeForm.read? t.text).isSome = true := by
      intro t member kind
      rw [FreeForm.read?_literal (Token.isLiteral_of_scanFrom scanned t member kind)]
      rfl
    have stands := Token.run_stands s (.operand .start .none) readable
    rw [bind_ok, Token.outcome_evaluate]
    generalize (Token.run s ⟨[], []⟩ (.operand false) tokens).outcome = result at stands
    cases result with
    | error fault => exact stands.isEvaluation (Token.markable_of_scan scanned)
    | ok x =>
      obtain ⟨front, finish, rest, rfl, ends, -, derived⟩ := stands
      refine ⟨_, rfl, ?_⟩
      rw [List.map_append, List.map_cons, ends]
      exact derived.shaped .finish

/-- A text with separators for blanks that evaluates to a number passes validation. -/
theorem validate_of_evaluateByPrecedence {s : Text} (separators : Token.BlanksSeparate s)
    {x : Binary64} (evaluates : (evaluateByPrecedence s).outcome = .ok x) :
    Expression.validate s = .ok s.compact := by
  have shaped := shaped_of_evaluateByPrecedence s
  rw [evaluates] at shaped
  obtain ⟨tokens, scanned, shaped⟩ := shaped
  obtain ⟨accepted, unsplit⟩ := Token.check_of_shaped s.compact (p := .start) separators scanned
    shaped fun _ => .inl rfl
  exact Expression.validate_of_derivable unsplit
    (Expression.derivable_of_check accepted (.beforeOperand [] .start) ⟨rfl, rfl, rfl⟩)

/-- **Validation and tokens recognise the same texts.** Where all blanks are separators, a text that
validation accepts evaluates as the text it returns does, to the same number or with the same fault.
A text that validation refuses ends in one of the errors of an evaluation, whatever arithmetic comes
before it. -/
theorem evaluateByPrecedence_of_validate {s : Text} (separators : Token.BlanksSeparate s) :
    match Expression.validate s with
    | .ok compact => (evaluateByPrecedence s).outcome = (evaluateByPrecedence compact).outcome
    | .error _ => ∃ fault, (evaluateByPrecedence s).outcome = .error fault
        ∧ fault.kind.IsEvaluation := by
  cases valid : Expression.validate s with
  | ok compact =>
    obtain ⟨rfl, e, same⟩ := Expression.derivable_of_validate valid
    have unsplit := Expression.not_splitsNumeral_of_validate valid
    have unplaced : Unplaced (evaluateByPrecedence s.compact).outcome := by
      rw [← same, outcome_evaluateByPrecedence]
      exact e.unplaced_fromLeft.map _
    exact unplaced.eq_of_mapError (outcome_evaluateByPrecedence_compact separators unsplit)
  | error refusal =>
    have shaped := shaped_of_evaluateByPrecedence s
    cases result : (evaluateByPrecedence s).outcome with
    | ok x =>
      rw [validate_of_evaluateByPrecedence separators result] at valid
      cases valid
    | error fault =>
      rw [result] at shaped
      exact ⟨fault, rfl, shaped⟩

/-- Texts to which it applies: one with blanks between a sign and its operand and between all
tokens, and one whose shape is wrong behind a division by zero. -/
theorem evaluateByPrecedence_of_validate_signs :
    Token.BlanksSeparate "- 5 *\t( - ( 2 ) )\n".toList
      ∧ Expression.validate "- 5 *\t( - ( 2 ) )\n".toList = .ok "-5*(-(2))".toList
      ∧ (evaluateByPrecedence "- 5 *\t( - ( 2 ) )\n".toList).outcome
        = (evaluateByPrecedence "-5*(-(2))".toList).outcome
      ∧ Token.BlanksSeparate "1 / 0 + )".toList
      ∧ ∃ fault, (evaluateByPrecedence "1 / 0 + )".toList).outcome = .error fault
        ∧ fault.kind.IsEvaluation := by
  have separators (s : Text)
      (only : s.all (fun c => !Text.isBlank c || Token.isSeparator c) = true) :
      Token.BlanksSeparate s := by
    intro c member blank
    have either := List.all_eq_true.1 only c member
    rwa [blank] at either
  have signs := separators "- 5 *\t( - ( 2 ) )\n".toList (by decide)
  have valid : Expression.validate "- 5 *\t( - ( 2 ) )\n".toList = .ok "-5*(-(2))".toList :=
    toOption_eq_some.1 (by decide +kernel)
  have same := evaluateByPrecedence_of_validate signs
  rw [valid] at same
  have quotient := separators "1 / 0 + )".toList (by decide)
  have fails := evaluateByPrecedence_of_validate quotient
  cases refused : Expression.validate "1 / 0 + )".toList with
  | ok compact =>
    have none : (Expression.validate "1 / 0 + )".toList).toOption = none := by decide +kernel
    rw [refused] at none
    cases none
  | error fault =>
    rw [refused] at fails
    exact ⟨signs, valid, same, quotient, fails⟩

end Engine

end InfixCalculator
