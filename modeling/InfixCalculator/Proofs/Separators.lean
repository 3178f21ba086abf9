import InfixCalculator.Proofs.Acceptance
import InfixCalculator.Proofs.Precedence

/-!
# Separators between tokens

The tokens of an expression are scanned with the separators between them. When separators are the
only blanks of a text and none stands inside a numeral, the text gives the same tokens as the text
without its blanks, but for their positions, or is at fault for the same cause
(`Token.lexemes_scan_compact`). A minus in front of a numeral is folded into it with or without
separators between them.

The evaluation of tokens looks at their kinds and texts alone, and uses positions only to say where
a fault is, as long as the tokens can be marked there (`Token.run_congr`).
-/

set_option autoImplicit false

namespace InfixCalculator

/-! ## Faults without their places -/

/-- What is at fault, and whether it has a place, but not where. -/
def Fault.withoutPlace (fault : Fault) : Cause × Bool := (fault.cause, fault.location.isSome)

/-! ## Numerals and the blanks behind them -/

namespace Numeral

/-- What is left behind a scanned numeral does not go on with a digit. -/
theorem not_isDigit_of_scan {text numeral rest : Text} (h : scan text = some (numeral, rest)) :
    ∀ c ∈ rest.head?, c.isDigit = false := by
  have stops (t : Text) : ∀ c ∈ (t.dropWhile Char.isDigit).head?, c.isDigit = false := by
    intro c head
    have other := List.head?_dropWhile_not Char.isDigit t
    rw [Option.mem_def.1 head] at other
    simpa using other
  unfold scan at h
  dsimp only at h
  split at h
  · split at h
    · cases h
    · cases h
      exact stops _
  · split at h
    · cases h
    · cases h
      exact stops _

end Numeral

namespace Token

theorem isBlank_of_isSeparator {c : Char} (separator : isSeparator c = true) :
    Text.isBlank c = true := by
  simp only [isSeparator, Bool.or_eq_true, decide_eq_true_eq] at separator
  rcases separator with ((rfl | rfl) | rfl) | rfl <;> decide

/-- A numeral is scanned exactly when it is followed by no further part of one. -/
theorem scanNumeral?_eq_some {text numeral rest : Text} :
    scanNumeral? text = some (numeral, rest) ↔
      text = numeral ++ rest ∧ Numeral.Derives numeral
        ∧ ∀ c ∈ rest.head?, Numeral.isPart c = false := by
  constructor
  · intro found
    unfold scanNumeral? at found
    split at found
    · cases found
    · rename_i scanned
      split at found
      · cases found
      · rename_i noPoint
        cases found
        refine ⟨(Numeral.append_of_scan scanned).symm, Numeral.derives_of_scan scanned,
          fun c head => ?_⟩
        have noDigit := Numeral.not_isDigit_of_scan scanned c head
        refine Bool.eq_false_iff.2 fun part => noPoint ?_
        obtain rfl := Numeral.eq_point_of_isPart part noDigit
        obtain ⟨after, rfl⟩ := List.head?_eq_some_iff.1 head
        rfl
  · rintro ⟨rfl, valid, stops⟩
    exact scanNumeral?_numeral valid stops

/-- The scan of a numeral takes all parts of numerals at the front of a text, or fails. -/
theorem scanNumeral?_span {span rest : Text} (parts : ∀ c ∈ span, Numeral.isPart c = true)
    (stops : ∀ c ∈ rest.head?, Numeral.isPart c = false) :
    scanNumeral? (span ++ rest) = if Numeral.isNumeral span then some (span, rest) else none := by
  split
  · rename_i numeral
    exact scanNumeral?_numeral (Numeral.derives_of_isNumeral numeral) stops
  · rename_i other
    refine Option.eq_none_iff_forall_not_mem.2 ?_
    rintro ⟨numeral, after⟩ found
    obtain ⟨same, valid, stops'⟩ := scanNumeral?_eq_some.1 found
    have parts' : ∀ c ∈ numeral, Numeral.isPart c = true := fun c =>
      Numeral.isPart_of_mem (Numeral.isNumeral_of_derives valid)
    have whole : span = numeral := by
      rw [← Text.takeWhile_span parts stops, same, Text.takeWhile_span parts' stops']
    exact other (whole ▸ Numeral.isNumeral_of_derives valid)

end Token

namespace Text

theorem compact_cons_of_isBlank {c : Char} (blank : isBlank c = true) (rest : Text) :
    compact (c :: rest) = compact rest :=
  List.filter_cons_of_neg (by simp [blank])

theorem compact_cons_of_not_isBlank {c : Char} (filled : isBlank c = false) (rest : Text) :
    compact (c :: rest) = c :: compact rest :=
  List.filter_cons_of_pos (by simp [filled])

theorem compact_of_forall {text : Text} (filled : ∀ c ∈ text, isBlank c = false) :
    compact text = text :=
  List.filter_eq_self.2 fun c member => by simp [filled c member]

/-- The first character that is no blank has only blanks in front of it. -/
theorem exists_of_head?_compact {text : Text} {c : Char} (head : c ∈ (compact text).head?) :
    ∃ blanks rest, text = blanks ++ c :: rest ∧ ∀ b ∈ blanks, isBlank b = true := by
  rw [compact, List.head?_filter, Option.mem_def, List.find?_eq_some_iff_append] at head
  obtain ⟨-, blanks, rest, same, blank⟩ := head
  exact ⟨blanks, rest, same, fun b member => by simpa using blank b member⟩

end Text

namespace Expression

/-- What splits a numeral at the end of a text splits it in the text. -/
theorem SplitsNumeral.append_left {rest : Text} (split : SplitsNumeral rest) (front : Text) :
    SplitsNumeral (front ++ rest) := by
  obtain ⟨before, c, blanks, d, after, rfl, others⟩ := split
  exact ⟨front ++ before, c, blanks, d, after, by simp, others⟩

/-- Where no numeral is split, no part of a numeral follows one behind blanks. -/
theorem stops_compact {span rest : Text} (nonempty : span ≠ [])
    (parts : ∀ c ∈ span, Numeral.isPart c = true)
    (stops : ∀ c ∈ rest.head?, Numeral.isPart c = false)
    (whole : ¬SplitsNumeral (span ++ rest)) :
    ∀ c ∈ rest.compact.head?, Numeral.isPart c = false := by
  intro d head
  obtain ⟨blanks, after, rfl, blank⟩ := Text.exists_of_head?_compact head
  refine Bool.eq_false_iff.2 fun part => whole ?_
  have some : blanks ≠ [] := by
    rintro rfl
    rw [stops d rfl] at part
    cases part
  obtain ⟨before, c, rfl⟩ := (List.eq_nil_or_concat span).resolve_left nonempty
  exact ⟨before, c, blanks, d, after, by simp, parts c (by simp), part, some, blank⟩

end Expression

/-! ## Lexemes -/

namespace Token

/-- A text whose blanks all separate tokens. -/
def BlanksSeparate (text : Text) : Prop := ∀ c ∈ text, Text.isBlank c = true → isSeparator c = true

theorem blanksSeparate_cons {c : Char} {rest : Text} :
    BlanksSeparate (c :: rest)
      ↔ (Text.isBlank c = true → isSeparator c = true) ∧ BlanksSeparate rest :=
  List.forall_mem_cons

theorem BlanksSeparate.of_append {front rest : Text} (separators : BlanksSeparate (front ++ rest)) :
    BlanksSeparate rest := by
  intro c member
  exact separators c (List.mem_append_right front member)

/-- What is no separator is no blank, and stays when the blanks are removed. -/
theorem BlanksSeparate.compact_cons {c : Char} {rest : Text}
    (separators : BlanksSeparate (c :: rest)) (other : ¬isSeparator c = true) :
    Text.compact (c :: rest) = c :: rest.compact := by
  refine Text.compact_cons_of_not_isBlank (Bool.eq_false_iff.2 fun blank => ?_) rest
  exact other ((blanksSeparate_cons.1 separators).1 blank)

/-- Skipping separators skips blanks only. -/
theorem compact_dropWhile (text : Text) :
    Text.compact (text.dropWhile isSeparator) = text.compact := by
  induction text with
  | nil => rfl
  | cons c rest ih =>
    cases separator : isSeparator c with
    | true =>
      rw [List.dropWhile_cons_of_pos separator, ih,
        Text.compact_cons_of_isBlank (isBlank_of_isSeparator separator)]
    | false => rw [List.dropWhile_cons_of_neg (by simp [separator])]

/-- Without blanks there are no separators to skip. -/
theorem dropWhile_compact (text : Text) : text.compact.dropWhile isSeparator = text.compact := by
  rw [List.dropWhile_eq_self_iff]
  intro nonempty separator
  have filled := (Text.mem_compact.1 (List.getElem_mem nonempty)).2
  rw [isBlank_of_isSeparator separator] at filled
  cases filled

/-- Behind the separators a text starts with a part of a numeral if it does so without its
blanks. -/
theorem startsNumeral_compact {text : Text} (separators : BlanksSeparate text) :
    startsNumeral text.compact = startsNumeral (text.dropWhile isSeparator) := by
  rw [← compact_dropWhile]
  have remaining : BlanksSeparate (text.dropWhile isSeparator) := by
    intro c member
    exact separators c ((List.dropWhile_sublist _).mem member)
  cases digits : text.dropWhile isSeparator with
  | nil => rfl
  | cons c rest =>
    have other : ¬isSeparator c = true := by
      have stops := List.head?_dropWhile_not isSeparator text
      rw [digits] at stops
      simpa using stops
    rw [digits] at remaining
    rw [remaining.compact_cons other]
    rfl

/-- A numeral that is not split is scanned as it is without the blanks behind it. -/
theorem scanNumeral?_compact {text : Text} (starts : startsNumeral text = true)
    (unsplit : ¬Expression.SplitsNumeral text) :
    scanNumeral? text.compact = (scanNumeral? text).map fun found =>
      (found.1, found.2.compact) := by
  have split := List.takeWhile_append_dropWhile (p := Numeral.isPart) (l := text)
  have parts : ∀ c ∈ text.takeWhile Numeral.isPart, Numeral.isPart c = true :=
    List.all_eq_true.1 List.all_takeWhile
  have stops : ∀ c ∈ (text.dropWhile Numeral.isPart).head?, Numeral.isPart c = false := by
    intro c head
    have other := List.head?_dropWhile_not Numeral.isPart text
    rw [Option.mem_def.1 head] at other
    simpa using other
  have nonempty : text.takeWhile Numeral.isPart ≠ [] := by
    cases text with
    | nil => cases starts
    | cons c rest =>
      have part : Numeral.isPart c = true := starts
      simp [part]
  generalize text.takeWhile Numeral.isPart = span at *
  generalize text.dropWhile Numeral.isPart = behind at *
  subst split
  have filled : Text.compact span = span :=
    Text.compact_of_forall fun c member => Expression.isBlank_of_isPart (parts c member)
  rw [Text.compact_append, filled, scanNumeral?_span parts stops,
    scanNumeral?_span parts (Expression.stops_compact nonempty parts stops unsplit)]
  split <;> rfl

/-! ## Scanning without blanks -/

/-- What a token says, without where it stands. -/
def lexeme (t : Token) : Kind × Text := (t.kind, t.text)

/-- The lexemes of scanned tokens, or what is at fault. -/
def lexemes (scanned : Except Fault (List Token)) : Except (Cause × Bool) (List (Kind × Text)) :=
  (scanned.map (List.map lexeme)).mapError Fault.withoutPlace

@[simp] theorem lexemes_map_cons (t : Token) (scanned : Except Fault (List Token)) :
    lexemes (scanned.map (t :: ·)) = (lexemes scanned).map (t.lexeme :: ·) := by
  cases scanned <;> rfl

@[simp] theorem lexemes_located (cause : Cause) (text : Text) (position : Nat) :
    lexemes (.error (.located cause text position)) = .error (cause, true) := rfl

theorem scanFrom_malformed (whole : Text) (position : Nat) (last : Option Kind) {text : Text}
    (starts : startsNumeral text = true) (none : scanNumeral? text = none) :
    scanFrom whole position last text = .error (.located .malformedNumeral whole position) := by
  cases text with
  | nil => cases starts
  | cons c rest =>
    have part : Numeral.isPart c = true := starts
    rw [scanFrom, isSeparator_of_isPart part, part]
    simp only [Bool.false_eq_true, if_false, if_true]
    split
    · rfl
    · rename_i found
      rw [none] at found
      cases found

/-- A minus that is a sign, in front of a text without its blanks. -/
theorem scanFrom_minus_compact (whole : Text) (position : Nat) {last : Option Kind}
    (sign : allowsSign last = true) {tail : Text} (separators : BlanksSeparate tail)
    (unsplit : ¬Expression.SplitsNumeral tail) :
    scanFrom whole position last ('-' :: tail.compact)
      = if startsNumeral (tail.dropWhile isSeparator) then
          match scanNumeral? (tail.dropWhile isSeparator) with
          | none => .error (.located .malformedNumeral whole (position + 1))
          | some (numeral, after) =>
            (scanFrom whole (position + 1 + numeral.length) (some .number) after.compact).map
              (⟨.number, '-' :: numeral, position⟩ :: ·)
        else
          (scanFrom whole (position + 1) (some .sign) tail.compact).map
            (⟨.sign, ['-'], position⟩ :: ·) := by
  rw [scanFrom, isSeparator_minus, Numeral.isPart_minus, sign]
  simp only [dropWhile_compact, startsNumeral_compact separators, Bool.false_eq_true, if_false,
    Nat.sub_self, Nat.add_zero, Char.reduceEq, and_self, if_true]
  by_cases starts : startsNumeral (tail.dropWhile isSeparator) = true
  · have unsplit' : ¬Expression.SplitsNumeral (tail.dropWhile isSeparator) := by
      intro split
      have front := split.append_left (tail.takeWhile isSeparator)
      rw [List.takeWhile_append_dropWhile] at front
      exact unsplit front
    have compacted := scanNumeral?_compact starts unsplit'
    rw [compact_dropWhile] at compacted
    rw [if_pos starts, if_pos starts]
    split
    · rename_i failed
      rw [dropWhile_compact, compacted, Option.map_eq_none_iff] at failed
      rw [failed]
    · rename_i found
      rw [dropWhile_compact, compacted, Option.map_eq_some_iff] at found
      obtain ⟨⟨numeral, after⟩, found, same⟩ := found
      cases same
      rw [found]
  · rw [if_neg starts, if_neg starts]

/-- **Scanning passes over separators.** Without its blanks a text has the same lexemes, or is at
fault for the same cause. -/
theorem lexemes_scanFrom_compact {whole whole' rest : Text} {position position' : Nat}
    {last : Option Kind} (separators : BlanksSeparate rest)
    (unsplit : ¬Expression.SplitsNumeral rest) :
    lexemes (scanFrom whole position last rest)
      = lexemes (scanFrom whole' position' last rest.compact) := by
  fun_induction scanFrom whole position last rest generalizing position' with
  | case1 =>
    rw [Text.compact, List.filter_nil, scanFrom]
    rfl
  | case2 position last c tail separator ih =>
    rw [Text.compact_cons_of_isBlank (isBlank_of_isSeparator separator)]
    exact ih (blanksSeparate_cons.1 separators).2 fun split => unsplit (split.append_left [c])
  | case3 position last c tail other part failed =>
    have compacted := @scanNumeral?_compact (c :: tail) part unsplit
    rw [failed] at compacted
    rw [scanFrom_malformed whole' position' last ?_ compacted, lexemes_located, lexemes_located]
    rw [separators.compact_cons other]
    exact part
  | case4 position last c tail other part numeral after found ih =>
    have compacted := @scanNumeral?_compact (c :: tail) part unsplit
    rw [found] at compacted
    obtain ⟨same, -, -⟩ := scanNumeral?_eq_some.1 found
    obtain ⟨same', valid, stops⟩ := scanNumeral?_eq_some.1 compacted
    rw [same] at separators unsplit
    rw [same', scanFrom_numeral whole' valid stops, lexemes_map_cons, lexemes_map_cons,
      ih separators.of_append fun split => unsplit (split.append_left numeral)]
    rfl
  | case5 position last tail other _ ih =>
    rw [separators.compact_cons other, scanFrom_open, lexemes_map_cons, lexemes_map_cons,
      ih (blanksSeparate_cons.1 separators).2 fun split => unsplit (split.append_left ['('])]
    rfl
  | case6 position last tail other _ _ ih =>
    rw [separators.compact_cons other, scanFrom_close, lexemes_map_cons, lexemes_map_cons,
      ih (blanksSeparate_cons.1 separators).2 fun split => unsplit (split.append_left [')'])]
    rfl
  | case7 position last c tail other _ _ _ sign digits skipped starts =>
    rename_i failed
    obtain ⟨rfl, sign⟩ := sign
    have unsplit' : ¬Expression.SplitsNumeral tail := fun split => unsplit (split.append_left ['-'])
    rw [separators.compact_cons other,
      scanFrom_minus_compact whole' position' sign (blanksSeparate_cons.1 separators).2 unsplit',
      if_pos starts, failed, lexemes_located, lexemes_located]
  | case8 position last c tail other _ _ _ sign digits skipped starts numeral after found =>
    rename_i ih
    obtain ⟨rfl, sign⟩ := sign
    have unsplit' : ¬Expression.SplitsNumeral tail := fun split => unsplit (split.append_left ['-'])
    obtain ⟨same, -, -⟩ := scanNumeral?_eq_some.1 found
    have split : tail = tail.takeWhile isSeparator ++ (numeral ++ after) := by
      rw [← same, List.takeWhile_append_dropWhile]
    have separators' := (blanksSeparate_cons.1 separators).2
    rw [separators.compact_cons other,
      scanFrom_minus_compact whole' position' sign separators' unsplit', if_pos starts, found,
      lexemes_map_cons, lexemes_map_cons]
    rw [split] at separators' unsplit'
    rw [ih separators'.of_append.of_append fun split =>
      unsplit' ((split.append_left numeral).append_left _)]
    rfl
  | case9 position last c tail other _ _ _ sign digits noNumeral =>
    rename_i ih
    obtain ⟨rfl, sign⟩ := sign
    have unsplit' : ¬Expression.SplitsNumeral tail := fun split => unsplit (split.append_left ['-'])
    have separators' := (blanksSeparate_cons.1 separators).2
    rw [separators.compact_cons other, scanFrom_minus_compact whole' position' sign separators'
      unsplit', if_neg noNumeral, lexemes_map_cons, lexemes_map_cons, ih separators' unsplit']
    rfl
  | case10 position last c tail other noPart noOpening noClosing noSign symbol ih =>
    rw [separators.compact_cons other, scanFrom, if_neg other, if_neg noPart, if_neg noOpening,
      if_neg noClosing, if_neg noSign, if_pos symbol, lexemes_map_cons, lexemes_map_cons,
      ih (blanksSeparate_cons.1 separators).2 fun split => unsplit (split.append_left [c])]
    rfl
  | case11 position last c tail other noPart noOpening noClosing noSign noSymbol =>
    rw [separators.compact_cons other, scanFrom, if_neg other, if_neg noPart, if_neg noOpening,
      if_neg noClosing, if_neg noSign, if_neg noSymbol, lexemes_located, lexemes_located]

theorem lexemes_scan_compact {source : Text} (separators : BlanksSeparate source)
    (unsplit : ¬Expression.SplitsNumeral source) :
    lexemes (scan source) = lexemes (scan source.compact) :=
  lexemes_scanFrom_compact separators unsplit

/-! ## Evaluating lexemes -/

/-- What is at fault at a token that can be marked, and that it has a place. -/
theorem withoutPlace_fault {source : Text} {t : Token} (markable : t.Markable source)
    (cause : Cause) :
    (t.fault source cause).withoutPlace = (cause, true) := by
  rw [fault_of_markable markable]
  rfl

/-- What a token that can be marked leads to depends on its lexeme and on the kind of the token
behind it, but for the place of a fault. -/
theorem advance_congr {source source' : Text} {next next' : Option Token} {t t' : Token}
    (same : t.lexeme = t'.lexeme) (behind : next.map kind = next'.map kind)
    (markable : t.Markable source) (markable' : t'.Markable source') (waiting : Stacks)
    (mode : Mode) :
    (advance source next waiting mode t).outcome.mapError Fault.withoutPlace
      = (advance source' next' waiting mode t').outcome.mapError Fault.withoutPlace := by
  have fault {α : Type} (cause : Cause) :
      (Except.error (t.fault source cause) : Except Fault α).mapError Fault.withoutPlace
        = (Except.error (t'.fault source' cause)).mapError Fault.withoutPlace :=
    congrArg Except.error
      ((withoutPlace_fault markable cause).trans (withoutPlace_fault markable' cause).symm)
  obtain ⟨kind, text, position⟩ := t
  obtain ⟨kind', text', position'⟩ := t'
  cases same
  cases mode with
  | operand negate =>
    have empty : next.any (fun t => decide (t.kind = .closeParen))
        = next'.any fun t => decide (t.kind = .closeParen) := by
      cases next <;> cases next' <;> simp_all
    cases kind with
    | number | sign => rfl
    | openParen =>
      simp only [advance, Traced.outcome_bind, Traced.outcome_liftM, takeOperand, empty]
      split
      · exact fault .emptyGroup
      · rfl
    | operator | closeParen | finish => exact fault _
  | operator =>
    cases kind with
    | operator => rfl
    | closeParen =>
      rw [outcome_advance_close source next waiting rfl,
        outcome_advance_close source' next' waiting rfl]
      refine mapError_bind_of_map (f := id) rfl ?_
      rintro ⟨values, pending⟩ _ - - rfl
      rcases pending with _ | ⟨⟨op⟩ | ⟨_ | _⟩, pending⟩
      · exact fault .unmatchedClose
      · exact fault .unmatchedClose
      · rfl
      · cases values <;> rfl
    | finish =>
      rw [outcome_advance_finish source next waiting rfl,
        outcome_advance_finish source' next' waiting rfl]
      refine mapError_bind_of_map (f := id) rfl ?_
      rintro ⟨values, pending⟩ _ - - rfl
      cases pending with
      | nil => cases values <;> rfl
      | cons => exact fault _
    | number | sign | openParen => exact fault _

/-- **A run depends on the lexemes of its tokens**, but for the place of a fault, if they can be
marked. -/
theorem run_congr {source source' : Text} {tokens tokens' : List Token}
    (same : tokens.map lexeme = tokens'.map lexeme) (markable : ∀ t ∈ tokens, t.Markable source)
    (markable' : ∀ t ∈ tokens', t.Markable source') (waiting : Stacks) (mode : Mode) :
    (run source waiting mode tokens).outcome.mapError Fault.withoutPlace
      = (run source' waiting mode tokens').outcome.mapError Fault.withoutPlace := by
  induction tokens generalizing tokens' waiting mode with
  | nil =>
    obtain rfl := List.map_eq_nil_iff.1 same.symm
    rfl
  | cons t rest ih =>
    obtain ⟨t', rest', rfl, lexeme', rest''⟩ := List.map_eq_cons_iff.1 same.symm
    obtain ⟨here, ahead⟩ := List.forall_mem_cons.1 markable
    obtain ⟨here', ahead'⟩ := List.forall_mem_cons.1 markable'
    have behind : rest.head?.map kind = rest'.head?.map kind := by
      have heads := congrArg List.head? rest''
      rw [List.head?_map, List.head?_map] at heads
      have kinds := congrArg (Option.map Prod.fst) heads
      rw [Option.map_map, Option.map_map] at kinds
      exact kinds.symm
    rw [outcome_run_cons, outcome_run_cons, mapError_of_bind, mapError_of_bind,
      advance_congr lexeme'.symm behind here here' waiting mode]
    congr 1
    funext taken
    cases taken with
    | more waiting mode => exact ih rest''.symm ahead ahead' waiting mode
    | done value => rfl

theorem outcome_evaluate (tokens : List Token) (source : Text) :
    (evaluate tokens source).outcome
      = (run source ⟨[], []⟩ (.operand false) tokens).outcome.map Binary64.normalizeZero := by
  unfold evaluate
  rw [Traced.outcome_bind, map_eq_bind]
  rfl

end Token

end InfixCalculator
