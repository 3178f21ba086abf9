import InfixCalculator.Proofs.NumberTokens
import InfixCalculator.Proofs.Results
import InfixCalculator.Proofs.Scanning

/-!
# Evaluating the tokens of an expression

Read from the left, a level of an expression is at every moment a number that is being read and the
operators that wait for it to end, each with its left operand (`Spine`). An operator that follows
ends all waiting ones that bind as tightly or tighter, the innermost first (`Spine.collapse`); the
end of the level ends them all (`Spine.total`). `Phrase.spine` reads a level, with each group read
as a level of its own, and `Phrase.fromLeft` is the number that an expression comes to, or the first
fault met.

On two stacks a spine stands on top of what waits outside its level. Taking the tokens of an
expression does to the stacks what reading the expression does to the spine (`Token.runs`), so the
evaluation of the tokens is `Phrase.fromLeft` (`Token.outcome_evaluate_phrase`).
-/

set_option autoImplicit false

namespace InfixCalculator

/-! ## Spines -/

/-- A number that is being read, and the operators that wait for it to end, the innermost first,
each with its left operand. -/
structure Spine where
  /-- The number that is being read. -/
  current : Binary64
  /-- The operators that wait and their left operands. -/
  waiting : List (Binary64 × Operator)

namespace Spine

/-- A number for which nothing waits. -/
def single (x : Binary64) : Spine := ⟨x, []⟩

/-- Applies the waiting operators of a rank and tighter, the innermost first. -/
def collapseFrom (rank : Nat) : Binary64 → List (Binary64 × Operator) → Except ArithmeticFault Spine
  | x, [] => .ok ⟨x, []⟩
  | x, (left, op) :: waiting =>
    if rank < op.rank then .ok ⟨x, (left, op) :: waiting⟩
    else (op.apply left x).bind fun z => collapseFrom rank z waiting

/-- The spine when an operator of a rank follows. -/
def collapse (s : Spine) (rank : Nat) : Except ArithmeticFault Spine :=
  collapseFrom rank s.current s.waiting

/-- The spine with one more operator and its right operand. -/
def push (s : Spine) (op : Operator) (x : Binary64) : Spine := ⟨x, (s.current, op) :: s.waiting⟩

/-- The number that the level comes to. -/
def total (s : Spine) : Except ArithmeticFault Binary64 :=
  (s.collapse (Operator.rank .add)).map Spine.current

/-- Nothing waits when a level has ended. -/
theorem waiting_of_collapse_add {s s' : Spine} (ended : s.collapse (Operator.rank .add) = .ok s') :
    s'.waiting = [] := by
  obtain ⟨x, waiting⟩ := s
  unfold collapse at ended
  dsimp only at ended
  induction waiting generalizing x with
  | nil =>
    cases ended
    rfl
  | cons item waiting ih =>
    obtain ⟨left, op⟩ := item
    rw [collapseFrom, if_neg (by cases op <;> decide)] at ended
    obtain ⟨z, -, ended⟩ := bind_eq_ok.1 ended
    exact ih z ended

end Spine

/-- A fault of arithmetic, which has no place. -/
def Fault.ofArithmetic (fault : ArithmeticFault) : Fault := .unlocated (.arithmetic fault)

namespace Phrase

/-- The spine that reading a phrase leaves, or the first fault met. -/
def spine : {role : Role} → Phrase role → Except Fault Spine
  | _, numeral text _ => (parseNumber text).map .single
  | _, group inner =>
    inner.spine.bind fun s => (s.total.mapError Fault.ofArithmetic).map .single
  | _, first negated (numeral text _) => (parseNumber (Binary64.withSign negated text)).map .single
  | _, first negated (group inner) =>
    (group inner).spine.map fun s => .single (if negated then -s.current else s.current)
  | _, next front op operand =>
    front.spine.bind fun s => ((s.collapse op.rank).mapError Fault.ofArithmetic).bind fun s =>
      operand.spine.map fun last => s.push op last.current

/-- The number that an expression comes to when it is read once from the left, or the first fault
met. -/
def fromLeft (e : Phrase .expression) : Except Fault Binary64 :=
  e.spine.bind fun s => s.total.mapError Fault.ofArithmetic

end Phrase

namespace Token

/-! ## A spine on the stacks -/

/-- The stacks with a spine on top. -/
def onto (s : Spine) (outside : Stacks) : Stacks :=
  ⟨s.current :: (s.waiting.map Prod.fst ++ outside.values),
    s.waiting.map (fun item => .operator item.2) ++ outside.pending⟩

/-- No operator waits on top of the stack: it is empty, or a group is open. -/
def IsBase (pending : List Pending) : Prop :=
  pending = [] ∨ ∃ negate rest, pending = .group negate :: rest

theorem applyWaiting_of_isBase {pending : List Pending} (base : IsBase pending) (rank : Nat)
    (values : List Binary64) : applyWaiting rank values pending = pure ⟨values, pending⟩ := by
  rcases base with rfl | ⟨negate, rest, rfl⟩ <;> rfl

/-- An operator that waits is applied by one of its rank or looser. -/
theorem outcome_applyWaiting_operator {rank : Nat} {op : Operator} (tight : ¬rank < op.rank)
    (left right : Binary64) (values : List Binary64) (pending : List Pending) :
    (applyWaiting rank (right :: left :: values) (.operator op :: pending)).outcome
      = ((op.apply left right).mapError Fault.ofArithmetic).bind fun result =>
        (applyWaiting rank (result :: values) pending).outcome := by
  rw [applyWaiting, if_neg tight]
  cases op.apply left right with
  | error cause => rfl
  | ok result => exact Traced.outcome_bind _ _

/-- **Applying the waiting operators** on the stacks is collapsing the spine on top of them. -/
theorem outcome_applyWaiting (rank : Nat) (s : Spine) {outside : Stacks}
    (base : IsBase outside.pending) :
    (applyWaiting rank (onto s outside).values (onto s outside).pending).outcome
      = ((s.collapse rank).mapError Fault.ofArithmetic).map fun s => onto s outside := by
  obtain ⟨x, waiting⟩ := s
  induction waiting generalizing x with
  | nil =>
    show (applyWaiting rank (x :: outside.values) outside.pending).outcome = _
    rw [applyWaiting_of_isBase base]
    rfl
  | cons item waiting ih =>
    obtain ⟨left, op⟩ := item
    have next (z : Binary64) := ih z
    show (applyWaiting rank (x :: left :: (waiting.map Prod.fst ++ outside.values))
      (.operator op :: (waiting.map (fun item => .operator item.2) ++ outside.pending))).outcome = _
    unfold Spine.collapse Spine.collapseFrom
    by_cases looser : rank < op.rank
    · rw [applyWaiting, if_pos looser, if_pos looser]
      rfl
    · rw [outcome_applyWaiting_operator looser, if_neg looser]
      cases op.apply left x with
      | error fault => rfl
      | ok z => exact next z

/-! ## Taking one token -/

variable (source : Text)

/-- A run takes one token and goes on with what it leaves. -/
theorem outcome_run_cons (outside : Stacks) (mode : Mode) (t : Token) (rest : List Token) :
    (run source outside mode (t :: rest)).outcome
      = (advance source rest.head? outside mode t).outcome.bind fun taken =>
        match taken with
        | .more outside mode => (run source outside mode rest).outcome
        | .done value => .ok value := by
  rw [run, Traced.outcome_bind]
  cases (advance source rest.head? outside mode t).outcome with
  | error fault => rfl
  | ok taken => cases taken <;> rfl

/-- In place of an operand a token goes through the faults and stacks of `takeOperand`. -/
theorem outcome_run_operand (outside : Stacks) (negate : Bool) (t : Token) (rest : List Token) :
    (run source outside (.operand negate) (t :: rest)).outcome
      = (takeOperand source rest.head? negate outside t).bind fun taken =>
        (run source taken.1 taken.2 rest).outcome := by
  rw [outcome_run_cons]
  show ((takeOperand source rest.head? negate outside t : Traced (Stacks × Mode)) >>= fun taken =>
    pure (Advance.more taken.1 taken.2)).outcome.bind _ = _
  rw [Traced.outcome_bind]
  show (Except.bind (takeOperand source rest.head? negate outside t) _).bind _ = _
  cases takeOperand source rest.head? negate outside t <;> rfl

/-- A number token is pushed, if it can be read. -/
theorem outcome_run_number (outside : Stacks) (negate : Bool) {t : Token} (kind : t.kind = .number)
    (rest : List Token) :
    (run source outside (.operand negate) (t :: rest)).outcome
      = t.number.bind fun x =>
        (run source ⟨(if negate then -x else x) :: outside.values, outside.pending⟩ .operator
          rest).outcome := by
  rw [outcome_run_operand]
  unfold takeOperand
  rw [kind]
  cases t.number <;> rfl

theorem outcome_run_literal (outside : Stacks) (negate : Bool) {text : Text}
    (literal : Literal.isLiteral text = true) (position : Int) (rest : List Token) :
    (run source outside (.operand negate) (⟨.number, text, position⟩ :: rest)).outcome
      = (parseNumber text).bind fun x =>
        (run source ⟨(if negate then -x else x) :: outside.values, outside.pending⟩ .operator
          rest).outcome := by
  rw [outcome_run_number source outside negate rfl rest, number_of_literal literal]

theorem outcome_run_sign (outside : Stacks) (negate : Bool) (text : Text) (position : Int)
    (rest : List Token) :
    (run source outside (.operand negate) (⟨.sign, text, position⟩ :: rest)).outcome
      = (run source outside (.operand !negate) rest).outcome := by
  rw [outcome_run_operand]
  rfl

theorem outcome_run_open (outside : Stacks) (negate : Bool) (text : Text) (position : Int)
    {next : Token} (notEmpty : next.kind ≠ .closeParen) (rest : List Token) :
    (run source outside (.operand negate) (⟨.openParen, text, position⟩ :: next :: rest)).outcome
      = (run source ⟨outside.values, .group negate :: outside.pending⟩ (.operand false)
        (next :: rest)).outcome := by
  have filled : (next :: rest).head?.any (·.kind = .closeParen) = false := by simpa using notEmpty
  rw [outcome_run_operand]
  unfold takeOperand
  dsimp only
  rw [filled]
  rfl

/-- An operator token has the operators of its rank and tighter applied, and waits itself. -/
theorem outcome_advance_operator (next : Option Token) (inside : Stacks) {t : Token} {op : Operator}
    (kind : t.kind = .operator) (symbol : Operator.ofText? t.text = some op) :
    (advance source next inside .operator t).outcome
      = (applyWaiting op.rank inside.values inside.pending).outcome.bind fun s =>
        .ok (.more ⟨s.values, .operator op :: s.pending⟩ (.operand false)) := by
  have found := Operator.get_eq_ok.2 symbol
  simp only [advance, kind, found]
  rw [Traced.outcome_bind]
  rfl

theorem outcome_run_operator (s : Spine) {outside : Stacks} (base : IsBase outside.pending)
    (op : Operator) (position : Int) (rest : List Token) :
    (run source (onto s outside) .operator (⟨.operator, [op.symbol], position⟩ :: rest)).outcome
      = ((s.collapse op.rank).mapError Fault.ofArithmetic).bind fun s =>
        (run source ⟨(onto s outside).values, .operator op :: (onto s outside).pending⟩
          (.operand false) rest).outcome := by
  have symbol : Operator.ofText? [op.symbol] = some op := Operator.ofSymbol?_symbol op
  rw [outcome_run_cons, outcome_advance_operator source rest.head? (onto s outside) rfl symbol,
    outcome_applyWaiting op.rank s base]
  cases s.collapse op.rank <;> rfl

/-- At the end of a level the number it comes to is left on top of what waits outside. -/
theorem outcome_applyAll (s : Spine) {outside : Stacks} (base : IsBase outside.pending) :
    (applyAll (onto s outside)).outcome
      = (s.total.mapError Fault.ofArithmetic).map fun x => onto (.single x) outside := by
  unfold applyAll Spine.total
  rw [outcome_applyWaiting (Operator.rank .add) s base]
  cases ended : s.collapse (Operator.rank .add) with
  | error fault => rfl
  | ok s' =>
    have none := Spine.waiting_of_collapse_add ended
    obtain ⟨x, waiting⟩ := s'
    cases none
    rfl

/-- The end of a group has the operators inside it applied, and negates what it comes to if the
signs in front of the group ask for it. -/
theorem outcome_advance_close (next : Option Token) (inside : Stacks) {t : Token}
    (kind : t.kind = .closeParen) :
    (advance source next inside .operator t).outcome
      = (applyAll inside).outcome.bind fun ended =>
        match ended.pending with
        | .group true :: pending =>
          match ended.values with
          | x :: values => .ok (.more ⟨-x :: values, pending⟩ .operator)
          | [] => .error (.unlocated .operandMissing)
        | .group false :: pending => .ok (.more ⟨ended.values, pending⟩ .operator)
        | _ => .error (t.fault source .unmatchedClose) := by
  simp only [advance, kind, closeGroup]
  rw [Traced.outcome_bind, Traced.outcome_bind, bind_of_bind]
  refine bind_congr_of_ok ?_
  rintro ⟨values, pending⟩ -
  rcases pending with _ | ⟨op | negate, pending⟩
  · rfl
  · rfl
  · cases negate with
    | false => rfl
    | true => cases values <;> rfl

/-- The end mark has all operators applied, and returns what is left if no group is open. -/
theorem outcome_advance_finish (next : Option Token) (inside : Stacks) {t : Token}
    (kind : t.kind = .finish) :
    (advance source next inside .operator t).outcome
      = (applyAll inside).outcome.bind fun ended =>
        match ended.pending, ended.values with
        | [], x :: _ => .ok (.done x)
        | [], [] => .error (.unlocated .operandMissing)
        | _ :: _, _ => .error (t.fault source (.closeExpected t.kind.name t.text)) := by
  simp only [advance, kind, conclude]
  rw [Traced.outcome_bind, Traced.outcome_bind, bind_of_bind]
  refine bind_congr_of_ok ?_
  rintro ⟨values, pending⟩ -
  cases pending <;> cases values <;> rfl

theorem outcome_run_close (s : Spine) (values : List Binary64) (negate : Bool)
    (pending : List Pending) (text : Text) (position : Int) (rest : List Token) :
    (run source (onto s ⟨values, .group negate :: pending⟩) .operator
        (⟨.closeParen, text, position⟩ :: rest)).outcome
      = (s.total.mapError Fault.ofArithmetic).bind fun x =>
        (run source ⟨(if negate then -x else x) :: values, pending⟩ .operator rest).outcome := by
  have ended := @outcome_applyAll s ⟨values, .group negate :: pending⟩
    (.inr ⟨negate, pending, rfl⟩)
  rw [outcome_run_cons, outcome_advance_close source _ _ rfl, ended]
  cases s.total with
  | error fault => rfl
  | ok x => cases negate <;> rfl

theorem outcome_run_finish (s : Spine) (text : Text) (position : Int) :
    (run source (onto s ⟨[], []⟩) .operator [⟨.finish, text, position⟩]).outcome
      = s.total.mapError Fault.ofArithmetic := by
  have ended := @outcome_applyAll s ⟨[], []⟩ (.inl rfl)
  rw [outcome_run_cons, outcome_advance_finish source _ _ rfl, ended]
  cases s.total <;> rfl

/-! ## Taking the tokens of a phrase -/

/-- The tokens of a phrase do not start with a closing parenthesis. -/
theorem exists_tokens_cons {role : Phrase.Role} (phrase : Phrase role) (position : Nat) :
    ∃ t rest, phrase.tokens position = t :: rest ∧ t.kind ≠ .closeParen := by
  induction phrase generalizing position with
  | numeral text valid => exact ⟨_, _, rfl, by simp⟩
  | group inner => exact ⟨_, _, rfl, by simp⟩
  | first negated operand ih =>
    cases negated with
    | false => exact ih position
    | true => cases operand <;> exact ⟨_, _, rfl, by simp⟩
  | next front op operand ihFront =>
    obtain ⟨t, rest, same, kind⟩ := ihFront position
    refine ⟨t, rest ++ ⟨.operator, [op.symbol], (position + front.text.length : Nat)⟩
      :: operand.tokens (position + front.text.length + 1), ?_, kind⟩
    rw [Phrase.tokens, same]
    rfl

/-- What taking the tokens of a phrase does to the stacks. An operand puts one number on top, an
expression puts its spine there. -/
def Runs : {role : Phrase.Role} → Phrase role → Prop
  | .operand, operand => ∀ position outside negate rest,
    (run source outside (.operand negate) (operand.tokens position ++ rest)).outcome
      = operand.spine.bind fun s =>
        (run source ⟨(if negate then -s.current else s.current) :: outside.values, outside.pending⟩
          .operator rest).outcome
  | .expression, e => ∀ position outside rest, IsBase outside.pending →
    (run source outside (.operand false) (e.tokens position ++ rest)).outcome
      = e.spine.bind fun s => (run source (onto s outside) .operator rest).outcome

/-- Taking the tokens of a phrase puts on the stacks what reading the phrase leaves. -/
theorem runs {role : Phrase.Role} (phrase : Phrase role) : Runs source phrase := by
  induction phrase with
  | numeral text valid =>
    intro position outside negate rest
    have taken := outcome_run_literal source outside negate
      (Literal.isLiteral_withSign false (Numeral.isNumeral_of_derives valid)) position rest
    rw [Phrase.spine, bind_of_map]
    exact taken
  | group inner ih =>
    intro position outside negate rest
    obtain ⟨t, following, split, notEmpty⟩ := exists_tokens_cons inner (position + 1)
    have opened := outcome_run_open source outside negate ['('] position notEmpty
      (following ++ ⟨.closeParen, [')'], (position + 1 + inner.text.length : Nat)⟩ :: rest)
    have whole : (Phrase.group inner).tokens position ++ rest
        = ⟨.openParen, ['('], position⟩ :: (inner.tokens (position + 1)
          ++ ⟨.closeParen, [')'], (position + 1 + inner.text.length : Nat)⟩ :: rest) := by
      simp [Phrase.tokens]
    rw [← List.cons_append, ← split] at opened
    rw [whole, opened, ih _ _ _ (.inr ⟨negate, outside.pending, rfl⟩), Phrase.spine, bind_of_bind]
    refine bind_congr_of_ok fun s _ => ?_
    rw [bind_of_map]
    exact outcome_run_close source s outside.values negate outside.pending _ _ rest
  | first negated operand ih =>
    intro position outside rest base
    cases negated with
    | false =>
      cases operand with
      | numeral text valid =>
        have taken := ih position outside false rest
        rw [Phrase.spine, bind_of_map]
        exact taken.trans (bind_of_map Spine.single (parseNumber text) _)
      | group inner =>
        rw [Phrase.spine, bind_of_map]
        exact ih position outside false rest
    | true =>
      cases operand with
      | numeral text valid =>
        have taken := outcome_run_literal source outside false
          (Literal.isLiteral_withSign true (Numeral.isNumeral_of_derives valid)) position rest
        rw [Phrase.spine, bind_of_map]
        exact taken
      | group inner =>
        rw [Phrase.spine, bind_of_map]
        refine (outcome_run_sign source outside false ['-'] position _).trans ?_
        exact ih (position + 1) outside true rest
  | next front op operand ihFront ihOperand =>
    intro position outside rest base
    have whole : (Phrase.next front op operand).tokens position ++ rest
        = front.tokens position ++ (⟨.operator, [op.symbol], (position + front.text.length : Nat)⟩
          :: (operand.tokens (position + front.text.length + 1) ++ rest)) := by
      simp [Phrase.tokens]
    rw [whole, ihFront _ _ _ base, Phrase.spine, bind_of_bind]
    refine bind_congr_of_ok fun s _ => ?_
    rw [outcome_run_operator source s base op, bind_of_bind]
    refine bind_congr_of_ok fun s' _ => ?_
    rw [bind_of_map]
    exact ihOperand _ _ false rest

/-- **The tokens of an expression evaluate** to what the expression comes to when it is read from
the left, with zero positive. -/
theorem outcome_evaluate_phrase (e : Phrase .expression) :
    (evaluate (e.tokens 0 ++ [⟨.finish, [], e.text.length⟩]) e.text).outcome
      = e.fromLeft.map Binary64.normalizeZero := by
  have taken := runs e.text e 0 ⟨[], []⟩ [⟨.finish, [], e.text.length⟩] (.inl rfl)
  rw [evaluate, Traced.outcome_bind, taken, Phrase.fromLeft, map_of_bind]
  refine (bind_of_bind _ _ _).trans (bind_congr_of_ok fun s _ => ?_)
  rw [outcome_run_finish]
  cases s.total <;> rfl

end Token

end InfixCalculator
