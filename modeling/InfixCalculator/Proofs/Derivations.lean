import InfixCalculator.Proofs.Stacks

/-!
# The two stacks implement the grammar of tokens

Whatever the grammar derives from tokens, the evaluation computes. A primary pushes its value,
negated by the signs in front of it (`Token.Pushes`). A row of a level leaves operators of that
level and tighter ones on the stacks, and applying them gives the value of the row (`Token.Leaves`):
whatever may follow the row applies them first. One induction over the derivations shows both
(`Token.Yields.evaluates`).

With the account that the stacks keep of the tokens taken, the evaluation returns a number exactly
when the tokens in front of the first end mark are an expression of that value, and otherwise ends
in one of the errors of an evaluation, if the positions of the tokens can be marked
(`Token.evaluate_iff_yields`). Where the token at fault stands at a position that cannot be marked,
its error cannot even be built, and another one takes its place
(`Token.not_isEvaluation_of_unmarkable`).
-/

set_option autoImplicit false

namespace InfixCalculator

namespace Token

/-! ## Derived tokens -/

/-- Derived tokens do not start with the end of a group. -/
theorem Yields.exists_cons {level : Nat} {tokens : List Token} {x : Binary64}
    (derived : Yields level tokens x) : ∃ t rest, tokens = t :: rest ∧ t.kind ≠ .closeParen := by
  induction derived with
  | number kind => exact ⟨_, _, rfl, by simp [kind]⟩
  | group opens => exact ⟨_, _, rfl, by simp [opens]⟩
  | sign kind => exact ⟨_, _, rfl, by simp [kind]⟩
  | lift _ _ ih => exact ih
  | @apply t op left right _ _ _ _ _ _ _ _ ihLeft =>
    obtain ⟨first, rest, rfl, kind⟩ := ihLeft
    exact ⟨first, rest ++ t :: right, rfl, kind⟩

/-! ## What a derivation does to the stacks -/

/-- Once the operators of a level and tighter ones are applied, the stacks are those outside with a
number on top. -/
def ComesTo (level : Nat) (inside : Stacks) (x : Binary64) (outside : Stacks) : Prop :=
  ∀ rank, level ≤ rank + 1 →
    (applyWaiting rank inside.values inside.pending).outcome
      = (applyWaiting rank (x :: outside.values) outside.pending).outcome

/-- Where nothing tighter than a level waits outside, the number is left as it is. -/
theorem ComesTo.applied {level : Nat} {inside outside : Stacks} {x : Binary64}
    (comes : ComesTo level inside x outside) (rank : Nat) (order : level ≤ rank + 1)
    (looser : Looser (rank + 1) outside.pending) :
    (applyWaiting rank inside.values inside.pending).outcome
      = .ok ⟨x :: outside.values, outside.pending⟩ := by
  rw [comes rank order, applyWaiting_of_looser looser (Nat.lt_succ_self rank)]
  rfl

section

variable (source : Text)

/-- Taking tokens pushes a number, negated if signs in front ask for it. -/
def Pushes (tokens : List Token) (x : Binary64) : Prop :=
  ∀ outside negate rest, (run source outside (.operand negate) (tokens ++ rest)).outcome
    = (run source ⟨(if negate then -x else x) :: outside.values, outside.pending⟩ .operator
        rest).outcome

/-- Taking tokens leaves stacks that come to a number, if nothing tighter than the level waits
outside. -/
def Leaves (level : Nat) (tokens : List Token) (x : Binary64) : Prop :=
  ∀ outside, Looser level outside.pending → ∃ inside, ComesTo level inside x outside
    ∧ ∀ rest, (run source outside (.operand false) (tokens ++ rest)).outcome
      = (run source inside .operator rest).outcome

variable {source}

theorem Pushes.leaves {tokens : List Token} {x : Binary64} (pushes : Pushes source tokens x) :
    Leaves source 0 tokens x := by
  intro outside _
  exact ⟨⟨x :: outside.values, outside.pending⟩, fun _ _ => rfl, pushes outside false⟩

/-- A row of a tighter level is one of the next level. -/
theorem Leaves.lift {level : Nat} {tokens : List Token} {x : Binary64}
    (leaves : Leaves source level tokens x) : Leaves source (level + 1) tokens x := by
  intro outside looser
  obtain ⟨inside, comes, taken⟩ := leaves outside (looser.mono (Nat.le_succ level))
  exact ⟨inside, fun rank order => comes rank (Nat.le_of_succ_le order), taken⟩

/-! ## One derivation step -/

theorem pushes_number {t : Token} {x : Binary64} (kind : t.kind = .number)
    (reads : t.number = .ok x) : Pushes source [t] x := by
  intro outside negate rest
  rw [List.singleton_append, outcome_run_number source outside negate kind rest, reads]
  rfl

theorem Pushes.sign {t : Token} {tokens : List Token} {x : Binary64} (kind : t.kind = .sign)
    (pushes : Pushes source tokens x) : Pushes source (t :: tokens) (-x) := by
  intro outside negate rest
  obtain ⟨_, text, position⟩ := t
  cases kind
  have inner := pushes outside (!negate) rest
  rw [List.cons_append, outcome_run_sign, inner]
  cases negate with
  | false => rfl
  | true => rw [if_pos rfl, Binary64.neg_neg]; rfl

/-- A group pushes what the expression inside it comes to. -/
theorem Leaves.group {opening closing : Token} {inner : List Token} {x y : Binary64}
    (opens : opening.kind = .openParen) (closes : closing.kind = .closeParen)
    (derived : Yields expressionLevel inner y) (leaves : Leaves source expressionLevel inner x) :
    Pushes source (opening :: inner ++ [closing]) x := by
  intro outside negate rest
  obtain ⟨first, behind, rfl, notClosing⟩ := derived.exists_cons
  obtain ⟨inside, comes, taken⟩ :=
    leaves ⟨outside.values, .group negate :: outside.pending⟩ (looser_group _ _ _)
  obtain ⟨_, text, position⟩ := opening
  cases opens
  have applied := comes.applied (Operator.rank .add) (Nat.le_refl _) (looser_group _ _ _)
  have whole : (⟨.openParen, text, position⟩ : Token) :: (first :: behind) ++ [closing] ++ rest
      = ⟨.openParen, text, position⟩ :: first :: (behind ++ closing :: rest) := by simp
  rw [whole, outcome_run_open source outside negate text position notClosing, ← List.cons_append,
    taken, outcome_run_cons, outcome_advance_close source _ inside closes, applyAll, applied]
  cases negate <;> rfl

/-- An operator between a row of its level and an operand of the level below. -/
theorem Leaves.apply {t : Token} {op : Operator} {left right : List Token} {x y z : Binary64}
    (kind : t.kind = .operator) (symbol : Operator.ofText? t.text = some op)
    (first : Leaves source (op.rank + 1) left x) (second : Leaves source op.rank right y)
    (value : op.apply x y = .ok z) : Leaves source (op.rank + 1) (left ++ t :: right) z := by
  intro outside looser
  obtain ⟨behindLeft, comesLeft, takenLeft⟩ := first outside looser
  obtain ⟨inside, comes, taken⟩ :=
    second ⟨x :: outside.values, .operator op :: outside.pending⟩
      (looser_operator.2 (Nat.le_refl _))
  refine ⟨inside, ?_, ?_⟩
  · intro rank order
    have tighter : ¬rank < op.rank := Nat.not_lt_of_le (Nat.le_of_succ_le_succ order)
    have below : op.rank ≤ rank + 1 := Nat.le_of_succ_le order
    have applied := outcome_applyWaiting_operator tighter x y outside.values outside.pending
    rw [value] at applied
    exact (comes rank below).trans applied
  · intro rest
    have applied := comesLeft.applied op.rank (Nat.le_refl _) looser
    rw [List.append_assoc, List.cons_append, takenLeft, outcome_run_cons,
      outcome_advance_operator source _ behindLeft kind symbol, applied]
    exact taken rest

end

/-- **Taking derived tokens.** What is derived as a primary is pushed, and what is derived at a
level comes to its value there. -/
theorem Yields.evaluates (source : Text) {level : Nat} {tokens : List Token} {x : Binary64}
    (derived : Yields level tokens x) :
    (level = 0 → Pushes source tokens x) ∧ Leaves source level tokens x := by
  induction derived with
  | number kind reads =>
    have pushes : Pushes source _ _ := pushes_number kind reads
    exact ⟨fun _ => pushes, pushes.leaves⟩
  | group opens closes inside ih =>
    have pushes := Leaves.group opens closes inside ih.2
    exact ⟨fun _ => pushes, pushes.leaves⟩
  | sign kind _ ih =>
    have pushes := (ih.1 rfl).sign kind
    exact ⟨fun _ => pushes, pushes.leaves⟩
  | lift _ _ ih => exact ⟨fun zero => absurd zero (Nat.succ_ne_zero _), ih.2.lift⟩
  | apply kind symbol _ _ value ihLeft ihRight =>
    exact ⟨fun zero => absurd zero (Nat.succ_ne_zero _), ihLeft.2.apply kind symbol ihRight.2 value⟩

/-! ## Whole token lists -/

/-- An expression in front of an end mark evaluates to its value. -/
theorem Yields.outcome_run (source : Text) {front rest : List Token} {finish : Token} {x : Binary64}
    (derived : Yields expressionLevel front x) (ends : finish.kind = .finish) :
    (run source ⟨[], []⟩ (.operand false) (front ++ finish :: rest)).outcome = .ok x := by
  obtain ⟨inside, comes, taken⟩ := (derived.evaluates source).2 ⟨[], []⟩ (looser_nil _)
  have applied := comes.applied (Operator.rank .add) (Nat.le_refl _) (looser_nil _)
  rw [taken, outcome_run_cons, outcome_advance_finish source _ inside ends, applyAll, applied]
  rfl

/-- **The two stacks implement the grammar of tokens.** When every number token can be read, the
evaluation of a list of tokens, in whatever order they stand, returns a number exactly when there is
an end mark and the tokens in front of the first one are an expression of that value, up to the sign
of zero. Every other list ends in one of the errors of an evaluation, or in what keeps one of its
tokens from being marked. -/
theorem evaluate_iff_yields (tokens : List Token) (source : Text)
    (readable : ∀ t ∈ tokens, t.kind = .number → (FreeForm.read? t.text).isSome = true) :
    (∀ value, (evaluate tokens source).outcome = .ok value ↔
      ∃ front finish rest x, tokens = front ++ finish :: rest ∧ finish.kind = .finish
        ∧ (∀ t ∈ front, t.kind ≠ .finish) ∧ Yields expressionLevel front x
        ∧ value = x.normalizeZero)
    ∧ ((∃ value, (evaluate tokens source).outcome = .ok value)
      ∨ ∃ fault, (evaluate tokens source).outcome = .error fault ∧ Raised source tokens fault) := by
  have stands := run_stands source (.operand .start .none) readable
  have evaluated : (evaluate tokens source).outcome
      = (run source ⟨[], []⟩ (.operand false) tokens).outcome.map Binary64.normalizeZero := by
    rw [evaluate, Traced.outcome_bind, map_eq_bind]
    rfl
  rw [evaluated]
  refine ⟨fun value => ⟨fun returns => ?_, ?_⟩, ?_⟩
  · obtain ⟨x, result, rfl⟩ := map_eq_ok.1 returns
    rw [result] at stands
    obtain ⟨front, finish, rest, whole, ends, noEnd, derived⟩ := stands
    exact ⟨front, finish, rest, x, whole, ends, noEnd, derived, rfl⟩
  · rintro ⟨front, finish, rest, x, rfl, ends, _, derived, rfl⟩
    rw [derived.outcome_run source ends]
    rfl
  · cases result : (run source ⟨[], []⟩ (.operand false) tokens).outcome with
    | ok x => exact .inl ⟨x.normalizeZero, rfl⟩
    | error fault =>
      rw [result] at stands
      exact .inr ⟨fault, rfl, stands⟩

/-- Tokens to which it applies: two signs in front of a group, a number in scientific form, and a
token behind the first end mark, which is never looked at. -/
theorem evaluate_iff_yields_signs :
    ∃ tokens : List Token,
      tokens.map (fun t => (t.kind, t.text)) = [(.sign, ['-']), (.sign, ['-']), (.openParen, ['(']),
        (.number, "-2".toList), (.operator, ['^']), (.number, "1e1".toList), (.closeParen, [')']),
        (.operator, ['-']), (.number, "24".toList), (.finish, []), (.closeParen, [')'])]
      ∧ (∀ t ∈ tokens, t.kind = .number → (FreeForm.read? t.text).isSome = true)
      ∧ (∀ value, (evaluate tokens []).outcome = .ok value ↔
        ∃ front finish rest x, tokens = front ++ finish :: rest ∧ finish.kind = .finish
          ∧ (∀ t ∈ front, t.kind ≠ .finish) ∧ Yields expressionLevel front x
          ∧ value = x.normalizeZero)
      ∧ ((∃ value, (evaluate tokens []).outcome = .ok value)
        ∨ ∃ fault, (evaluate tokens []).outcome = .error fault ∧ Raised [] tokens fault) := by
  let tokens : List Token := [⟨.sign, ['-'], 0⟩, ⟨.sign, ['-'], 1⟩, ⟨.openParen, ['('], 2⟩,
    ⟨.number, "-2".toList, 3⟩, ⟨.operator, ['^'], 5⟩, ⟨.number, "1e1".toList, 6⟩,
    ⟨.closeParen, [')'], 9⟩, ⟨.operator, ['-'], 10⟩, ⟨.number, "24".toList, 11⟩, ⟨.finish, [], 13⟩,
    ⟨.closeParen, [')'], 14⟩]
  have readable : ∀ t ∈ tokens, t.kind = .number → (FreeForm.read? t.text).isSome = true := by
    decide +kernel
  exact ⟨tokens, rfl, readable, evaluate_iff_yields tokens [] readable⟩

/-- An end mark where an operand is expected, at a position that is too large for a marker: the
error that says so is not one of an evaluation. -/
theorem not_isEvaluation_of_unmarkable :
    ¬∀ (tokens : List Token) (source : Text),
      (∀ t ∈ tokens, t.kind = .number → (FreeForm.read? t.text).isSome = true) →
      (∃ value, (evaluate tokens source).outcome = .ok value)
        ∨ ∃ fault, (evaluate tokens source).outcome = .error fault ∧ fault.kind.IsEvaluation := by
  intro errors
  have obstacle : Location.obstacle? ⟨[], 10 ^ 30⟩ = some .unaddressable := by decide
  have raised : (evaluate [⟨.finish, [], 10 ^ 30⟩] []).outcome
      = .error (.unlocated (.unmarkable .unaddressable)) :=
    congrArg Except.error (Fault.atPlace_of_obstacle obstacle)
  rcases errors [⟨.finish, [], 10 ^ 30⟩] [] (by simp) with ⟨value, returns⟩ | ⟨fault, failed, kind⟩
  · cases raised.symm.trans returns
  · cases raised.symm.trans failed
    exact kind

end Token

end InfixCalculator
