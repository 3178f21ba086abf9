import InfixCalculator.Proofs.Resolution

/-!
# The stack of waiting texts, turn by turn

The reduction of nested expressions is a loop over a text and the texts that wait for it
(`Nested.State`). A turn opens the leftmost group, or fills a value into the text that waited for
it, or ends the reduction (`Nested.turn`). Opening takes a parenthesis away and makes a text wait;
filling brings no parenthesis and makes one text fewer wait. So twice the open parentheses and once
the waiting texts bound the turns that are left, whatever the text (`Nested.turnsLeft_of_turn`), and
the loop ends (`Nested.runFor_of_turnsLeft_le`).

What it ends in is what resolving the groups one inside another gives, the same literal or the same
fault (`Nested.reduce_eq_resolve`).
-/

set_option autoImplicit false

namespace InfixCalculator

namespace Nested

/-! ## Turns -/

/-- Where a reduction stands: the texts around the groups that are open, the innermost first, and
the text inside them. -/
structure State where
  /-- The heads and tails that wait for a value. -/
  waiting : List (Text × Text)
  /-- The text that is looked at. -/
  text : Text

/-- What a turn leads to. -/
inductive Turn where
  /-- The reduction goes on. -/
  | more (next : State)
  /-- The reduction has ended. -/
  | done (result : Except Fault Literal)

/-- One turn: a group is opened, or what has no groups is reduced and its value filled in. -/
def turn (s : State) : Turn :=
  if '(' ∈ s.text then
    match Group.find s.text with
    | .error fault => .done (.error fault)
    | .ok g =>
      if g.inner = [] then .done (.error (.located .emptyGroup s.text g.start))
      else .more ⟨(g.head, g.tail) :: s.waiting, g.inner⟩
  else if ')' ∈ s.text then
    .done (.error (.located .unmatchedClose s.text (s.text.takeWhile (· ≠ ')')).length))
  else
    match (Flat.reduce s.text).outcome with
    | .error fault => .done (.error fault)
    | .ok value =>
      match s.waiting with
      | [] => .done (.ok value)
      | (head, tail) :: waiting => .more ⟨waiting, fill head value.text tail⟩

/-- The result of a reduction that ends within a number of turns. -/
def runFor : Nat → State → Option (Except Fault Literal)
  | 0, _ => none
  | turns + 1, s =>
    match turn s with
    | .more next => runFor turns next
    | .done result => some result

/-- A bound on the turns that are left. -/
def turnsLeft (s : State) : Nat :=
  2 * (Group.countOpenings s.text + waitingOpenings s.waiting) + s.waiting.length + 1

/-! ## The loop ends -/

/-- **Every turn that goes on takes one off the bound.** -/
theorem turnsLeft_of_turn {s next : State} (goesOn : turn s = .more next) :
    turnsLeft next < turnsLeft s := by
  unfold turn at goesOn
  split at goesOn
  · split at goesOn
    · cases goesOn
    · rename_i g found
      split at goesOn
      · cases goesOn
      · cases goesOn
        have opened := Group.countOpenings_of_find found
        simp only [turnsLeft, waitingOpenings, List.length_cons]
        omega
  · split at goesOn
    · cases goesOn
    · split at goesOn
      · cases goesOn
      · rename_i value _
        split at goesOn
        · cases goesOn
        · rename_i head tail waiting waits
          cases goesOn
          have filled := countOpenings_fill head tail value
          simp only [turnsLeft, waits, waitingOpenings, List.length_cons, filled]
          omega

/-- The reduction inside waiting texts takes one turn after another. -/
theorem outcome_reduceWithin_turn (s : State) :
    (reduceWithin s.waiting s.text).outcome
      = match turn s with
        | .more next => (reduceWithin next.waiting next.text).outcome
        | .done result => result := by
  obtain ⟨waiting, text⟩ := s
  unfold turn
  rw [reduceWithin]
  by_cases opens : '(' ∈ text
  · rw [if_pos opens, if_pos opens]
    split
    · rename_i fault failed
      dsimp only
      rw [failed]
      rfl
    · rename_i g found
      dsimp only
      rw [found]
      dsimp only
      split <;> rfl
  · rw [if_neg opens, if_neg opens]
    by_cases closes : ')' ∈ text
    · rw [if_pos closes, if_pos closes]
      rfl
    · rw [if_neg closes, if_neg closes, Traced.outcome_bind]
      dsimp only
      cases (Flat.reduce text).outcome with
      | error fault => rfl
      | ok value => cases waiting <;> rfl

/-- **The loop ends within its bound**, in the outcome of the reduction. -/
theorem runFor_of_turnsLeft_le {turns : Nat} {s : State} (enough : turnsLeft s ≤ turns) :
    runFor turns s = some (reduceWithin s.waiting s.text).outcome := by
  induction turns generalizing s with
  | zero => exact absurd enough (Nat.not_succ_le_zero _)
  | succ turns ih =>
    rw [runFor, outcome_reduceWithin_turn]
    cases taken : turn s with
    | done result => rfl
    | more next =>
      have fewer := turnsLeft_of_turn taken
      exact ih (Nat.le_of_lt_succ (Nat.lt_of_lt_of_le fewer enough))

/-- **The stack of waiting texts is the plain recursion**, and the loop over it ends on every text.
Two turns for each opening parenthesis and one more are enough, and the result is the literal that
the text resolves to, or the same fault at the same place. -/
theorem reduce_eq_resolve (text : Text) :
    runFor (2 * Group.countOpenings text + 1) ⟨[], text⟩ = some (resolve text)
      ∧ (reduce text).outcome = resolve text := by
  have ends := outcome_reduce text
  refine ⟨?_, ends⟩
  rw [← ends]
  exact runFor_of_turnsLeft_le (Nat.le_of_eq (by simp [turnsLeft, waitingOpenings]))

end Nested

end InfixCalculator
