import InfixCalculator.Reduction.Flat
import InfixCalculator.Reduction.Group

/-!
# Reduction of nested expressions

Groups are opened leftmost first: the text around a group waits on a stack until the value of the
group is known and is put in its place. What is left has no groups and is reduced as a flat
expression. A sign in front of a group and the sign of its value cancel.

Opening a group takes a parenthesis away, and putting a literal in its place brings none back, so
the reduction ends on every text, however deep its groups are.
-/

set_option autoImplicit false

namespace InfixCalculator

namespace Nested

/-! ## Putting a value in place of a group -/

/-- Drops the sign at the end of the head and the sign of the value if both are there. -/
def cancelSigns (head value : Text) : Text × Text :=
  match value, head.reverse with
  | '-' :: rest, '-' :: before =>
    if Flat.isSignAfter before then (before.reverse, rest) else (head, value)
  | _, _ => (head, value)

/-- The text with the value of a group in its place. -/
def fill (head value tail : Text) : Text :=
  (cancelSigns head value).1 ++ (cancelSigns head value).2 ++ tail

/-- A literal holds no parenthesis. -/
theorem countOpenings_literal (value : Literal) : Group.countOpenings value.text = 0 := by
  obtain ⟨text, valid⟩ := value
  unfold Literal.isLiteral Literal.splitSign at valid
  simp only [Group.countOpenings]
  split at valid
  · rw [List.count_cons_of_ne (by decide)]
    exact List.count_eq_zero.2 (Numeral.not_mem_of_isNumeral valid (by decide))
  · exact List.count_eq_zero.2 (Numeral.not_mem_of_isNumeral valid (by decide))

theorem countOpenings_cancelSigns (head value : Text) :
    Group.countOpenings (cancelSigns head value).1 + Group.countOpenings (cancelSigns head value).2
      = Group.countOpenings head + Group.countOpenings value := by
  unfold cancelSigns
  split
  · rename_i rest before ends
    split
    · have back : head = before.reverse ++ ['-'] := by
        rw [← List.reverse_reverse head, ends]; simp
      simp [back, Group.countOpenings]
    · rfl
  · rfl

/-- Filling in a value brings no parenthesis. -/
theorem countOpenings_fill (head tail : Text) (value : Literal) :
    Group.countOpenings (fill head value.text tail)
      = Group.countOpenings head + Group.countOpenings tail := by
  have cancelled := countOpenings_cancelSigns head value.text
  have none := countOpenings_literal value
  unfold fill
  simp only [Group.countOpenings, List.count_append] at *
  omega

/-! ## Reduction -/

/-- The number of opening parentheses in the texts that wait. -/
def waitingOpenings : List (Text × Text) → Nat
  | [] => 0
  | (head, tail) :: rest =>
    Group.countOpenings head + Group.countOpenings tail + waitingOpenings rest

/-- Reduces a text inside the groups whose surroundings wait, the innermost first. -/
def reduceWithin (waiting : List (Text × Text)) (text : Text) : Traced Literal :=
  if '(' ∈ text then
    match _found : Group.find text with
    | .error fault => .fail fault
    | .ok g =>
      if g.inner = [] then .fail (.located .emptyGroup text g.start)
      else reduceWithin ((g.head, g.tail) :: waiting) g.inner
  else if ')' ∈ text then
    .fail (.located .unmatchedClose text (text.takeWhile (· ≠ ')')).length)
  else do
    let value ← Flat.reduce text
    match waiting with
    | [] => pure value
    | (head, tail) :: waiting =>
      .step (.opened (fill head value.text tail))
      reduceWithin waiting (fill head value.text tail)
termination_by (Group.countOpenings text + waitingOpenings waiting, waiting.length)
decreasing_by
  · have opened := Group.countOpenings_of_find _found
    apply Prod.Lex.left
    simp only [waitingOpenings]
    omega
  · have filled := countOpenings_fill head tail value
    simp only [waitingOpenings, List.length_cons] at *
    by_cases empty : Group.countOpenings text = 0
    · rw [filled, empty, Nat.zero_add]
      exact Prod.Lex.right _ (Nat.lt_succ_self _)
    · apply Prod.Lex.left
      omega

/-- Reduces a text, opening its groups, to a literal. -/
def reduce (text : Text) : Traced Literal := reduceWithin [] text

end Nested

end InfixCalculator
