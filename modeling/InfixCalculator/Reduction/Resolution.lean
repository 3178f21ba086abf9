import InfixCalculator.Reduction.Nested

/-!
# Groups resolved one inside another

The value of a text can be told without a stack: the leftmost group is resolved by itself, its value
is put in its place, and the text that results is resolved in turn. A text without groups is reduced
as a flat expression.

This is the plain account of what the reduction with a stack of waiting texts does. Both parts have
fewer opening parentheses than the text, so it ends on every text.
-/

set_option autoImplicit false

namespace InfixCalculator

namespace Nested

/-- The literal that a text resolves to, or the first fault met. -/
def resolve (text : Text) : Except Fault Literal :=
  if '(' ∈ text then
    match _found : Group.find text with
    | .error fault => .error fault
    | .ok g =>
      if g.inner = [] then .error (.located .emptyGroup text g.start)
      else
        match resolve g.inner with
        | .error fault => .error fault
        | .ok value => resolve (fill g.head value.text g.tail)
  else if ')' ∈ text then
    .error (.located .unmatchedClose text (text.takeWhile (· ≠ ')')).length)
  else (Flat.reduce text).outcome
termination_by Group.countOpenings text
decreasing_by
  · have opened := Group.countOpenings_of_find _found
    omega
  · have opened := Group.countOpenings_of_find _found
    have filled := countOpenings_fill g.head g.tail value
    omega

end Nested

end InfixCalculator
