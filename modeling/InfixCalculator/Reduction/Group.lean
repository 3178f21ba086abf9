import InfixCalculator.Fault

/-!
# Groups

A group is a pair of matching parentheses with the text between them. `find` returns the leftmost
group of a text: it starts at the first opening parenthesis and ends where as many have been closed
as opened. Nothing is lost (`append_of_find`), and the parts of a group together have one opening
parenthesis less than the text (`countOpenings_of_find`).
-/

set_option autoImplicit false

namespace InfixCalculator

/-- A group inside a text. -/
structure Group where
  /-- The text in front of the group. -/
  head : Text
  /-- The text between the parentheses. -/
  inner : Text
  /-- The text behind the group. -/
  tail : Text
deriving DecidableEq

namespace Group

/-- The position of the opening parenthesis. -/
def start (g : Group) : Nat := g.head.length

/-- The position of the closing parenthesis. -/
def stop (g : Group) : Nat := g.head.length + 1 + g.inner.length

/-- Splits a text at the parenthesis that closes the innermost of `depth + 1` open groups all the
way out; `passed` holds the characters already passed, the nearest first. -/
def close? : Nat → Text → Text → Option (Text × Text)
  | _, _, [] => none
  | depth, passed, '(' :: rest => close? (depth + 1) ('(' :: passed) rest
  | 0, passed, ')' :: rest => some (passed.reverse, rest)
  | depth + 1, passed, ')' :: rest => close? depth (')' :: passed) rest
  | depth, passed, c :: rest => close? depth (c :: passed) rest

/-- The leftmost group of a text. -/
def find (text : Text) : Except Fault Group :=
  let head := text.takeWhile (· ≠ '(')
  match text.dropWhile (· ≠ '(') with
  | [] => .error (.unlocated (.noGroup text))
  | _ :: rest =>
    match close? 0 [] rest with
    | some (inner, tail) => .ok ⟨head, inner, tail⟩
    | none => .error (.located .unmatchedOpen text head.length)

/-- The number of opening parentheses. -/
def countOpenings (text : Text) : Nat := text.count '('

/-! ## The parts of a group -/

theorem append_of_close? {depth : Nat} {passed rest inner tail : Text}
    (h : close? depth passed rest = some (inner, tail)) :
    inner ++ ')' :: tail = passed.reverse ++ rest := by
  fun_induction close? depth passed rest with
  | case1 => cases h
  | case2 depth passed rest ih => simpa using ih h
  | case3 passed rest => cases h; rfl
  | case4 depth passed rest ih => simpa using ih h
  | case5 depth passed c rest _ _ _ ih => simpa using ih h

/-- A text is its leftmost group and what stands around it. -/
theorem append_of_find {text : Text} {g : Group} (h : find text = .ok g) :
    g.head ++ '(' :: g.inner ++ ')' :: g.tail = text := by
  unfold find at h
  dsimp only at h
  split at h
  · cases h
  · rename_i c rest found
    split at h
    · rename_i inner tail closed
      cases h
      have opens : c = '(' := by
        have := List.head?_dropWhile_not (fun x : Char => decide (x ≠ '(')) text
        rw [found] at this
        simpa using this
      have parts := append_of_close? closed
      simp only [List.reverse_nil, List.nil_append] at parts
      subst opens
      show text.takeWhile (· ≠ '(') ++ '(' :: inner ++ ')' :: tail = text
      rw [List.append_assoc, List.cons_append, parts, ← found, List.takeWhile_append_dropWhile]
    · cases h

/-- Opening a group takes one parenthesis off the text. -/
theorem countOpenings_of_find {text : Text} {g : Group} (h : find text = .ok g) :
    countOpenings g.inner + (countOpenings g.head + countOpenings g.tail) + 1
      = countOpenings text := by
  rw [← append_of_find h]
  simp only [countOpenings, List.count_append, List.count_cons]
  simp
  omega

end Group

end InfixCalculator
