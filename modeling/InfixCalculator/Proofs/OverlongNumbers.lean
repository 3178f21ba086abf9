import InfixCalculator.Toml.Reader

/-!
# Numbers with too many digits

A whole number in decimal has a limit to its length. A value of more digits is no date, no time and
no other scalar, so it is read as a number and fails (`Toml.scalar_of_isOverlong`), and with it the
document in which it is the value of a key (`Toml.read_of_isOverlong`).
-/

set_option autoImplicit false

namespace InfixCalculator

namespace Toml

variable {digits : Text}

/-- More digits than a whole number may have, of which the first is not zero. -/
structure IsOverlong (digits : Text) : Prop where
  /-- There are only digits. -/
  isDigit : ∀ c ∈ digits, c.isDigit = true
  /-- The first one is not zero. -/
  head?_ne : digits.head? ≠ some '0'
  /-- There are too many of them. -/
  length : digitLimit < digits.length

theorem IsOverlong.exists_cons (long : IsOverlong digits) :
    ∃ c rest, digits = c :: rest ∧ c.isDigit = true ∧ c ≠ '0' ∧ ∀ d ∈ rest, d.isDigit = true := by
  obtain ⟨isDigit, head?_ne, length⟩ := long
  cases digits with
  | nil => cases length
  | cons c rest =>
    exact ⟨c, rest, rfl, isDigit c List.mem_cons_self, fun zero => head?_ne (congrArg some zero),
      fun d member => isDigit d (List.mem_cons_of_mem c member)⟩

theorem isOverlong_replicate {count : Nat} (long : digitLimit < count) :
    IsOverlong (List.replicate count '1') where
  isDigit c member := by
    rw [List.eq_of_mem_replicate member]
    rfl
  head?_ne := by
    rw [List.head?_replicate]
    split
    · nofun
    · decide
  length := by rwa [List.length_replicate]

/-! ## As a number -/

theorem moreDigits_of_isDigit (isDigit : ∀ c ∈ digits, c.isDigit = true) :
    moreDigits Char.isDigit digits = (digits, []) := by
  induction digits with
  | nil => rfl
  | cons c rest ih =>
    have digit : c.isDigit = true := isDigit c List.mem_cons_self
    rw [moreDigits, if_pos digit, ih fun d member => isDigit d (List.mem_cons_of_mem c member)]
    rintro _ _ rfl
    cases digit

theorem numberValue_of_isOverlong (long : IsOverlong digits) :
    numberValue digits = .error .integerTooLong := by
  obtain ⟨c, rest, rfl, digit, notZero, more⟩ := long.exists_cons
  have whole : wholePart (c :: rest) = some (c :: rest, []) := by
    rw [wholePart, digitRun, if_pos digit, moreDigits_of_isDigit more]
    rintro _ ⟨⟩
    exact notZero rfl
  have sign : signPart (c :: rest) = ([], c :: rest) := by
    rw [signPart]
    · rintro _ ⟨⟩
      cases digit
    · rintro _ ⟨⟩
      cases digit
  have fails : decimalNumber (c :: rest) = .error .integerTooLong := by
    unfold decimalNumber
    rw [sign]
    dsimp only
    rw [whole]
    exact if_pos long.length
  unfold numberValue
  dsimp only
  split
  · rename_i based
    split at based
    · rename_i zero
      exact absurd (List.cons.inj zero).1 notZero
    · cases based
  · rw [fails]

/-! ## Not as any other scalar -/

/-- Digits start with no text that starts with something else. -/
theorem expect_eq_none {c : Char} (mark : c.isDigit = false) (start : Text)
    (isDigit : ∀ d ∈ digits, d.isDigit = true) :
    expect (c :: start) digits = none := by
  cases digits with
  | nil => rfl
  | cons d rest =>
    have differs : (c == d) = false := by
      rw [beq_eq_false_iff_ne]
      rintro rfl
      rw [isDigit c List.mem_cons_self] at mark
      cases mark
    rw [expect, List.isPrefixOf, differs]
    rfl

theorem eq_drop_of_fixedDigits {count low high value : Nat} {text rest : Text}
    (taken : fixedDigits count low high text = some (value, rest)) : rest = text.drop count := by
  unfold fixedDigits at taken
  dsimp only at taken
  split at taken
  · cases taken
    rfl
  · cases taken

/-- Digits are no date and no time: these have a mark after their first digits. -/
theorem moment?_of_isDigit (isDigit : ∀ c ∈ digits, c.isDigit = true) : moment? digits = none := by
  have after (count : Nat) : ∀ c ∈ digits.drop count, c.isDigit = true :=
    fun c member => isDigit c (List.mem_of_mem_drop member)
  have noDate : date? digits = none := by
    unfold date?
    cases year : fixedDigits 4 0 9999 digits with
    | none => rfl
    | some taken =>
      obtain ⟨value, rest⟩ := taken
      cases eq_drop_of_fixedDigits year
      simp [expect_eq_none (c := '-') rfl [] (after 4)]
  have noTime : skipTime digits = none := by
    unfold skipTime
    cases hour : fixedDigits 2 0 23 digits with
    | none => rfl
    | some taken =>
      obtain ⟨value, rest⟩ := taken
      cases eq_drop_of_fixedDigits hour
      simp [expect_eq_none (c := ':') rfl [] (after 2)]
  rw [moment?, noDate, noTime]
  rfl

theorem scalar_of_isOverlong (long : IsOverlong digits) :
    scalar digits = .error .integerTooLong := by
  obtain ⟨c, rest, first, digit, -, -⟩ := long.exists_cons
  have noQuote : ¬(c = '"' ∨ c = '\'') := by
    rintro (rfl | rfl) <;> cases digit
  have head : digits.head? = some c := congrArg List.head? first
  have noTrue : expect "true".toList digits = none := expect_eq_none rfl _ long.isDigit
  have noFalse : expect "false".toList digits = none := expect_eq_none rfl _ long.isDigit
  rw [scalar, head]
  dsimp only
  rw [if_neg noQuote, noTrue, noFalse, moment?_of_isDigit long.isDigit]
  exact numberValue_of_isOverlong long

/-! ## In a document -/

theorem value_of_isOverlong (long : IsOverlong digits) (fuel depth : Nat) :
    value (fuel + 1) depth digits = .error .integerTooLong := by
  obtain ⟨c, rest, rfl, digit, -, -⟩ := long.exists_cons
  rw [value]
  · exact scalar_of_isOverlong long
  · rintro _ ⟨⟩
    cases digit
  · rintro _ ⟨⟩
    cases digit

theorem assignment_of_isOverlong {text : Text} {path : Path}
    (assigns : keyAndEquals text = some (path, digits)) (long : IsOverlong digits) (d : Document)
    (current : Path) :
    assignment d current text = .error .integerTooLong := by
  simp only [assignment, assigns, liftM, monadLift, MonadLift.monadLift, required, bind,
    Except.bind, value_of_isOverlong long]

theorem unifyLineEnds_of_not_mem {text : Text} (none : '\r' ∉ text) :
    unifyLineEnds text = text := by
  fun_induction unifyLineEnds text with
  | case1 => exact absurd List.mem_cons_self none
  | case2 c rest _ ih => rw [ih fun member => none (List.mem_cons_of_mem c member)]
  | case3 => rfl

/-- **An overlong number as the value of the first key** makes a document unreadable, whatever key
it is. -/
theorem read_of_isOverlong {c : Char} {rest : Text} {path : Path} (plain : '\r' ∉ c :: rest)
    (key : isBareKey c = true) (assigns : keyAndEquals (c :: rest) = some (path, digits))
    (long : IsOverlong digits) :
    read (c :: rest) = .error .integerTooLong := by
  have said : statement .empty [] (c :: rest) = .error .integerTooLong := by
    rw [statement]
    · exact assignment_of_isOverlong assigns long .empty []
    · rintro _ ⟨⟩
      cases key
    · rintro _ ⟨⟩
      cases key
  have noSpace : isSpace c = false := by
    unfold isSpace
    rw [Bool.or_eq_false_iff, decide_eq_false_iff_not, decide_eq_false_iff_not]
    constructor <;> rintro rfl <;> cases key
  have filled : (c :: rest).dropWhile isSpace = c :: rest :=
    List.dropWhile_cons_of_neg (ne_true_of_eq_false noSpace)
  have fails (fuel : Nat) : lines (fuel + 1) .empty [] (c :: rest) = .error .integerTooLong := by
    rw [lines, filled]
    split
    · rename_i same
      cases same
    · rename_i same
      cases same
      cases key
    · rw [said]
      rfl
  rw [read, unifyLineEnds_of_not_mem plain, fails]
  rfl

end Toml

end InfixCalculator
