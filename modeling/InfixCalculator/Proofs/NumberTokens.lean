import InfixCalculator.Proofs.Literals
import InfixCalculator.Reduction.Flat
import InfixCalculator.Token.Evaluation

/-!
# Number tokens that are literals

Numbers in tokens are read in a wider form than the literals of expressions. On a literal the two
readers agree (`FreeForm.read?_literal`): a literal has no padding, no underscores, no letters and
no exponent, and its digits are the plain ones. So a number token that was made from a literal has
the number that the literal stands for (`Token.number_of_literal`).
-/

set_option autoImplicit false

namespace InfixCalculator

/-! ## The characters of literals -/

namespace Literal

/-- A character that a literal may contain. -/
def isPart (c : Char) : Bool := Numeral.isPart c || c = '-'

theorem isPart_of_mem {text : Text} (literal : isLiteral text = true) {c : Char}
    (member : c ∈ text) : isPart c = true := by
  obtain ⟨negative, numeral, valid, rfl⟩ := exists_withSign literal
  rw [isPart, Bool.or_eq_true]
  cases negative with
  | false => exact .inl (Numeral.isPart_of_mem valid member)
  | true =>
    rcases List.mem_cons.1 member with rfl | inside
    · exact .inr (by decide)
    · exact .inl (Numeral.isPart_of_mem valid inside)

/-- What holds of the digits, the point and the minus holds of every character of a literal. -/
theorem forall_isPart (P : Char → Prop) (digits : ∀ n, n < 10 → P (Nat.digitChar n)) (point : P '.')
    (minus : P '-') {c : Char} (part : isPart c = true) : P c := by
  rw [isPart, Numeral.isPart, Bool.or_eq_true, Bool.or_eq_true, decide_eq_true_eq,
    decide_eq_true_eq] at part
  rcases part with (digit | rfl) | rfl
  · have bounds : 48 ≤ c.toNat ∧ c.toNat ≤ 57 := Char.isDigit_iff_toNat.1 digit
    have same : Nat.digitChar (c.toNat - 48) = c := by
      apply Char.toNat_inj.1
      rw [Nat.toNat_digitChar_of_lt_ten (by omega)]
      omega
    rw [← same]
    exact digits _ (by omega)
  · exact point
  · exact minus

end Literal

namespace FreeForm

/-! ## Steps of the reader that leave plain characters as they are -/

/-- A character that the reader of free forms takes as it is: one of a literal, or of an
exponent. -/
def isPlain (c : Char) : Bool := Literal.isPart c || c = '+' || c = 'e'

theorem isPlain_of_isPart {c : Char} (part : Literal.isPart c = true) : isPlain c = true := by
  rw [isPlain, part]
  rfl

/-- What holds of the digits, the point, the signs and the mark of an exponent holds of every plain
character. -/
theorem forall_isPlain (P : Char → Prop) (digits : ∀ n, n < 10 → P (Nat.digitChar n))
    (point : P '.') (minus : P '-') (plus : P '+') (mark : P 'e') {c : Char}
    (plain : isPlain c = true) : P c := by
  rw [isPlain, Bool.or_eq_true, Bool.or_eq_true, decide_eq_true_eq, decide_eq_true_eq] at plain
  rcases plain with (part | rfl) | rfl
  · exact Literal.forall_isPart P digits point minus part
  · exact plus
  · exact mark

section

variable {c : Char} (plain : isPlain c = true)

include plain

theorem isPadding_of_isPlain : isPadding c = false :=
  forall_isPlain (isPadding · = false) (by decide) (by decide) (by decide) (by decide) (by decide)
    plain

theorem ne_underscore_of_isPlain : c ≠ '_' :=
  forall_isPlain (· ≠ '_') (by decide) (by decide) (by decide) (by decide) (by decide) plain

theorem toLower_of_isPlain : c.toLower = c :=
  forall_isPlain (fun c => c.toLower = c) (by decide) (by decide) (by decide) (by decide)
    (by decide) plain

theorem plainDigit_of_isPlain :
    (match Text.digitValue? c with
      | some value => Nat.digitChar value
      | none => c) = c :=
  forall_isPlain
    (fun c => (match Text.digitValue? c with
      | some value => Nat.digitChar value
      | none => c) = c) (by decide) (by decide) (by decide) (by decide) (by decide) plain

end

theorem map_of_forall_eq {f : Char → Char} {text : Text} (h : ∀ c ∈ text, f c = c) :
    text.map f = text := by
  rw [List.map_congr_left h, List.map_id']

section

variable {text : Text} (plain : ∀ c ∈ text, isPlain c = true)

include plain

theorem trim_of_plain : trim text = text := by
  have none {t : Text} (padding : ∀ c ∈ t, isPlain c = true) : t.dropWhile isPadding = t :=
    @Text.dropWhile_span _ [] t (by simp) fun c head =>
      isPadding_of_isPlain (padding c (List.mem_of_mem_head? head))
  unfold trim
  rw [none plain, none fun c member => plain c (List.mem_reverse.1 member), List.reverse_reverse]

theorem plainDigits_of_plain : plainDigits text = text :=
  map_of_forall_eq fun c member => plainDigit_of_isPlain (plain c member)

theorem dropUnderscores_of_plain : dropUnderscores text = some text := by
  fun_induction dropUnderscores text with
  | case1 => rfl
  | case2 => exact absurd rfl (ne_underscore_of_isPlain (plain '_' List.mem_cons_self))
  | case3 => exact absurd rfl (ne_underscore_of_isPlain (plain '_' List.mem_cons_self))
  | case4 => exact absurd rfl (ne_underscore_of_isPlain (plain '_' (by simp)))
  | case5 => exact absurd rfl (ne_underscore_of_isPlain (plain '_' (by simp)))
  | case6 c rest _ _ _ ih =>
    rw [ih fun d member => plain d (List.mem_cons_of_mem c member)]
    rfl

/-- Plain characters are read as they are. -/
theorem read?_of_plain : read? text = signed? text := by
  have small : text.map Char.toLower = text :=
    map_of_forall_eq fun c member => toLower_of_isPlain (plain c member)
  unfold read?
  rw [trim_of_plain plain, plainDigits_of_plain plain, dropUnderscores_of_plain plain,
    Option.bind_eq_bind, Option.bind_some, small]

end

/-! ## Reading a numeral -/

/-- On a numeral the reader of free forms finds the decimal that the numeral stands for. -/
theorem decimal?_numeral {numeral : Text} (valid : Numeral.isNumeral numeral = true) :
    decimal? numeral = some (Numeral.toDecimal numeral) := by
  -- a numeral has no exponent, so all of it is mantissa
  have mantissa : numeral.takeWhile (fun c => c.isDigit || c = '.') = numeral := by
    have whole := @Text.takeWhile_span _ numeral [] (fun c => Numeral.isPart_of_mem valid) (by simp)
    rwa [List.append_nil] at whole
  have pointed {digits fraction : Text} (same : numeral = digits ++ '.' :: fraction)
      (some : digits ++ fraction ≠ []) (validDigits : digits.all Char.isDigit = true)
      (validFraction : fraction.all Char.isDigit = true) :
      decimal? numeral = .some (Numeral.toDecimal numeral) := by
    have inside := List.all_eq_true.1 validDigits
    unfold decimal?
    dsimp only
    rw [mantissa, List.drop_length, same, Text.takeWhile_span inside (by simp),
      Text.dropWhile_span inside (by simp), Numeral.toDecimal_pointed validDigits validFraction,
      List.drop_one, List.tail_cons, if_pos ⟨some, validFraction⟩]
    simp
  cases Numeral.isNumeral_iff.1 valid with
  | whole nonempty digits =>
    have inside := List.all_eq_true.1 digits
    unfold decimal?
    dsimp only
    rw [mantissa, List.drop_length, Numeral.toDecimal_digits digits]
    have whole := @Text.takeWhile_span _ numeral [] inside (by simp)
    have none := @Text.dropWhile_span _ numeral [] inside (by simp)
    rw [List.append_nil] at whole none
    rw [whole, none, if_pos (by simpa using nonempty)]
    simp
  | pointed nonempty digits fraction =>
    exact pointed rfl (List.append_ne_nil_of_left_ne_nil nonempty _) digits fraction
  | @fraction digits nonempty allDigits =>
    exact pointed (show '.' :: digits = [] ++ '.' :: digits from rfl) nonempty rfl allDigits

/-- The exponent of a numeral is no larger than the numeral is long. -/
theorem natAbs_exponent_le (numeral : Text) :
    (Numeral.toDecimal numeral).exponent.natAbs ≤ numeral.length := by
  have shorter := (List.dropWhile_sublist (· ≠ '.') (l := numeral)).length_le
  unfold Numeral.toDecimal
  dsimp only
  rw [Int.natAbs_neg, Int.natAbs_natCast, List.length_drop]
  exact Nat.le_trans (Nat.sub_le _ _) shorter

/-- On a numeral the unsigned reader finds the number that the numeral stands for. -/
theorem unsigned?_numeral {numeral : Text} (valid : Numeral.isNumeral numeral = true) :
    unsigned? numeral = some (Literal.signed false (Numeral.toDecimal numeral).round) := by
  have parts : numeral.all Numeral.isPart = true :=
    List.all_eq_true.2 fun c member => Numeral.isPart_of_mem valid member
  have noName {name : Text} (letter : name.all Numeral.isPart = false) : numeral ≠ name := by
    rintro rfl
    rw [parts] at letter
    cases letter
  unfold unsigned?
  rw [if_neg (not_or.2 ⟨noName rfl, noName rfl⟩), if_neg (noName rfl),
    decimal?_numeral valid]
  unfold round
  rw [Option.map_some, if_pos (natAbs_exponent_le numeral)]
  cases (Numeral.toDecimal numeral).round <;> rfl

/-- A number that does not begin with a sign is read without one. -/
theorem signed?_of_isPart {c : Char} (part : Numeral.isPart c = true) (rest : Text) :
    signed? (c :: rest) = unsigned? (c :: rest) := by
  unfold signed?
  split
  · rename_i same
    cases same
    exact absurd part (by decide)
  · rename_i same
    cases same
    exact absurd part (by decide)
  · rfl

/-- **A literal in free form** is read as the number that the literal stands for. -/
theorem read?_literal {text : Text} (literal : Literal.isLiteral text = true) :
    read? text = some (Literal.toBinary64 text) := by
  rw [read?_of_plain fun c member => isPlain_of_isPart (Literal.isPart_of_mem literal member)]
  obtain ⟨negative, numeral, valid, rfl⟩ := Literal.exists_withSign literal
  rw [Literal.toBinary64_withSign negative valid]
  cases negative with
  | true =>
    show (unsigned? numeral).map Binary64.neg = _
    rw [unsigned?_numeral valid]
    cases (Numeral.toDecimal numeral).round <;> rfl
  | false =>
    obtain ⟨c, rest, rfl, part⟩ := Numeral.exists_cons_of_isNumeral valid
    rw [← unsigned?_numeral valid]
    exact signed?_of_isPart part rest

end FreeForm

/-- **A number token made from a literal** has the number of the literal, or fails as reading the
literal does. -/
theorem Token.number_of_literal {t : Token} (literal : Literal.isLiteral t.text = true) :
    t.number = parseNumber t.text := by
  unfold Token.number
  rw [FreeForm.read?_literal literal, parseNumber_of_isLiteral literal]

end InfixCalculator
