import InfixCalculator.Proofs.FaultPlaces
import InfixCalculator.Proofs.OperatorCounts

/-!
# The leftmost binary expression of a text

A symbol acts as a binary operator directly behind a part of a numeral (`Flat.ActsAt`). The search
for it passes over a text as long as it does not act there, so what it finds is the first place
where it does (`Flat.findBinary?_eq_some_iff`), and it fails only when there is none
(`Flat.findBinary?_eq_none_iff`).

Around that place the operands are as long as they can be: the parts of a numeral and, in front of
them, a minus that is a sign where it stands (`Flat.SignAt`). The two words for that, what stands in
front of an operand and the position of its minus, say the same (`Flat.signAt_reverse_append`). So a
binary expression is taken out of a text exactly when it is the leftmost one with whole operands
(`Flat.extractBinary_eq_ok_iff`), and out of the text of a row the two literals next to the first
occurrence of the operator are taken (`Flat.extractBinary_leftmost`).
-/

set_option autoImplicit false

namespace InfixCalculator

namespace Flat

/-! ## Places of an operator -/

/-- A symbol acts as a binary operator at a position: directly behind a digit or a point. -/
def ActsAt (text : Text) (symbol : Char) (index : Nat) : Prop :=
  1 ≤ index ∧ text[index]? = some symbol ∧ ∃ c, text[index - 1]? = some c ∧ Numeral.isPart c = true

/-- The first position where a symbol acts as a binary operator. -/
def ActsFirstAt (text : Text) (symbol : Char) (index : Nat) : Prop :=
  ActsAt text symbol index ∧ ∀ before < index, ¬ActsAt text symbol before

variable {symbol : Char} {text passed before after : Text}

theorem getElem?_reverse_append (passed : Text) (c : Char) (rest : Text) :
    (passed.reverse ++ c :: rest)[passed.length]? = some c := by
  have here := Text.getElem?_append_cons passed.reverse c rest
  rwa [List.length_reverse] at here

/-- A character acts as a binary operator behind a text that ends in a part of a numeral. -/
theorem actsAt_reverse_append (passed : Text) (c : Char) (rest : Text) :
    ActsAt (passed.reverse ++ c :: rest) symbol passed.length
      ↔ c = symbol ∧ AfterLiteral passed := by
  rw [ActsAt, getElem?_reverse_append]
  cases passed with
  | nil =>
    constructor
    · rintro ⟨further, -⟩
      cases further
    · rintro ⟨-, _, _, same, -⟩
      cases same
  | cons last passed =>
    have behind := getElem?_reverse_append passed last (c :: rest)
    rw [List.length_cons, Nat.add_sub_cancel, List.reverse_cons, List.append_assoc,
      List.singleton_append, behind]
    constructor
    · rintro ⟨-, same, _, ⟨⟩, part⟩
      exact ⟨Option.some.inj same, last, passed, rfl, part⟩
    · rintro ⟨rfl, _, _, ⟨⟩, part⟩
      exact ⟨Nat.succ_pos _, rfl, last, rfl, part⟩

theorem ActsFirstAt.eq {index index' : Nat} (acts : ActsFirstAt text symbol index)
    (acts' : ActsFirstAt text symbol index') : index = index' := by
  rcases Nat.lt_trichotomy index index' with less | same | more
  · exact absurd acts.1 (acts'.2 index less)
  · exact same
  · exact absurd acts'.1 (acts.2 index' more)

/-- What the search for a symbol comes to: the first place where it acts, or that there is none. -/
def Sought (symbol : Char) (text : Text) : Option (Text × Text) → Prop
  | some (before, _) => ActsFirstAt text symbol before.length
  | none => ∀ index, ¬ActsAt text symbol index

/-- **The search for a symbol** that acts nowhere in what is passed finds the first place where it
acts. -/
theorem sought_splitBinary? (symbol : Char) (passed text : Text)
    (unseen : ∀ index < passed.length, ¬ActsAt (passed.reverse ++ text) symbol index) :
    Sought symbol (passed.reverse ++ text) (splitBinary? symbol passed text) := by
  -- the search goes on behind a character where the symbol does not act
  have further {passed rest : Text} {c : Char}
      (unseen : ∀ index < passed.length, ¬ActsAt (passed.reverse ++ c :: rest) symbol index)
      (here : ¬(c = symbol ∧ AfterLiteral passed)) :
      ∀ index < (c :: passed).length, ¬ActsAt ((c :: passed).reverse ++ rest) symbol index := by
    intro index less
    rw [List.reverse_cons, List.append_assoc, List.singleton_append]
    rcases Nat.lt_succ_iff_lt_or_eq.1 less with earlier | rfl
    · exact unseen index earlier
    · rwa [actsAt_reverse_append]
  fun_induction splitBinary? symbol passed text with
  | case1 passed =>
    rintro index ⟨positive, found, rest⟩
    refine unseen index ?_ ⟨positive, found, rest⟩
    simpa using (List.getElem?_eq_some_iff.1 found).1
  | case2 c rest ih =>
    refine ih (further unseen ?_)
    rintro ⟨-, _, _, ⟨⟩, -⟩
  | case3 previous passed c rest here =>
    exact ⟨(actsAt_reverse_append _ _ _).2 ⟨here.1, previous, passed, rfl, here.2⟩, unseen⟩
  | case4 previous passed c rest other ih =>
    have sought := ih <| further unseen <| by
      rintro ⟨same, _, _, ⟨⟩, part⟩
      exact other ⟨same, part⟩
    rwa [List.reverse_cons, List.append_assoc, List.singleton_append] at sought

theorem sought_findBinary? (text : Text) (symbol : Char) :
    Sought symbol text (findBinary? text [symbol]) :=
  sought_splitBinary? symbol [] text nofun

/-- A symbol is not found exactly when it acts nowhere. -/
theorem findBinary?_eq_none_iff :
    findBinary? text [symbol] = none ↔ ∀ index, ¬ActsAt text symbol index := by
  have sought := sought_findBinary? text symbol
  constructor
  · intro none
    rwa [none] at sought
  · intro never
    cases found : findBinary? text [symbol] with
    | none => rfl
    | some parts =>
      rw [found] at sought
      exact absurd sought.1 (never _)

/-- **A symbol is found** exactly where it acts first. -/
theorem findBinary?_eq_some_iff :
    findBinary? text [symbol] = some (before, after)
      ↔ before.reverse ++ symbol :: after = text ∧ ActsFirstAt text symbol before.length := by
  have sought := sought_findBinary? text symbol
  constructor
  · intro found
    rw [found] at sought
    exact ⟨(append_of_splitBinary? found).1, sought⟩
  · rintro ⟨whole, acts⟩
    cases found : findBinary? text [symbol] with
    | none =>
      rw [found] at sought
      exact absurd acts.1 (sought _)
    | some parts =>
      obtain ⟨before', after'⟩ := parts
      rw [found] at sought
      have whole' : before'.reverse ++ symbol :: after' = text := (append_of_splitBinary? found).1
      have length : before'.reverse.length = before.reverse.length := by
        rw [List.length_reverse, List.length_reverse, ActsFirstAt.eq sought acts]
      obtain ⟨front, behind⟩ := List.append_inj (whole'.trans whole.symm) length
      rw [List.reverse_injective front, (List.cons.inj behind).2]

/-! ## Places of a sign -/

/-- A minus is a sign at a position: at the start of the text, or directly behind an operator symbol
or an opening parenthesis. -/
def SignAt (text : Text) (index : Nat) : Prop :=
  text[index]? = some '-'
    ∧ (index = 0 ∨ ∃ c, text[index - 1]? = some c ∧ (Operator.isSymbol c = true ∨ c = '('))

/-- A character behind a text is a sign when it is a minus that is one behind that text. -/
theorem signAt_reverse_append (passed : Text) (c : Char) (rest : Text) :
    SignAt (passed.reverse ++ c :: rest) passed.length ↔ c = '-' ∧ isSignAfter passed = true := by
  rw [SignAt, getElem?_reverse_append, Option.some.injEq]
  refine and_congr_right fun _ => ?_
  cases passed with
  | nil => exact ⟨fun _ => rfl, fun _ => .inl rfl⟩
  | cons last passed =>
    have behind := getElem?_reverse_append passed last (c :: rest)
    rw [List.length_cons, Nat.add_sub_cancel, List.reverse_cons, List.append_assoc,
      List.singleton_append, behind]
    simp [isSignAfter]

/-- A text that is given in reverse ends in a minus that is a sign. -/
def EndsInSign (front : Text) : Prop := ∃ passed, front = '-' :: passed ∧ isSignAfter passed = true

theorem endsInSign_iff {front : Text} (rest : Text) :
    EndsInSign front ↔ ∃ index, SignAt (front.reverse ++ rest) index
      ∧ index + 1 = front.length := by
  constructor
  · rintro ⟨passed, rfl, sign⟩
    refine ⟨passed.length, ?_, rfl⟩
    rw [List.reverse_cons, List.append_assoc, List.singleton_append]
    exact (signAt_reverse_append passed '-' rest).2 ⟨rfl, sign⟩
  · rintro ⟨index, sign, last⟩
    cases front with
    | nil => cases last
    | cons c passed =>
      obtain rfl := Nat.succ_injective last
      rw [List.reverse_cons, List.append_assoc, List.singleton_append, signAt_reverse_append]
        at sign
      exact ⟨passed, by rw [sign.1], sign.2⟩

/-! ## Whole operands -/

variable {negative : Bool} {digits head tail : Text}

/-- **The operand in front of an operator** is as long as the parts of a numeral in front of it are,
and has a minus exactly when there is a sign in front of them. -/
theorem leftOperand_eq_iff (valid : Numeral.isNumeral digits = true) :
    leftOperand before = (Binary64.withSign negative digits, head)
      ↔ digits.reverse ++ Binary64.withSign negative head = before
        ∧ (∀ c ∈ head.head?, Numeral.isPart c = false)
        ∧ (negative = true ↔ EndsInSign (Binary64.withSign negative head)) := by
  have inside : ∀ c ∈ digits, Numeral.isPart c = true := fun c => Numeral.isPart_of_mem valid
  constructor
  · intro taken
    have whole := append_leftOperand before
    have outside := not_isPart_leftOperand before
    rw [taken] at whole outside
    have parts : digits.reverse ++ Binary64.withSign negative head = before := by
      rw [← before.reverse_reverse, ← whole]
      cases negative <;> simp [Binary64.withSign]
    refine ⟨parts, outside, ?_⟩
    subst parts
    cases negative with
    | true =>
      refine ⟨fun _ => ⟨head, rfl, ?_⟩, fun _ => rfl⟩
      -- a minus that is no sign would not have been taken
      by_contra noSign
      have minus : ∀ c ∈ ('-' :: head).head?, Numeral.isPart c = false := by
        rintro _ ⟨⟩
        exact Numeral.isPart_minus
      have unsigned := leftOperand_unsigned inside minus <| by
        rintro _ ⟨⟩
        exact Bool.eq_false_iff.2 noSign
      exact List.cons_ne_self _ _ (Prod.mk.inj (taken.symm.trans unsigned)).1
    | false =>
      refine ⟨fun no => absurd no Bool.false_ne_true, ?_⟩
      -- and a sign would
      rintro ⟨passed, rfl, sign⟩
      have signed := leftOperand_signed inside sign
      exact absurd (Prod.mk.inj (signed.symm.trans taken)).1 (List.cons_ne_self _ _)
  · rintro ⟨rfl, outside, sign⟩
    cases negative with
    | true =>
      obtain ⟨_, ⟨⟩, isSign⟩ := sign.1 rfl
      exact leftOperand_signed inside isSign
    | false =>
      refine leftOperand_unsigned inside outside fun passed same =>
        Bool.eq_false_iff.2 fun isSign => ?_
      cases sign.2 ⟨passed, same, isSign⟩

/-- No part of a numeral follows the operand at the start of a text. -/
theorem not_isPart_rightOperand (after : Text) :
    ∀ c ∈ (rightOperand after).2.head?, Numeral.isPart c = false := by
  have outside (rest : Text) : ∀ c ∈ (rest.dropWhile Numeral.isPart).head?,
      Numeral.isPart c = false := by
    intro c first
    have stops := List.head?_dropWhile_not Numeral.isPart rest
    rw [Option.mem_def.1 first] at stops
    simpa using stops
  unfold rightOperand
  split
  · exact outside _
  · exact outside _

/-- **The operand behind an operator** is as long as the parts of a numeral behind it are. -/
theorem rightOperand_eq_iff {right : Text} (literal : Literal.isLiteral right = true) :
    rightOperand after = (right, tail)
      ↔ right ++ tail = after ∧ ∀ c ∈ tail.head?, Numeral.isPart c = false := by
  constructor
  · intro taken
    have whole := append_rightOperand after
    have outside := not_isPart_rightOperand after
    rw [taken] at whole outside
    exact ⟨whole, outside⟩
  · rintro ⟨rfl, outside⟩
    exact rightOperand_literal ⟨right, literal⟩ outside

/-! ## The leftmost binary expression -/

/-- A binary expression is the leftmost one of an operator in a text, with its whole operands. -/
structure BinaryExpression.IsLeftmost (b : BinaryExpression) (op : Operator)
    (text : Text) : Prop where
  /-- Its parts make up the text. -/
  append : b.head ++ (b.left ++ op.symbol :: (b.right ++ b.tail)) = text
  /-- Its symbol is that of the operator. -/
  symbol : b.symbol = [op.symbol]
  /-- Between its positions stands the binary expression. -/
  part : (text.take b.stop).drop b.start = b.left ++ op.symbol :: b.right
  /-- Behind the left operand is the first place where the operator acts. -/
  acts : ActsFirstAt text op.symbol (b.start + b.left.length)
  /-- The left operand is a signed numeral. -/
  left : ∃ negative digits, Numeral.Derives digits ∧ b.left = Binary64.withSign negative digits
  /-- The right operand is a signed numeral. -/
  right : ∃ negative digits, Numeral.Derives digits ∧ b.right = Binary64.withSign negative digits
  /-- No part of a numeral stands directly in front of it. -/
  front : ∀ index c, index + 1 = b.start → text[index]? = some c → Numeral.isPart c = false
  /-- No part of a numeral stands directly behind it. -/
  behind : ∀ c, text[b.stop]? = some c → Numeral.isPart c = false
  /-- The left operand has a minus exactly when a sign stands directly in front of its digits. -/
  sign : b.left.head? = some '-'
    ↔ ∃ index, SignAt text index
      ∧ index + 1 + (Literal.splitSign b.left).2.length = b.start + b.left.length

/-! What the parts of a text say of an operand and what its positions say is the same. -/

section

variable {P : Char → Prop}

theorem forall_before_iff (front rest : Text) :
    (∀ index c, index + 1 = front.length → (front ++ rest)[index]? = some c → P c)
      ↔ ∀ c ∈ front.reverse.head?, P c := by
  rcases List.eq_nil_or_concat front with rfl | ⟨before, last, rfl⟩
  · exact ⟨fun _ => nofun, fun _ => nofun⟩
  · rw [List.concat_eq_append, List.reverse_append, List.append_assoc, List.length_append]
    constructor
    · rintro all _ ⟨⟩
      exact all before.length last rfl (Text.getElem?_append_cons before last rest)
    · rintro all index c same found
      obtain rfl : index = before.length := Nat.succ_injective same
      obtain rfl := Option.some.inj ((Text.getElem?_append_cons before last rest).symm.trans found)
      exact all last rfl

theorem forall_behind_iff (front rest : Text) :
    (∀ c, (front ++ rest)[front.length]? = some c → P c) ↔ ∀ c ∈ rest.head?, P c := by
  rw [List.getElem?_append_right (Nat.le_refl _), Nat.sub_self, ← List.head?_eq_getElem?]
  exact Iff.rfl

end

theorem head?_withSign (valid : Numeral.isNumeral digits = true) :
    (Binary64.withSign negative digits).head? = some '-' ↔ negative = true := by
  cases negative with
  | true => exact ⟨fun _ => rfl, fun _ => rfl⟩
  | false =>
    obtain ⟨c, rest, rfl, part⟩ := Numeral.exists_cons_of_isNumeral valid
    refine ⟨?_, nofun⟩
    rintro ⟨⟩
    cases part

/-- The position of a sign in front of the digits of an operand. -/
theorem exists_signAt_iff (valid : Numeral.isNumeral digits = true) (head rest : Text) :
    (∃ index, SignAt (head ++ (Binary64.withSign negative digits ++ rest)) index
        ∧ index + 1 + (Literal.splitSign (Binary64.withSign negative digits)).2.length
          = head.length + (Binary64.withSign negative digits).length)
      ↔ EndsInSign (Binary64.withSign negative head.reverse) := by
  have parts : (Binary64.withSign negative head.reverse).reverse ++ (digits ++ rest)
      = head ++ (Binary64.withSign negative digits ++ rest) := by
    cases negative <;> simp [Binary64.withSign]
  have size : head.length + (Binary64.withSign negative digits).length
      = (Binary64.withSign negative head.reverse).length + digits.length := by
    cases negative
    · simp [Binary64.withSign]
    · simp [Binary64.withSign]
      omega
  rw [endsInSign_iff (digits ++ rest), parts, size, Literal.splitSign_withSign negative valid]
  exact exists_congr fun index => and_congr_right fun _ => Nat.add_right_cancel_iff

/-- Parts of a text are taken out of it as a binary expression when the operator acts first between
the operands and both operands are whole. -/
theorem extractBinary_append_iff {right : Text} (valid : Numeral.isNumeral digits = true)
    (literal : Literal.isLiteral right = true)
    (whole : head ++ (Binary64.withSign negative digits ++ symbol :: (right ++ tail)) = text) :
    extractBinary text [symbol]
      = .ok ⟨head, Binary64.withSign negative digits, [symbol], right, tail⟩
      ↔ ActsFirstAt text symbol (head.length + (Binary64.withSign negative digits).length)
        ∧ (∀ c ∈ head.reverse.head?, Numeral.isPart c = false)
        ∧ (negative = true ↔ EndsInSign (Binary64.withSign negative head.reverse))
        ∧ ∀ c ∈ tail.head?, Numeral.isPart c = false := by
  -- the text in front of the operator, in reverse
  have front : (digits.reverse ++ Binary64.withSign negative head.reverse).reverse
      = head ++ Binary64.withSign negative digits := by
    cases negative <;> simp [Binary64.withSign]
  have size : (digits.reverse ++ Binary64.withSign negative head.reverse).length
      = head.length + (Binary64.withSign negative digits).length := by
    rw [← List.length_append, ← front, List.length_reverse]
  rw [← List.append_assoc, ← front] at whole
  rw [extractBinary_eq_ok_parts, ← size]
  constructor
  · rintro ⟨-, -, -, before, after, found, leftTaken, rightTaken⟩
    obtain ⟨rfl, outside, sign⟩ := (leftOperand_eq_iff valid).1 leftTaken
    obtain ⟨-, behind⟩ := (rightOperand_eq_iff literal).1 rightTaken
    exact ⟨(findBinary?_eq_some_iff.1 found).2, outside, sign, behind⟩
  · rintro ⟨acts, outside, sign, behind⟩
    exact ⟨rfl, Literal.isLiteral_withSign negative valid, literal, _, _,
      findBinary?_eq_some_iff.2 ⟨whole, acts⟩, (leftOperand_eq_iff valid).2 ⟨rfl, outside, sign⟩,
      (rightOperand_eq_iff literal).2 ⟨rfl, behind⟩⟩

/-- A binary expression ends where its parts up to the right operand do. -/
theorem BinaryExpression.stop_eq {b : BinaryExpression} (same : b.symbol = [symbol]) :
    b.stop = (b.head ++ (b.left ++ symbol :: b.right)).length := by
  rw [stop, index, same, List.length_append, List.length_append, List.length_singleton,
    List.length_cons]
  omega

variable {op : Operator} {b : BinaryExpression}

/-- A binary expression that is taken out of a text is the leftmost one. -/
theorem isLeftmost_of_extractBinary (taken : extractBinary text [op.symbol] = .ok b) :
    b.IsLeftmost op text := by
  obtain ⟨same, leftValid, rightValid, -⟩ := extractBinary_eq_ok_parts.1 taken
  have whole := (isTakenFrom_of_extractBinary taken).append
  have stop := BinaryExpression.stop_eq same
  obtain ⟨negative, digits, valid, leftText⟩ := Literal.exists_withSign leftValid
  obtain ⟨negative', digits', valid', rightText⟩ := Literal.exists_withSign rightValid
  obtain ⟨head, left, shown, right, tail⟩ := b
  dsimp only at same leftText rightText rightValid whole stop
  subst same leftText
  obtain ⟨acts, outside, sign, behind⟩ := (extractBinary_append_iff valid rightValid whole).1 taken
  subst whole
  have parts : head ++ (Binary64.withSign negative digits ++ op.symbol :: (right ++ tail))
      = (head ++ (Binary64.withSign negative digits ++ op.symbol :: right)) ++ tail := by
    rw [List.append_assoc, List.append_assoc, List.cons_append]
  exact {
    append := rfl
    symbol := rfl
    part := by rw [stop, parts, List.take_left]; exact List.drop_left
    acts := acts
    left := ⟨negative, digits, Numeral.derives_of_isNumeral valid, rfl⟩
    right := ⟨negative', digits', Numeral.derives_of_isNumeral valid', rightText⟩
    front := (forall_before_iff head _).2 outside
    behind := by rw [stop, parts]; exact (forall_behind_iff _ tail).2 behind
    sign := (head?_withSign valid).trans (sign.trans (exists_signAt_iff valid head _).symm) }

/-- The leftmost binary expression of a text is taken out of it. -/
theorem BinaryExpression.IsLeftmost.extractBinary_eq (leftmost : b.IsLeftmost op text) :
    extractBinary text [op.symbol] = .ok b := by
  obtain ⟨negative, digits, derives, leftText⟩ := leftmost.left
  obtain ⟨negative', digits', derives', rightText⟩ := leftmost.right
  have valid := Numeral.isNumeral_of_derives derives
  have literal : Literal.isLiteral b.right = true := by
    rw [rightText]
    exact Literal.isLiteral_withSign negative' (Numeral.isNumeral_of_derives derives')
  have whole := leftmost.append
  have acts := leftmost.acts
  have outside := leftmost.front
  have behind := leftmost.behind
  have sign := leftmost.sign
  have parts : text = (b.head ++ (b.left ++ op.symbol :: b.right)) ++ b.tail := by
    rw [← whole, List.append_assoc, List.append_assoc, List.cons_append]
  rw [← whole] at outside sign
  rw [parts, stop_eq leftmost.symbol, forall_behind_iff] at behind
  rw [BinaryExpression.start, forall_before_iff] at outside
  rw [leftText, BinaryExpression.start, exists_signAt_iff valid, head?_withSign valid] at sign
  rw [leftText] at whole acts
  have taken := (extractBinary_append_iff valid literal whole).2 ⟨acts, outside, sign, behind⟩
  rw [taken, ← leftText, ← leftmost.symbol]

/-- **A binary expression is taken out of a text** exactly when it is the leftmost one there. -/
theorem extractBinary_eq_ok_iff : extractBinary text [op.symbol] = .ok b ↔ b.IsLeftmost op text :=
  ⟨isLeftmost_of_extractBinary, BinaryExpression.IsLeftmost.extractBinary_eq⟩

/-- An operator is found in a text exactly when it acts somewhere. -/
theorem containsBinary_iff :
    containsBinary text op = true ↔ ∃ index, ActsAt text op.symbol index := by
  rw [containsBinary, Option.isSome_iff_ne_none, ne_eq, findBinary?_eq_none_iff, not_forall_not]

/-- A binary expression is not taken out of a text for lack of an operator exactly when there is
none. -/
theorem extractBinary_eq_noOperator_iff :
    (extractBinary text [op.symbol]).mapError Fault.diagnostic
        = .error ⟨.invalidExpression,
          "No ".toList ++ Text.quoted [op.symbol] ++ " operator in ".toList ++ text.quoted, none⟩
      ↔ containsBinary text op = false := by
  rw [containsBinary, Option.isSome_eq_false_iff, Option.isNone_iff_eq_none]
  constructor
  · intro failed
    cases taken : extractBinary text [op.symbol] with
    | ok b =>
      rw [taken] at failed
      cases failed
    | error fault =>
      rw [taken] at failed
      have place := congrArg Diagnostic.location (Except.error.inj failed)
      rcases cases_of_extractBinary_error taken with ⟨none, -⟩ | ⟨front, c, after, -, -, rfl | rfl⟩
      · exact none
      · cases place
      · cases place
  · intro none
    rw [extractBinary, none]
    rfl

/-- **The leftmost binary expression of a text.** That there is none is reported exactly when the
operator acts nowhere as a binary operator, and what is taken out of a text is exactly the leftmost
binary expression with its whole operands. Out of the text of a row, every operator of the row takes
the two literals next to its first occurrence. -/
theorem extractBinary_leftmost (op : Operator) :
    (∀ text : Text,
      ((extractBinary text [op.symbol]).mapError Fault.diagnostic
            = .error ⟨.invalidExpression,
              "No ".toList ++ Text.quoted [op.symbol] ++ " operator in ".toList ++ text.quoted,
                none⟩
          ↔ containsBinary text op = false)
        ∧ (containsBinary text op = true ↔ ∃ index, ActsAt text op.symbol index)
        ∧ ∀ b, extractBinary text [op.symbol] = .ok b ↔ b.IsLeftmost op text)
      ∧ ∀ row : Row, op ∈ row.operators → ∃ front left right back,
        row = Chain.prepend front ⟨left, (op, right) :: back⟩ ∧ op ∉ front.map Prod.snd
          ∧ extractBinary row.text [op.symbol]
            = .ok ⟨frontText front, left.text, [op.symbol], right.text, Row.restText back⟩ := by
  refine ⟨fun text => ⟨extractBinary_eq_noOperator_iff, containsBinary_iff,
    fun b => extractBinary_eq_ok_iff⟩,
    fun row member => ?_⟩
  obtain ⟨front, left, right, back, absent, rfl⟩ := Chain.exists_prepend member
  exact ⟨front, left, right, back, rfl, absent, extractBinary_row absent left right back⟩

/-- A row to which it applies: the operator acts twice, and its first left and right operand have
signs. -/
theorem extractBinary_leftmost_signs :
    ∃ row : Row, row.text = "2*-1--3.5-4".toList ∧ Operator.subtract ∈ row.operators
      ∧ ∃ front left right back, row = Chain.prepend front ⟨left, (.subtract, right) :: back⟩
        ∧ Operator.subtract ∉ front.map Prod.snd
        ∧ extractBinary row.text ['-']
          = .ok ⟨frontText front, left.text, ['-'], right.text, Row.restText back⟩ := by
  let row : Row := ⟨⟨['2'], by decide⟩, [(.multiply, ⟨"-1".toList, by decide⟩),
    (.subtract, ⟨"-3.5".toList, by decide⟩), (.subtract, ⟨['4'], by decide⟩)]⟩
  have member : Operator.subtract ∈ row.operators := by decide
  exact ⟨row, rfl, member, (extractBinary_leftmost .subtract).2 row member⟩

end Flat

end InfixCalculator
