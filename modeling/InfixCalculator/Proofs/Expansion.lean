import InfixCalculator.Proofs.NumberTokens
import InfixCalculator.Proofs.PlainForms
import Mathlib.Data.List.DropRight

/-!
# The plain form is the natural form written out

The plain form of a number can be had from its natural form: the natural form is read as a decimal,
which moves the exponent into the place of the point; the decimal is written positionally; and if
there is a point then, the zeros at the end are taken off, and the point with them when no digits
are left behind it (`Binary64.plain_eq_trim`).

Reading the natural form finds the shortest decimal again, except that a whole number in the middle
range is shown with a zero behind the point, which counts as a digit (`Decimal.decimal?_natural`).
That zero is the only one there is to trim, because the shortest decimal has no superfluous zeros
(`Decimal.exists_trim_positional`).
-/

set_option autoImplicit false

namespace InfixCalculator

/-! ## Multiples of powers of ten -/

namespace Text

/-- Ten times a whole number above zero has one more zero at the end. -/
theorem ofNat_mul_ten {n : Nat} (pos : n ≠ 0) : ofNat (n * 10) = ofNat n ++ ['0'] := by
  have digits :=
    @Nat.toDigits_append_toDigits 10 n 0 (by decide) (Nat.pos_of_ne_zero pos) (by decide)
  rw [Nat.add_zero, Nat.mul_comm] at digits
  exact digits.symm

theorem ofNat_mul_powerOfTen {n : Nat} (pos : n ≠ 0) (k : Nat) :
    ofNat (n * Decimal.powerOfTen k) = ofNat n ++ List.replicate k '0' := by
  induction k with
  | zero => simp [Decimal.powerOfTen_zero]
  | succ k ih =>
    have pos' : n * Decimal.powerOfTen k ≠ 0 :=
      Nat.mul_ne_zero pos (Nat.ne_of_gt (Decimal.powerOfTen_pos k))
    rw [Decimal.powerOfTen_succ, ← Nat.mul_assoc, ofNat_mul_ten pos', ih, List.append_assoc,
      List.replicate_succ']

end Text

namespace Decimal

/-- A decimal without a fraction is written as the whole number that it stands for. -/
theorem positional_whole {d : Decimal} (whole : 0 ≤ d.exponent) :
    d.positional = Text.ofNat (d.coefficient * powerOfTen d.exponent.toNat) := by
  rw [positional, if_pos whole]
  split
  · rename_i zero
    rw [zero, Nat.zero_mul]
    rfl
  · rename_i pos
    exact (Text.ofNat_mul_powerOfTen pos _).symm

/-- Ten times as many tenths as a whole number has ones are written with a zero behind the point. -/
theorem positional_tenths (n : Nat) : positional ⟨n * 10, -1⟩ = Text.ofNat n ++ ['.', '0'] := by
  rw [positional, if_neg (show ¬(0 : Int) ≤ -1 by decide)]
  by_cases zero : n = 0
  · subst zero
    rfl
  · have digits : digits ⟨n * 10, -1⟩ = Text.ofNat n ++ ['0'] := Text.ofNat_mul_ten zero
    obtain ⟨first, rest, nonempty, -⟩ := Text.exists_ofNat_cons zero
    rw [digits, nonempty]
    simp [placePoint]

/-! ## Reading the natural form -/

/-- The exponent behind the mark is a sign and digits. -/
theorem exists_exponentText (e : Int) :
    ∃ shown, exponentText e = (if e < 0 then '-' else '+') :: shown ∧ shown ≠ []
      ∧ shown.all Char.isDigit = true
      ∧ Nat.ofDigitChars 10 shown 0 = e.natAbs := by
  refine ⟨_, rfl, ?_⟩
  split
  · refine ⟨List.cons_ne_nil _ _, ?_, ?_⟩
    · rw [List.all_cons, Text.all_isDigit_ofNat]
      rfl
    · rw [Nat.ofDigitChars_cons]
      exact Text.ofDigitChars_ofNat _
  · exact ⟨Nat.toDigits_ne_nil, Text.all_isDigit_ofNat _, Text.ofDigitChars_ofNat _⟩

/-- The exponent behind the mark is read back. -/
theorem signedWhole?_exponentText (e : Int) : FreeForm.signedWhole? (exponentText e) = some e := by
  obtain ⟨shown, same, nonempty, valid, value⟩ := exists_exponentText e
  rw [same]
  by_cases negative : e < 0
  · have back : -(e.natAbs : Int) = e := by omega
    rw [if_pos negative, FreeForm.signedWhole?]
    dsimp only
    rw [if_pos ⟨nonempty, valid⟩, value]
    exact congrArg some back
  · have back : (e.natAbs : Int) = e := by omega
    rw [if_neg negative, FreeForm.signedWhole?]
    dsimp only
    rw [if_pos ⟨nonempty, valid⟩, value]
    exact congrArg some back

/-- Scientific notation is read as the decimal that it is written for. -/
theorem decimal?_scientific (d : Decimal) : FreeForm.decimal? d.scientific = some d := by
  have value : Nat.ofDigitChars 10 d.digits 0 = d.coefficient := Text.ofDigitChars_ofNat _
  have valid : d.digits.all Char.isDigit = true := Text.all_isDigit_ofNat _
  obtain ⟨first, rest, digits⟩ :=
    List.exists_cons_of_ne_nil (show d.digits ≠ [] from Nat.toDigits_ne_nil)
  rw [digits, List.all_cons, Bool.and_eq_true] at valid
  -- the first digit stands in front of the point, which is left out when there are no others
  obtain ⟨mantissa, scientific, parts, whole, fraction⟩ : ∃ mantissa : Text,
      d.scientific = mantissa ++ 'e' :: exponentText d.leadingExponent
        ∧ (∀ c ∈ mantissa, (c.isDigit || c = '.') = true)
        ∧ mantissa.takeWhile Char.isDigit = [first]
        ∧ (mantissa.dropWhile Char.isDigit).drop 1 = rest := by
    unfold scientific
    rw [digits]
    cases rest with
    | nil => exact ⟨[first], rfl, by simp [valid.1], by simp [valid.1], by simp [valid.1]⟩
    | cons second rest =>
      have behind (c : Char) (member : c ∈ second :: rest) : (c.isDigit || c = '.') = true := by
        rw [List.all_eq_true.1 valid.2 c member, Bool.true_or]
      have parts : ∀ c ∈ first :: '.' :: second :: rest, (c.isDigit || c = '.') = true :=
        List.forall_mem_cons.2 ⟨by simp [valid.1], List.forall_mem_cons.2 ⟨rfl, behind⟩⟩
      exact ⟨_, rfl, parts, by simp [valid.1], by simp [valid.1]⟩
  have stops : ∀ c ∈ ('e' :: exponentText d.leadingExponent).head?,
      (c.isDigit || c = '.') = false := by
    rintro c ⟨⟩
    rfl
  have nonempty : [first] ++ rest ≠ [] ∧ rest.all Char.isDigit = true := ⟨by simp, valid.2⟩
  unfold FreeForm.decimal?
  dsimp only
  rw [scientific, Text.takeWhile_span parts stops, whole, fraction, if_pos nonempty, List.drop_left]
  dsimp only
  rw [if_pos rfl, signedWhole?_exponentText, Option.map_some, List.singleton_append, ← digits,
    value]
  have length : (d.digits.length : Int) = rest.length + 1 := by simp [digits]
  obtain ⟨n, e⟩ := d
  simp only [leadingExponent, length, Option.some.injEq, Decimal.mk.injEq, true_and]
  omega

/-- A whole number in the middle range is read with a zero behind the point. -/
theorem decimal?_pointed {d : Decimal} (whole : 0 ≤ d.exponent) :
    FreeForm.decimal? (d.positional ++ ['.', '0'])
      = some ⟨d.coefficient * powerOfTen d.exponent.toNat * 10, -1⟩ := by
  have valid := Text.all_isDigit_ofNat (d.coefficient * powerOfTen d.exponent.toNat)
  have numeral :
      Numeral.Derives (Text.ofNat (d.coefficient * powerOfTen d.exponent.toNat) ++ ['.', '0']) :=
    .pointed Nat.toDigits_ne_nil valid (by decide)
  rw [positional_whole whole, FreeForm.decimal?_numeral (Numeral.isNumeral_of_derives numeral),
    Numeral.toDecimal_pointed valid (by decide), Nat.ofDigitChars_append, Text.ofDigitChars_ofNat]
  simp [Nat.ofDigitChars, Nat.mul_comm]

/-- **Reading the natural form of a decimal** finds the decimal, or the same number with a zero
behind the point when it is a whole number in the middle range. -/
theorem decimal?_natural (d : Decimal) :
    FreeForm.decimal? d.natural = some d
      ∨ 0 ≤ d.exponent
        ∧ FreeForm.decimal? d.natural
          = some ⟨d.coefficient * powerOfTen d.exponent.toNat * 10, -1⟩ := by
  unfold natural
  split
  · unfold pointed
    split
    · rename_i whole
      exact .inr ⟨whole, decimal?_pointed whole⟩
    · rename_i fraction
      rw [FreeForm.decimal?_numeral (isNumeral_positional d), toDecimal_positional (by omega)]
      exact .inl rfl
  · exact .inl (decimal?_scientific d)

/-! ## Trimming -/

/-- A text with a point, without the zeros at its end, and without the point if nothing is left
behind it. -/
def trim (text : Text) : Text :=
  if '.' ∈ text then (text.rdropWhile (· = '0')).rdropWhile (· = '.') else text

/-- In a plain form there is nothing to trim. -/
theorem trim_parts {whole fraction : Text} (wholePart : WholePart whole)
    (fractionPart : FractionPart fraction) : trim (whole ++ fraction) = whole ++ fraction := by
  unfold trim
  split
  · rename_i point
    cases fractionPart with
    | none =>
      have digits : whole.all Char.isDigit = true := by
        cases wholePart with
        | zero => rfl
        | digits digit _ valid => rw [List.all_cons, digit, valid]; rfl
      rw [List.append_nil] at point
      exact absurd point (Numeral.not_mem_point_of_digits digits)
    | @digits front last _ digit nonzero =>
      have noPoint : last ≠ '.' := by
        rintro rfl
        cases digit
      rw [← List.append_assoc, List.rdropWhile_concat_neg _ _ _ (by simpa using nonzero),
        List.rdropWhile_concat_neg _ _ _ (by simpa using noPoint)]
  · rfl

/-- A zero behind the point is trimmed with the point. -/
theorem trim_tenths {digits : Text} (nonempty : digits ≠ [])
    (valid : digits.all Char.isDigit = true) :
    trim (digits ++ ['.', '0']) = digits := by
  obtain ⟨front, last, rfl⟩ := (List.eq_nil_or_concat digits).resolve_left nonempty
  have noPoint : last ≠ '.' := by
    rintro rfl
    simp at valid
  have split : front.concat last ++ ['.', '0'] = front ++ [last] ++ ['.'] ++ ['0'] := by simp
  rw [trim, if_pos (by simp), split, List.rdropWhile_concat_pos _ _ _ (by decide),
    List.rdropWhile_concat_neg _ _ _ (by decide), List.rdropWhile_concat_pos _ _ _ (by decide),
    List.rdropWhile_concat_neg _ _ _ (by simpa using noPoint), List.concat_eq_append]

/-- **The natural form written out and trimmed** is positional notation, if the decimal has no
superfluous zeros. -/
theorem exists_trim_positional {d : Decimal} (stripped : d.IsStripped) :
    ∃ read, FreeForm.decimal? d.natural = some read ∧ trim read.positional = d.positional := by
  rcases decimal?_natural d with same | ⟨whole, tenths⟩
  · obtain ⟨whole, fraction, parts, wholePart, fractionPart, -⟩ := exists_parts stripped
    exact ⟨d, same, by rw [parts, trim_parts wholePart fractionPart]⟩
  · have nonempty : Text.ofNat (d.coefficient * powerOfTen d.exponent.toNat) ≠ [] :=
      Nat.toDigits_ne_nil
    refine ⟨_, tenths, ?_⟩
    rw [positional_tenths, trim_tenths nonempty (Text.all_isDigit_ofNat _), positional_whole whole]

end Decimal

/-- **The plain form is the natural form written out.** The natural form of a finite number, with
zero positive, is a sign and a decimal, and the plain form is that sign and the decimal in
positional notation, trimmed. -/
theorem Binary64.plain_eq_trim {x : Binary64} (finite : x.isFinite = true) :
    ∃ negative text read, x.normalizeZero.natural = withSign negative text
      ∧ FreeForm.decimal? text = some read
      ∧ x.plain = withSign negative (Decimal.trim read.positional) := by
  obtain ⟨negative, magnitude, value, plain⟩ := exists_plain finite
  obtain ⟨read, found, trimmed⟩ := Decimal.exists_trim_positional magnitude.isStripped_shortest
  refine ⟨negative, magnitude.shortest.natural, read, ?_, found, by rw [plain, trimmed]⟩
  rw [value]
  rfl

end InfixCalculator
