import InfixCalculator.Json.Reader
import InfixCalculator.Proofs.Expansion

/-!
# Natural forms

The natural form of a finite number is a number that JSON can have (`Binary64.isNumber_natural`),
and reading it gives the number back, the sign of zero included (`Binary64.read?_natural`).

Two things stand between the decimal that is read and the number. A whole number in the middle range
is read with a zero behind the point, which moves a factor of ten only. And where the exponent is
past a limit, the reader decides by the size of the decimal whether it can be within the range of
magnitudes; that is no more than a short cut (`FreeForm.round_eq`), because what is at least ten to
the power of 400 rounds past the end (`Magnitude.ofQuotient?_eq_none`) and what is below ten to the
power of -400 rounds to nothing (`Magnitude.ofQuotient?_eq_zero`).
-/

set_option autoImplicit false

namespace InfixCalculator

/-! ## Both ends of the range -/

namespace Magnitude

variable {num den : Nat}

/-- Less than half a unit is nothing. -/
theorem ofQuotient?_eq_zero (small : 2 * num < den) : ofQuotient? num den = some .zero := by
  have none : num / den = 0 := Nat.div_eq_of_lt (by omega)
  have units : roundUnits num den = 0 := by
    have gap : spacing 0 = 1 := rfl
    have rest : num % den = num := Nat.mod_eq_of_lt (by omega)
    rw [roundUnits, none, gap, Nat.mul_one, Nat.mul_one, roundQuotient, none, rest,
      if_pos (.inl small)]
  rw [ofQuotient?, dif_pos (by rw [units]; exact unitBound_pos)]
  exact congrArg some (ext units)

/-- Rounding does not go below a power of two that the quotient has reached. -/
theorem one_shiftLeft_le_roundUnits {k : Nat} (reached : 1 <<< k ≤ num / den) :
    1 <<< k ≤ roundUnits num den := by
  have pos : num / den ≠ 0 := Nat.ne_of_gt (Nat.lt_of_lt_of_le (one_shiftLeft_pos k) reached)
  have below : (num / den) / spacing (num / den)
      ≤ roundQuotient num (den * spacing (num / den)) := by
    rw [Nat.div_div_eq_div_mul, roundQuotient]
    split
    · exact Nat.le_refl _
    · exact Nat.le_succ _
  rw [Nat.one_shiftLeft] at reached ⊢
  have divides : spacing (num / den) ∣ 2 ^ (num / den).log2 := by
    rw [spacing, Nat.one_shiftLeft]
    exact Nat.pow_dvd_pow 2 (Nat.sub_le _ _)
  calc 2 ^ k
      ≤ 2 ^ (num / den).log2 := Nat.pow_le_pow_right (by decide) ((Nat.le_log2 pos).2 reached)
    _ = 2 ^ (num / den).log2 / spacing (num / den) * spacing (num / den) :=
      (Nat.div_mul_cancel divides).symm
    _ ≤ num / den / spacing (num / den) * spacing (num / den) :=
        Nat.mul_le_mul_right _ (Nat.div_le_div_right (Nat.log2_self_le pos))
    _ ≤ roundUnits num den := Nat.mul_le_mul_right _ below

/-- A quotient past the end rounds past the end. -/
theorem ofQuotient?_eq_none (pos : 0 < den) (large : unitBound * den ≤ num) :
    ofQuotient? num den = none := by
  have reached : unitBound ≤ num / den := (Nat.le_div_iff_mul_le pos).2 large
  exact dif_neg (Nat.not_lt.2 (one_shiftLeft_le_roundUnits reached))

end Magnitude

namespace Decimal

theorem powerOfTen_add (m n : Nat) : powerOfTen (m + n) = powerOfTen m * powerOfTen n :=
  Nat.pow_add 10 m n

theorem powerOfTen_le {m n : Nat} (le : m ≤ n) : powerOfTen m ≤ powerOfTen n :=
  Nat.pow_le_pow_right (by decide) le

/-- A decimal is rounded as one quotient, whichever way its exponent points. -/
theorem round_eq_ofQuotient? (d : Decimal) :
    d.round = Magnitude.ofQuotient?
      (d.coefficient * powerOfTen d.exponent.toNat * Magnitude.unitsPerOne)
      (powerOfTen (-d.exponent).toNat) := by
  unfold round
  split
  · rename_i whole
    rw [show (-d.exponent).toNat = 0 by omega, powerOfTen_zero]
  · rename_i fraction
    rw [show d.exponent.toNat = 0 by omega, powerOfTen_zero, Nat.mul_one]

/-- The number of digits tells between which powers of ten a coefficient lies. -/
theorem lt_powerOfTen_length (n : Nat) : n < powerOfTen (Text.ofNat n).length := by
  have pos : 0 < (Text.ofNat n).length := List.length_pos_iff.2 Nat.toDigits_ne_nil
  exact (Nat.length_toDigits_le_iff (by decide) pos).1 (Nat.le_refl _)

theorem powerOfTen_le_of_lt_length {n k : Nat} (pos : n ≠ 0) (more : k < (Text.ofNat n).length) :
    powerOfTen k ≤ n := by
  cases k with
  | zero => exact Nat.one_le_iff_ne_zero.2 pos
  | succ k =>
    have longer :=
      mt (Nat.length_toDigits_le_iff (show 1 < 10 by decide) (Nat.succ_pos k)).2 (Nat.not_le.2 more)
    exact Nat.not_lt.1 longer

/-- The power of ten that a decimal stays below. -/
def size (d : Decimal) : Int := d.exponent + (Text.ofNat d.coefficient).length

variable {d : Decimal}

/-- A decimal far below the range of magnitudes rounds to nothing. -/
theorem round_eq_zero (small : d.size < -400) : d.round = some .zero := by
  rw [round_eq_ofQuotient?]
  apply Magnitude.ofQuotient?_eq_zero
  have half : 2 * Magnitude.unitsPerOne < powerOfTen 400 := by decide +kernel
  have below := lt_powerOfTen_length d.coefficient
  have far : (Text.ofNat d.coefficient).length + d.exponent.toNat + 400 ≤ (-d.exponent).toNat := by
    unfold size at small
    omega
  calc 2 * (d.coefficient * powerOfTen d.exponent.toNat * Magnitude.unitsPerOne)
      = d.coefficient * powerOfTen d.exponent.toNat * (2 * Magnitude.unitsPerOne) :=
        Nat.mul_left_comm _ _ _
    _ < powerOfTen (Text.ofNat d.coefficient).length * powerOfTen d.exponent.toNat
      * powerOfTen 400 :=
        Nat.mul_lt_mul_of_lt_of_lt (Nat.mul_lt_mul_of_pos_right below (powerOfTen_pos _)) half
    _ = powerOfTen ((Text.ofNat d.coefficient).length + d.exponent.toNat + 400) := by
        rw [powerOfTen_add, powerOfTen_add]
    _ ≤ powerOfTen (-d.exponent).toNat := powerOfTen_le far

/-- A decimal far above the range of magnitudes rounds past its end. -/
theorem round_eq_none (pos : d.coefficient ≠ 0) (large : 400 < d.size) : d.round = none := by
  rw [round_eq_ofQuotient?]
  apply Magnitude.ofQuotient?_eq_none (powerOfTen_pos _)
  have bound : Magnitude.unitBound ≤ powerOfTen 400 * Magnitude.unitsPerOne := by decide +kernel
  obtain ⟨k, digits⟩ : ∃ k, (Text.ofNat d.coefficient).length = k + 1 :=
    Nat.exists_eq_succ_of_ne_zero (List.length_pos_iff.2 Nat.toDigits_ne_nil).ne'
  have above : powerOfTen k ≤ d.coefficient := powerOfTen_le_of_lt_length pos (by omega)
  have far : 400 + (-d.exponent).toNat ≤ k + d.exponent.toNat := by
    rw [size, digits] at large
    omega
  calc Magnitude.unitBound * powerOfTen (-d.exponent).toNat
      ≤ powerOfTen 400 * Magnitude.unitsPerOne * powerOfTen (-d.exponent).toNat :=
        Nat.mul_le_mul_right _ bound
    _ = powerOfTen (400 + (-d.exponent).toNat) * Magnitude.unitsPerOne := by
        rw [Nat.mul_right_comm, ← powerOfTen_add]
    _ ≤ powerOfTen (k + d.exponent.toNat) * Magnitude.unitsPerOne :=
      Nat.mul_le_mul_right _ (powerOfTen_le far)
    _ = powerOfTen k * powerOfTen d.exponent.toNat * Magnitude.unitsPerOne := by rw [powerOfTen_add]
    _ ≤ d.coefficient * powerOfTen d.exponent.toNat * Magnitude.unitsPerOne :=
        Nat.mul_le_mul_right _ (Nat.mul_le_mul_right _ above)

end Decimal

/-- **The reader's look at the size of a decimal** is a short cut: it rounds as the decimal does,
whatever the limit. -/
theorem FreeForm.round_eq (limit : Nat) (d : Decimal) : round limit d = d.round := by
  unfold round
  dsimp only
  split
  · rfl
  · split
    · rename_i small
      obtain ⟨n, e⟩ := d
      rcases small with rfl | small
      · exact (Decimal.round_zero e).symm
      · exact (Decimal.round_eq_zero small).symm
    · rename_i notSmall
      split
      · rename_i large
        exact (Decimal.round_eq_none (not_or.1 notSmall).1 large).symm
      · rfl

/-! ## The shape of the natural form -/

namespace Decimal

/-- The point and the digits behind it: nothing at all, or at least one digit. -/
inductive PointPart : Text → Prop where
  /-- Nothing at all. -/
  | none : PointPart []
  /-- A point with digits. -/
  | digits {digits : Text} (nonempty : digits ≠ []) (valid : digits.all Char.isDigit = true) :
      PointPart ('.' :: digits)

/-- The exponent: nothing at all, or a mark, a sign and at least one digit. -/
inductive PowerPart : Text → Prop where
  /-- Nothing at all. -/
  | none : PowerPart []
  /-- A mark, a sign and digits. -/
  | digits {sign : Char} {digits : Text} (signed : sign = '+' ∨ sign = '-') (nonempty : digits ≠ [])
      (valid : digits.all Char.isDigit = true) : PowerPart ('e' :: sign :: digits)

/-- The shape of a natural form without its sign. -/
inductive NaturalForm : Text → Prop where
  /-- Digits, and perhaps a point with digits and an exponent. -/
  | parts {whole point power : Text} (wholePart : WholePart whole) (pointPart : PointPart point)
      (powerPart : PowerPart power) : NaturalForm (whole ++ (point ++ power))

theorem FractionPart.pointPart {fraction : Text} (part : FractionPart fraction) :
    PointPart fraction := by
  cases part with
  | none => exact .none
  | @digits front last valid digit _ =>
    have all : (front ++ [last]).all Char.isDigit = true := by
      rw [List.all_append, valid, List.all_cons, digit]
      rfl
    exact .digits (List.append_ne_nil_of_right_ne_nil _ (List.cons_ne_nil _ _)) all

theorem WholePart.of_digit {c : Char} (digit : c.isDigit = true) : WholePart [c] := by
  by_cases zero : c = '0'
  · subst zero
    exact .zero
  · exact .digits digit zero rfl

theorem powerPart_exponentText (e : Int) : PowerPart ('e' :: exponentText e) := by
  obtain ⟨shown, same, nonempty, valid, -⟩ := exists_exponentText e
  rw [same]
  refine .digits ?_ nonempty valid
  split
  · exact .inr rfl
  · exact .inl rfl

theorem naturalForm_scientific (d : Decimal) : NaturalForm d.scientific := by
  have valid : d.digits.all Char.isDigit = true := Text.all_isDigit_ofNat _
  have power := powerPart_exponentText d.leadingExponent
  obtain ⟨first, rest, digits⟩ :=
    List.exists_cons_of_ne_nil (show d.digits ≠ [] from Nat.toDigits_ne_nil)
  rw [digits, List.all_cons, Bool.and_eq_true] at valid
  unfold scientific
  rw [digits]
  cases rest with
  | nil => exact .parts (.of_digit valid.1) .none power
  | cons second rest =>
    exact .parts (.of_digit valid.1) (.digits (List.cons_ne_nil _ _) valid.2) power

/-- **The natural form** of a decimal without superfluous zeros starts with no superfluous zero
either, and has a digit behind its point and in its exponent. -/
theorem naturalForm_natural {d : Decimal} (stripped : d.IsStripped) : NaturalForm d.natural := by
  unfold natural
  split
  · obtain ⟨whole, fraction, parts, wholePart, fractionPart, -⟩ := exists_parts stripped
    unfold pointed
    split
    · rename_i nonneg
      have digits : d.positional.all Char.isDigit = true := by
        rw [positional_whole nonneg]
        exact Text.all_isDigit_ofNat _
      have none : fraction = [] := by
        cases fractionPart with
        | none => rfl
        | digits =>
          rw [parts, List.all_append, Bool.and_eq_true] at digits
          simp at digits
      rw [parts, none, List.append_nil]
      exact .parts wholePart (.digits (List.cons_ne_nil '0' []) rfl) .none
    · rw [parts, ← List.append_nil fraction]
      exact .parts wholePart fractionPart.pointPart .none
  · exact naturalForm_scientific d

/-! ## Natural forms as numbers of JSON -/

theorem skipDigits_append {digits rest : Text} (nonempty : digits ≠ [])
    (valid : digits.all Char.isDigit = true) (stops : ∀ c ∈ rest.head?, c.isDigit = false) :
    Json.skipDigits (digits ++ rest) = some rest := by
  cases digits with
  | nil => exact absurd rfl nonempty
  | cons first digits =>
    rw [List.all_cons, Bool.and_eq_true] at valid
    rw [List.cons_append, Json.skipDigits, if_pos valid.1,
      Text.dropWhile_span (fun c member => List.all_eq_true.1 valid.2 c member) stops]

theorem WholePart.skipWhole {whole rest : Text} (part : WholePart whole)
    (stops : ∀ c ∈ rest.head?, c.isDigit = false) : Json.skipWhole (whole ++ rest) = some rest := by
  cases part with
  | zero => rfl
  | @digits first more digit nonzero valid =>
    have other : Json.skipWhole (first :: more ++ rest)
        = Json.skipDigits (first :: more ++ rest) := by
      rw [List.cons_append, Json.skipWhole]
      intro _ same
      exact nonzero (List.cons.inj same).1
    rw [other]
    exact skipDigits_append (List.cons_ne_nil _ _) (by rw [List.all_cons, digit, valid]; rfl) stops

theorem PowerPart.skipExponent {power : Text} (part : PowerPart power) :
    Json.skipExponent power = some [] := by
  cases part with
  | none => rfl
  | @digits sign digits signed nonempty valid =>
    have skipped := @skipDigits_append digits [] nonempty valid nofun
    rw [List.append_nil] at skipped
    rcases signed with rfl | rfl
    · exact skipped
    · exact skipped

theorem PowerPart.stops {power : Text} (part : PowerPart power) {c : Char}
    (first : c ∈ power.head?) : c = 'e' := by
  cases part with
  | none => cases first
  | digits => exact (Option.some.inj first).symm

theorem PointPart.skipFraction {point power : Text} (part : PointPart point)
    (powerPart : PowerPart power) :
    Json.skipFraction (point ++ power) = some power := by
  cases part with
  | none =>
    rw [List.nil_append]
    unfold Json.skipFraction
    split
    · cases powerPart.stops rfl
    · rfl
  | digits nonempty valid =>
    exact skipDigits_append nonempty valid fun c first => by rw [powerPart.stops first]; rfl

theorem PointPart.stops {point power : Text} (part : PointPart point)
    (powerPart : PowerPart power) :
    ∀ c ∈ (point ++ power).head?, c.isDigit = false := by
  intro c first
  cases part with
  | none =>
    rw [powerPart.stops first]
    rfl
  | digits =>
    cases first
    rfl

theorem WholePart.exists_cons {whole : Text} (part : WholePart whole) :
    ∃ first rest, whole = first :: rest ∧ first.isDigit = true ∧ rest.all Char.isDigit = true := by
  cases part with
  | zero => exact ⟨'0', [], rfl, rfl, rfl⟩
  | digits digit _ valid => exact ⟨_, _, rfl, digit, valid⟩

theorem NaturalForm.exists_cons {text : Text} (form : NaturalForm text) :
    ∃ first rest, text = first :: rest ∧ first.isDigit = true := by
  obtain ⟨wholePart, -, -⟩ := form
  obtain ⟨first, rest, rfl, digit, -⟩ := wholePart.exists_cons
  exact ⟨first, _, rfl, digit⟩

/-- A natural form with or without a minus is a number of JSON. -/
theorem NaturalForm.isNumber {text : Text} (form : NaturalForm text) (negative : Bool) :
    Json.isNumber (Binary64.withSign negative text) = true := by
  have unsigned : Json.skipMinus (Binary64.withSign negative text) = text := by
    cases negative with
    | true => rfl
    | false =>
      obtain ⟨first, rest, rfl, digit⟩ := form.exists_cons
      unfold Json.skipMinus
      split
      · rename_i same
        cases same
        cases digit
      · rfl
  rw [Json.isNumber, unsigned, decide_eq_true_eq]
  obtain ⟨wholePart, pointPart, powerPart⟩ := form
  rw [wholePart.skipWhole (pointPart.stops powerPart), Option.bind_some,
    pointPart.skipFraction powerPart, Option.bind_some, powerPart.skipExponent]

/-! ## Reading natural forms -/

theorem isPlain_of_isDigit {c : Char} (digit : c.isDigit = true) : FreeForm.isPlain c = true := by
  simp [FreeForm.isPlain, Literal.isPart, Numeral.isPart, digit]

/-- Every character of a natural form is read as it is. -/
theorem NaturalForm.isPlain {text : Text} (form : NaturalForm text) :
    ∀ c ∈ text, FreeForm.isPlain c = true := by
  have digits {text : Text} (valid : text.all Char.isDigit = true) : ∀ c ∈ text,
      FreeForm.isPlain c = true :=
    fun c member => isPlain_of_isDigit (List.all_eq_true.1 valid c member)
  obtain ⟨wholePart, pointPart, powerPart⟩ := form
  refine List.forall_mem_append.2 ⟨?_, List.forall_mem_append.2 ⟨?_, ?_⟩⟩
  · obtain ⟨first, rest, rfl, digit, valid⟩ := wholePart.exists_cons
    exact List.forall_mem_cons.2 ⟨isPlain_of_isDigit digit, digits valid⟩
  · cases pointPart with
    | none => exact nofun
    | digits nonempty valid => exact List.forall_mem_cons.2 ⟨rfl, digits valid⟩
  · cases powerPart with
    | none => exact nofun
    | digits signed nonempty valid =>
      refine List.forall_mem_cons.2 ⟨rfl, List.forall_mem_cons.2 ⟨?_, digits valid⟩⟩
      rcases signed with rfl | rfl <;> rfl

theorem NaturalForm.isPlain_withSign {text : Text} (form : NaturalForm text) (negative : Bool) :
    ∀ c ∈ Binary64.withSign negative text, FreeForm.isPlain c = true := by
  cases negative with
  | false => exact form.isPlain
  | true => exact List.forall_mem_cons.2 ⟨rfl, form.isPlain⟩

/-- A factor of ten that was moved behind the point changes nothing. -/
theorem round_tenths {d : Decimal} (whole : 0 ≤ d.exponent) :
    round ⟨d.coefficient * powerOfTen d.exponent.toNat * 10, -1⟩ = d.round := by
  rw [round_shift, round_eq_ofQuotient? d, round_eq_ofQuotient?,
    show (-d.exponent).toNat = 0 by omega]
  simp [powerOfTen_zero]

end Decimal

/-- The natural form of the shortest decimal of a magnitude is read as that magnitude. -/
theorem FreeForm.unsigned?_natural (m : Magnitude) :
    unsigned? m.shortest.natural = some (.finite false m) := by
  obtain ⟨first, rest, same, digit⟩ :=
    (Decimal.naturalForm_natural m.isStripped_shortest).exists_cons
  have noName {name : Text} (letter : name.head?.any Char.isDigit = false) :
      m.shortest.natural ≠ name := by
    rintro rfl
    rw [same, List.head?_cons, Option.any_some, digit] at letter
    cases letter
  have rounded : ∃ read, decimal? m.shortest.natural = some read ∧ read.round = some m := by
    rcases Decimal.decimal?_natural m.shortest with read | ⟨whole, read⟩
    · exact ⟨_, read, m.round_shortest⟩
    · exact ⟨_, read, (Decimal.round_tenths whole).trans m.round_shortest⟩
  obtain ⟨read, found, back⟩ := rounded
  unfold unsigned?
  rw [if_neg (not_or.2 ⟨noName rfl, noName rfl⟩), if_neg (noName rfl), found, Option.map_some,
    round_eq, back]

namespace Binary64

variable {x : Binary64}

theorem isPlain_natural (finite : x.isFinite = true) :
    ∀ c ∈ x.natural, FreeForm.isPlain c = true := by
  cases x with
  | finite negative magnitude =>
    exact (Decimal.naturalForm_natural magnitude.isStripped_shortest).isPlain_withSign negative
  | infinite => cases finite
  | notANumber => cases finite

/-- **The natural form of a finite number** is read as the number, the sign of zero included. -/
theorem read?_natural (finite : x.isFinite = true) : FreeForm.read? x.natural = some x := by
  rw [FreeForm.read?_of_plain (isPlain_natural finite)]
  cases x with
  | finite negative magnitude =>
    have form := Decimal.naturalForm_natural magnitude.isStripped_shortest
    have read := FreeForm.unsigned?_natural magnitude
    rw [natural]
    generalize magnitude.shortest.natural = text at form read ⊢
    cases negative with
    | true =>
      rw [withSign_true, FreeForm.signed?, read]
      rfl
    | false =>
      obtain ⟨first, rest, rfl, digit⟩ := form.exists_cons
      rw [withSign_false, FreeForm.signed?_of_isPart (Numeral.isPart_of_isDigit digit), read]
  | infinite => cases finite
  | notANumber => cases finite

/-- The natural form of a finite number is a number of JSON. -/
theorem isNumber_natural (finite : x.isFinite = true) : Json.isNumber x.natural = true := by
  cases x with
  | finite negative magnitude =>
    exact (Decimal.naturalForm_natural magnitude.isStripped_shortest).isNumber negative
  | infinite => cases finite
  | notANumber => cases finite

end Binary64

end InfixCalculator
