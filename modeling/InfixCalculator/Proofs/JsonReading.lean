import InfixCalculator.Console.Basic
import InfixCalculator.Proofs.NaturalForms

/-!
# Reading back what is written as JSON

An object of strings and finite numbers that is written as JSON is read back with the same entries
(`Json.read?_writeObject`), whatever characters its strings hold.

A string is read back character by character, because what one character is written as stands for
this character alone (`Json.readCharacters_escapeChar`); the numbers are natural forms. All
characters that are written are printed ones or line ends (`Json.isShown_writeObject`), because
control characters are escaped; so a console has to send them as they are.
-/

set_option autoImplicit false

namespace InfixCalculator

namespace Json

/-! ## Strings -/

/-- The code of a control character has four digits, which stand for it. -/
theorem hexChar?_hex : ∀ n < 32, (Text.hex 4 n).length = 4
    ∧ Text.hexChar? (Text.hex 4 n) = some (Char.ofNat n) := by
  decide

theorem eq_ofNat {c : Char} {n : Nat} (code : c.toNat = n) : c = Char.ofNat n := by
  rw [← code, Char.ofNat_toNat]

/-- **What a character is written as** is read as the character. -/
theorem readCharacters_escapeChar (c : Char) (rest : Text) :
    readCharacters (escapeChar c ++ rest) = (readCharacters rest).map fun (text, rest) =>
      (c :: text, rest) := by
  have letter {mark d : Char} (other : mark ≠ 'u') (stands : escaped? mark = some d) :
      readCharacters ('\\' :: mark :: rest) = (readCharacters rest).map fun (text, rest) =>
        (d :: text, rest) := by
    rw [readCharacters, stands]
    · cases readCharacters rest <;> rfl
    · rintro _ _ _ _ _ ⟨⟩
      exact absurd rfl other
  unfold escapeChar
  split
  · rename_i special
    rcases special with rfl | rfl
    · exact letter (by decide) rfl
    · exact letter (by decide) rfl
  split
  · rename_i same
    exact letter (by decide) (by rw [same]; rfl)
  split
  · rename_i same
    exact letter (by decide) (by rw [same]; rfl)
  split
  · rename_i same
    exact letter (by decide) (by rw [same]; rfl)
  split
  · rename_i code
    exact letter (by decide) (by rw [eq_ofNat code]; rfl)
  split
  · rename_i code
    exact letter (by decide) (by rw [eq_ofNat code]; rfl)
  split
  · rename_i control
    obtain ⟨four, code⟩ := hexChar?_hex c.toNat control
    rw [Char.ofNat_toNat] at code
    generalize Text.hex 4 c.toNat = digits at four code ⊢
    obtain ⟨a, b, d, e, rfl⟩ : ∃ a b d e, digits = [a, b, d, e] := by
      match digits, four with
      | [a, b, d, e], _ => exact ⟨a, b, d, e, rfl⟩
    show readCharacters ('\\' :: 'u' :: a :: b :: d :: e :: rest) = _
    rw [readCharacters, code]
    cases readCharacters rest <;> rfl
  · rename_i special _ _ _ _ _ printed
    rw [not_or] at special
    rw [List.singleton_append, readCharacters, if_neg (not_or.2 ⟨printed, special.2⟩)]
    · cases readCharacters rest <;> rfl
    · exact special.1
    · exact fun _ _ _ _ _ same _ => special.2 same
    · exact fun _ _ same _ => special.2 same

/-- **A string that is written** is read back, whatever its characters. -/
theorem readCharacters_flatMap (text rest : Text) :
    readCharacters (text.flatMap escapeChar ++ '"' :: rest) = some (text, rest) := by
  induction text with
  | nil => rfl
  | cons c text ih =>
    rw [List.flatMap_cons, List.append_assoc, readCharacters_escapeChar, ih]
    rfl

/-! ## Values -/

/-- A string, or a finite number. -/
def IsFinite : Json → Prop
  | string _ => True
  | number value => value.isFinite = true

theorem isNumberPart_of_isPlain {c : Char} (plain : FreeForm.isPlain c = true) :
    isNumberPart c = true :=
  FreeForm.forall_isPlain (isNumberPart · = true) (by decide) (by decide) (by decide) (by decide)
    (by decide) plain

/-- The natural form of a finite number starts with a character that stands for itself. -/
theorem exists_natural_cons {x : Binary64} (finite : x.isFinite = true) :
    ∃ c rest, x.natural = c :: rest ∧ FreeForm.isPlain c = true := by
  cases natural : x.natural with
  | nil =>
    have number := x.isNumber_natural finite
    rw [natural] at number
    cases number
  | cons c rest =>
    exact ⟨c, rest, rfl, x.isPlain_natural finite c (by rw [natural]; exact List.mem_cons_self)⟩

/-- A finite number is read back where no further character of a number follows it. -/
theorem readNumber_natural {x : Binary64} (finite : x.isFinite = true) {rest : Text}
    (stops : ∀ c ∈ rest.head?, isNumberPart c = false) :
      readNumber (x.natural ++ rest) = some (x, rest) := by
  have parts : ∀ c ∈ x.natural, isNumberPart c = true := fun c member =>
    isNumberPart_of_isPlain (x.isPlain_natural finite c member)
  rw [readNumber, Text.takeWhile_span parts stops, Text.dropWhile_span parts stops,
    if_pos (x.isNumber_natural finite), x.read?_natural finite, Option.map_some]

/-- **A value that is written** is read back. -/
theorem readValue_write {v : Json} (finite : v.IsFinite) {rest : Text}
    (stops : ∀ c ∈ rest.head?, isNumberPart c = false) :
      readValue (v.write ++ rest) = some (v, rest) := by
  cases v with
  | string text =>
    rw [write, writeString, List.append_assoc, List.singleton_append, List.cons_append, readValue,
      readCharacters_flatMap, Option.map_some]
  | number x =>
    have noQuote : ∀ after, x.natural ++ rest ≠ '"' :: after := by
      obtain ⟨c, more, natural, plain⟩ := exists_natural_cons finite
      rw [natural]
      rintro after same
      rw [(List.cons.inj same).1] at plain
      cases plain
    rw [write, readValue]
    · rw [readNumber_natural finite stops, Option.map_some]
    · exact noQuote

/-! ## Objects -/

theorem skipSpacing_cons {c : Char} (filled : isSpacing c = false) (rest : Text) :
    skipSpacing (c :: rest) = c :: rest :=
  List.dropWhile_cons_of_neg (by rw [filled]; exact Bool.false_ne_true)

/-- An entry of an object without the blanks in front of it. -/
def entryText (entry : Text × Json) : Text := writeString entry.1 ++ ':' :: ' ' :: entry.2.write

theorem writeEntry_eq (entry : Text × Json) : writeEntry entry = ' ' :: ' ' :: entryText entry := by
  simp [writeEntry, entryText]

/-- An entry starts with the quote of its name. -/
theorem exists_entryText_cons (entry : Text × Json) : ∃ rest, entryText entry = '"' :: rest :=
  ⟨_, rfl⟩

/-- A value starts with no blank. -/
theorem skipSpacing_write {v : Json} (finite : v.IsFinite) (rest : Text) :
    skipSpacing (v.write ++ rest) = v.write ++ rest := by
  cases v with
  | string text => exact skipSpacing_cons rfl _
  | number x =>
    obtain ⟨c, more, natural, plain⟩ := exists_natural_cons finite
    rw [write, natural]
    exact skipSpacing_cons
      (FreeForm.forall_isPlain (isSpacing · = false) (by decide) (by decide) (by decide)
      (by decide) (by decide) plain) _

/-- What a text must start with is found behind blanks. -/
theorem expect_cons {c : Char} (filled : isSpacing c = false) (rest : Text) :
    expect c (c :: rest) = some (skipSpacing rest) := by
  rw [expect, skipSpacing_cons filled]
  exact if_pos rfl

/-- Another character is not. -/
theorem expect_cons_of_ne {c d : Char} (filled : isSpacing d = false) (other : d ≠ c)
    (rest : Text) :
    expect c (d :: rest) = none := by
  rw [expect, skipSpacing_cons filled]
  exact if_neg other

/-- Blanks in front of it are passed over. -/
theorem expect_spacing {d : Char} (blank : isSpacing d = true) (c : Char) (rest : Text) :
    expect c (d :: rest) = expect c rest := by
  rw [expect, expect, skipSpacing, List.dropWhile_cons_of_pos blank]
  rfl

/-- **An entry that is written** is read back. -/
theorem readEntry_entryText {entry : Text × Json} (finite : entry.2.IsFinite) {rest : Text}
    (stops : ∀ c ∈ rest.head?, isNumberPart c = false) :
      readEntry (entryText entry ++ rest) = some (entry, rest) := by
  obtain ⟨name, v⟩ := entry
  have named : readString (entryText (name, v) ++ rest)
      = some (name, ':' :: ' ' :: (v.write ++ rest)) := by
    rw [entryText, writeString, List.append_assoc, List.append_assoc, List.singleton_append,
      List.cons_append, readString, readCharacters_flatMap]
    rfl
  have colon : expect ':' (':' :: ' ' :: (v.write ++ rest)) = some (v.write ++ rest) := by
    rw [expect_cons rfl]
    exact congrArg some (skipSpacing_write finite rest)
  have value := readValue_write finite stops
  simp only [readEntry, named, colon, value, Option.bind_eq_bind, Option.bind_some]

/-- What stands behind an entry: the further entries and the closing brace. -/
def behindEntry (entries : List (Text × Json)) (after : Text) : Text :=
  entries.flatMap (fun entry => ',' :: '\n' :: writeEntry entry) ++ '\n' :: '}' :: after

theorem behindEntry_cons (entry : Text × Json) (entries : List (Text × Json)) (after : Text) :
    behindEntry (entry :: entries) after
      = ',' :: '\n' :: ' ' :: ' ' :: (entryText entry ++ behindEntry entries after) := by
  rw [behindEntry, List.flatMap_cons, writeEntry_eq, List.append_assoc]
  rfl

/-- An object is its first entry with what stands behind it, inside braces. -/
theorem writeObject_cons (entry : Text × Json) (entries : List (Text × Json)) (after : Text) :
    writeObject (entry :: entries) ++ after
      = '{' :: '\n' :: ' ' :: ' ' :: (entryText entry ++ behindEntry entries after) := by
  have joined : Text.join ",\n".toList ((entry :: entries).map writeEntry) ++ '\n' :: '}' :: after
      = writeEntry entry ++ behindEntry entries after := by
    induction entries generalizing entry with
    | nil => rfl
    | cons next entries ih =>
      rw [List.map_cons, List.map_cons, Text.join, ← List.map_cons, List.append_assoc,
        List.append_assoc, ih, behindEntry_cons, writeEntry_eq next]
      rfl
  rw [writeEntry_eq, List.cons_append, List.cons_append] at joined
  rw [← joined, writeObject, List.append_assoc]
  rfl

/-- A new line follows an entry, or a comma. -/
theorem behindEntry_stops (entries : List (Text × Json)) (after : Text) :
    ∀ c ∈ (behindEntry entries after).head?, isNumberPart c = false := by
  cases entries with
  | nil =>
    rintro c ⟨⟩
    rfl
  | cons entry entries =>
    rw [behindEntry_cons]
    rintro c ⟨⟩
    rfl

/-- **Entries that are written** are read back, up to the closing brace. -/
theorem readEntries_entryText {entry : Text × Json} {entries : List (Text × Json)}
    (finite : ∀ e ∈ entry :: entries, e.2.IsFinite) (after : Text) {fuel : Nat}
    (enough : entries.length < fuel) :
    readEntries fuel (entryText entry ++ behindEntry entries after)
      = some (entry :: entries, skipSpacing after) := by
  induction entries generalizing entry fuel with
  | nil =>
    obtain ⟨fuel, rfl⟩ := Nat.exists_eq_succ_of_ne_zero (Nat.ne_of_gt enough)
    have first := readEntry_entryText (finite entry List.mem_cons_self) (behindEntry_stops [] after)
    have comma : expect ',' (behindEntry [] after) = none :=
      (expect_spacing rfl ',' _).trans (expect_cons_of_ne rfl (by decide) after)
    have brace : expect '}' (behindEntry [] after) = some (skipSpacing after) :=
      (expect_spacing rfl '}' _).trans (expect_cons rfl after)
    simp only [readEntries, first, comma, brace, Option.bind_eq_bind, Option.bind_some]
  | cons next entries ih =>
    obtain ⟨fuel, rfl⟩ := Nat.exists_eq_succ_of_ne_zero (Nat.ne_of_gt (Nat.zero_lt_of_lt enough))
    have first :=
      readEntry_entryText (finite entry List.mem_cons_self)
        (behindEntry_stops (next :: entries) after)
    have comma : expect ',' (behindEntry (next :: entries) after)
        = some (entryText next ++ behindEntry entries after) := by
      rw [behindEntry_cons, expect_cons rfl]
      obtain ⟨rest, same⟩ := exists_entryText_cons next
      rw [same]
      rfl
    have others :=
      ih (fun e member => finite e (List.mem_cons_of_mem _ member)) (Nat.lt_of_succ_lt_succ enough)
    simp only [readEntries, first, comma, others, Option.bind_eq_bind, Option.bind_some]

/-- An entry takes at least one character, so the length of a text bounds the number of entries. -/
theorem length_lt_entryText (entry : Text × Json) (entries : List (Text × Json)) (after : Text) :
    entries.length < (entryText entry ++ behindEntry entries after).length := by
  have behind : entries.length ≤ (behindEntry entries after).length := by
    induction entries with
    | nil => exact Nat.zero_le _
    | cons next entries ih =>
      rw [behindEntry_cons]
      simp only [List.length_cons, List.length_append]
      omega
  obtain ⟨rest, same⟩ := exists_entryText_cons entry
  rw [same, List.length_append, List.length_cons]
  omega

/-- **An object that is written** is read back with the same entries, with only blanks behind it. -/
theorem read?_writeObject {entries : List (Text × Json)} (finite : ∀ e ∈ entries, e.2.IsFinite)
    {after : Text} (blank : skipSpacing after = []) :
    read? (writeObject entries ++ after) = some entries := by
  cases entries with
  | nil =>
    have opened : expect '{' (writeObject [] ++ after) = some ('}' :: after) := expect_cons rfl _
    have brace : expect '}' ('}' :: after) = some [] :=
      (expect_cons rfl after).trans (congrArg some blank)
    simp only [read?, opened, brace, Option.bind_eq_bind, Option.bind_some]
  | cons entry entries =>
    obtain ⟨rest, same⟩ := exists_entryText_cons entry
    have opened : expect '{' (writeObject (entry :: entries) ++ after)
        = some (entryText entry ++ behindEntry entries after) := by
      rw [writeObject_cons, expect_cons rfl, same]
      rfl
    have brace : expect '}' (entryText entry ++ behindEntry entries after) = none := by
      rw [same]
      exact expect_cons_of_ne rfl (by decide) _
    have inside := readEntries_entryText finite after (length_lt_entryText entry entries after)
    rw [blank] at inside
    simp only [read?, opened, brace, inside, Option.bind_eq_bind, Option.bind_some, if_true]

/-! ## On the console -/

open Console (isShown isShown_of_le)

theorem isShown_hex : ∀ n < 32, (Text.hex 4 n).all isShown = true := by
  decide

/-- What a character is written as is shown as it is. -/
theorem isShown_escapeChar (c : Char) : (escapeChar c).all isShown = true := by
  unfold escapeChar
  split
  · rename_i special
    rcases special with rfl | rfl <;> rfl
  split
  · rfl
  split
  · rfl
  split
  · rfl
  split
  · rfl
  split
  · rfl
  split
  · rename_i control
    exact isShown_hex c.toNat control
  · rename_i printed
    rw [List.all_cons, isShown_of_le (Nat.not_lt.1 printed)]
    rfl

theorem isShown_writeString (text : Text) : (writeString text).all isShown = true := by
  have inside : (text.flatMap escapeChar).all isShown = true := by
    rw [List.all_flatMap]
    exact List.all_eq_true.2 fun c _ => isShown_escapeChar c
  rw [writeString, List.all_append, List.all_cons, inside]
  rfl

theorem isShown_write {v : Json} (finite : v.IsFinite) : v.write.all isShown = true := by
  cases v with
  | string text => exact isShown_writeString text
  | number x =>
    refine List.all_eq_true.2 fun d member => ?_
    exact FreeForm.forall_isPlain (isShown · = true) (by decide) rfl rfl rfl rfl
      (x.isPlain_natural finite d member)

theorem isShown_entryText {entry : Text × Json} (finite : entry.2.IsFinite) :
    (entryText entry).all isShown = true := by
  rw [entryText, List.all_append, isShown_writeString, List.all_cons, List.all_cons,
    isShown_write finite]
  rfl

theorem isShown_behindEntry {entries : List (Text × Json)} (finite : ∀ e ∈ entries, e.2.IsFinite) :
    (behindEntry entries []).all isShown = true := by
  induction entries with
  | nil => rfl
  | cons entry entries ih =>
    rw [List.forall_mem_cons] at finite
    rw [behindEntry_cons]
    simp only [List.all_cons, List.all_append, isShown_entryText finite.1, ih finite.2]
    rfl

/-- **An object that is written** has printed characters only. -/
theorem isShown_writeObject {entries : List (Text × Json)} (finite : ∀ e ∈ entries, e.2.IsFinite) :
    (writeObject entries).all isShown = true := by
  cases entries with
  | nil => rfl
  | cons entry entries =>
    rw [List.forall_mem_cons] at finite
    have whole := writeObject_cons entry entries []
    rw [List.append_nil] at whole
    rw [whole]
    simp only [List.all_cons, List.all_append, isShown_entryText finite.1,
      isShown_behindEntry finite.2]
    rfl

end Json

end InfixCalculator
