import InfixCalculator.Proofs.FaultPlaces
import InfixCalculator.Proofs.GroupValues

/-!
# The leftmost group of a text

The search for the end of a group counts the groups that are open. It passes over a text as long as
the text closes no more groups than are open (`Group.StaysOpen`), so it stops at the first
parenthesis that closes one more (`Group.exists_of_close?`), and it fails only when there is none
(`Group.staysOpen_of_close?`).

What looking for the leftmost group comes to is therefore one of three things
(`Group.searched_find`): a balanced text between the first opening parenthesis and a closing one, an
opening parenthesis behind which the text stays open, or no opening parenthesis at all. Counted over
parts of the whole text, the closing parenthesis is the first place up to which as many parentheses
are closed as are opened (`Group.Searched.closesAt`), and since the first such place is one, the
positions of a group tell what the search has found (`Group.find_leftmost`).
-/

set_option autoImplicit false

namespace InfixCalculator

namespace Text

/-- The part of a text from one position to another, both included. -/
def between (text : Text) (first last : Nat) : Text := (text.drop first).take (last + 1 - first)

theorem between_append (front rest : Text) (last : Nat) :
    between (front ++ rest) front.length (front.length + last) = rest.take (last + 1) := by
  rw [between, List.drop_left, Nat.add_assoc, Nat.add_sub_cancel_left]

end Text

namespace Group

/-! ## The end of a group -/

/-- Nowhere in a text are more groups closed than `depth` and those that it opens. -/
def StaysOpen (depth : Nat) (text : Text) : Prop :=
  ∀ front, front <+: text → front.count ')' ≤ depth + front.count '('

theorem staysOpen_nil (depth : Nat) : StaysOpen depth [] := by
  intro front inside
  rw [List.prefix_nil.1 inside]
  exact Nat.zero_le _

theorem count_cons_eq (p c : Char) (text : Text) :
    (c :: text).count p = [c].count p + text.count p := by
  rw [← List.count_append, List.singleton_append]

/-- A text stays open when its first character leaves groups open and the others stay within
those. -/
theorem StaysOpen.cons {c : Char} {depth : Nat} {text : Text}
    (first : [c].count ')' ≤ depth + [c].count '(')
    (rest : StaysOpen (depth + [c].count '(' - [c].count ')') text) :
    StaysOpen depth (c :: text) := by
  intro front inside
  rcases List.prefix_cons_iff.1 inside with rfl | ⟨further, rfl, inside'⟩
  · exact Nat.zero_le _
  · have within := rest further inside'
    rw [count_cons_eq _ c further, count_cons_eq _ c further]
    omega

/-- A character that closes more groups than are open is a closing parenthesis outside of all
groups. -/
theorem eq_close_of_count {c : Char} {depth : Nat}
    (closes : ¬[c].count ')' ≤ depth + [c].count '(') :
    c = ')' ∧ depth = 0 := by
  by_cases same : c = ')'
  · subst same
    rw [List.count_singleton_self] at closes
    exact ⟨rfl, by omega⟩
  · have none : [c].count ')' = 0 := List.count_eq_zero.2 (by simpa using Ne.symm same)
    omega

/-- **The search for the end of a group stops** behind a text that stays open and closes all groups
but one. -/
theorem exists_of_close? {depth : Nat} {passed rest inner tail : Text}
    (found : close? depth passed rest = some (inner, tail)) :
    ∃ front, inner = passed.reverse ++ front ∧ rest = front ++ ')' :: tail
      ∧ front.count ')' = depth + front.count '(' ∧ StaysOpen depth front := by
  induction rest generalizing depth passed with
  | nil => cases found
  | cons c rest ih =>
    by_cases first : [c].count ')' ≤ depth + [c].count '('
    · rw [close?_count first] at found
      obtain ⟨front, rfl, rfl, counts, opened⟩ := ih found
      refine ⟨c :: front, by simp, rfl, ?_, .cons first opened⟩
      rw [count_cons_eq _ c front, count_cons_eq _ c front, counts]
      omega
    · obtain ⟨rfl, rfl⟩ := eq_close_of_count first
      cases found
      exact ⟨[], by simp, rfl, rfl, staysOpen_nil 0⟩

/-- **The search for the end of a group fails** only on a text that stays open. -/
theorem staysOpen_of_close? {depth : Nat} {passed rest : Text}
    (none : close? depth passed rest = none) :
    StaysOpen depth rest := by
  induction rest generalizing depth passed with
  | nil => exact staysOpen_nil depth
  | cons c rest ih =>
    by_cases first : [c].count ')' ≤ depth + [c].count '('
    · rw [close?_count first] at none
      exact .cons first (ih none)
    · obtain ⟨rfl, rfl⟩ := eq_close_of_count first
      cases none

/-! ## The three ends of the search -/

/-- What looking for the leftmost group of a text comes to. -/
inductive Searched (text : Text) : Except Fault Group → Prop where
  /-- A balanced text is found between the first opening parenthesis and a closing one. -/
  | found {g : Group} (parts : g.head ++ '(' :: (g.inner ++ ')' :: g.tail) = text)
      (first : '(' ∉ g.head) (balanced : Balanced g.inner) : Searched text (.ok g)
  /-- The text stays open behind the first opening parenthesis. -/
  | unmatched {head rest : Text} (parts : head ++ '(' :: rest = text) (first : '(' ∉ head)
      (opened : StaysOpen 0 rest) :
        Searched text (.error (.located .unmatchedOpen text head.length))
  /-- There is no opening parenthesis. -/
  | absent (none : '(' ∉ text) : Searched text (.error (.unlocated (.noGroup text)))

theorem searched_find (text : Text) : Searched text (find text) := by
  have parts := List.takeWhile_append_dropWhile (p := fun c : Char => decide (c ≠ '(')) (l := text)
  have first : '(' ∉ text.takeWhile fun c => decide (c ≠ '(') := fun member => by
    simpa using List.mem_takeWhile_imp member
  have opening := List.head?_dropWhile_not (fun c : Char => decide (c ≠ '(')) text
  unfold find
  dsimp only
  generalize text.takeWhile (fun c => decide (c ≠ '(')) = head at parts first ⊢
  generalize text.dropWhile (fun c => decide (c ≠ '(')) = behind at parts opening ⊢
  cases behind with
  | nil =>
    rw [List.append_nil] at parts
    exact .absent (parts ▸ first)
  | cons c rest =>
    obtain rfl : c = '(' := by simpa using opening
    dsimp only
    split
    · rename_i inner tail closed
      obtain ⟨front, rfl, rfl, counts, nested⟩ := exists_of_close? closed
      rw [Nat.zero_add] at counts
      refine .found parts first ⟨counts, fun part inside => ?_⟩
      have within := nested part inside
      rwa [Nat.zero_add] at within
    · rename_i none
      exact .unmatched parts first (staysOpen_of_close? none)

/-! ## Positions -/

/-- The positions of the two parentheses of a group. -/
def span (g : Group) : Nat × Nat := (g.start, g.stop)

/-- The first opening parenthesis of a text is at a position. -/
def OpensAt (text : Text) (first : Nat) : Prop :=
  text[first]? = some '(' ∧ ∀ before < first, text[before]? ≠ some '('

/-- From one position to a further one, as many parentheses are closed as are opened. -/
def EvensOut (text : Text) (first last : Nat) : Prop :=
  first < last ∧ last < text.length
    ∧ (text.between first last).count ')' = (text.between first last).count '('

/-- A position is the first one behind another where as many parentheses have been closed as
opened. -/
def ClosesAt (text : Text) (first last : Nat) : Prop :=
  EvensOut text first last ∧ ∀ before < last, ¬EvensOut text first before

variable {text head inner rest : Text}

theorem opensAt_append (first : '(' ∉ head) (rest : Text) :
    OpensAt (head ++ '(' :: rest) head.length := by
  refine ⟨Text.getElem?_append_cons head '(' rest, fun before less => ?_⟩
  rw [List.getElem?_append_left less]
  exact fun found => first (List.mem_of_getElem? found)

theorem OpensAt.eq {first first' : Nat} (opens : OpensAt text first)
    (opens' : OpensAt text first') :
    first = first' := by
  rcases Nat.lt_trichotomy first first' with less | same | more
  · exact absurd opens.1 (opens'.2 first less)
  · exact same
  · exact absurd opens'.1 (opens.2 first' more)

theorem OpensAt.mem {first : Nat} (opens : OpensAt text first) : '(' ∈ text :=
  List.mem_of_getElem? opens.1

theorem ClosesAt.eq {first last last' : Nat} (closes : ClosesAt text first last)
    (closes' : ClosesAt text first last') : last = last' := by
  rcases Nat.lt_trichotomy last last' with less | same | more
  · exact absurd closes.1 (closes'.2 last less)
  · exact same
  · exact absurd closes'.1 (closes.2 last' more)

/-- From an opening parenthesis on, the parentheses even out where one more has been closed behind
it. -/
theorem evensOut_append (head rest : Text) (count : Nat) :
    EvensOut (head ++ '(' :: rest) head.length (head.length + count)
      ↔ 0 < count ∧ count ≤ rest.length
        ∧ (rest.take count).count ')' = (rest.take count).count '(' + 1 := by
  have opening : ('(' :: rest.take count).count '(' = (rest.take count).count '(' + 1 :=
    List.count_cons_self
  have other : ('(' :: rest.take count).count ')' = (rest.take count).count ')' :=
    List.count_cons_of_ne (by decide)
  rw [EvensOut, Text.between_append, List.take_succ_cons, opening, other, List.length_append,
    List.length_cons]
  constructor
  · rintro ⟨further, inside, same⟩
    exact ⟨by omega, by omega, same⟩
  · rintro ⟨further, inside, same⟩
    exact ⟨by omega, by omega, same⟩

/-- Behind an opening parenthesis, nothing evens out in a text that stays open. -/
theorem not_evensOut {count : Nat} (opened : StaysOpen 0 (rest.take count)) :
    ¬EvensOut (head ++ '(' :: rest) head.length (head.length + count) := by
  rw [evensOut_append]
  rintro ⟨-, -, same⟩
  have within := opened _ List.prefix_rfl
  omega

theorem not_evensOut_of_staysOpen (opened : StaysOpen 0 rest) (last : Nat) :
    ¬EvensOut (head ++ '(' :: rest) head.length last := by
  intro even
  obtain ⟨count, rfl⟩ := Nat.exists_eq_add_of_le (Nat.le_of_lt even.1)
  exact not_evensOut (fun front inside =>
    opened front (inside.trans (List.take_prefix _ rest))) even

/-- **A balanced text between parentheses** ends at the first place where these even out. -/
theorem Balanced.closesAt (balanced : Balanced inner) (head tail : Text) :
    ClosesAt (head ++ '(' :: (inner ++ ')' :: tail)) head.length
      (head.length + 1 + inner.length) := by
  refine ⟨?_, fun before less even => ?_⟩
  · have closing : (inner ++ ')' :: tail).take (1 + inner.length) = inner ++ [')'] := by
      rw [Nat.add_comm, List.take_length_add_append]
      rfl
    rw [Nat.add_assoc, evensOut_append, closing, List.count_append, List.count_append,
      balanced.closed]
    refine ⟨by omega, ?_, rfl⟩
    rw [List.length_append, List.length_cons]
    omega
  · obtain ⟨count, rfl⟩ := Nat.exists_eq_add_of_le (Nat.le_of_lt even.1)
    refine not_evensOut (fun front inside => ?_) even
    rw [List.take_append_of_le_length (by omega)] at inside
    rw [Nat.zero_add]
    exact balanced.nested front (inside.trans (List.take_prefix _ inner))

/-! ## The leftmost group -/

/-- **A group that is found** starts at the first opening parenthesis and ends where the parentheses
even out. -/
theorem Searched.closesAt {g : Group} (searched : Searched text (.ok g)) :
    OpensAt text g.start ∧ ClosesAt text g.start g.stop := by
  cases searched with
  | found parts first balanced =>
    subst parts
    exact ⟨opensAt_append first _, balanced.closesAt g.head g.tail⟩

/-- In front of its closing parenthesis more parentheses of a group have been opened than closed. -/
theorem Balanced.count_lt (balanced : Balanced inner) {front : Text}
    (inside : front <+: '(' :: (inner ++ [')'])) (nonempty : front ≠ [])
    (proper : front ≠ '(' :: (inner ++ [')'])) :
    front.count ')' < front.count '(' := by
  rcases List.prefix_cons_iff.1 inside with rfl | ⟨part, rfl, inside'⟩
  · exact absurd rfl nonempty
  · rcases List.prefix_concat_iff.1 inside' with rfl | within
    · exact absurd rfl proper
    · have nested := balanced.nested part within
      rw [List.count_cons_of_ne (by decide), List.count_cons_self]
      omega

/-- What is known of a group that is found, told by its parts. -/
theorem Searched.parts {g : Group} (searched : Searched text (.ok g)) :
    g.head ++ '(' :: (g.inner ++ ')' :: g.tail) = text
      ∧ text[g.stop]? = some ')'
      ∧ text.between g.start g.stop = '(' :: (g.inner ++ [')'])
      ∧ Balanced g.inner := by
  cases searched with
  | found parts first balanced =>
    have stop : g.stop = (g.head ++ '(' :: g.inner).length := by
      rw [List.length_append, List.length_cons, Group.stop]
      omega
    have closing := Text.getElem?_append_cons (g.head ++ '(' :: g.inner) ')' g.tail
    rw [List.append_assoc, List.cons_append, parts, ← stop] at closing
    refine ⟨parts, closing, ?_, balanced⟩
    have size : g.stop = g.head.length + (g.inner.length + 1) := by
      rw [Group.stop]
      omega
    rw [← parts, Group.start, size, Text.between_append, List.take_succ_cons,
      List.take_length_add_append]
    rfl

variable {result : Except Fault Group}

/-- A group has certain positions exactly when the text opens and closes there. -/
theorem Searched.span_iff (searched : Searched text result) (first last : Nat) :
    result.map span = .ok (first, last) ↔ OpensAt text first ∧ ClosesAt text first last := by
  constructor
  · intro same
    obtain ⟨g, rfl, positions⟩ := map_eq_ok.1 same
    obtain ⟨rfl, rfl⟩ := Prod.mk.inj positions
    exact searched.closesAt
  · rintro ⟨opens, closes⟩
    cases searched with
    | @found g parts outside balanced =>
      obtain ⟨opens', closes'⟩ := Searched.closesAt (.found parts outside balanced)
      obtain rfl := opens'.eq opens
      obtain rfl := closes'.eq closes
      rfl
    | unmatched parts outside opened =>
      subst parts
      obtain rfl := (opensAt_append outside _).eq opens
      exact absurd closes.1 (not_evensOut_of_staysOpen opened last)
    | absent none => exact absurd opens.mem none

/-- The search fails at a position exactly when the text opens there and never evens out. -/
theorem Searched.unmatched_iff (searched : Searched text result) (first : Nat) :
    result.mapError Fault.diagnostic
        = .error ⟨.invalidExpression, "Unmatched '('".toList, some ⟨text, first⟩⟩
      ↔ OpensAt text first ∧ ∀ last, ¬EvensOut text first last := by
  cases searched with
  | @found g parts outside balanced =>
    obtain ⟨opens, closes⟩ := Searched.closesAt (.found parts outside balanced)
    refine ⟨nofun, fun ⟨opens', never⟩ => ?_⟩
    obtain rfl := opens.eq opens'
    exact absurd closes.1 (never g.stop)
  | @unmatched head rest parts outside opened =>
    subst parts
    have opens := opensAt_append outside rest
    constructor
    · intro failed
      have place := congrArg Diagnostic.location (Except.error.inj failed)
      obtain rfl : head.length = first := by
        have position := congrArg Location.position (Option.some.inj place)
        exact Int.ofNat.inj position
      exact ⟨opens, not_evensOut_of_staysOpen opened⟩
    · rintro ⟨opens', -⟩
      obtain rfl := opens.eq opens'
      rfl
  | absent none => exact ⟨nofun, fun ⟨opens, _⟩ => absurd opens.mem none⟩

/-- The search fails without a position exactly when nothing is opened. -/
theorem Searched.absent_iff (searched : Searched text result) :
    result.mapError Fault.diagnostic
        = .error ⟨.invalidExpression, "No parentheses in ".toList ++ text.quoted, none⟩
      ↔ '(' ∉ text := by
  cases searched with
  | found parts => exact ⟨nofun, fun none => absurd (by rw [← parts]; simp) none⟩
  | unmatched parts => exact ⟨nofun, fun none => absurd (by rw [← parts]; simp) none⟩
  | absent none => exact ⟨fun _ => none, fun _ => rfl⟩

/-- **The leftmost group is the true match of the first opening parenthesis.** A group is found
exactly when there is a first opening parenthesis and a first place behind it up to which as many
parentheses are closed as are opened, and these are its positions. There stands a closing
parenthesis; in front of it more are open than closed, from the first parenthesis on, and the text
inside is balanced. The search fails at the opening parenthesis exactly when there is no such place,
and without a position exactly when there is no opening parenthesis. -/
theorem find_leftmost (text : Text) :
    (∀ first last, (find text).map span = .ok (first, last)
      ↔ OpensAt text first ∧ ClosesAt text first last)
      ∧ (∀ g, find text = .ok g →
        g.head ++ '(' :: (g.inner ++ ')' :: g.tail) = text
          ∧ text[g.stop]? = some ')'
          ∧ text.between g.start g.stop = '(' :: (g.inner ++ [')'])
          ∧ (∀ front, front <+: text.between g.start g.stop → front ≠ [] →
            front ≠ text.between g.start g.stop →
            front.count ')' < front.count '(')
          ∧ (∀ front, front <+: g.inner → front.count ')' ≤ front.count '(')
          ∧ g.inner.count ')' = g.inner.count '(')
      ∧ (∀ first : Nat, (find text).mapError Fault.diagnostic
            = .error ⟨.invalidExpression, "Unmatched '('".toList, some ⟨text, first⟩⟩
          ↔ OpensAt text first ∧ ∀ last, ¬EvensOut text first last)
      ∧ ((find text).mapError Fault.diagnostic
            = .error ⟨.invalidExpression, "No parentheses in ".toList ++ text.quoted, none⟩
          ↔ '(' ∉ text) := by
  have searched := searched_find text
  refine ⟨searched.span_iff, fun g found => ?_, searched.unmatched_iff, searched.absent_iff⟩
  rw [found] at searched
  obtain ⟨parts, closing, part, balanced⟩ := searched.parts
  refine ⟨parts, closing, part, fun front inside nonempty proper => ?_, balanced.nested,
    balanced.closed⟩
  rw [part] at inside proper
  exact balanced.count_lt inside nonempty proper

end Group

end InfixCalculator
