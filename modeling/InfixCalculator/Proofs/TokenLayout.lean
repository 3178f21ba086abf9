import InfixCalculator.Proofs.Results
import InfixCalculator.Proofs.Separators
import Mathlib.Data.List.Chain

/-!
# How tokens lie in their source

The tokens of a scan lie in the source one behind the other (`Token.Laid`): each is made of a piece
of the source, with nothing but separators in front of it. A piece is a character, a numeral, or a
minus and a numeral with separators between them, so the text of a token is its piece without
separators (`Token.Takes`).

Hence no character of the source is lost but separators, every token starts where its position says,
and signs stand at the start of a level only, never in front of a number (`Token.scan_layout`).
Positions lie inside the source or at its end, so every token can be marked there
(`Token.markable_of_scan`).
-/

set_option autoImplicit false

namespace InfixCalculator

namespace Token

/-- A token with a sign in it: a sign of its own, or a number that starts with one. -/
def IsSigned (t : Token) : Prop := t.kind = .sign ∨ (t.kind = .number ∧ t.text.head? = some '-')

/-- How the tokens of a source lie in it. -/
structure Layout (source : Text) (tokens : List Token) : Prop where
  /-- The texts of the tokens make up the source without its separators. -/
  texts : tokens.flatMap text = source.filter fun c => !isSeparator c
  /-- A token stands to the right of those before it. -/
  ascending : tokens.Pairwise fun t later => t.position < later.position
  /-- The last token marks the end of the source. Those before it do not, and stand at the first
  character of their text. -/
  ends : ∃ front : List Token, tokens = front ++ [⟨.finish, [], source.length⟩] ∧ ∀ t ∈ front,
    t.kind ≠ .finish
    ∧ ∃ (place : Nat) (c : Char), t.position = place ∧ source[place]? = some c
    ∧ t.text.head? = some c
  /-- Behind another token, one with a sign in it follows an opening parenthesis; and no number
  follows a sign. -/
  signs : tokens.IsChain fun t next =>
    (next.IsSigned → t.kind = .openParen) ∧ (t.kind = .sign → next.kind ≠ .number)

/-! ## Pieces of the source -/

/-- A token is made of a piece of text in front of more text, behind a token of the kind `last`. -/
structure Takes (last : Option Kind) (piece ahead : Text) (t : Token) : Prop where
  /-- A piece does not start with a separator. -/
  starts : ∃ c more, piece = c :: more ∧ isSeparator c = false
  /-- The text of the token is the piece without separators. -/
  text : t.text = piece.filter fun c => !isSeparator c
  /-- The token is not the end mark. -/
  inside : t.kind ≠ .finish
  /-- A sign in the token is one where a minus is. -/
  signed : t.IsSigned → allowsSign last = true
  /-- A sign of its own does not stand in front of a numeral. -/
  alone : t.kind = .sign → startsNumeral (ahead.dropWhile isSeparator) = false
  /-- A number starts with a sign or as a numeral. -/
  number : t.kind = .number → t.IsSigned ∨ startsNumeral piece = true

/-- Tokens lie in the rest of a source, which starts at a position behind a token of the kind
`last`. -/
inductive Laid : Nat → Option Kind → Text → List Token → Prop where
  /-- The end mark behind the source. -/
  | finish {position : Nat} {last : Option Kind} : Laid position last [] [⟨.finish, [], position⟩]
  /-- A separator belongs to no token. -/
  | separator {position : Nat} {last : Option Kind} {c : Char} {rest : Text} {tokens : List Token}
      (separates : isSeparator c = true) (behind : Laid (position + 1) last rest tokens) :
      Laid position last (c :: rest) tokens
  /-- A token made of the next piece. -/
  | token {position : Nat} {last : Option Kind} {piece ahead : Text} {t : Token} {tokens : List
    Token}
      (takes : Takes last piece ahead t) (here : t.position = position)
      (behind : Laid (position + piece.length) (some t.kind) ahead tokens) :
      Laid position last (piece ++ ahead) (t :: tokens)

/-- The only token that a minus is a sign behind is an opening parenthesis. -/
theorem eq_openParen_of_allowsSign {kind : Kind} (allows : allowsSign (some kind) = true) :
    kind = .openParen := by
  cases kind <;> simp_all [allowsSign]

/-- A text without separators stays as it is when they are taken out. -/
theorem filter_of_forall {text : Text} (none : ∀ c ∈ text, isSeparator c = false) :
    (text.filter fun c => !isSeparator c) = text :=
  List.filter_eq_self.2 fun c member => by rw [none c member]; rfl

/-- A parenthesis or an operator. -/
theorem takes_mark {c : Char} (other : isSeparator c = false) {kind : Kind}
    (mark : kind = .openParen ∨ kind = .closeParen ∨ kind = .operator) (last : Option Kind)
    (ahead : Text)
    (position : Nat) : Takes last [c] ahead ⟨kind, [c], position⟩ := by
  have kinds : kind ≠ .finish ∧ kind ≠ .number ∧ kind ≠ .sign := by
    rcases mark with rfl | rfl | rfl <;> decide
  obtain ⟨inside, noNumber, noSign⟩ := kinds
  exact {
    starts := ⟨c, [], rfl, other⟩
    text := (filter_of_forall (List.forall_mem_singleton.2 other)).symm
    inside := inside
    signed := fun signed => signed.elim (absurd · noSign) fun number => absurd number.1 noNumber
    alone := (absurd · noSign)
    number := (absurd · noNumber) }

/-- A sign of its own. -/
theorem takes_sign {last : Option Kind} (allows : allowsSign last = true) {ahead : Text}
    (alone : startsNumeral (ahead.dropWhile isSeparator) = false) (position : Nat) :
    Takes last ['-'] ahead ⟨.sign, ['-'], position⟩ where
  starts := ⟨'-', [], rfl, rfl⟩
  text := rfl
  inside := by simp
  signed _ := allows
  alone _ := alone
  number same := by cases same

/-- A number made of a numeral. -/
theorem takes_numeral {numeral : Text} (valid : Numeral.Derives numeral) (last : Option Kind)
    (ahead : Text) (position : Nat) : Takes last numeral ahead ⟨.number, numeral, position⟩ := by
  have numeral' := Numeral.isNumeral_of_derives valid
  obtain ⟨c, digits, same, part⟩ := Numeral.exists_cons_of_isNumeral numeral'
  exact {
    starts := ⟨c, digits, same, isSeparator_of_isPart part⟩
    text := (filter_of_forall fun d member =>
      isSeparator_of_isPart (Numeral.isPart_of_mem numeral' member)).symm
    inside := nofun
    signed := by
      rintro (⟨⟨⟩⟩ | ⟨-, minus⟩)
      rw [same] at minus
      cases minus
      cases part
    alone := nofun
    number := fun _ => .inr (by rw [same]; exact part) }

/-- A number made of a minus and a numeral, with separators between them. -/
theorem takes_negated {separators numeral : Text} (separate : ∀ c ∈ separators,
    isSeparator c = true) (valid : Numeral.Derives numeral) {last : Option Kind} (sign :
      allowsSign last = true) (ahead : Text) (position :
        Nat) : Takes last ('-' :: (separators ++ numeral)) ahead ⟨.number, '-' :: numeral,
          position⟩ where
  starts := ⟨'-', _, rfl, rfl⟩
  text := by
    have none : (separators.filter fun c => !isSeparator c) = [] :=
      List.filter_eq_nil_iff.2 fun c member => by simp [separate c member]
    have all := (takes_numeral valid last ahead position).text
    rw [List.filter_cons_of_pos rfl, List.filter_append, none, List.nil_append, ← all]
  inside := nofun
  signed _ := sign
  alone := nofun
  number _ := .inl (.inr ⟨rfl, rfl⟩)

/-- **The tokens of a scan lie in its source.** -/
theorem laid_of_scanFrom {whole rest : Text} {position : Nat} {last : Option Kind}
    {tokens : List Token} (scanned : scanFrom whole position last rest = .ok tokens) :
    Laid position last rest tokens := by
  have character {position : Nat} {last : Option
    Kind} {c : Char} {ahead : Text} {kind : Kind} {behind : List Token}
      (taken : Takes last [c] ahead ⟨kind, [c], position⟩)
        (laid : Laid (position + 1) (some kind) ahead behind) :
      Laid position last (c :: ahead) (⟨kind, [c], position⟩ :: behind) := .token taken rfl laid
  fun_induction scanFrom whole position last rest generalizing tokens with
  | case1 =>
    cases scanned
    exact .finish
  | case2 _ _ _ _ separates ih => exact .separator separates (ih scanned)
  | case3 | case7 | case11 => cases scanned
  | case4 position last c tail other part numeral after found ih =>
    obtain ⟨behind, scanned', rfl⟩ := map_eq_ok.1 scanned
    obtain ⟨same, valid, -⟩ := scanNumeral?_eq_some.1 found
    rw [same]
    exact .token (takes_numeral valid last after position) rfl (ih scanned')
  | case5 position last tail other _ ih =>
    obtain ⟨behind, scanned', rfl⟩ := map_eq_ok.1 scanned
    exact character (takes_mark rfl (.inl rfl) last tail position) (ih scanned')
  | case6 position last tail other _ _ ih =>
    obtain ⟨behind, scanned', rfl⟩ := map_eq_ok.1 scanned
    exact character (takes_mark rfl (.inr (.inl rfl)) last tail position) (ih scanned')
  | case8 position last c tail other _ _ _ sign digits skipped starts numeral after found =>
    rename_i ih
    obtain ⟨behind, scanned', rfl⟩ := map_eq_ok.1 scanned
    obtain ⟨rfl, allows⟩ := sign
    obtain ⟨same, valid, -⟩ := scanNumeral?_eq_some.1 found
    have whole' : tail = tail.takeWhile isSeparator ++ numeral ++ after := by
      rw [List.append_assoc, ← same]
      exact List.takeWhile_append_dropWhile.symm
    have place : skipped + numeral.length
        = position + ('-' :: (tail.takeWhile isSeparator ++ numeral)).length := by
      have total := congrArg List.length whole'
      have ahead := congrArg List.length same
      simp only [skipped, List.length_cons, List.length_append] at total ahead ⊢
      omega
    have separate : ∀ c ∈ tail.takeWhile isSeparator, isSeparator c = true :=
      fun _ => List.mem_takeWhile_imp
    have laid := ih scanned'
    rw [place] at laid
    rw [whole']
    exact .token (takes_negated separate valid allows after position) rfl laid
  | case9 position last c tail other _ _ _ sign digits starts =>
    rename_i ih
    obtain ⟨behind, scanned', rfl⟩ := map_eq_ok.1 scanned
    obtain ⟨rfl, allows⟩ := sign
    exact character (takes_sign allows (by simpa using starts) position) (ih scanned')
  | case10 position last c tail other _ _ _ noSign symbol ih =>
    obtain ⟨behind, scanned', rfl⟩ := map_eq_ok.1 scanned
    exact character (takes_mark (by simpa using other) (.inr (.inr rfl)) last tail position)
      (ih scanned')

/-! ## What follows for the tokens -/

variable {position : Nat} {last : Option Kind} {rest : Text} {tokens : List Token}

/-- No character of the source is lost but separators. -/
theorem Laid.texts (laid : Laid position last rest tokens) :
    tokens.flatMap text = rest.filter fun c => !isSeparator c := by
  induction laid with
  | finish => rfl
  | separator separates _ ih => rw [ih, List.filter_cons_of_neg (by simp [separates])]
  | token takes _ _ ih => rw [List.flatMap_cons, ih, takes.text, List.filter_append]

/-- No token stands in front of the text it is scanned from. -/
theorem Laid.position_le (laid : Laid position last rest tokens) :
    ∀ t ∈ tokens, (position : Int) ≤ t.position := by
  induction laid with
  | finish => exact List.forall_mem_singleton.2 (Int.le_refl _)
  | separator _ _ ih =>
    intro t member
    have behind := ih t member
    omega
  | token _ here _ ih =>
    refine List.forall_mem_cons.2 ⟨Int.le_of_eq here.symm, fun t member => ?_⟩
    have behind := ih t member
    omega

/-- A token stands to the right of those before it. -/
theorem Laid.ascending (laid : Laid position last rest tokens) :
    tokens.Pairwise fun t later => t.position < later.position := by
  induction laid with
  | finish => exact List.pairwise_singleton _ _
  | separator _ _ ih => exact ih
  | token takes here laid ih =>
    refine List.pairwise_cons.2 ⟨fun later member => ?_, ih⟩
    obtain ⟨c, more, rfl, -⟩ := takes.starts
    have behind := laid.position_le later member
    rw [List.length_cons] at behind
    omega

/-- The end mark is the last token, and the others stand at the first character of their text. -/
theorem Laid.ends (laid : Laid position last rest tokens) :
    ∃ front : List Token, tokens = front ++ [⟨.finish, [], (position + rest.length : Nat)⟩] ∧
      ∀ t ∈ front, t.kind ≠ .finish
        ∧ ∃ (place : Nat) (c : Char), t.position = (position + place : Nat) ∧ rest[place]? = some c
          ∧ t.text.head? = some c := by
  induction laid with
  | finish => exact ⟨[], rfl, by simp⟩
  | @separator position _ _ rest _ _ _ ih =>
    obtain ⟨front, rfl, places⟩ := ih
    refine ⟨front, by rw [List.length_cons, Nat.add_right_comm, Nat.add_assoc], fun t member => ?_⟩
    obtain ⟨inside, place, c, here, found, head⟩ := places t member
    exact ⟨inside, place + 1, c, by rw [here, Nat.add_right_comm, Nat.add_assoc], found, head⟩
  | @token position _ piece ahead t _ takes here _ ih =>
    obtain ⟨front, rfl, places⟩ := ih
    refine ⟨t :: front, by rw [List.length_append, Nat.add_assoc, List.cons_append],
      List.forall_mem_cons.2 ⟨⟨takes.inside, ?_⟩, fun t member => ?_⟩⟩
    · obtain ⟨c, more, rfl, other⟩ := takes.starts
      refine ⟨0, c, here, rfl, ?_⟩
      rw [takes.text, List.filter_cons_of_pos (by simp [other])]
      rfl
    · obtain ⟨inside, place, c, here, found, head⟩ := places t member
      refine ⟨inside, piece.length + place, c, by rw [here, Nat.add_assoc], ?_, head⟩
      rw [List.getElem?_append_right (Nat.le_add_right _ _), Nat.add_sub_cancel_left, found]

/-- If the first token has a sign in it, a minus is a sign there. -/
theorem Laid.allowsSign_of_isSigned (laid : Laid position last rest tokens) :
    ∀ t ∈ tokens.head?, t.IsSigned → allowsSign last = true := by
  induction laid with
  | finish => simp [IsSigned]
  | separator _ _ ih => exact ih
  | token takes _ _ _ =>
    rintro t ⟨⟩
    exact takes.signed

/-- Behind a sign of its own the first token is no number, if no numeral stands there. -/
theorem Laid.kind_ne_number (laid : Laid position (some .sign) rest tokens)
    (alone : startsNumeral (rest.dropWhile isSeparator) = false) :
      ∀ t ∈ tokens.head?, t.kind ≠ .number := by
  generalize behind : some Kind.sign = last at laid
  induction laid with
  | finish => simp
  | separator separates _ ih =>
    rw [List.dropWhile_cons_of_pos separates] at alone
    exact ih alone behind
  | token takes _ _ _ =>
    rintro t ⟨⟩ number
    rcases takes.number number with signed | starts
    · have allows := takes.signed signed
      rw [← behind] at allows
      cases allows
    · obtain ⟨c, more, rfl, other⟩ := takes.starts
      rw [List.cons_append, List.dropWhile_cons_of_neg (by simp [other])] at alone
      have part : Numeral.isPart c = true := starts
      have noPart : Numeral.isPart c = false := alone
      rw [part] at noPart
      cases noPart

/-- Behind another token, one with a sign in it follows an opening parenthesis; and no number
follows a sign. -/
theorem Laid.signs (laid : Laid position last rest tokens) :
    tokens.IsChain fun t next => (next.IsSigned → t.kind = .openParen)
      ∧ (t.kind = .sign → next.kind ≠ .number) := by
  induction laid with
  | finish => exact .singleton _
  | separator _ _ ih => exact ih
  | token takes _ laid ih =>
    refine List.isChain_cons.2 ⟨fun next first => ⟨fun signed => ?_, fun sign => ?_⟩, ih⟩
    · exact eq_openParen_of_allowsSign (laid.allowsSign_of_isSigned next first signed)
    · rw [sign] at laid
      exact laid.kind_ne_number (takes.alone sign) next first

/-! ## Places of tokens -/

/-- A token stands at its text in a source, and the end mark behind the source. -/
def LiesIn (source : Text) (t : Token) : Prop :=
  ∃ place : Nat, t.position = place
    ∧ if t.kind = .finish then place = source.length
      else ∃ c, source[place]? = some c ∧ t.text.head? = some c

/-- The tokens of a scan stand at their texts. -/
theorem liesIn_of_scan {source : Text} {tokens : List Token} (scanned : scan source = .ok tokens) :
    ∀ t ∈ tokens, t.LiesIn source := by
  obtain ⟨front, rfl, places⟩ := (laid_of_scanFrom scanned).ends
  refine List.forall_mem_append.2 ⟨fun t member => ?_,
    List.forall_mem_singleton.2 ⟨source.length, ?_, ?_⟩⟩
  · obtain ⟨inside, place, c, here, found, head⟩ := places t member
    refine ⟨place, by rw [here, Nat.zero_add], ?_⟩
    rw [if_neg inside]
    exact ⟨c, found, head⟩
  · rw [Nat.zero_add]
  · rw [if_pos rfl]

/-- A token that stands at its text can be marked. -/
theorem LiesIn.markable {source : Text} {t : Token} (lies : t.LiesIn source) :
    t.Markable source := by
  obtain ⟨place, same, there⟩ := lies
  have inside : place ≤ source.length := by
    split at there
    · exact Nat.le_of_eq there
    · obtain ⟨c, found, -⟩ := there
      exact Nat.le_of_lt (List.getElem?_eq_some_iff.1 found).1
  rw [Markable, same]
  exact Location.obstacle?_of_inside (Int.natCast_nonneg place) (Int.ofNat_le.2 inside)

/-- The tokens of a scan can be marked. -/
theorem markable_of_scan {source : Text} {tokens : List Token}
    (scanned : scan source = .ok tokens) :
    ∀ t ∈ tokens, t.Markable source := fun t member => (liesIn_of_scan scanned t member).markable

/-! ## The layout -/

/-- **Scanning loses nothing and puts signs in their places.** -/
theorem scan_layout {source : Text} {tokens : List Token} (scanned : scan source = .ok tokens) :
    Layout source tokens := by
  have laid := laid_of_scanFrom scanned
  exact {
    texts := laid.texts
    ascending := laid.ascending
    ends := by simpa using laid.ends
    signs := laid.signs }

/-- A source to which it applies, with separators between a sign and its numeral. -/
theorem scan_layout_separated :
    let source : Text := "- 1 + (-(2)\t)".toList
    let tokens : List Token :=
      [⟨.number, "-1".toList, 0⟩, ⟨.operator, ['+'], 4⟩, ⟨.openParen, ['('], 6⟩, ⟨.sign, ['-'], 7⟩,
        ⟨.openParen, ['('], 8⟩, ⟨.number, ['2'], 9⟩, ⟨.closeParen, [')'], 10⟩,
          ⟨.closeParen, [')'], 12⟩,
        ⟨.finish, [], 13⟩]
    scan source = .ok tokens ∧ Layout source tokens := by
  intro source tokens
  have scanned : scan source = .ok tokens := toOption_eq_some.1 (by decide +kernel)
  exact ⟨scanned, scan_layout scanned⟩

end Token

end InfixCalculator
