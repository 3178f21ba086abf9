import InfixCalculator.Console.Basic
import InfixCalculator.Console.Markup

/-!
# Laying out lines on the console

The bell, backspace, vertical tab, form feed and carriage return are not sent to the console. A tab
takes one column and goes on to the next multiple of eight columns, wide characters being counted as
wide. Lines are not wrapped, and blanks at their ends are kept. In a text that is no markup emoji
still stand in place of their names; a document is only laid out.
-/

set_option autoImplicit false

namespace InfixCalculator

namespace Console

/-- A control character that is not sent to the console. -/
def isDropped (c : Char) : Bool :=
  c.toNat = 7 || c.toNat = 8 || c.toNat = 11 || c.toNat = 12 || c.toNat = 13

/-- The first tab stop that is not before a column. -/
def tabStop (column : Nat) : Nat := (column + 7) / 8 * 8

/-- Replaces tabs with spaces. The text between the last tab stop, which is at `column`, and this
point is held back in `piece`, the nearest character first, so that its columns can be counted. -/
def expandTabs (column : Nat) (piece : Text) : Text → Text
  | [] => piece.reverse
  | c :: rest =>
    if c = '\t' then
      let blank : Text := (' ' :: piece).reverse
      let reached := column + blank.columns
      blank ++ List.replicate (tabStop reached - reached) ' '
        ++ expandTabs (tabStop reached) [] rest
    else if c = '\n' then piece.reverse ++ c :: expandTabs 0 [] rest
    else expandTabs column (c :: piece) rest

/-- A text as it is sent to the console. -/
def layout (text : Text) : Text := expandTabs 0 [] (text.filter (!isDropped ·))

/-- The console that the program writes to by default. -/
def standard : Console where
  writeMarkup markup := layout (Markup.shown markup)
  escape := Markup.escape
  writeText text := layout (Emoji.replace text)
  writeDocument := layout

/-! ## Small facts -/

theorem expandTabs_of_not_mem {text : Text} (column : Nat) (piece : Text) (h : '\t' ∉ text) :
    expandTabs column piece text = piece.reverse ++ text := by
  induction text generalizing column piece with
  | nil => simp [expandTabs]
  | cons c rest ih =>
    have other : c ≠ '\t' := fun equal => h (by simp [equal])
    have inside : '\t' ∉ rest := fun member => h (List.mem_cons_of_mem c member)
    by_cases lineEnd : c = '\n' <;> simp [expandTabs, other, lineEnd, ih _ _ inside]

/-- Printed characters are sent as they are. -/
theorem layout_of_isShown {text : Text} (shown : text.all isShown = true) : layout text = text := by
  have each : ∀ c ∈ text, c = '\n' ∨ 32 ≤ c.toNat := by simpa [isShown] using shown
  have noTab : '\t' ∉ text := fun tab => absurd (each _ tab) (by decide)
  have kept : ∀ c ∈ text, isDropped c = false := by
    intro c member
    rcases each c member with rfl | printed
    · rfl
    · simp only [isDropped, Bool.or_eq_false_iff, decide_eq_false_iff_not]
      omega
  have all : text.filter (!isDropped ·) = text := by simpa using kept
  rw [layout, all, expandTabs_of_not_mem 0 [] noTab]
  rfl

theorem standard_laws : standard.Laws where
  writeText_eq shown noColon :=
    (congrArg layout (Emoji.replace_of_not_mem noColon)).trans (layout_of_isShown shown)
  writeDocument_eq := layout_of_isShown

end Console

end InfixCalculator
