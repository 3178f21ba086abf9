import InfixCalculator.Console.EmojiTable
import InfixCalculator.Text.Blank
import InfixCalculator.Text.Columns
import InfixCalculator.Text.Hexadecimal
import InfixCalculator.Text.LetterCase

/-!
# Emoji by name

In a line for the console a name between two colons, such as `:abacus:`, stands for an emoji. The
name may be in any case. A skin tone behind the name colours the emoji if it can be given one, and
`-emoji` or `-text` behind it selects the form the emoji is shown in. A name that is not known stays
as it is written, together with both its colons.
-/

set_option autoImplicit false

namespace InfixCalculator

namespace Emoji

/-! ## The table -/

/-- An emoji that has a name. -/
structure Entry where
  /-- The name. -/
  name : Text
  /-- Whether the emoji can be given a skin tone. -/
  takesSkinTone : Bool
  /-- The emoji. -/
  text : Text

/-- The entry that a word of the table writes: the name, perhaps a plus, and the code points. -/
def entry? (word : Text) : Option Entry :=
  match word.splitOn '=' with
  | [name, codes] => do
    let text ← (codes.splitOn '-').mapM Text.hexChar?
    match name.reverse with
    | '+' :: rest => some ⟨rest.reverse, true, text⟩
    | _ => some ⟨name, false, text⟩
  | _ => none

/-- All emoji that have a name. -/
def table : List Entry :=
  tableLines.flatMap fun line => (line.toList.splitOn ' ').filterMap entry?

/-! ## Names -/

/-- What is in front of an ending, if a text ends with it. -/
def beforeEnding? (ending text : Text) : Option Text :=
  if ending.isSuffixOf text then some (text.take (text.length - ending.length)) else none

/-- The skin tones, each with the ending that asks for it. -/
def skinTones : List (Text × Char) :=
  [("_light_skin_tone".toList, Char.ofNat 0x1F3FB),
   ("_medium-light_skin_tone".toList, Char.ofNat 0x1F3FC),
   ("_medium_skin_tone".toList, Char.ofNat 0x1F3FD),
   ("_medium-dark_skin_tone".toList, Char.ofNat 0x1F3FE),
   ("_dark_skin_tone".toList, Char.ofNat 0x1F3FF)]

/-- The forms an emoji can be shown in, each with the ending that asks for it. -/
def forms : List (Text × Char) :=
  [("-emoji".toList, Text.emojiSelector), ("-text".toList, Text.plainSelector)]

/-- An emoji with a skin tone. The tone follows the first character, in place of the selector
there. -/
def withSkinTone (tone : Char) : Text → Text
  | [] => []
  | c :: d :: rest => if d = Text.emojiSelector then c :: tone :: rest else c :: tone :: d :: rest
  | [c] => [c, tone]

/-- The emoji with a name, which may end in a skin tone. -/
def named? (name : Text) : Option Text :=
  match table.find? (·.name = name) with
  | some entry => some entry.text
  | none =>
    skinTones.findSome? fun (ending, tone) => do
      let base ← beforeEnding? ending name
      let entry ← table.find? fun entry => entry.takesSkinTone && entry.name = base
      some (withSkinTone tone entry.text)

/-- The emoji that a code between two colons stands for, with the selector of its form if the code
ends in one. -/
def ofCode? (code : Text) : Option Text :=
  match forms.findSome? fun (ending, form) => (beforeEnding? ending code).map (·, form) with
  | some (name, form) => (named? name.lower).map (· ++ [form])
  | none => named? code.lower

/-! ## Codes in a text -/

/-- A character that can be part of a code. -/
def isCodePart (c : Char) : Bool := c ≠ ':' && !Text.isBlank c

/-- What a code between two colons shows. -/
def shown (code : Text) : Text := (ofCode? code).getD (':' :: code ++ [':'])

/-- The text with the emoji in place of their codes. -/
def replace (text : Text) : Text :=
  match text with
  | [] => []
  | c :: rest =>
    if c = ':' then
      match _found : rest.dropWhile isCodePart with
      | ':' :: after => shown (rest.takeWhile isCodePart) ++ replace after
      | _ => c :: replace rest
    else c :: replace rest
termination_by text.length
decreasing_by
  · have shorter := (List.dropWhile_sublist (l := rest) isCodePart).length_le
    rw [_found] at shorter
    exact Nat.lt_succ_of_lt shorter
  · exact Nat.lt_succ_self _
  · exact Nat.lt_succ_self _

/-- A text without a colon shows itself. -/
theorem replace_of_not_mem {text : Text} (h : ':' ∉ text) : replace text = text := by
  induction text with
  | nil => rw [replace]
  | cons c rest ih =>
    have other : c ≠ ':' := fun equal => h (by simp [equal])
    rw [replace, if_neg other, ih fun inside => h (List.mem_cons_of_mem c inside)]

end Emoji

end InfixCalculator
