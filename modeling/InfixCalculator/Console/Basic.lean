import InfixCalculator.Text.Basic

/-!
# The console

The program writes markup, texts that are no markup, and documents that are laid out already. What
is sent for them is up to the console (`Console`). The program relies on little of it: printed
characters are sent as they are, but for colons, which may stand around the name of an emoji in a
text (`Console.Laws`).
-/

set_option autoImplicit false

namespace InfixCalculator

/-- What a console makes of what is written to it. -/
structure Console where
  /-- What is sent for markup. -/
  writeMarkup : Text → Text
  /-- The markup that shows a text. -/
  escape : Text → Text
  /-- What is sent for a text that is no markup. -/
  writeText : Text → Text
  /-- What is sent for a document. -/
  writeDocument : Text → Text

namespace Console

/-- A printed character, or the end of a line. -/
def isShown (c : Char) : Bool := c = '\n' || 32 ≤ c.toNat

/-- What the program relies on when it writes to a console. -/
structure Laws (console : Console) : Prop where
  /-- Printed characters other than colons are sent as they are. -/
  writeText_eq : ∀ {text : Text}, text.all isShown = true → ':' ∉ text →
    console.writeText text = text
  /-- In a document all printed characters are sent as they are. -/
  writeDocument_eq : ∀ {text : Text}, text.all isShown = true → console.writeDocument text = text

/-- A line of markup. -/
def markupLine (console : Console) (markup : Text) : Text := console.writeMarkup markup ++ ['\n']

/-- The line that reports an error. -/
def errorLine (console : Console) (message : Text) : Text :=
  console.markupLine ("[red]Error:[/red] ".toList ++ console.escape message)

/-- A prompt, which no line end follows. -/
def promptText (console : Console) (prompt : Text) : Text :=
  console.writeMarkup (console.escape prompt)

theorem isShown_of_le {c : Char} (printed : 32 ≤ c.toNat) : isShown c = true := by
  rw [isShown, decide_eq_true printed, Bool.or_true]

end Console

end InfixCalculator
