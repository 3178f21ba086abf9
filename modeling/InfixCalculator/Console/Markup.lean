import InfixCalculator.Console.Emoji

/-!
# Console markup

Lines for the console are written with markup: a tag in square brackets, such as `[red]`, changes
the style of what follows and is not shown. A bracket opens a tag when a small letter or one of `#`,
`/` and `@` follows it and a closing bracket comes before the next opening one. A backslash in front
of a tag makes it plain text, and backslashes in front of a tag are halved.

Tags cut a line into pieces, one that is plain text being a piece of its own, and within a piece the
names of emoji stand for emoji.

`escape` writes a text so that it is shown without being taken for tags, and `shown` is what a line
shows when styles are left out.
-/

set_option autoImplicit false

namespace InfixCalculator

namespace Markup

/-- A character that a tag can start with. -/
def startsTag (c : Char) : Bool := ('a' ≤ c && c ≤ 'z') || c = '#' || c = '/' || c = '@'

/-- Whether a bracket in front of this text opens a tag. -/
def opensTag : Text → Bool
  | [] => false
  | c :: rest =>
    startsTag c &&
      match rest.dropWhile fun d => d ≠ ']' && d ≠ '[' with
      | d :: _ => d = ']'
      | [] => false

/-- Backslashes in a row. -/
def slashes (count : Nat) : Text := List.replicate count '\\'

/-! ## Escaping -/

/-- Escapes the rest of a text; `count` backslashes directly before it are still to be written. -/
def escapeFrom (count : Nat) : Text → Text
  | [] => slashes count
  | c :: rest =>
    if c = '\\' then escapeFrom (count + 1) rest
    else if c = '[' && opensTag rest then slashes (2 * count + 1) ++ c :: escapeFrom 0 rest
    else slashes count ++ c :: escapeFrom 0 rest

/-- Whether a text ends with a single backslash. -/
def endsWithSlash (text : Text) : Bool := (text.reverse.takeWhile (· = '\\')).length = 1

/-- The markup that shows a text. A single backslash at the end is doubled. -/
def escape (text : Text) : Text :=
  let escaped := escapeFrom 0 text
  if endsWithSlash escaped then escaped ++ ['\\'] else escaped

/-! ## Showing -/

/-- What a character of a line stands in. -/
inductive Place where
  /-- Text between tags. -/
  | text
  /-- A tag, which is not shown. -/
  | tag
  /-- A tag that is plain text. -/
  | plainTag
deriving DecidableEq

/-- Some pieces with a text in front of the first one. -/
def addFront (front : Text) : List Text → List Text
  | [] => [front]
  | piece :: pieces => (front ++ piece) :: pieces

/-- The pieces of the rest of a line; `count` backslashes directly before it are still to be
shown. -/
def piecesFrom (place : Place) (count : Nat) : Text → List Text
  | [] => [slashes count]
  | c :: rest =>
    if place = .tag then piecesFrom (if c = ']' then .text else .tag) 0 rest
    else if c = '\\' then piecesFrom place (count + 1) rest
    else if c = ']' ∧ place = .plainTag then (slashes count ++ [c]) :: piecesFrom .text 0 rest
    else if c = '[' ∧ opensTag rest then
      if count % 2 = 0 then slashes (count / 2) :: piecesFrom .tag 0 rest
      else slashes (count / 2) :: addFront [c] (piecesFrom .plainTag 0 rest)
    else if c = '[' then addFront (slashes (count - 1) ++ [c]) (piecesFrom place 0 rest)
    else addFront (slashes count ++ [c]) (piecesFrom place 0 rest)

/-- The pieces that the tags of a line cut it into. -/
def pieces (line : Text) : List Text := piecesFrom .text 0 line

/-- What a line shows. -/
def shown (line : Text) : Text := (pieces line).flatMap Emoji.replace

end Markup

end InfixCalculator
