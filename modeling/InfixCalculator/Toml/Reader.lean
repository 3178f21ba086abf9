import InfixCalculator.Toml.Scalar

/-!
# Reading TOML documents

A document is a sequence of lines: key with value, header of a table, header of one more table in an
array of tables, or nothing, each with an optional comment. Reading it builds up the root table and
fails as soon as a line is malformed or writes to something that can no longer be written to.

Values nest up to a limit. The readers of arrays and inline tables carry the depth that is left, and
a bound on the number of their steps, which the length of the text provides.
-/

set_option autoImplicit false

namespace InfixCalculator

namespace Toml

/-! ## Comments and keys -/

/-- The text after a comment, if it starts with one. -/
def skipComment (text : Text) : Option Text :=
  match text with
  | '#' :: rest =>
    if (rest.takeWhile (· ≠ '\n')).any isControl then none else some (rest.dropWhile (· ≠ '\n'))
  | _ => some text

/-- The text after blanks, line ends and comments. -/
def skipLines : (inComment : Bool) → Text → Option Text
  | _, [] => some []
  | true, c :: rest =>
    if c = '\n' then skipLines false rest else if isControl c then none else skipLines true rest
  | false, c :: rest =>
    if isSpaceOrLine c then skipLines false rest
    else if c = '#' then skipLines true rest
    else some (c :: rest)

/-- A character of a bare key. -/
def isBareKey (c : Char) : Bool := c.isAlphanum || c = '-' || c = '_'

/-- One part of a key: bare, or a string on one line. -/
def keyPart : Reader Text := fun text =>
  match text with
  | '\'' :: rest => literalString rest
  | '"' :: rest => basicString rest
  | _ =>
    let bare := text.takeWhile isBareKey
    if bare = [] then none else some (bare, text.dropWhile isBareKey)

/-- The further parts of a dotted key, of which there are at most `fuel`. -/
def keyRest : Nat → Reader Path
  | 0, _ => none
  | fuel + 1, text =>
    match text.dropWhile isSpace with
    | '.' :: rest => do
      let (part, rest) ← keyPart (rest.dropWhile isSpace)
      let (parts, rest) ← keyRest fuel rest
      some (part :: parts, rest)
    | rest => some ([], rest)

/-- A dotted key, with the spaces after it. -/
def key : Reader Path := fun text => do
  let (part, rest) ← keyPart text
  let (parts, rest) ← keyRest (rest.length + 1) rest
  some (part :: parts, rest)

/-- A key, the sign of equality, and the spaces around it. -/
def keyAndEquals : Reader Path := fun text => do
  let (path, rest) ← key text
  let rest ← expect ['='] rest
  some (path, rest.dropWhile isSpace)

/-! ## Values -/

/-- A value that contains no other. -/
def scalar (text : Text) : Except Failure (Value × Text) :=
  match text.head? with
  | none => .error .malformed
  | some c =>
    if c = '"' ∨ c = '\'' then required ((stringValue text).map fun (s, rest) => (.string s, rest))
    else
      match expect "true".toList text, expect "false".toList text with
      | some rest, _ => .ok (.boolean true, rest)
      | _, some rest => .ok (.boolean false, rest)
      | none, none =>
        match moment? text with
        | some result => required result
        | none => numberValue text

/-- How deep values may nest; an array takes two off it, and an inline table three. It stands for
the room that a reader which calls itself finds on its stack, and so for more than the format says:
a reader that is called from further down has less of it. -/
def depthLimit : Nat := 983

/-- An entry of an inline table. -/
def addInline? (entries : Table) (frozen : List Path) (path : Path) (v : Value) : Option Table :=
  if Document.isFrozen frozen path then none
  else do
    let name ← path.getLast?
    Table.modifyAt false (Table.add? name v) path.dropLast entries

mutual

/-- A value, read in at most `fuel` steps and with `depth` left for what it contains. -/
def value : (fuel depth : Nat) → Text → Except Failure (Value × Text)
  | 0, _, _ => .error .malformed
  | fuel + 1, depth, '[' :: rest =>
    if depth < 2 then .error .nestingTooDeep
    else do
      let rest ← skipLines false rest
      match rest with
      | ']' :: rest => .ok (.array [], rest)
      | _ =>
        let (items, rest) ← arrayItems fuel (depth - 2) rest
        .ok (.array items, rest)
  | fuel + 1, depth, '{' :: rest =>
    if depth < 3 then .error .nestingTooDeep
    else
      match rest.dropWhile isSpace with
      | '}' :: rest => .ok (.table [], rest)
      | rest => do
        let (entries, rest) ← inlineEntries fuel (depth - 3) [] [] rest
        .ok (.table entries, rest)
  | _ + 1, _, text => scalar text

/-- The items of an array and its closing bracket; a comma may follow the last one. -/
def arrayItems : (fuel depth : Nat) → Text → Except Failure (List Value × Text)
  | 0, _, _ => .error .malformed
  | fuel + 1, depth, text => do
    let (item, rest) ← value fuel depth text
    let rest ← skipLines false rest
    match rest with
    | ']' :: rest => .ok ([item], rest)
    | ',' :: rest =>
      let rest ← skipLines false rest
      match rest with
      | ']' :: rest => .ok ([item], rest)
      | _ =>
        let (items, rest) ← arrayItems fuel depth rest
        .ok (item :: items, rest)
    | _ => .error .malformed

/-- The entries of an inline table and its closing brace. -/
def inlineEntries : (fuel depth : Nat) → Table → List Path → Text → Except Failure (Table × Text)
  | 0, _, _, _, _ => .error .malformed
  | fuel + 1, depth, entries, frozen, text => do
    let (path, rest) ← keyAndEquals text
    let (v, rest) ← value fuel depth rest
    let entries ← addInline? entries frozen path v
    match rest.dropWhile isSpace with
    | '}' :: rest => .ok (entries, rest)
    | ',' :: rest =>
      let frozen := if v.isContainer then path :: frozen else frozen
      inlineEntries fuel depth entries frozen (rest.dropWhile isSpace)
    | _ => .error .malformed

end

/-! ## Lines -/

/-- A line with a header. Returns the document, the path of the section it opens, and the rest. -/
def header (d : Document) (text : Text) : Option (Document × Path × Text) :=
  let d := d.closeSection
  match text with
  | '[' :: '[' :: rest => do
    let (path, rest) ← key (rest.dropWhile isSpace)
    let d ← d.declareArrayTable? path
    let rest ← expect [']', ']'] rest
    some (d, path, rest)
  | '[' :: rest => do
    let (path, rest) ← key (rest.dropWhile isSpace)
    let d ← d.declareTable? path
    let rest ← expect [']'] rest
    some (d, path, rest)
  | _ => none

/-- A line with a key and its value in the current section. -/
def assignment (d : Document) (current : Path) (text : Text) :
    Except Failure (Document × Path × Text) := do
  let (path, rest) ← keyAndEquals text
  let (v, rest) ← value (2 * rest.length + 2) depthLimit rest
  let d ← d.assign? current path v
  .ok (d, current, rest)

/-- What a line says, up to its comment. -/
def statement (d : Document) (current : Path) (text : Text) :
    Except Failure (Document × Path × Text) :=
  match text with
  | '#' :: _ => .ok (d, current, text)
  | '[' :: _ => required (header d text)
  | _ => assignment d current text

/-- The remaining lines of a document, of which there are at most `fuel`. -/
def lines : Nat → Document → Path → Text → Except Failure Document
  | 0, _, _, _ => .error .malformed
  | fuel + 1, d, current, text =>
    match text.dropWhile isSpace with
    | [] => .ok d
    | '\n' :: rest => lines fuel d current rest
    | text => do
      let (d, current, rest) ← statement d current text
      match ← skipComment (rest.dropWhile isSpace) with
      | [] => .ok d
      | '\n' :: rest => lines fuel d current rest
      | _ => .error .malformed

/-- Line ends of two characters become line feeds. -/
def unifyLineEnds : Text → Text
  | '\r' :: '\n' :: rest => '\n' :: unifyLineEnds rest
  | c :: rest => c :: unifyLineEnds rest
  | [] => []

/-- The root table of a document. -/
def read (text : Text) : Except Failure Table :=
  let text := unifyLineEnds text
  (lines (text.length + 1) .empty [] text).map (·.root)

end Toml

end InfixCalculator
