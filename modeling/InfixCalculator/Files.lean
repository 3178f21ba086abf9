import InfixCalculator.Text.Basic

/-!
# Files and paths

The files are given by their paths. A path is looked up part by part from a root or from here: two
points lead to the directory above, every other part to a file or a directory in the present one.
Directories are known by the files that are in them.
-/

set_option autoImplicit false

namespace InfixCalculator

/-- The files that can be read, by their paths. -/
abbrev Files := List (Text × Text)

/-! ## Paths -/

namespace Path

/-- The parts of a path between slashes. -/
def parts (path : Text) : List Text :=
  (path.splitOn '/').filter fun part => part ≠ [] ∧ part ≠ ['.']

/-- The slashes that a path starts with: two stay two, more count as one. -/
def root (path : Text) : Text :=
  match (path.takeWhile (· = '/')).length with
  | 0 => []
  | 2 => ['/', '/']
  | _ => ['/']

/-- A path without the parts that lead nowhere. -/
def normalize (path : Text) : Text :=
  match root path ++ Text.join ['/'] (parts path) with
  | [] => ['.']
  | normal => normal

/-- The part that leads to the directory above. -/
def up : Text := ['.', '.']

/-- The directory above another one, both given by their parts behind a root. -/
def above (root : Text) (directory : List Text) : List Text :=
  match directory.getLast? with
  | none => if root = [] then [up] else []
  | some last => if last = up then directory ++ [up] else directory.dropLast

/-- The parts of a path without steps up that undo a step down. -/
def resolved (path : Text) : List Text :=
  (parts path).foldl
    (fun here part => if part = up then above (root path) here else here ++ [part]) []

/-- The number of bytes that a text takes up in a file system. -/
def size (text : Text) : Nat := (String.ofList text).utf8ByteSize

/-- The most bytes of a part of a path. -/
def partLimit : Nat := 255

/-- The number of bytes that a path has to stay below. -/
def sizeLimit : Nat := 4096

end Path

/-! ## Looking up -/

namespace Files

/-- What a path leads to. -/
inductive Target where
  /-- A file with these contents. -/
  | file (contents : Text)
  /-- A directory. -/
  | directory
  /-- Nothing. -/
  | nothing
  /-- The path is too long to be looked up. -/
  | tooLong
deriving DecidableEq

/-- Whether the parts behind a root lead to a directory that files are in. -/
def isDirectory (files : Files) (root : Text) (parts : List Text) : Bool :=
  files.any fun (name, _) =>
    Path.root name = root && parts.length < (Path.parts name).length
      && parts.isPrefixOf (Path.parts name)

/-- The contents of the file that the parts behind a root lead to. -/
def contents? (files : Files) (root : Text) (parts : List Text) : Option Text :=
  (files.find? fun (name, _) => Path.root name = root && Path.resolved name = parts).map (·.2)

/-- Looks up the further parts of a path from a directory. -/
def lookUpFrom (files : Files) (root : Text) (here : List Text) : List Text → Target
  | [] => .directory
  | part :: rest =>
    if part = Path.up then lookUpFrom files root (Path.above root here) rest
    else if Path.partLimit < Path.size part then .tooLong
    else if isDirectory files root (here ++ [part]) then lookUpFrom files root (here ++ [part]) rest
    else if rest = [] then
      match contents? files root (here ++ [part]) with
      | some contents => .file contents
      | none => .nothing
    else .nothing

/-- What a path leads to. -/
def lookUp (files : Files) (path : Text) : Target :=
  if Path.sizeLimit ≤ Path.size (Path.normalize path) then .tooLong
  else lookUpFrom files (Path.root path) [] (Path.parts path)

end Files

end InfixCalculator
