import InfixCalculator.Binary64.Basic
import InfixCalculator.Text.Basic

/-!
# TOML values and documents

A value is a scalar, an array or a table; the entries of a table keep the order in which they were
written. A document under construction is its root table together with what may no longer be written
to: the tables that have a header of their own, and the arrays and tables that were written inline.
-/

set_option autoImplicit false

namespace InfixCalculator

namespace Toml

/-- A TOML value. -/
inductive Value where
  /-- A string. -/
  | string (text : Text)
  /-- A whole number. -/
  | integer (value : Int)
  /-- A number with a fraction or an exponent, an infinity, or no number. -/
  | float (value : Binary64)
  /-- A truth value. -/
  | boolean (value : Bool)
  /-- A date, a time, or both, as written. -/
  | moment (text : Text)
  /-- An array. -/
  | array (items : List Value)
  /-- A table. -/
  | table (entries : List (Text × Value))

/-- Whether a value is a string. -/
def Value.isString : Value → Bool
  | string _ => true
  | _ => false

/-- The entries of a table, in the order in which they were written. -/
abbrev Table := List (Text × Value)

/-- The keys that lead from the root to a value. -/
abbrev Path := List Text

namespace Table

/-- The value of a key. -/
def get? (t : Table) (key : Text) : Option Value := t.lookup key

/-- Puts a value in the place of that of a key, or at the end if the key is new. -/
def set : Table → Text → Value → Table
  | [], key, value => [(key, value)]
  | (k, v) :: rest, key, value =>
    if k = key then (key, value) :: rest else (k, v) :: set rest key value

/-- Changes the table at the end of a path. Tables that are missing on the way are created; where an
array of tables may be passed through, its last table is meant. Any other value is in the way. -/
def modifyAt (throughArrays : Bool) (change : Table → Option Table) : Path → Table → Option Table
  | [], t => change t
  | key :: path, t =>
    match t.get? key with
    | none => (modifyAt throughArrays change path []).map fun inner => t.set key (.table inner)
    | some (.table inner) =>
      (modifyAt throughArrays change path inner).map fun inner => t.set key (.table inner)
    | some (.array items) =>
      match items.getLast? with
      | some (.table inner) =>
        if throughArrays then
          (modifyAt throughArrays change path inner).map fun inner =>
            t.set key (.array (items.dropLast ++ [.table inner]))
        else none
      | _ => none
    | some _ => none

/-- Adds an entry with a new key. -/
def add? (key : Text) (value : Value) (t : Table) : Option Table :=
  match t.get? key with
  | none => some (t.set key value)
  | some _ => none

/-- Adds an empty table at the end of an array of tables, which is created if it is missing. -/
def appendTable? (key : Text) (t : Table) : Option Table :=
  match t.get? key with
  | none => some (t.set key (.array [.table []]))
  | some (.array items) => some (t.set key (.array (items ++ [.table []])))
  | some _ => none

end Table

/-- Whether a value was written inline as an array or a table, and so is complete. -/
def Value.isContainer : Value → Bool
  | .array _ => true
  | .table _ => true
  | _ => false

/-- A document under construction. -/
structure Document where
  /-- The root table. -/
  root : Table
  /-- The paths of inline arrays and tables: nothing can be added to them or below them. -/
  frozen : List Path
  /-- The paths that can have no header, because they have had one or were opened by dotted keys in
  an earlier section. -/
  declared : List Path
  /-- The paths that dotted keys opened in the current section. -/
  opened : List Path

namespace Document

/-- The empty document. -/
def empty : Document := ⟨[], [], [], []⟩

/-- Whether a path lies at or below a frozen one. -/
def isFrozen (frozen : List Path) (path : Path) : Bool := frozen.any (·.isPrefixOf path)

/-- Starts a new section: what dotted keys opened in the last one can have no header any more. -/
def closeSection (d : Document) : Document :=
  { d with declared := d.opened ++ d.declared, opened := [] }

/-- The header of a table. -/
def declareTable? (d : Document) (path : Path) : Option Document :=
  if path ∈ d.declared || isFrozen d.frozen path then none
  else
    (Table.modifyAt true some path d.root).map fun root =>
      { d with root := root, declared := path :: d.declared }

/-- The header of one more table in an array of tables. What was recorded about paths below it spoke
of the table before. -/
def declareArrayTable? (d : Document) (path : Path) : Option Document :=
  if isFrozen d.frozen path then none
  else
    match path.getLast? with
    | none => none
    | some key =>
      (Table.modifyAt true (Table.appendTable? key) path.dropLast d.root).map fun root =>
        { d with
          root := root
          frozen := d.frozen.filter (!path.isPrefixOf ·)
          declared := path :: d.declared.filter (!path.isPrefixOf ·) }

/-- A key with a value in the section with a header. -/
def assign? (d : Document) (header path : Path) (value : Value) : Option Document :=
  match path.getLast? with
  | none => none
  | some key =>
    let parents := (List.range path.dropLast.length).map fun n => header ++ path.take (n + 1)
    let parent := header ++ path.dropLast
    if parents.any (· ∈ d.declared) || isFrozen d.frozen parent then none
    else
      (Table.modifyAt true (Table.add? key value) parent d.root).map fun root =>
        { d with
          root := root
          frozen := if value.isContainer then (header ++ path) :: d.frozen else d.frozen
          opened := parents ++ d.opened }

end Document

end Toml

end InfixCalculator
