import InfixCalculator.Engine
import InfixCalculator.Toml.Value

/-!
# Settings

The settings come from three layers: the defaults, the table of a settings file, and environment
variables. Each field takes its value from the last layer that has one, and only the merged values
are checked, so a value that a later layer overrides is never looked at. Every value that is
rejected is reported, the fields first, in their order, and then the keys that are not known, in the
order of the table.

Each field has a type, and its value is checked against the type before anything else. How that is
done is not fixed here (`Types`); what is relied on is which values have a type and where the others
go wrong (`Types.Laws`).
-/

set_option autoImplicit false

namespace InfixCalculator

/-- How much is logged. -/
inductive LogLevel where
  /-- Every step. -/
  | debug
  /-- Notable events. -/
  | info
  /-- What may be wrong. -/
  | warning
  /-- What is wrong. -/
  | error
  /-- What cannot go on. -/
  | critical
deriving DecidableEq

namespace LogLevel

/-- The levels, the most detailed first. -/
def all : List LogLevel := [debug, info, warning, error, critical]

/-- The name of a level, in capitals. -/
def name : LogLevel → Text
  | debug => "DEBUG".toList
  | info => "INFO".toList
  | warning => "WARNING".toList
  | error => "ERROR".toList
  | critical => "CRITICAL".toList

/-- The level with a name, in any case. -/
def ofName? (name : Text) : Option LogLevel :=
  match Text.asciiUpper? name with
  | some upper => all.find? (·.name = upper)
  | none => none

end LogLevel

/-- The settings of the calculator. -/
structure Settings where
  /-- The engine that is used when none is asked for. -/
  engine : Engine
  /-- The lines that end a session, stripped and in lower case. -/
  exitCommands : List Text
  /-- What a session shows in front of each line. -/
  prompt : Text
  /-- How much is logged. -/
  logLevel : LogLevel
deriving DecidableEq

namespace Settings

/-- The settings when nothing else is said. -/
def default : Settings :=
  ⟨.reduce, ["exit".toList, "quit".toList], "> ".toList, .warning⟩

/-! ## Rejected values -/

/-- Where a rejected value stands. -/
inductive Place where
  /-- The value of a key. -/
  | field (key : Text)
  /-- An item of the array of a key. -/
  | item (key : Text) (index : Nat)
deriving DecidableEq

/-- What is wrong with a rejected value. -/
inductive Problem where
  /-- It is not the name of an engine. -/
  | notAnEngine
  /-- It is not an array. -/
  | notAList
  /-- It is not a string. -/
  | notAString
  /-- It is not the name of a log level. -/
  | unknownLevel
  /-- Its key is not known. -/
  | unknownKey
deriving DecidableEq

/-- A rejected value. -/
structure Rejection where
  /-- Where it stands. -/
  place : Place
  /-- What is wrong with it. -/
  problem : Problem
deriving DecidableEq

/-! ## Keys and layers -/

/-- The key of the engine. -/
def engineKey : Text := "engine".toList

/-- The key of the exit commands. -/
def exitCommandsKey : Text := "exit_commands".toList

/-- The key of the prompt. -/
def promptKey : Text := "prompt".toList

/-- The key of the log level. -/
def logLevelKey : Text := "log_level".toList

/-- The keys of a settings table. -/
def keys : List Text := [engineKey, exitCommandsKey, promptKey, logLevelKey]

/-- Environment variables and their values. -/
abbrev Environment := List (Text × Text)

/-- The engine that the environment asks for. Blanks around the name and its case do not count, and
a blank name asks for nothing. -/
def engineVariable? (environment : Environment) : Option Text :=
  match ((environment.lookup "SIMPLECALC_ENGINE".toList).getD []).strip.lower with
  | [] => none
  | name => some name

/-- The log level that the environment asks for. Blanks around the name do not count, and a blank
name asks for nothing. -/
def logLevelVariable? (environment : Environment) : Option Text :=
  match ((environment.lookup "SIMPLECALC_LOG_LEVEL".toList).getD []).strip with
  | [] => none
  | name => some name

/-- The value from the environment, or else from the table. -/
def layered (fromEnvironment : Option Text) (table : Toml.Table) (key : Text) : Option Toml.Value :=
  match fromEnvironment with
  | some text => some (.string text)
  | none => table.get? key

/-! ## The types of the fields -/

/-- What is wrong with a value. -/
structure Flaw where
  /-- The item of an array that is wrong, unless it is the whole value. -/
  item : Option Nat
  /-- What is wrong. -/
  problem : Problem
deriving DecidableEq

/-- A value of a type, or all that keeps it from being one. -/
abbrev Typed (α : Type) := Except (List Flaw) α

/-- How values are checked against the types of the fields. -/
structure Types where
  /-- The engine that is meant. -/
  engine : Toml.Value → Typed Engine
  /-- A string. -/
  string : Toml.Value → Typed Text
  /-- An array of strings. -/
  strings : Toml.Value → Typed (List Text)

/-- Where a value goes wrong that is no array of strings: at the items that are no strings, or as a
whole. -/
def flawedItems : Toml.Value → List (Option Nat)
  | .array items =>
    items.zipIdx.filterMap fun (item, index) => if item.isString then none else some (some index)
  | _ => [none]

/-- What the program relies on when values are checked. It does not look at the problems that are
found. -/
structure Types.Laws (types : Types) : Prop where
  /-- An engine is meant by its name alone. -/
  engine_eq_ok : ∀ {value engine}, types.engine value = .ok engine ↔ value = .string engine.name
  /-- What means no engine is wrong as a whole. -/
  engine_flaws : ∀ {value flaws}, types.engine value = .error flaws → flaws.map Flaw.item = [none]
  /-- A string is a string. -/
  string_eq_ok : ∀ {value text}, types.string value = .ok text ↔ value = .string text
  /-- What is no string is wrong as a whole. -/
  string_flaws : ∀ {value flaws}, types.string value = .error flaws → flaws.map Flaw.item = [none]
  /-- An array of strings has no other items. -/
  strings_eq_ok : ∀ {value texts}, types.strings value = .ok texts
    ↔ value = .array (texts.map .string)
  /-- All items that are no strings are found, in their order. -/
  strings_flaws : ∀ {value flaws}, types.strings value = .error flaws →
    flaws.map Flaw.item = flawedItems value

namespace Types

/-- The flaws of an array of strings: its items that are no strings. -/
def stringFlaws (items : List Toml.Value) : List Flaw :=
  items.zipIdx.filterMap fun (item, index) =>
    if item.isString then none else some ⟨some index, .notAString⟩

/-- The strings in an array. -/
def stringsOf (items : List Toml.Value) : List Text :=
  items.filterMap fun item =>
    match item with
    | .string text => some text
    | _ => none

/-- The types by default. -/
def standard : Types where
  engine
    | .string name =>
      match Engine.ofName? name with
      | some engine => .ok engine
      | none => .error [⟨none, .notAnEngine⟩]
    | _ => .error [⟨none, .notAnEngine⟩]
  string
    | .string text => .ok text
    | _ => .error [⟨none, .notAString⟩]
  strings
    | .array items =>
      if items.all Toml.Value.isString then .ok (stringsOf items) else .error (stringFlaws items)
    | _ => .error [⟨none, .notAList⟩]

end Types

/-! ## Checking merged values -/

/-- A merged value that was accepted, or why it was not. -/
abbrev Checked (α : Type) := Except (List Rejection) α

/-- The value of a key with a flaw is rejected. -/
def Flaw.rejection (key : Text) (flaw : Flaw) : Rejection :=
  match flaw.item with
  | none => ⟨.field key, flaw.problem⟩
  | some index => ⟨.item key index, flaw.problem⟩

/-- The setting of a key: its default if there is no value, or else what the value is taken for. -/
def checkValue {α : Type} (key : Text) (default : α) (take : Toml.Value → Typed α) :
    Option Toml.Value → Checked α
  | none => .ok default
  | some value => (take value).mapError fun flaws => flaws.map (Flaw.rejection key)

/-- The exit commands that are not blank, stripped and in lower case. -/
def exitCommandsOf (texts : List Text) : List Text :=
  (texts.filter (·.strip ≠ [])).map fun text => text.strip.lower

/-- The log level with a name, in any case. -/
def logLevelOf (name : Text) : Typed LogLevel :=
  match LogLevel.ofName? name with
  | some level => .ok level
  | none => .error [⟨none, .unknownLevel⟩]

/-- The keys of a table that are not known. -/
def unknownKeys (table : Toml.Table) : List Rejection :=
  (table.filter fun (key, _) => key ∉ keys).map fun (key, _) => ⟨.field key, .unknownKey⟩

/-- Why a merged value was not accepted. -/
def rejections {α : Type} : Checked α → List Rejection
  | .ok _ => []
  | .error rejected => rejected

/-- The settings from a table and the environment, or everything that is wrong with them. -/
def ofLayers (types : Types) (table : Toml.Table) (environment : Environment) : Checked Settings :=
  let engine := checkValue engineKey default.engine types.engine
    (layered (engineVariable? environment) table engineKey)
  let exitCommands := checkValue exitCommandsKey default.exitCommands
    (fun value => (types.strings value).map exitCommandsOf) (table.get? exitCommandsKey)
  let prompt := checkValue promptKey default.prompt types.string (table.get? promptKey)
  let logLevel := checkValue logLevelKey default.logLevel
    (fun value => (types.string value).bind logLevelOf)
    (layered (logLevelVariable? environment) table logLevelKey)
  match engine, exitCommands, prompt, logLevel, unknownKeys table with
  | .ok engine, .ok exitCommands, .ok prompt, .ok logLevel, [] =>
    .ok ⟨engine, exitCommands, prompt, logLevel⟩
  | engine, exitCommands, prompt, logLevel, unknown =>
    .error (rejections engine ++ rejections exitCommands ++ rejections prompt ++ rejections logLevel
      ++ unknown)

end Settings

end InfixCalculator
