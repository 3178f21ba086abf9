import Mathlib.Data.List.Basic
import InfixCalculator.Settings.Basic

/-!
# The fields of the settings

What the settings come to, told field by field. A field has a key in the table, a default, perhaps a
variable of the environment, and values that it accepts. Its merged value is that of the variable,
or else that of the table, or else the default; the settings hold the merged values, some of them in
a normal form, if each of them is accepted and every key of the table belongs to a field.
-/

set_option autoImplicit false

namespace InfixCalculator

/-- A table without the entries of a key. -/
def Toml.Table.without (key : Text) (table : Toml.Table) : Toml.Table :=
  table.filter fun entry => entry.1 ≠ key

namespace Settings

/-- A field of the settings. -/
inductive Field where
  /-- The engine that is used when none is asked for. -/
  | engine
  /-- The lines that end a session. -/
  | exitCommands
  /-- What a session shows in front of each line. -/
  | prompt
  /-- How much is logged. -/
  | logLevel
deriving DecidableEq

namespace Field

/-- The fields, in the order in which they are declared. -/
def all : List Field := [engine, exitCommands, prompt, logLevel]

/-- The key of a field in the table. -/
def key : Field → Text
  | engine => "engine".toList
  | exitCommands => "exit_commands".toList
  | prompt => "prompt".toList
  | logLevel => "log_level".toList

/-- The value of a field when nothing is said about it. -/
def defaultValue : Field → Toml.Value
  | engine => .string "reduce".toList
  | exitCommands => .array [.string "exit".toList, .string "quit".toList]
  | prompt => .string "> ".toList
  | logLevel => .string "WARNING".toList

/-- The value that the environment gives to a field, unless it is blank. -/
def fromEnvironment (environment : Environment) : Field → Option Text
  | engine =>
    ((environment.lookup "SIMPLECALC_ENGINE".toList).map fun text =>
      text.strip.lower).filter (· ≠ [])
  | logLevel => ((environment.lookup "SIMPLECALC_LOG_LEVEL".toList).map Text.strip).filter (· ≠ [])
  | _ => none

/-- The value of a field in all layers: the environment counts more than the table, and the table
more than the default. -/
def merged (table : Toml.Table) (environment : Environment) (field : Field) : Toml.Value :=
  match field.fromEnvironment environment with
  | some text => .string text
  | none => (table.get? field.key).getD field.defaultValue

/-- Whether a field accepts a value. -/
def accepts : Field → Toml.Value → Bool
  | engine, .string name => name = "reduce".toList || name = "precedence".toList
  | exitCommands, .array items => items.all Toml.Value.isString
  | prompt, .string _ => true
  | logLevel, .string name => LogLevel.all.any fun level => Text.asciiUpper? name = some level.name
  | _, _ => false

/-- Where a value that a field does not accept goes wrong: in some items of an array, or as a
whole. -/
def invalidPlaces (field : Field) (value : Toml.Value) : List Place :=
  match field, value with
  | exitCommands, .array items =>
    (items.findIdxs fun item => !item.isString).map (.item exitCommands.key)
  | field, value => if field.accepts value then [] else [.field field.key]

end Field

/-- The exit commands as they are configured, in any case and with blanks around them. -/
def configuredExitCommands (table : Toml.Table) (environment : Environment) : List Text :=
  match Field.exitCommands.merged table environment with
  | .array items =>
    items.filterMap fun item =>
      match item with
      | .string text => some text
      | _ => none
  | _ => []

/-- The keys of a table that belong to no field, in the order of the table. -/
def strayKeys (table : Toml.Table) : List Text :=
  (table.map Prod.fst).filter fun key => Field.all.all fun field => field.key ≠ key

/-- Every key of the table belongs to a field, and every field accepts its merged value. -/
def Accepts (table : Toml.Table) (environment : Environment) : Prop :=
  strayKeys table = [] ∧ ∀ field : Field, field.accepts (field.merged table environment) = true

/-- Everything that is invalid, the fields first, in their order, and then the keys that belong to
none. -/
def invalidPlaces (table : Toml.Table) (environment : Environment) : List Place :=
  (Field.all.flatMap fun field => field.invalidPlaces (field.merged table environment))
    ++ (strayKeys table).map Place.field

/-- The settings hold some merged values: the engine and the prompt as they are, the log level in
capitals, and the exit commands that are not blank, stripped and in lower case. -/
structure Holds (merged : Field → Toml.Value) (settings : Settings) : Prop where
  /-- The engine, by its name. -/
  engine : merged .engine = .string settings.engine.name
  /-- The exit commands, in their order. -/
  exitCommands : ∃ commands : List Text, merged .exitCommands = .array (commands.map .string)
    ∧ settings.exitCommands = (commands.filter (·.strip ≠ [])).map fun command =>
      command.strip.lower
  /-- The prompt. -/
  prompt : merged .prompt = .string settings.prompt
  /-- The log level, by its name in capitals. -/
  logLevel : ∃ name, merged .logLevel = .string name
    ∧ Text.asciiUpper? name = some settings.logLevel.name

end Settings

end InfixCalculator
