import InfixCalculator.CommandLine.Arguments
import InfixCalculator.CommandLine.Session
import InfixCalculator.Console.Layout
import InfixCalculator.Json
import InfixCalculator.Settings.File

/-!
# Running a command

The outcome of a run is a pure function of the arguments, the files, the environment variables and
the input: an exit code, the log level that was set, and all that is written. Wrong settings and
unknown engines end a run with the code 2, an expression without a value with the code 1.

The program does not read its arguments, check the types of its settings and show its texts by
itself. It leaves that to libraries (`Libraries`), of which it needs no more than `Libraries.Laws`
says.
-/

set_option autoImplicit false

namespace InfixCalculator

namespace CommandLine

/-- What the program is built on. -/
structure Libraries where
  /-- How the arguments are read. -/
  parse : Parser
  /-- How values of the settings are checked against their types. -/
  types : Settings.Types
  /-- What the console makes of what is written to it. -/
  console : Console

/-- What the program relies on. -/
structure Libraries.Laws (libraries : Libraries) : Prop where
  /-- Requests are read as they are meant. -/
  parse : libraries.parse.Laws
  /-- The types of the settings are checked. -/
  types : libraries.types.Laws
  /-- Printed characters are sent as they are. -/
  console : libraries.console.Laws

/-- The libraries by default. -/
def Libraries.standard : Libraries := ⟨CommandLine.parse, .standard, .standard⟩

/-- What a run has to work with. -/
structure Surroundings where
  /-- The files that can be read. -/
  files : Files
  /-- The environment variables. -/
  environment : Settings.Environment
  /-- What the program runs on, for the version. -/
  platform : Text

/-- What is to happen after the settings have been loaded. -/
inductive Action where
  /-- Nothing more than writing. -/
  | finish (exitCode : Nat) (written : List Emission)
  /-- A session that reads the input. -/
  | converse (session : Session)

/-- An action, and the log level that was set before it. -/
structure Plan where
  /-- The log level, unless the run ends before it is set. -/
  logLevel : Option LogLevel
  /-- What is to happen. -/
  action : Action

/-- The outcome of a run. -/
structure Outcome where
  /-- The exit code. -/
  exitCode : Nat
  /-- The log level, unless the run ended before it was set. -/
  logLevel : Option LogLevel
  /-- What is written, in order. -/
  written : List Emission

/-! ## What is written -/

/-- The lines that show the version. -/
def versionLines (platform : Text) : Text :=
  "simplecalc ".toList ++ Session.version ++ '\n' :: platform ++ "\nEngines: ".toList
    ++ Engine.names
    ++ ['\n']

/-- The usage of the program. -/
def usageLines : Text :=
  "Usage: simplecalc [--version] [--verbose] [--config FILE] COMMAND\n".toList
    ++ "Commands: eval [--engine NAME] [--json] EXPRESSION, operators, ".toList
    ++ "repl [--engine NAME]\n".toList

/-- A cell of the table of operators, filled up with blanks. -/
def cell (alignRight : Bool) (width : Nat) (text : Text) : Text :=
  let blanks := List.replicate (width - text.length) ' '
  ' ' :: (if alignRight then blanks ++ text else text ++ blanks) ++ [' ']

/-- A row of the table of operators. -/
def operatorRow (op : Operator) : Text :=
  '│' :: cell true 4 (Text.ofNat op.rank) ++ '│' :: cell false 6 [op.symbol]
    ++ '│' :: cell false 8 op.name.toList ++ "│\n".toList

/-- The table of operators. -/
def operatorTable : Text :=
  "Operators\n┏━━━━━━┳━━━━━━━━┳━━━━━━━━━━┓\n".toList ++ "┃ Rank ┃ Symbol ┃ Name     ┃\n".toList
    ++ "┡━━━━━━╇━━━━━━━━╇━━━━━━━━━━┩\n".toList ++ Operator.all.flatMap operatorRow
    ++ "└──────┴────────┴──────────┘\n".toList

/-- A JSON object on the output. -/
def jsonLines (console : Console) (entries : List (Text × Json)) : Text :=
  console.writeDocument (Json.writeObject entries) ++ ['\n']

/-- The entries that tell a value. -/
def valueEntries (expression : Text) (value : Binary64) (engine : Engine) : List (Text × Json) :=
  [("expression".toList, .string expression), ("result".toList, .number value),
    ("engine".toList, .string engine.name)]

/-- The entries that tell an error. -/
def errorEntries (expression : Text) (d : Diagnostic) : List (Text × Json) :=
  [("expression".toList, .string expression), ("error".toList, .string d.kind.name.toList),
    ("message".toList, .string d.message)]

/-! ## Actions -/

/-- An error that ends the run with a code. -/
def stop (console : Console) (exitCode : Nat) (d : Diagnostic) : Action :=
  .finish exitCode [.error (console.errorLine d.render)]

/-- The engine that is asked for, or else that of the settings. -/
def chooseEngine (settings : Settings) (request : Option Text) : Except Diagnostic Engine :=
  match request with
  | none => .ok settings.engine
  | some [] => .ok settings.engine
  | some name => Engine.choose (some name)

/-- Evaluates one expression. -/
def evaluateAction (console : Console) (engine : Engine) (expression : Text)
    (json : Bool) : Action :=
  let result := engine.evaluate expression
  match result.outcome with
  | .ok value =>
    let shown :=
      if json then jsonLines console (valueEntries expression value engine)
      else valueLine console value
    .finish 0 (details result.steps ++ [.output shown])
  | .error fault =>
    let d := fault.diagnostic
    let shown :=
      if json then .output (jsonLines console (errorEntries expression d))
      else .error (console.errorLine d.render)
    .finish 1 (details result.steps ++ [shown])

/-- What a command does with the settings. -/
def commandAction (console : Console) (settings : Settings) : Command → Action
  | .evaluate expression request json =>
    match chooseEngine settings request with
    | .error d => stop console 2 d
    | .ok engine => evaluateAction console engine expression json
  | .operators => .finish 0 [.output operatorTable]
  | .session request =>
    match chooseEngine settings request with
    | .error d => stop console 2 d
    | .ok engine => .converse ⟨console, engine, settings.exitCommands, settings.prompt, 0⟩
  | .usage => .finish 0 [.output usageLines]

/-- Arguments that are wrong. -/
def usageAction (console : Console) (fault : UsageFault) : Action :=
  .finish 2 [.error (usageLines ++ console.errorLine fault.message)]

/-- What an invocation does. A path with a null character cannot be looked up and ends it at
once. -/
def Invocation.plan (invocation : Invocation) (libraries : Libraries)
    (surroundings : Surroundings) : Plan :=
  if invocation.config.any ('\x00' ∈ ·) then ⟨none, .finish 1 []⟩
  else
    match Settings.load libraries.types surroundings.files invocation.config
      surroundings.environment with
    | .error fault =>
      ⟨none, if fault.isReported then stop libraries.console 2 fault.diagnostic else .finish 1 []⟩
    | .ok settings =>
      ⟨some (if invocation.verbose then .debug else settings.logLevel),
        match invocation.command with
        | .error fault => usageAction libraries.console fault
        | .ok command => commandAction libraries.console settings command⟩

/-- What the arguments lead to. -/
def plan (libraries : Libraries) (arguments : List Text) (surroundings : Surroundings) : Plan :=
  match libraries.parse arguments with
  | .error fault => ⟨none, usageAction libraries.console fault⟩
  | .ok .version => ⟨none, .finish 0 [.output (versionLines surroundings.platform)]⟩
  | .ok .usage => ⟨none, .finish 0 [.output usageLines]⟩
  | .ok (.run invocation) => invocation.plan libraries surroundings

/-- Runs the program on a whole input. -/
def run (libraries : Libraries) (arguments : List Text) (surroundings : Surroundings)
    (input : Text) :
    Outcome :=
  let plan := plan libraries arguments surroundings
  match plan.action with
  | .finish exitCode written => ⟨exitCode, plan.logLevel, written⟩
  | .converse session =>
    ⟨0, plan.logLevel, session.greeting ++ session.transcript (inputLines input)⟩

namespace Outcome

/-- All that is written to the output. -/
def output (o : Outcome) : Text :=
  o.written.flatMap fun emission =>
    match emission with
    | .output text => text
    | _ => []

/-- All that is written to the error output, apart from the log. -/
def errors (o : Outcome) : Text :=
  o.written.flatMap fun emission =>
    match emission with
    | .error text => text
    | _ => []

/-- The log: details appear only at the most detailed level. -/
def log (o : Outcome) : List Text :=
  if o.logLevel = some .debug then
    o.written.filterMap fun emission =>
      match emission with
      | .detail message => some message
      | _ => none
  else []

end Outcome

end CommandLine

end InfixCalculator
