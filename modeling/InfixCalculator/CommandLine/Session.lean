import InfixCalculator.Console.Basic
import InfixCalculator.Settings.Basic

/-!
# Sessions

A session reads expressions line by line. A blank line is passed over, an exit command ends the
session, and every other line is evaluated: its value is printed, or the error is reported and the
session goes on. Lines do not influence one another; only the number of values is kept.

`Session.respond` answers one line, and `Session.transcript` a whole input.
-/

set_option autoImplicit false

namespace InfixCalculator

namespace CommandLine

/-- A piece of what the program writes. -/
inductive Emission where
  /-- Written to the output. -/
  | output (text : Text)
  /-- Written to the error output. -/
  | error (text : Text)
  /-- Logged as a detail. -/
  | detail (message : Text)
deriving DecidableEq

/-- The details that are logged for the steps of an evaluation. -/
def details (steps : List Step) : List Emission := steps.map fun step => .detail step.message

/-- The line that shows a value. -/
def valueLine (console : Console) (value : Binary64) : Text :=
  console.writeText value.plain ++ ['\n']

/-- A session under way. -/
structure Session where
  /-- The console that it writes to. -/
  console : Console
  /-- The engine that evaluates the lines. -/
  engine : Engine
  /-- The lines that end the session, stripped and in lower case. -/
  exitCommands : List Text
  /-- What is shown in front of each line. -/
  prompt : Text
  /-- How many lines have had a value. -/
  evaluated : Nat

namespace Session

/-- The version of the program. -/
def version : Text := "0.3.0".toList

/-- What a session shows before its first line. -/
def greeting (s : Session) : List Emission :=
  let hint :=
    match Text.join " or ".toList s.exitCommands with
    | [] => "Ctrl-D".toList
    | commands => commands
  let operators := Text.join [' '] (Operator.all.map Operator.label)
  [.output (s.console.markupLine ("[bold]simplecalc[/bold] ".toList ++ version ++ " (".toList
      ++ s.engine.name ++ " engine)".toList)),
    .output (s.console.markupLine ("Operators: ".toList ++ s.console.escape operators)),
    .output (s.console.markupLine ("[dim]Type ".toList ++ s.console.escape hint
      ++ " to leave.[/dim]".toList))]

/-- The prompt. -/
def ask (s : Session) : Emission := .output (s.console.promptText s.prompt)

/-- What a line asks of a session. -/
inductive Line where
  /-- Nothing: it is blank. -/
  | blank
  /-- To end. -/
  | exit
  /-- To evaluate an expression. -/
  | expression (text : Text)
deriving DecidableEq

/-- Reads a line. -/
def classify (s : Session) (line : Text) : Line :=
  match line.strip with
  | [] => .blank
  | text => if s.exitCommands.any (· = text.lower) then .exit else .expression text

/-- What is written in answer to an expression, and the session after it. -/
def evaluate (s : Session) (expression : Text) : List Emission × Session :=
  let result := s.engine.evaluate expression
  match result.outcome with
  | .ok value =>
    (details result.steps ++ [.output (valueLine s.console value)],
      { s with evaluated := s.evaluated + 1 })
  | .error fault =>
    (details result.steps ++ [.error (s.console.errorLine fault.diagnostic.render)], s)

/-- What is written in answer to a line, and the session after it unless the line ended it. -/
def respond (s : Session) (line : Text) : List Emission × Option Session :=
  match s.classify line with
  | .blank => ([], some s)
  | .exit => ([], none)
  | .expression text =>
    let (written, next) := s.evaluate text
    (written, some next)

/-- What is logged when a session is over. -/
def farewell (s : Session) : List Emission :=
  [.detail ("REPL finished after ".toList ++ Text.ofNat s.evaluated ++ " expressions".toList)]

/-- All that a session writes for the rest of its input; the end of the input writes a line end. -/
def transcript (s : Session) : List Text → List Emission
  | [] => s.ask :: .output ['\n'] :: s.farewell
  | line :: rest =>
    match s.respond line with
    | (written, none) => s.ask :: written ++ s.farewell
    | (written, some next) => s.ask :: written ++ next.transcript rest

end Session

/-! ## Lines of the input -/

/-- The lines of an input, which end with a line feed, a carriage return, or both; `line` holds what
has been read of the current one, the nearest character first. -/
def linesFrom (line : Text) : Text → List Text
  | [] => if line = [] then [] else [line.reverse]
  | '\r' :: '\n' :: rest => line.reverse :: linesFrom [] rest
  | '\r' :: rest => line.reverse :: linesFrom [] rest
  | '\n' :: rest => line.reverse :: linesFrom [] rest
  | c :: rest => linesFrom (c :: line) rest

/-- The lines of an input. -/
def inputLines (input : Text) : List Text := linesFrom [] input

end CommandLine

end InfixCalculator
