import InfixCalculator.CommandLine.Run

/-!
# The program

Reads the arguments, the environment and the settings file, and carries out what `CommandLine.plan`
decides. A session is answered line by line as the input arrives.
-/

set_option autoImplicit false

namespace InfixCalculator

namespace CommandLine

/-- Writes one piece of what the program writes. -/
def Emission.perform (logLevel : Option LogLevel) (emission : Emission) : IO Unit :=
  match emission with
  | .output text => do
    let out ← IO.getStdout
    out.putStr (String.ofList text)
    out.flush
  | .error text => IO.eprint (String.ofList text)
  | .detail message =>
    if logLevel = some .debug then IO.eprintln ("[DEBUG] " ++ String.ofList message) else pure ()

/-- Answers lines until one of them ends the session. -/
def Session.answer (logLevel : Option LogLevel) (session : Session) :
    List Text → IO (Option Session)
  | [] => pure (some session)
  | line :: rest => do
    let (written, next?) := session.respond line
    written.forM (·.perform logLevel)
    match next? with
    | none =>
      session.farewell.forM (·.perform logLevel)
      pure none
    | some next =>
      if rest ≠ [] then next.ask.perform logLevel
      next.answer logLevel rest

/-- Reads the input up to its end or to an exit command. -/
partial def Session.converse (logLevel : Option LogLevel) (session : Session) : IO Unit := do
  session.ask.perform logLevel
  let line ← (← IO.getStdin).getLine
  if line.isEmpty then
    (Emission.output ['\n']).perform logLevel
    session.farewell.forM (·.perform logLevel)
  else
    match ← session.answer logLevel (inputLines line.toList) with
    | some next => next.converse logLevel
    | none => pure ()

/-- The contents of the file at a path, as a file of the surroundings. -/
def readFile (path : Text) : IO Files := do
  try
    let contents ← IO.FS.readFile (String.ofList path)
    pure [(path, contents.toList)]
  catch _ => pure []

/-- The settings file that the arguments ask for. -/
def settingsPath (arguments : List Text) : Text :=
  match Libraries.standard.parse arguments with
  | .ok (.run invocation) => invocation.config.getD Settings.defaultPath
  | _ => Settings.defaultPath

/-- The environment variables that the settings look at. -/
def readEnvironment : IO Settings.Environment := do
  let names := ["SIMPLECALC_ENGINE", "SIMPLECALC_LOG_LEVEL"]
  names.filterMapM fun name => do
    let value? ← IO.getEnv name
    pure (value?.map fun value => (name.toList, value.toList))

end CommandLine

end InfixCalculator

open InfixCalculator CommandLine in
/-- Runs the calculator on the arguments of the command line. -/
def main (arguments : List String) : IO UInt32 := do
  let arguments := arguments.map String.toList
  let files ← readFile (settingsPath arguments)
  let surroundings : Surroundings := ⟨files, ← readEnvironment, "Lean 4".toList⟩
  let plan := plan .standard arguments surroundings
  match plan.action with
  | .finish exitCode written =>
    written.forM (·.perform plan.logLevel)
    return exitCode.toUInt32
  | .converse session =>
    session.greeting.forM (·.perform plan.logLevel)
    session.converse plan.logLevel
    return 0
