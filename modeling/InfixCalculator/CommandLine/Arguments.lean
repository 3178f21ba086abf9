import InfixCalculator.Text.Basic

/-!
# Command line arguments

The arguments are global options, the name of a command, and the options and arguments of that
command. Global options end at the first argument that is no option; the options of a command may
stand anywhere among its arguments, up to `--`. A short option may be joined with others and with
its value, and a long one takes its value as the next argument or after a sign of equality. Of an
option that is given more than once the last value counts.

The program may be given any reading of its arguments (`Parser`); `parse` is the one that is
described here. What is relied on is that a request that is written out in full is read as it is
meant (`Parser.Laws`).
-/

set_option autoImplicit false

namespace InfixCalculator

namespace CommandLine

/-! ## Options -/

/-- The options of the program and of its commands. -/
inductive OptionName where
  /-- Shows the version. -/
  | version
  /-- Logs every step. -/
  | verbose
  /-- Names the settings file. -/
  | config
  /-- Names the engine. -/
  | engine
  /-- Writes the result as JSON. -/
  | json
  /-- Shows the usage. -/
  | help
deriving DecidableEq

/-- How an option is written. -/
structure OptionForm where
  /-- The option. -/
  name : OptionName
  /-- Its long form. -/
  long : Text
  /-- Its short form, if it has one. -/
  short : Option Char
  /-- Whether a value follows it. -/
  takesValue : Bool

/-- The option that shows the usage. -/
def helpForm : OptionForm := ⟨.help, "--help".toList, none, false⟩

/-- The option that names the engine. -/
def engineForm : OptionForm := ⟨.engine, "--engine".toList, some 'e', true⟩

/-- The global options. -/
def globalForms : List OptionForm :=
  [⟨.version, "--version".toList, some 'V', false⟩, ⟨.verbose, "--verbose".toList, some 'v', false⟩,
    ⟨.config, "--config".toList, some 'c', true⟩, helpForm]

/-- An option that was given, with its value if it takes one. -/
abbrev GivenOption := OptionName × Text

/-- What is wrong with the arguments. -/
inductive UsageFault where
  /-- There is no option of this form. -/
  | unknownOption (argument : Text)
  /-- An option lacks its value. -/
  | valueMissing (form : OptionForm)
  /-- A value is given to an option that takes none. -/
  | valueUnexpected (form : OptionForm)
  /-- There is no command of this name. -/
  | unknownCommand (name : Text)
  /-- No command is given. -/
  | commandMissing
  /-- The expression is missing. -/
  | expressionMissing
  /-- There are more arguments than the command takes. -/
  | argumentUnexpected (argument : Text)

/-- What is said about wrong arguments. -/
def UsageFault.message : UsageFault → Text
  | unknownOption argument => "No such option: ".toList ++ argument
  | valueMissing form => "Option needs a value: ".toList ++ form.long
  | valueUnexpected form => "Option takes no value: ".toList ++ form.long
  | unknownCommand name => "No such command: ".toList ++ name
  | commandMissing => "Missing command.".toList
  | expressionMissing => "Missing expression.".toList
  | argumentUnexpected argument => "Unexpected argument: ".toList ++ argument

/-- The part of an argument in front of the first sign of equality, and the part behind it. -/
def splitEquals (argument : Text) : Text × Option Text :=
  match argument.dropWhile (· ≠ '=') with
  | _ :: value => (argument.takeWhile (· ≠ '='), some value)
  | [] => (argument, none)

/-- What an argument made of short options gives: the options, and the one that still needs a
value. -/
def shortOptions (forms : List OptionForm) (argument : Text) :
    Text → Except UsageFault (List GivenOption × Option OptionForm)
  | [] => .ok ([], none)
  | c :: rest =>
    match forms.find? (·.short = some c) with
    | none => .error (.unknownOption argument)
    | some form =>
      if form.takesValue then
        if rest = [] then .ok ([], some form) else .ok ([(form.name, rest)], none)
      else do
        let (given, waiting) ← shortOptions forms argument rest
        .ok ((form.name, []) :: given, waiting)

/-- What an argument that starts with a minus gives. -/
def readOption (forms : List OptionForm) (argument : Text) :
    Except UsageFault (List GivenOption × Option OptionForm) :=
  let (name, value?) := splitEquals argument
  match forms.find? (·.long = name) with
  | some form =>
    match form.takesValue, value? with
    | true, some value => .ok ([(form.name, value)], none)
    | true, none => .ok ([], some form)
    | false, some _ => .error (.valueUnexpected form)
    | false, none => .ok ([(form.name, [])], none)
  | none =>
    match argument with
    | '-' :: '-' :: _ => .error (.unknownOption argument)
    | _ :: shorts => shortOptions forms argument shorts
    | [] => .error (.unknownOption argument)

/-- Whether an argument is read as an option. -/
def isOption : Text → Bool
  | '-' :: _ :: _ => true
  | _ => false

/-- Separates the options from the other arguments. `mixed` says whether options may follow other
arguments; `waiting` is an option whose value comes next. -/
def separate (forms : List OptionForm) (mixed : Bool) :
    Option OptionForm → List Text → Except UsageFault (List GivenOption × List Text)
  | none, [] => .ok ([], [])
  | some form, [] => .error (.valueMissing form)
  | some form, value :: rest => do
    let (given, others) ← separate forms mixed none rest
    .ok ((form.name, value) :: given, others)
  | none, argument :: rest =>
    if argument = ['-', '-'] then .ok ([], rest)
    else if isOption argument then do
      let (first, waiting) ← readOption forms argument
      let (given, others) ← separate forms mixed waiting rest
      .ok (first ++ given, others)
    else if mixed then do
      let (given, others) ← separate forms mixed none rest
      .ok (given, argument :: others)
    else .ok ([], argument :: rest)

/-- The value of an option: the last one given. -/
def valueOf? (name : OptionName) (given : List GivenOption) : Option Text :=
  (given.reverse.find? (·.1 = name)).map (·.2)

/-- Whether an option is given. -/
def isGiven (name : OptionName) (given : List GivenOption) : Bool := given.any (·.1 = name)

/-! ## Commands -/

/-- What the program is asked to do. -/
inductive Command where
  /-- Evaluate an expression. -/
  | evaluate (expression : Text) (engine : Option Text) (json : Bool)
  /-- List the operators. -/
  | operators
  /-- Read expressions line by line. -/
  | session (engine : Option Text)
  /-- Show the usage of a command. -/
  | usage

/-- The options of a command. -/
def commandForms? (name : Text) : Option (List OptionForm) :=
  if name = "eval".toList then some [engineForm, ⟨.json, "--json".toList, none, false⟩, helpForm]
  else if name = "operators".toList then some [helpForm]
  else if name = "repl".toList then some [engineForm, helpForm]
  else none

/-- The command with a name, from its options and arguments. -/
def commandOf (name : Text) (given : List GivenOption) (arguments : List Text) :
    Except UsageFault Command :=
  if isGiven .help given then .ok .usage
  else if name = "eval".toList then
    match arguments with
    | [] => .error .expressionMissing
    | [expression] => .ok (.evaluate expression (valueOf? .engine given) (isGiven .json given))
    | _ :: extra :: _ => .error (.argumentUnexpected extra)
  else
    match arguments with
    | extra :: _ => .error (.argumentUnexpected extra)
    | [] =>
      if name = "operators".toList then .ok .operators
      else .ok (.session (valueOf? .engine given))

/-- The global options and the command of an invocation. A command whose own arguments are wrong is
still run up to that point, after the settings have been loaded. -/
structure Invocation where
  /-- Whether every step is logged. -/
  verbose : Bool
  /-- The settings file that is asked for. -/
  config : Option Text
  /-- The command. -/
  command : Except UsageFault Command

/-- What the arguments ask for. -/
inductive Request where
  /-- Show the version. -/
  | version
  /-- Show the usage. -/
  | usage
  /-- Run a command. -/
  | run (invocation : Invocation)

/-- Reads the arguments of the program. -/
def parse (arguments : List Text) : Except UsageFault Request := do
  if arguments = [] then return .usage
  let (given, rest) ← separate globalForms false none arguments
  if isGiven .version given then return .version
  if isGiven .help given then return .usage
  match rest with
  | [] => .error .commandMissing
  | name :: rest =>
    match commandForms? name with
    | none => .error (.unknownCommand name)
    | some forms =>
      let command := do
        let (options, others) ← separate forms true none rest
        commandOf name options others
      return .run ⟨isGiven .verbose given, valueOf? .config given, command⟩

/-! ## Readings of the arguments -/

/-- A reading of the arguments. -/
abbrev Parser := List Text → Except UsageFault Request

/-- An option that takes a value, if there is one. -/
def optionArguments (name : Text) : Option Text → List Text
  | some value => [name, value]
  | none => []

/-- A global option or an option of a command that takes no value, if it is given. -/
def flagArguments (name : Text) (given : Bool) : List Text := if given then [name] else []

/-- The arguments that ask for the value of an expression. -/
def evaluationArguments (verbose : Bool) (config request : Option Text) (json : Bool)
    (expression : Text) : List Text :=
  flagArguments "--verbose".toList verbose ++ optionArguments "--config".toList config
    ++ "eval".toList :: optionArguments "--engine".toList request
      ++ flagArguments "--json".toList json
    ++ ["--".toList, expression]

/-- The invocation that evaluates an expression. -/
def evaluation (verbose : Bool) (config request : Option Text) (json : Bool)
    (expression : Text) : Invocation :=
  ⟨verbose, config, .ok (.evaluate expression request json)⟩

/-- The arguments that ask for a session with an engine. -/
def sessionArguments (engine : Text) : List Text :=
  "repl".toList :: optionArguments "--engine".toList engine

/-- What the program relies on when its arguments are read. -/
structure Parser.Laws (parse : Parser) : Prop where
  /-- Behind `--` stands the expression, whatever it starts with. -/
  evaluation : ∀ verbose config request json expression,
    parse (evaluationArguments verbose config request json expression)
      = .ok (.run (evaluation verbose config request json expression))
  /-- A session is asked for by its name, with the name of an engine. -/
  session : ∀ engine, parse (sessionArguments engine)
    = .ok (.run ⟨false, none, .ok (.session engine)⟩)

theorem parse_laws : Parser.Laws parse where
  evaluation verbose config request json expression := by
    cases verbose <;> cases config <;> cases request <;> cases json <;> rfl
  session _ := rfl

end CommandLine

end InfixCalculator
