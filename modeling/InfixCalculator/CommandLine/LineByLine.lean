import InfixCalculator.CommandLine.Session

/-!
# A session line by line

What each line of a session brings forth by itself. The lines up to the first exit command are
processed; a blank line brings forth nothing, and every other one exactly one reply, the value of
its expression or the error, behind the details of the evaluation.
-/

set_option autoImplicit false

namespace InfixCalculator

namespace CommandLine

/-- Whether a line is one of some exit commands, apart from case and from blanks around them.
Neither a blank line nor a blank command counts. -/
def IsExit (commands : List Text) (line : Text) : Prop :=
  line.strip ≠ [] ∧ ∃ command ∈ commands, command.strip ≠ []
    ∧ line.strip.lower = command.strip.lower

instance (commands : List Text) (line : Text) : Decidable (IsExit commands line) :=
  inferInstanceAs (Decidable (_ ∧ _))

/-- The lines in front of the first exit command. -/
def processed (commands lines : List Text) : List Text :=
  lines.takeWhile fun line => ¬IsExit commands line

/-- The reply to an expression: a line with its value on the output, or the error on the error
output. -/
def reply (console : Console) : Except Fault Binary64 → Emission
  | .ok value => .output (value.plain ++ ['\n'])
  | .error fault => .error (console.errorLine fault.diagnostic.render)

/-- What a line that is processed brings forth. -/
def broughtForth (console : Console) (engine : Engine) (line : Text) : List Emission :=
  match line.strip with
  | [] => []
  | expression =>
    let result := engine.evaluate expression
    details result.steps ++ [reply console result.outcome]

/-- Whether a line has a value. -/
def hasValue (engine : Engine) (line : Text) : Bool :=
  match line.strip with
  | [] => false
  | expression => (engine.evaluate expression).outcome.toOption.isSome

/-- All that a session writes in answer to its lines, without the prompts and the farewell. -/
def Session.replies (s : Session) : List Text → List Emission
  | [] => []
  | line :: rest =>
    match s.respond line with
    | (written, none) => written
    | (written, some next) => written ++ next.replies rest

end CommandLine

end InfixCalculator
