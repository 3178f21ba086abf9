import InfixCalculator.CommandLine.LineByLine
import InfixCalculator.CommandLine.Run
import InfixCalculator.Proofs.NumberTokens
import InfixCalculator.Proofs.SettingsLayers

/-!
# Sessions have no memory

A session answers each of its lines as if there were no others, up to the first exit command
(`CommandLine.Session.line_by_line`).

One line is answered by what it brings forth by itself, and leaves the session as it was but for the
number of values (`CommandLine.Session.respond_of_not_isExit`); the number is shown in the farewell
only. What a whole input is answered by follows by induction on its lines.
-/

set_option autoImplicit false

namespace InfixCalculator

/-- A number in plain form is made of printed characters, and has no colon. -/
theorem Binary64.isShown_plain (x : Binary64) :
    x.plain.all Console.isShown = true ∧ ':' ∉ x.plain := by
  cases finite : x.isFinite with
  | true =>
    have parts {c : Char} (member : c ∈ x.plain) : Console.isShown c = true ∧ c ≠ ':' :=
      Literal.forall_isPart (fun c => Console.isShown c = true ∧ c ≠ ':')
        (by decide) (by decide) (by decide)
        (Literal.isPart_of_mem (Binary64.isLiteral_plain finite) member)
    exact ⟨List.all_eq_true.2 fun c member => (parts member).1, fun colon => (parts colon).2 rfl⟩
  | false =>
    cases x with
    | finite => cases finite
    | infinite negative => cases negative <;> decide
    | notANumber => decide

/-- The exit commands of accepted settings are those that are configured, in their normal form. -/
theorem Settings.exitCommands_of_ofLayers {types : Types} (laws : types.Laws) {table : Toml.Table}
    {environment : Environment} {settings : Settings}
    (valid : ofLayers types table environment = .ok settings) :
    settings.exitCommands = ((configuredExitCommands table environment).filter (·.strip ≠ [])).map
      fun command => command.strip.lower := by
  have judged := judged_ofLayers table environment laws
  rw [valid] at judged
  cases judged with
  | accepted accepts holds =>
    obtain ⟨commands, same, stored⟩ := holds.exitCommands
    have configured : configuredExitCommands table environment = commands := by
      rw [configuredExitCommands, same]
      simp [List.filterMap_map]
    rw [configured, stored]

namespace CommandLine

/-- A value is shown on a line of its own, in plain form. -/
theorem valueLine_eq {console : Console} (laws : console.Laws) (value : Binary64) :
    valueLine console value = value.plain ++ ['\n'] := by
  obtain ⟨shown, noColon⟩ := value.isShown_plain
  rw [valueLine, laws.writeText_eq shown noColon]

namespace Session

/-! ## One line -/

/-- The session after some more lines have had a value. -/
def advanced (s : Session) (count : Nat) : Session := { s with evaluated := s.evaluated + count }

/-- The exit commands of a session are some that are configured, in their normal form. -/
def Knows (s : Session) (commands : List Text) : Prop :=
  s.exitCommands = (commands.filter (·.strip ≠ [])).map fun command => command.strip.lower

variable {commands : List Text} {s : Session}

@[simp] theorem console_advanced (count : Nat) : (s.advanced count).console = s.console := rfl

@[simp] theorem engine_advanced (count : Nat) : (s.advanced count).engine = s.engine := rfl

@[simp] theorem ask_advanced (count : Nat) : (s.advanced count).ask = s.ask := rfl

@[simp] theorem advanced_advanced (m n : Nat) : (s.advanced m).advanced n = s.advanced (m + n) := by
  simp only [advanced, Nat.add_assoc]

theorem any_exitCommands_iff (knows : s.Knows commands) (text : Text) :
    s.exitCommands.any (· = text.lower) = true
      ↔ ∃ command ∈ commands, command.strip ≠ [] ∧ text.lower = command.strip.lower := by
  rw [knows, List.any_eq_true]
  simp only [List.mem_map, List.mem_filter, decide_eq_true_eq]
  constructor
  · rintro ⟨_, ⟨command, ⟨member, filled⟩, rfl⟩, same⟩
    exact ⟨command, member, filled, same.symm⟩
  · rintro ⟨command, member, filled, same⟩
    exact ⟨command.strip.lower, ⟨command, ⟨member, filled⟩, rfl⟩, same.symm⟩

theorem respond_of_isExit (knows : s.Knows commands) {line : Text} (ends : IsExit commands line) :
    s.respond line = ([], none) := by
  obtain ⟨filled, found⟩ := ends
  have exit : s.classify line = .exit := by
    unfold classify
    split
    · rename_i blank
      exact absurd blank filled
    · rw [if_pos ((any_exitCommands_iff knows line.strip).2 found)]
  rw [respond, exit]

theorem evaluate_eq (laws : s.console.Laws) (expression : Text) :
    s.evaluate expression
      = (details (s.engine.evaluate expression).steps
          ++ [reply s.console (s.engine.evaluate expression).outcome],
        s.advanced (if (s.engine.evaluate expression).outcome.toOption.isSome then 1 else 0)) := by
  unfold evaluate
  dsimp only
  cases (s.engine.evaluate expression).outcome with
  | ok value =>
    dsimp only
    rw [valueLine_eq laws]
    rfl
  | error fault => rfl

/-- **A line that does not end the session** is answered by what it brings forth by itself, and only
the number of values goes on to the next one. -/
theorem respond_of_not_isExit (laws : s.console.Laws) (knows : s.Knows commands) {line : Text}
    (goesOn : ¬IsExit commands line) :
    s.respond line
      = (broughtForth s.console s.engine line,
        some (s.advanced (if hasValue s.engine line then 1 else 0))) := by
  unfold respond classify broughtForth hasValue
  cases text : line.strip with
  | nil => rfl
  | cons c rest =>
    have other : ¬s.exitCommands.any (· = Text.lower (c :: rest)) = true := by
      rw [any_exitCommands_iff knows, ← text]
      exact fun found => goesOn ⟨by rw [text]; exact List.cons_ne_nil c rest, found⟩
    dsimp only
    rw [if_neg other]
    dsimp only
    rw [evaluate_eq laws]

/-! ## All lines -/

theorem processed_cons_of_isExit {line : Text} (ends : IsExit commands line) (rest : List Text) :
    processed commands (line :: rest) = [] :=
  List.takeWhile_cons_of_neg (by simpa using ends)

theorem processed_cons_of_not {line : Text} (goesOn : ¬IsExit commands line) (rest : List Text) :
    processed commands (line :: rest) = line :: processed commands rest :=
  List.takeWhile_cons_of_pos (by simpa using goesOn)

theorem processed_append {lines : List Text} (goesOn : ∀ line ∈ lines, ¬IsExit commands line)
    (rest : List Text) :
    processed commands (lines ++ rest) = lines ++ processed commands rest :=
  List.takeWhile_append_of_pos fun line member => by simpa using goesOn line member

theorem replies_eq (laws : s.console.Laws) (knows : s.Knows commands) (lines : List Text) :
    s.replies lines = (processed commands lines).flatMap (broughtForth s.console s.engine) := by
  induction lines generalizing s with
  | nil => rfl
  | cons line rest ih =>
    rw [replies]
    by_cases ends : IsExit commands line
    · rw [respond_of_isExit knows ends, processed_cons_of_isExit ends]
      rfl
    · have later := ih (s := s.advanced (if hasValue s.engine line then 1 else 0)) laws knows
      rw [respond_of_not_isExit laws knows ends, processed_cons_of_not ends, List.flatMap_cons]
      dsimp only
      rw [later, console_advanced, engine_advanced]

/-- **All that is written**: the prompt in front of each line that is processed and what this line
brings forth, one more prompt, and the number of values; the end of the input writes a line end. -/
theorem transcript_eq (laws : s.console.Laws) (knows : s.Knows commands) (lines : List Text) :
    s.transcript lines
      = (processed commands lines).flatMap (fun line =>
        s.ask :: broughtForth s.console s.engine line)
        ++ s.ask :: (if processed commands lines = lines then [.output ['\n']] else [])
        ++ (s.advanced ((processed commands lines).countP (hasValue s.engine))).farewell := by
  induction lines generalizing s with
  | nil => rfl
  | cons line rest ih =>
    rw [transcript]
    by_cases ends : IsExit commands line
    · rw [respond_of_isExit knows ends, processed_cons_of_isExit ends,
        if_neg (List.cons_ne_nil line rest).symm]
      rfl
    · have later := ih (s := s.advanced (if hasValue s.engine line then 1 else 0)) laws knows
      rw [respond_of_not_isExit laws knows ends, processed_cons_of_not ends, List.countP_cons,
        List.flatMap_cons]
      dsimp only
      rw [later, console_advanced, engine_advanced, ask_advanced, advanced_advanced,
        Nat.add_comm (List.countP _ _)]
      simp only [List.cons_append, List.append_assoc, List.cons.injEq, true_and]

end Session

/-! ## Whole runs -/

/-- A line ends with its line feed. -/
theorem linesFrom_append {line : Text} (noFeed : '\n' ∉ line) (noReturn : '\r' ∉ line)
    (before rest : Text) :
    linesFrom before (line ++ '\n' :: rest) = (before.reverse ++ line) :: linesFrom [] rest := by
  induction line generalizing before with
  | nil => rw [List.nil_append, linesFrom, List.append_nil]
  | cons c line ih =>
    rw [List.mem_cons, not_or] at noFeed noReturn
    have next : linesFrom before (c :: (line ++ '\n' :: rest))
        = linesFrom (c :: before) (line ++ '\n' :: rest) := by
      rw [linesFrom]
      · rintro _ rfl
        exact absurd rfl noReturn.1
      · rintro rfl
        exact absurd rfl noReturn.1
      · rintro rfl
        exact absurd rfl noFeed.1
    rw [List.cons_append, next, ih noFeed.2 noReturn.2, List.reverse_cons, List.append_assoc]
    rfl

/-- **Lines that are typed** one after another are the lines of the input. -/
theorem inputLines_typed {lines : List Text} (plain : ∀ line ∈ lines, '\n' ∉ line ∧ '\r' ∉ line) :
    inputLines (lines.flatMap fun line => line ++ ['\n']) = lines := by
  unfold inputLines
  induction lines with
  | nil => rfl
  | cons line rest ih =>
    have first := plain line List.mem_cons_self
    rw [List.flatMap_cons, List.append_assoc, List.singleton_append,
      linesFrom_append first.1 first.2,
      ih fun line member => plain line (List.mem_cons_of_mem _ member)]
    rfl

theorem Libraries.standard_laws : Libraries.standard.Laws where
  parse := parse_laws
  types := Settings.Types.standard_laws
  console := Console.standard_laws

/-- A session can be started with each engine in all settings that are accepted. -/
theorem plan_repl {libraries : Libraries} (laws : libraries.Laws) {surroundings : Surroundings}
    {settings : Settings}
    (loaded : Settings.load libraries.types surroundings.files none surroundings.environment
      = .ok settings)
    (engine : Engine) :
    plan libraries ["repl".toList, "--engine".toList, engine.name] surroundings
      = ⟨some settings.logLevel,
        .converse ⟨libraries.console, engine, settings.exitCommands, settings.prompt, 0⟩⟩ := by
  have parsed : libraries.parse ["repl".toList, "--engine".toList, engine.name]
      = .ok (.run ⟨false, none, .ok (.session (some engine.name))⟩) :=
        laws.parse.session engine.name
  have chosen : chooseEngine settings (some engine.name) = .ok engine := by
    cases engine <;> rfl
  rw [plan, parsed]
  show Invocation.plan _ libraries surroundings = _
  unfold Invocation.plan
  rw [loaded]
  show (⟨some settings.logLevel,
    commandAction libraries.console settings (.session (some engine.name))⟩ : Plan) = _
  rw [commandAction, chosen]

end CommandLine

end InfixCalculator
