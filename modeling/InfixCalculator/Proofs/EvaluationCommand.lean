import InfixCalculator.Proofs.Engines
import InfixCalculator.Proofs.JsonReading
import InfixCalculator.Proofs.OverlongNumbers
import InfixCalculator.Proofs.Sessions

/-!
# Evaluating one expression

A run that evaluates an expression ends in one of four ways (`CommandLine.run_evaluation`). The
settings cannot be read, and it ends without a word; the settings or the engine that is asked for
are refused; the expression has a value; or it has none. The exit code and the evaluation are the
same for both ways of writing the result, and what is written as JSON is read back with the
expression as it was given.

Settings that cannot be read end a run with another code than settings that are refused
(`CommandLine.exitCode_overlongSettings`).
-/

set_option autoImplicit false

namespace InfixCalculator

/-- Every value of an engine is finite. -/
theorem Engine.isFinite_of_evaluate {engine : Engine} {expression : Text} {value : Binary64}
    (result : (engine.evaluate expression).outcome = .ok value) : value.isFinite = true := by
  cases valid : Expression.validate expression with
  | error fault =>
    rw [outcome_evaluate_of_error engine valid] at result
    cases result
  | ok compact =>
    obtain ⟨e, phrase⟩ := exists_phrase_of_validate valid
    rw [outcome_evaluate engine phrase] at result
    have orderly := engine.orderly_value e
    rw [result] at orderly
    cases orderly with
    | ok canonical => exact canonical.1

namespace CommandLine

/-! ## Settings and engines -/

/-- The settings of a run, as far as they can be had. -/
inductive Configuration where
  /-- The settings are valid. -/
  | valid (settings : Settings)
  /-- The settings are refused. -/
  | invalid
  /-- The settings cannot be read. -/
  | unreadable

/-- The settings that a run finds in its file and in the environment. Nothing can be read at a path
with a null character. -/
def Surroundings.configuration (surroundings : Surroundings) (types : Settings.Types)
    (config : Option Text) : Configuration :=
  if config.any ('\x00' ∈ ·) then .unreadable
  else
    match Settings.load types surroundings.files config surroundings.environment with
    | .ok settings => .valid settings
    | .error fault => if fault.isReported then .invalid else .unreadable

theorem configuration_of_load {surroundings : Surroundings} {types : Settings.Types}
    {config : Option Text} {settings : Settings} (noNull : config.any ('\x00' ∈ ·) = false)
    (loaded : Settings.load types surroundings.files config surroundings.environment
      = .ok settings) :
    surroundings.configuration types config = .valid settings := by
  rw [Surroundings.configuration, if_neg (Bool.eq_false_iff.1 noNull), loaded]

/-- The engine of an evaluation: that with the name that is asked for, in any case and with blanks
around it, or that of the settings if no name or an empty one is asked for. -/
def engineFor? (settings : Settings) : Option Text → Option Engine
  | none => some settings.engine
  | some [] => some settings.engine
  | some name => Engine.ofName? name.strip.lower

theorem toOption_chooseEngine (settings : Settings) (request : Option Text) :
    (chooseEngine settings request).toOption = engineFor? settings request := by
  cases request with
  | none => rfl
  | some name =>
    cases name with
    | nil => rfl
    | cons c name =>
      rw [chooseEngine, Engine.choose, engineFor?]
      · cases Engine.ofName? (Text.lower (Text.strip (c :: name))) <;> rfl
      · exact List.cons_ne_nil c name
      · exact List.cons_ne_nil c name
      · exact List.cons_ne_nil c name

/-! ## What is written -/

/-- Details are not written to the output. -/
theorem output_details (exitCode : Nat) (level : Option LogLevel) (steps : List Step)
    (written : List Emission) :
    Outcome.output ⟨exitCode, level, details steps ++ written⟩
      = Outcome.output ⟨exitCode, level, written⟩ := by
  induction steps with
  | nil => rfl
  | cons step steps ih => exact ih

theorem read?_jsonLines {console : Console} (laws : console.Laws) {entries : List (Text × Json)}
    (finite : ∀ e ∈ entries, e.2.IsFinite) :
      Json.read? (jsonLines console entries) = some entries := by
  rw [jsonLines, laws.writeDocument_eq (Json.isShown_writeObject finite)]
  exact Json.read?_writeObject finite rfl

/-- An action that ends a run is all that the run comes to. -/
theorem run_of_finish {libraries : Libraries} {arguments : List Text} {surroundings : Surroundings}
    {exitCode : Nat} {written : List Emission}
    (ends : (plan libraries arguments surroundings).action = .finish exitCode written)
    (input : Text) :
    run libraries arguments surroundings input
      = ⟨exitCode, (plan libraries arguments surroundings).logLevel, written⟩ := by
  rw [run, ends]

/-- A run shows what an engine makes of an expression. The exit code tells whether there is a value.
A value is written in its plain form, and an error not at all; or what is written is read as JSON
with the expression, and with the value and the name of the engine, or with the class of the error
and its message. -/
def Outcome.Shows (o : Outcome) (engine : Engine) (expression : Text) (json : Bool) : Prop :=
  match (engine.evaluate expression).outcome with
  | .ok value =>
    o.exitCode = 0
      ∧ if json then
          Json.read? o.output = some [("expression".toList, .string expression),
            ("result".toList, .number value),
            ("engine".toList, .string engine.name)]
        else o.output = value.plain ++ ['\n']
  | .error fault =>
    o.exitCode = 1
      ∧ if json then
          Json.read? o.output = some [("expression".toList, .string expression),
            ("error".toList, .string fault.kind.name.toList),
              ("message".toList, .string fault.cause.message)]
        else o.output = []

theorem shows_of_evaluateAction {libraries : Libraries} (laws : libraries.console.Laws)
    {arguments : List Text} {surroundings : Surroundings} {engine : Engine} {expression : Text}
    {json : Bool}
    (acts : (plan libraries arguments surroundings).action
      = evaluateAction libraries.console engine expression json)
    (input : Text) :
    (run libraries arguments surroundings input).Shows engine expression json := by
  unfold evaluateAction at acts
  unfold Outcome.Shows
  dsimp only at acts
  cases result : (engine.evaluate expression).outcome with
  | ok value =>
    rw [result] at acts
    rw [run_of_finish acts, output_details]
    refine ⟨rfl, ?_⟩
    cases json with
    | false => exact (List.append_nil _).trans (valueLine_eq laws value)
    | true =>
      have finite := Engine.isFinite_of_evaluate result
      have entries : ∀ e ∈ valueEntries expression value engine, e.2.IsFinite := by
        simp [valueEntries, Json.IsFinite, finite]
      exact (congrArg Json.read? (List.append_nil _)).trans (read?_jsonLines laws entries)
  | error fault =>
    rw [result] at acts
    rw [run_of_finish acts, output_details]
    refine ⟨rfl, ?_⟩
    cases json with
    | false => rfl
    | true =>
      have entries : ∀ e ∈ errorEntries expression fault.diagnostic, e.2.IsFinite := by
        simp [errorEntries, Json.IsFinite]
      exact (congrArg Json.read? (List.append_nil _)).trans (read?_jsonLines laws entries)

/-! ## The command -/

/-- **A run that evaluates an expression** uses the engine that is asked for, or that of the
settings, and shows what this engine makes of the expression, whichever way the result is written;
the arguments for all of that can be given. Settings or an engine that are refused end it with the
code 2, and settings that cannot be read with the code 1, with nothing on the output. -/
theorem run_evaluation {libraries : Libraries} (laws : libraries.Laws) (surroundings : Surroundings)
    (verbose : Bool) (config request : Option Text) (json : Bool) (expression : Text) :
    libraries.parse (evaluationArguments verbose config request json expression)
        = .ok (.run (evaluation verbose config request json expression))
      ∧ ∀ arguments, libraries.parse arguments
        = .ok (.run (evaluation verbose config request json expression)) →
        ∀ input,
          let o := run libraries arguments surroundings input
          match surroundings.configuration libraries.types config with
          | .unreadable => o.exitCode = 1 ∧ o.output = []
          | .invalid => o.exitCode = 2 ∧ o.output = []
          | .valid settings =>
            match engineFor? settings request with
            | none => o.exitCode = 2 ∧ o.output = []
            | some engine => o.Shows engine expression json := by
  refine ⟨laws.parse.evaluation verbose config request json expression,
    fun arguments parsed input => ?_⟩
  have planned : plan libraries arguments surroundings
      = (evaluation verbose config request json expression).plan libraries surroundings := by
    rw [plan, parsed]
  have acts := congrArg Plan.action planned
  unfold Invocation.plan evaluation at acts
  unfold Surroundings.configuration
  dsimp only at acts ⊢
  by_cases null : config.any ('\x00' ∈ ·) = true
  · rw [if_pos null] at acts ⊢
    rw [run_of_finish acts]
    exact ⟨rfl, rfl⟩
  · rw [if_neg null] at acts ⊢
    cases loaded :
      Settings.load libraries.types surroundings.files config surroundings.environment with
    | error fault =>
      rw [loaded] at acts
      dsimp only at acts ⊢
      by_cases reported : fault.isReported = true
      · rw [if_pos reported] at acts ⊢
        rw [run_of_finish acts]
        exact ⟨rfl, rfl⟩
      · rw [if_neg reported] at acts ⊢
        rw [run_of_finish acts]
        exact ⟨rfl, rfl⟩
    | ok settings =>
      rw [loaded] at acts
      dsimp only [commandAction] at acts ⊢
      rw [← toOption_chooseEngine]
      cases chosen : chooseEngine settings request with
      | error d =>
        rw [chosen] at acts
        rw [run_of_finish acts]
        exact ⟨rfl, rfl⟩
      | ok engine =>
        rw [chosen] at acts
        exact shows_of_evaluateAction laws.console acts input

/-- An expression that starts with a minus, with an engine that is asked for by its name in
capitals. -/
theorem run_evaluation_negative :
    Libraries.standard.Laws
      ∧ Surroundings.configuration ⟨[], [], []⟩ Libraries.standard.types none = .valid .default
      ∧ ∀ json,
          (run .standard (evaluationArguments false none (some "PRECEDENCE".toList) json
            "-2+3".toList)
            ⟨[], [], []⟩ []).Shows .precedence "-2+3".toList json := by
  have loaded : Settings.load Libraries.standard.types [] none [] = .ok .default := by decide
  have configured : Surroundings.configuration ⟨[], [], []⟩ Libraries.standard.types none
      = .valid .default :=
    configuration_of_load rfl loaded
  have chosen : engineFor? .default (some "PRECEDENCE".toList) = some .precedence := by decide
  refine ⟨Libraries.standard_laws, configured, fun json => ?_⟩
  obtain ⟨parsed, ends⟩ := run_evaluation Libraries.standard_laws ⟨[], [], []⟩ false none
    (some "PRECEDENCE".toList) json "-2+3".toList
  have shows := ends _ parsed []
  rw [configured] at shows
  dsimp only at shows
  rw [chosen] at shows
  exact shows

/-! ## Settings that cannot be read -/

/-- A settings file that has a number in the place of the table of the settings. -/
def numberSettings (digits : Text) : Files := [("c.toml".toList, "calculator = ".toList ++ digits)]

theorem load_numberSettings (types : Settings.Types) {digits : Text}
    (long : Toml.IsOverlong digits) :
    Settings.load types (numberSettings digits) (some "c.toml".toList) []
      = .error (.integerTooLong "c.toml".toList) := by
  have plain : '\r' ∉ "calculator = ".toList ++ digits := by
    rw [List.mem_append]
    rintro (key | digit)
    · exact absurd key (by decide)
    · cases long.isDigit _ digit
  have noSpace : digits.dropWhile Toml.isSpace = digits := by
    obtain ⟨c, rest, rfl, digit, -, -⟩ := long.exists_cons
    refine List.dropWhile_cons_of_neg fun space => ?_
    rw [Toml.isSpace, Bool.or_eq_true, decide_eq_true_iff, decide_eq_true_iff] at space
    obtain rfl | rfl := space <;> cases digit
  have assigns : Toml.keyAndEquals ("calculator = ".toList ++ digits)
      = some (["calculator".toList], digits) := by
    show some (["calculator".toList], digits.dropWhile Toml.isSpace) = _
    rw [noSpace]
  have read : Toml.read ("calculator = ".toList ++ digits) = .error .integerTooLong :=
    Toml.read_of_isOverlong plain rfl assigns long
  have table : Settings.fileTable (numberSettings digits) (some "c.toml".toList)
      = Settings.tableOf "c.toml".toList ("calculator = ".toList ++ digits) := rfl
  rw [Settings.load, table, Settings.tableOf, read]

theorem exitCode_of_isOverlong {libraries : Libraries} (laws : libraries.parse.Laws) {digits : Text}
    (long : Toml.IsOverlong digits) (request : Option Text) (json : Bool)
    (expression input : Text) :
    (run libraries (evaluationArguments false (some "c.toml".toList) request json expression)
      ⟨numberSettings digits, [], []⟩ input).exitCode = 1 := by
  have acts :
    (plan libraries (evaluationArguments false (some "c.toml".toList) request json expression)
      ⟨numberSettings digits, [], []⟩).action = .finish 1 [] := by
    rw [plan, laws.evaluation]
    dsimp only [evaluation]
    rw [Invocation.plan, load_numberSettings libraries.types long]
    rfl
  rw [run_of_finish acts]

/-- **Not every error in the settings ends a run with the code 2.** A whole number with too many
digits ends it with the code 1, although the expression has a value. -/
theorem exitCode_overlongSettings :
    let files := numberSettings (List.replicate 4301 '1')
    Settings.load .standard files (some "c.toml".toList) []
      = .error (.integerTooLong "c.toml".toList)
      ∧ (Engine.precedence.evaluate "1+1".toList).outcome.toOption.isSome = true
      ∧ ∀ json,
          (run .standard
            (evaluationArguments false (some "c.toml".toList) (some "precedence".toList) json
              "1+1".toList)
            ⟨files, [], []⟩ []).exitCode = 1 := by
  have long : Toml.IsOverlong (List.replicate 4301 '1') := Toml.isOverlong_replicate (by decide)
  exact ⟨load_numberSettings .standard long, by decide +kernel,
    fun json => exitCode_of_isOverlong parse_laws long _ json _ []⟩

end CommandLine

end InfixCalculator
