import InfixCalculator.Proofs.Results
import InfixCalculator.Settings.Field
import InfixCalculator.Settings.File

/-!
# Settings are merged before they are checked

The settings that are loaded hold the merged values of the fields, and loading fails exactly when
one of these is not accepted or a key of the table belongs to no field; then everything that is
invalid is reported, and nothing else (`Settings.load_merged`). A value of the table that the
environment overrides is not looked at, even when it is invalid.

Each field is judged by its own check: what the check of its merged value gives is a setting that
holds the value, or the places where the value goes wrong (`Settings.Field.Judged`). One lemma says
so of all fields (`Settings.Field.judged_checkValue`), from what their types are relied on for
(`Settings.Types.Laws`). The settings are the four checks and the unknown keys put together
(`Settings.judged_ofLayers`).
-/

set_option autoImplicit false

namespace InfixCalculator

namespace Settings

/-! ## Layers -/

namespace Field

variable (table : Toml.Table) (environment : Environment)

theorem fromEnvironment_engine :
    engine.fromEnvironment environment = engineVariable? environment := by
  unfold fromEnvironment engineVariable?
  cases environment.lookup "SIMPLECALC_ENGINE".toList with
  | none => rfl
  | some text =>
    rw [Option.map_some, Option.getD_some]
    cases text.strip.lower <;> rfl

theorem fromEnvironment_logLevel :
    logLevel.fromEnvironment environment = logLevelVariable? environment := by
  unfold fromEnvironment logLevelVariable?
  cases environment.lookup "SIMPLECALC_LOG_LEVEL".toList with
  | none => rfl
  | some text =>
    rw [Option.map_some, Option.getD_some]
    cases text.strip <;> rfl

/-- The merged value is the default where neither the environment nor the table has a value. -/
theorem merged_eq (field : Field) :
    field.merged table environment
      = (layered (field.fromEnvironment environment) table field.key).getD field.defaultValue := by
  unfold merged layered
  cases field.fromEnvironment environment <;> rfl

theorem merged_engine :
    engine.merged table environment
      = (layered (engineVariable? environment) table engineKey).getD engine.defaultValue := by
  rw [merged_eq, fromEnvironment_engine]
  rfl

theorem merged_logLevel :
    logLevel.merged table environment
      = (layered (logLevelVariable? environment) table logLevelKey).getD logLevel.defaultValue := by
  rw [merged_eq, fromEnvironment_logLevel]
  rfl

end Field

/-! ## Strings and names -/

/-- An engine that is found by a name has this name. -/
theorem ofName?_eq_some {name : Text} {engine : Engine} :
    Engine.ofName? name = some engine ↔ name = engine.name := by
  constructor
  · intro found
    have same := List.find?_some found
    exact (of_decide_eq_true same).symm
  · rintro rfl
    cases engine <;> rfl

/-- An array of which every item is a string is one of texts. -/
theorem all_isString_iff {items : List Toml.Value} :
    items.all Toml.Value.isString = true ↔ ∃ texts : List Text, items = texts.map .string := by
  constructor
  · intro strings
    induction items with
    | nil => exact ⟨[], rfl⟩
    | cons item items ih =>
      rw [List.all_cons, Bool.and_eq_true] at strings
      obtain ⟨texts, rfl⟩ := ih strings.2
      cases item with
      | string text => exact ⟨text :: texts, rfl⟩
      | _ => cases strings.1
  · rintro ⟨texts, rfl⟩
    rw [List.all_map]
    exact List.all_eq_true.2 fun _ _ => rfl

/-- A log level is found by its name, in any case. -/
theorem logLevelOf_eq_ok {name : Text} {level : LogLevel} :
    logLevelOf name = .ok level ↔ Text.asciiUpper? name = some level.name := by
  unfold logLevelOf LogLevel.ofName?
  cases Text.asciiUpper? name with
  | none => simp
  | some upper =>
    constructor
    · intro found
      dsimp only at found
      split at found
      · rename_i level' first
        cases found
        have same := List.find?_some first
        rw [of_decide_eq_true same]
      · cases found
    · intro same
      cases same
      cases level <;> rfl

theorem logLevelOf_flaws {name : Text} {flaws : List Flaw}
    (failed : logLevelOf name = .error flaws) :
    flaws.map Flaw.item = [none] := by
  unfold logLevelOf at failed
  split at failed
  · cases failed
  · cases failed
    rfl

/-! ## The types by default -/

namespace Types

theorem stringsOf_map_string (texts : List Text) : stringsOf (texts.map .string) = texts := by
  unfold stringsOf
  rw [List.filterMap_map]
  exact List.filterMap_some

theorem standard_laws : standard.Laws where
  engine_eq_ok {value engine} := by
    cases value with
    | string name =>
      rw [Toml.Value.string.injEq, ← ofName?_eq_some]
      simp only [standard]
      cases Engine.ofName? name <;> simp
    | _ => exact ⟨nofun, nofun⟩
  engine_flaws {value flaws} failed := by
    cases value with
    | string name =>
      simp only [standard] at failed
      split at failed
      · cases failed
      · cases failed
        rfl
    | _ =>
      cases failed
      rfl
  string_eq_ok {value text} := by
    cases value with
    | string text' => simp [standard]
    | _ => exact ⟨nofun, nofun⟩
  string_flaws {value flaws} failed := by
    cases value <;> cases failed <;> rfl
  strings_eq_ok {value texts} := by
    cases value with
    | array items =>
      simp only [standard, Toml.Value.array.injEq]
      by_cases strings : items.all Toml.Value.isString = true
      · obtain ⟨texts', rfl⟩ := all_isString_iff.1 strings
        rw [if_pos strings, stringsOf_map_string, Except.ok.injEq]
        exact ⟨fun same => same ▸ rfl,
          fun same => List.map_injective_iff.2 (fun _ _ => Toml.Value.string.inj) same⟩
      · rw [if_neg strings]
        exact ⟨nofun, fun same => absurd (all_isString_iff.2 ⟨texts, same⟩) strings⟩
    | _ => exact ⟨nofun, nofun⟩
  strings_flaws {value flaws} failed := by
    cases value with
    | array items =>
      simp only [standard] at failed
      split at failed
      · cases failed
      · cases failed
        rw [stringFlaws, List.map_filterMap, flawedItems]
        refine List.filterMap_congr fun entry _ => ?_
        dsimp only
        split <;> rfl
    | _ =>
      cases failed
      rfl

end Types

/-! ## What the fields accept -/

namespace Field

variable {value : Toml.Value}

theorem accepts_engine_iff :
    engine.accepts value = true ↔ ∃ setting : Engine, value = .string setting.name := by
  constructor
  · intro accepted
    cases value with
    | string name =>
      simp only [accepts, Bool.or_eq_true, decide_eq_true_eq] at accepted
      rcases accepted with rfl | rfl
      · exact ⟨.reduce, rfl⟩
      · exact ⟨.precedence, rfl⟩
    | _ => cases accepted
  · rintro ⟨setting, rfl⟩
    cases setting <;> decide

theorem accepts_prompt_iff : prompt.accepts value = true ↔ ∃ text, value = .string text := by
  constructor
  · intro accepted
    cases value with
    | string text => exact ⟨text, rfl⟩
    | _ => cases accepted
  · rintro ⟨text, rfl⟩
    rfl

theorem accepts_logLevel_iff :
    logLevel.accepts value = true
      ↔ ∃ (setting : LogLevel) (name : Text), value = .string name
        ∧ Text.asciiUpper? name = some setting.name := by
  constructor
  · intro accepted
    cases value with
    | string name =>
      obtain ⟨setting, -, capitals⟩ := List.any_eq_true.1 accepted
      exact ⟨setting, name, rfl, of_decide_eq_true capitals⟩
    | _ => cases accepted
  · rintro ⟨setting, name, rfl, capitals⟩
    exact List.any_eq_true.2 ⟨setting, by cases setting <;> decide, decide_eq_true capitals⟩

theorem accepts_exitCommands_iff :
    exitCommands.accepts value = true
      ↔ ∃ texts : List Text, value = .array (texts.map .string) := by
  constructor
  · intro accepted
    cases value with
    | array items =>
      obtain ⟨texts, rfl⟩ := all_isString_iff.1 accepted
      exact ⟨texts, rfl⟩
    | _ => cases accepted
  · rintro ⟨texts, rfl⟩
    exact all_isString_iff.2 ⟨texts, rfl⟩

/-! ## Where values go wrong -/

/-- A place of the value of a field: an item of it, or all of it. -/
def placeOf (field : Field) : Option Nat → Place
  | none => .field field.key
  | some index => .item field.key index

theorem map_place_rejection (field : Field) (flaws : List Flaw) :
    (flaws.map (Flaw.rejection field.key)).map Rejection.place
      = (flaws.map Flaw.item).map field.placeOf := by
  rw [List.map_map, List.map_map]
  refine List.map_congr_left fun flaw _ => ?_
  obtain ⟨_ | index, problem⟩ := flaw <;> rfl

/-- Fields other than the exit commands are invalid as a whole. -/
theorem invalidPlaces_of_refused {field : Field} (other : field ≠ .exitCommands)
    (refuses : field.accepts value = false) {wrong : List Flaw}
    (whole : wrong.map Flaw.item = [none]) :
    field.invalidPlaces value = (wrong.map Flaw.item).map field.placeOf := by
  have places : field.invalidPlaces value = if field.accepts value then []
      else [.field field.key] := by
    cases field with
    | exitCommands => exact absurd rfl other
    | _ => rfl
  rw [places, refuses, whole]
  rfl

/-- The exit commands are invalid at the items that are no strings, or as a whole. -/
theorem invalidPlaces_exitCommands (refuses : exitCommands.accepts value = false) :
    exitCommands.invalidPlaces value = (flawedItems value).map exitCommands.placeOf := by
  cases value with
  | array items =>
    show (items.findIdxs fun item => !item.isString).map _ = (List.filterMap _ items.zipIdx).map _
    rw [List.findIdxs_eq_filterMap_zipIdx, List.map_filterMap, List.map_filterMap]
    refine List.filterMap_congr fun entry _ => ?_
    obtain ⟨item, index⟩ := entry
    cases item <;> rfl
  | _ => rfl

/-! ## The checks of the fields -/

/-- What a field makes of a merged value: it gives a setting with a property that says how it holds
the value, or it reports where the value goes wrong. -/
inductive Judged {α : Type} (field : Field) (value : Toml.Value) (Holds : α → Prop) :
    Checked α → Prop where
  /-- The value is accepted. -/
  | accepted {setting : α} (accepts : field.accepts value = true) (holds : Holds setting) :
      Judged field value Holds (.ok setting)
  /-- The value is not accepted. -/
  | refused {rejected : List Rejection} (refuses : field.accepts value = false)
      (places : rejected.map Rejection.place = field.invalidPlaces value) :
      Judged field value Holds (.error rejected)

/-- **A field is judged** by the values that are taken for its settings. -/
theorem judged_checkValue {α : Type} {field : Field} (Holds : Toml.Value → α → Prop) {default : α}
    {take : Toml.Value → Typed α} (holds : Holds field.defaultValue default)
    (accepts_iff : ∀ {value}, field.accepts value = true ↔ ∃ setting, Holds value setting)
    (eq_ok : ∀ {value setting}, take value = .ok setting ↔ Holds value setting)
    (flaws : ∀ {value wrong}, take value = .error wrong → field.accepts value = false →
      field.invalidPlaces value = (wrong.map Flaw.item).map field.placeOf)
    (value? : Option Toml.Value) :
    field.Judged (value?.getD field.defaultValue) (Holds (value?.getD field.defaultValue))
      (checkValue field.key default take value?) := by
  cases value? with
  | none => exact .accepted (accepts_iff.2 ⟨default, holds⟩) holds
  | some value =>
    rw [checkValue]
    cases taken : take value with
    | ok setting =>
      have held := eq_ok.1 taken
      exact .accepted (accepts_iff.2 ⟨setting, held⟩) held
    | error wrong =>
      have refuses : field.accepts value = false := by
        refine Bool.eq_false_iff.2 fun accepted => ?_
        obtain ⟨setting, held⟩ := accepts_iff.1 accepted
        cases taken.symm.trans (eq_ok.2 held)
      exact .refused refuses ((map_place_rejection field wrong).trans (flaws taken refuses).symm)

variable {types : Types} (laws : types.Laws) (value? : Option Toml.Value)
include laws

theorem judged_engine :
    engine.Judged (value?.getD engine.defaultValue)
      (fun setting => value?.getD engine.defaultValue = .string setting.name)
      (checkValue engineKey default.engine types.engine value?) :=
  judged_checkValue (fun value (setting : Engine) => value = .string setting.name) rfl
    accepts_engine_iff laws.engine_eq_ok
    (fun failed refuses =>
      invalidPlaces_of_refused (by decide) refuses (laws.engine_flaws failed)) value?

theorem judged_prompt :
    prompt.Judged (value?.getD prompt.defaultValue)
      (fun setting => value?.getD prompt.defaultValue = .string setting)
      (checkValue promptKey default.prompt types.string value?) :=
  judged_checkValue (fun value setting => value = .string setting) rfl
    accepts_prompt_iff laws.string_eq_ok
    (fun failed refuses =>
      invalidPlaces_of_refused (by decide) refuses (laws.string_flaws failed)) value?

theorem judged_logLevel :
    logLevel.Judged (value?.getD logLevel.defaultValue)
      (fun setting => ∃ name, value?.getD logLevel.defaultValue = .string name
        ∧ Text.asciiUpper? name = some setting.name)
      (checkValue logLevelKey default.logLevel (fun value =>
        (types.string value).bind logLevelOf) value?) := by
  refine judged_checkValue
    (fun value (setting : LogLevel) => ∃ name, value = .string name
      ∧ Text.asciiUpper? name = some setting.name)
    ⟨"WARNING".toList, rfl, by decide⟩ accepts_logLevel_iff ?_ ?_ value?
  · intro value setting
    simp only [bind_eq_ok, laws.string_eq_ok, logLevelOf_eq_ok]
  · intro value wrong failed refuses
    refine invalidPlaces_of_refused (by decide) refuses ?_
    cases read : types.string value with
    | error flaws =>
      rw [read] at failed
      cases failed
      exact laws.string_flaws read
    | ok name =>
      rw [read] at failed
      exact logLevelOf_flaws failed

theorem judged_exitCommands :
    exitCommands.Judged (value?.getD exitCommands.defaultValue)
      (fun setting => ∃ commands : List Text,
        value?.getD exitCommands.defaultValue = .array (commands.map .string)
        ∧ setting = (commands.filter (·.strip ≠ [])).map fun command => command.strip.lower)
      (checkValue exitCommandsKey default.exitCommands (fun value =>
        (types.strings value).map exitCommandsOf)
        value?) := by
  refine judged_checkValue (fun value setting => ∃ commands : List Text,
    value = .array (commands.map .string) ∧ setting = exitCommandsOf commands)
    ⟨["exit".toList, "quit".toList], rfl, by decide⟩ ?_ ?_ ?_ value?
  · intro value
    rw [accepts_exitCommands_iff]
    exact ⟨fun ⟨texts, same⟩ => ⟨_, texts, same, rfl⟩, fun ⟨_, texts, same, _⟩ => ⟨texts, same⟩⟩
  · intro value setting
    rw [map_eq_ok]
    exact exists_congr fun texts => and_congr laws.strings_eq_ok eq_comm
  · intro value wrong failed refuses
    rw [invalidPlaces_exitCommands refuses, laws.strings_flaws (map_eq_error.1 failed)]

end Field

/-! ## All fields -/

theorem Field.invalidPlaces_of_accepts {field : Field} {value : Toml.Value}
    (accepts : field.accepts value = true) :
    field.invalidPlaces value = [] := by
  unfold Field.invalidPlaces
  split
  · rename_i items
    have strings := List.all_eq_true.1 accepts
    rw [List.map_eq_nil_iff, List.findIdxs_eq_nil_iff]
    exact fun item member => by rw [strings item member]; rfl
  · rw [accepts]
    rfl

theorem Field.Judged.places {α : Type} {field : Field} {value : Toml.Value} {Holds : α → Prop}
    {result : Checked α} (judged : field.Judged value Holds result) :
    (rejections result).map Rejection.place = field.invalidPlaces value := by
  cases judged with
  | accepted accepts => exact (Field.invalidPlaces_of_accepts accepts).symm
  | refused refuses places => exact places

theorem Field.Judged.isOk_iff {α : Type} {field : Field} {value : Toml.Value} {Holds : α → Prop}
    {result : Checked α} (judged : field.Judged value Holds result) :
    (∃ setting, result = .ok setting) ↔ field.accepts value = true := by
  cases judged with
  | accepted accepts holds => exact ⟨fun _ => accepts, fun _ => ⟨_, rfl⟩⟩
  | refused refuses places =>
    constructor
    · rintro ⟨setting, same⟩
      cases same
    · intro accepts
      rw [refuses] at accepts
      cases accepts

theorem Field.Judged.holds {α : Type} {field : Field} {value : Toml.Value} {Holds : α → Prop}
    {setting : α} (judged : field.Judged value Holds (.ok setting)) : Holds setting := by
  cases judged with
  | accepted accepts holds => exact holds

variable (table : Toml.Table) (environment : Environment)

/-- The keys that are known are those of the fields. -/
theorem notMem_keys_iff (key : Text) : key ∉ keys ↔ ∀ field ∈ Field.all, field.key ≠ key := by
  rw [show keys = Field.all.map Field.key from rfl, List.mem_map]
  exact ⟨fun unknown field member same => unknown ⟨field, member, same⟩,
    fun others ⟨field, member, same⟩ => others field member same⟩

theorem map_place_unknownKeys :
    (unknownKeys table).map Rejection.place = (strayKeys table).map Place.field := by
  unfold unknownKeys strayKeys
  rw [List.map_map, List.filter_map, List.map_map]
  refine congrArg (List.map _) (List.filter_congr fun entry _ => ?_)
  rw [Bool.eq_iff_iff, decide_eq_true_eq, notMem_keys_iff]
  simp [List.all_eq_true]

theorem unknownKeys_eq_nil_iff : unknownKeys table = [] ↔ strayKeys table = [] := by
  rw [← List.map_eq_nil_iff (f := Rejection.place), map_place_unknownKeys, List.map_eq_nil_iff]

/-- What a table and an environment come to: settings that hold the merged values, which are all
accepted while no key is stray, or everything that is invalid. -/
inductive Judged : Checked Settings → Prop where
  /-- Everything is accepted. -/
  | accepted {settings : Settings} (accepts : Accepts table environment)
      (holds : settings.Holds fun field => field.merged table environment) : Judged (.ok settings)
  /-- Something is not accepted. -/
  | refused {rejected : List Rejection} (refuses : ¬Accepts table environment)
      (places : rejected.map Rejection.place = invalidPlaces table environment) :
        Judged (.error rejected)

variable {types : Types}

/-- **The layers are judged by their merged values**. -/
theorem judged_ofLayers (laws : types.Laws) :
    Judged table environment (ofLayers types table environment) := by
  have engine := Field.judged_engine laws (layered (engineVariable? environment) table engineKey)
  have exitCommands := Field.judged_exitCommands laws (table.get? exitCommandsKey)
  have prompt := Field.judged_prompt laws (table.get? promptKey)
  have logLevel :=
    Field.judged_logLevel laws (layered (logLevelVariable? environment) table logLevelKey)
  rw [← Field.merged_engine] at engine
  rw [← Field.merged_logLevel] at logLevel
  have stray := map_place_unknownKeys table
  have known := unknownKeys_eq_nil_iff table
  unfold ofLayers
  dsimp only
  generalize checkValue engineKey _ _ _ = first at *
  generalize checkValue exitCommandsKey _ _ _ = second at *
  generalize checkValue promptKey _ _ _ = third at *
  generalize checkValue logLevelKey _ _ _ = fourth at *
  generalize unknownKeys table = unknown at *
  split
  · refine .accepted ⟨known.1 rfl, fun field => ?_⟩
      ⟨engine.holds, exitCommands.holds, prompt.holds, logLevel.holds⟩
    cases field with
    | engine => exact engine.isOk_iff.1 ⟨_, rfl⟩
    | exitCommands => exact exitCommands.isOk_iff.1 ⟨_, rfl⟩
    | prompt => exact prompt.isOk_iff.1 ⟨_, rfl⟩
    | logLevel => exact logLevel.isOk_iff.1 ⟨_, rfl⟩
  · rename_i other
    refine .refused ?_ ?_
    · rintro ⟨none, accepts⟩
      obtain ⟨_, rfl⟩ := engine.isOk_iff.2 (accepts .engine)
      obtain ⟨_, rfl⟩ := exitCommands.isOk_iff.2 (accepts .exitCommands)
      obtain ⟨_, rfl⟩ := prompt.isOk_iff.2 (accepts .prompt)
      obtain ⟨_, rfl⟩ := logLevel.isOk_iff.2 (accepts .logLevel)
      exact other _ _ _ _ rfl rfl rfl rfl (known.2 none)
    · simp only [List.map_append, engine.places, exitCommands.places, prompt.places,
        logLevel.places, stray]
      simp only [invalidPlaces, Field.all, List.flatMap_cons, List.flatMap_nil, List.append_nil,
        List.append_assoc]
      rfl

/-! ## Overridden values -/

theorem get?_without {key other : Text} (different : other ≠ key) :
    (table.without key).get? other = table.get? other := by
  unfold Toml.Table.without Toml.Table.get?
  induction table with
  | nil => rfl
  | cons entry table ih =>
    by_cases same : entry.1 = key
    · have missed : (other == entry.1) = false := beq_false_of_ne (same ▸ different)
      rw [List.filter_cons_of_neg (by simp [same]), ih, List.lookup_cons, missed]
    · rw [List.filter_cons_of_pos (by simp [same]), List.lookup_cons, List.lookup_cons, ih]

/-- The key of a field is never unknown. -/
theorem unknownKeys_without {key : Text} (known : key ∈ keys) :
    unknownKeys (table.without key) = unknownKeys table := by
  unfold unknownKeys Toml.Table.without
  rw [List.filter_filter]
  congr 1
  refine List.filter_congr fun entry _ => ?_
  by_cases same : entry.1 = key
  · simp [same, known]
  · simp [same]

/-- **What the environment overrides is not looked at**, whatever its value. -/
theorem ofLayers_without {field : Field} {text : Text}
    (set : field.fromEnvironment environment = some text) :
    ofLayers types (table.without field.key) environment = ofLayers types table environment := by
  cases field with
  | engine =>
    rw [Field.fromEnvironment_engine] at set
    have unknown := unknownKeys_without table (show Field.engine.key ∈ keys by decide)
    have exitCommands := get?_without table (show exitCommandsKey ≠ Field.engine.key by decide)
    have prompt := get?_without table (show promptKey ≠ Field.engine.key by decide)
    have logLevel := get?_without table (show logLevelKey ≠ Field.engine.key by decide)
    unfold ofLayers
    simp only [layered, set, unknown, exitCommands, prompt, logLevel]
  | logLevel =>
    rw [Field.fromEnvironment_logLevel] at set
    have unknown := unknownKeys_without table (show Field.logLevel.key ∈ keys by decide)
    have engine := get?_without table (show engineKey ≠ Field.logLevel.key by decide)
    have exitCommands := get?_without table (show exitCommandsKey ≠ Field.logLevel.key by decide)
    have prompt := get?_without table (show promptKey ≠ Field.logLevel.key by decide)
    unfold ofLayers
    simp only [layered, set, unknown, engine, exitCommands, prompt]
  | exitCommands => cases set
  | prompt => cases set

/-! ## Loading -/

section Loading

variable {types : Types} {files : Files} {path : Option Text} {table : Toml.Table}

theorem load_of_table (read : fileTable files path = .ok table) (environment : Environment) :
    load types files path environment = (ofLayers types table environment).mapError .rejected := by
  unfold load
  rw [read]

/-- What loading comes to, judged by the merged values. -/
theorem load_cases (laws : types.Laws) (read : fileTable files path = .ok table)
    (environment : Environment) :
    (∃ settings, load types files path environment = .ok settings
        ∧ Accepts table environment ∧ settings.Holds fun field => field.merged table environment)
      ∨ ∃ rejected, load types files path environment = .error (.rejected rejected)
        ∧ ¬Accepts table environment
        ∧ rejected.map Rejection.place = invalidPlaces table environment := by
  have judged := judged_ofLayers table environment laws
  rw [load_of_table read]
  generalize ofLayers types table environment = result at judged ⊢
  cases judged with
  | accepted accepts holds => exact .inl ⟨_, rfl, accepts, holds⟩
  | refused refuses places => exact .inr ⟨_, rfl, refuses, places⟩

/-- Tables that differ only in what the environment overrides are loaded alike. -/
theorem load_overridden (types : Types) (read : fileTable files path = .ok table)
    {environment : Environment} {field : Field} {text : Text}
    (set : field.fromEnvironment environment = some text) {files' : Files} {path' : Option Text}
    {table' : Toml.Table} (read' : fileTable files' path' = .ok table')
    (same : table'.without field.key = table.without field.key) :
    load types files' path' environment = load types files path environment := by
  rw [load_of_table read, load_of_table read', ← ofLayers_without table' environment set, same,
    ofLayers_without table environment set]

/-- **The merged values decide** what loading a table comes to: whether it succeeds, what the
settings hold, and what is reported as invalid. A value that the environment overrides makes no
difference. -/
theorem load_merged (laws : types.Laws) (read : fileTable files path = .ok table)
    (environment : Environment) :
    ((∃ settings, load types files path environment = .ok settings) ↔ Accepts table environment)
      ∧ (∀ settings, load types files path environment = .ok settings →
        settings.Holds fun field => field.merged table environment)
      ∧ (∀ fault, load types files path environment = .error fault →
        fault.isReported = true ∧ fault.diagnostic.kind = .configuration
          ∧ ∃ rejected, fault = .rejected rejected
            ∧ rejected.map Rejection.place = invalidPlaces table environment)
      ∧ ∀ (field : Field) (text : Text), field.fromEnvironment environment = some text →
        ∀ (files' : Files) (path' : Option Text) (table' : Toml.Table),
          fileTable files' path' = .ok table' →
          table'.without field.key = table.without field.key →
            load types files' path' environment = load types files path environment := by
  have overridden (field : Field) (text : Text)
      (set : field.fromEnvironment environment = some text)
      (files' : Files) (path' : Option Text) (table' : Toml.Table)
      (read' : fileTable files' path' = .ok table')
      (same : table'.without field.key = table.without field.key) :=
    load_overridden types read set read' same
  rcases load_cases laws read environment with
    ⟨settings, loaded, accepts, holds⟩ | ⟨rejected, failed, refuses, places⟩
  · refine ⟨⟨fun _ => accepts, fun _ => ⟨settings, loaded⟩⟩, fun settings' ended => ?_,
      fun fault ended => ?_, overridden⟩
    · cases loaded.symm.trans ended
      exact holds
    · cases loaded.symm.trans ended
  · refine ⟨⟨fun ⟨settings, ended⟩ => ?_, fun accepts => absurd accepts refuses⟩,
      fun settings ended => ?_,
      fun fault ended => ?_, overridden⟩
    · cases failed.symm.trans ended
    · cases failed.symm.trans ended
    · cases failed.symm.trans ended
      exact ⟨rfl, rfl, rejected, rfl, places⟩

end Loading

/-- A file whose engine is no string: it is rejected, unless the environment overrides it. -/
theorem load_merged_overridden :
    let files : Files :=
      [(defaultPath, "[calculator]\nengine = 3\nexit_commands = [\" BYE \", \" \"]\n".toList)]
    let environment : Environment := [("SIMPLECALC_ENGINE".toList, " Precedence ".toList)]
    ∃ table, fileTable files none = .ok table
      ∧ load .standard files none environment
        = .ok ⟨.precedence, ["bye".toList], "> ".toList, .warning⟩
      ∧ (⟨.precedence, ["bye".toList], "> ".toList, .warning⟩ : Settings).Holds
        (fun field => field.merged table environment)
      ∧ load .standard files none [] = .error (.rejected [⟨.field "engine".toList, .notAnEngine⟩])
      ∧ invalidPlaces table [] = [.field "engine".toList] := by
  intro files environment
  have readable : (fileTable files none).toOption.isSome = true := by decide +kernel
  obtain ⟨table, read⟩ := Option.isSome_iff_exists.1 readable
  rw [toOption_eq_some] at read
  have accepted : load .standard files none environment
      = .ok ⟨.precedence, ["bye".toList], "> ".toList, .warning⟩ :=
    toOption_eq_some.1 (by decide +kernel)
  have refused : load .standard files none []
      = .error (.rejected [⟨.field "engine".toList, .notAnEngine⟩]) := by
    decide +kernel
  obtain ⟨-, holds, -, -⟩ := load_merged Types.standard_laws read environment
  obtain ⟨-, -, reports, -⟩ := load_merged Types.standard_laws read []
  obtain ⟨-, -, rejected, same, places⟩ := reports _ refused
  cases same
  exact ⟨table, read, accepted, holds _ accepted, refused, places.symm⟩

end Settings

end InfixCalculator
