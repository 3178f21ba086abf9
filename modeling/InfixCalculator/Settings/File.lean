import InfixCalculator.Files
import InfixCalculator.Settings.Basic
import InfixCalculator.Toml.Reader

/-!
# The settings file

The settings file is a TOML document; its `calculator` table holds the settings. A file that is
asked for must be there, be no directory, and have a name that can be looked up. When none is asked
for, the file with the usual name is read if there is one.
-/

set_option autoImplicit false

namespace InfixCalculator

namespace Settings

/-- The name of the settings file that is read when none is asked for. -/
def defaultPath : Text := "simplecalc.toml".toList

/-- Why the settings could not be loaded. -/
inductive LoadFault where
  /-- The file that was asked for is not there. -/
  | fileMissing (path : Text)
  /-- The path is too long to be looked up. -/
  | pathTooLong (path : Text)
  /-- A directory is in the place of the file. -/
  | directory (path : Text)
  /-- The file is no TOML document. -/
  | malformed (path : Text)
  /-- The file has a whole number with too many digits. -/
  | integerTooLong (path : Text)
  /-- The values of the file are nested too deep. -/
  | nestingTooDeep (path : Text)
  /-- The file has something other than a table in the place of the settings. -/
  | notATable (path : Text)
  /-- Some values were rejected. -/
  | rejected (rejections : List Rejection)
deriving DecidableEq

/-- What is said about settings that could not be loaded. -/
def LoadFault.message : LoadFault → Text
  | fileMissing path => "Config file not found: ".toList ++ path
  | pathTooLong path => "Config file name is too long: ".toList ++ path
  | directory path => "Config file is a directory: ".toList ++ path
  | malformed path => "Invalid TOML in ".toList ++ path
  | integerTooLong path => "Config file has a number that is too long: ".toList ++ path
  | nestingTooDeep path => "Config file is nested too deep: ".toList ++ path
  | notATable path => "[calculator] in ".toList ++ path ++ " must be a table".toList
  | rejected _ => "Invalid configuration".toList

/-- Settings that could not be loaded, as this is shown to a user. -/
def LoadFault.diagnostic (fault : LoadFault) : Diagnostic := ⟨.configuration, fault.message, none⟩

/-- Whether a user is told about the fault. The others end the program without a word. -/
def LoadFault.isReported : LoadFault → Bool
  | pathTooLong _ => false
  | directory _ => false
  | integerTooLong _ => false
  | nestingTooDeep _ => false
  | _ => true

/-- The settings table of a file. -/
def tableOf (path contents : Text) : Except LoadFault Toml.Table :=
  match Toml.read contents with
  | .error .malformed => .error (.malformed path)
  | .error .integerTooLong => .error (.integerTooLong path)
  | .error .nestingTooDeep => .error (.nestingTooDeep path)
  | .ok root =>
    match root.get? "calculator".toList with
    | none => .ok []
    | some (.table entries) => .ok entries
    | some _ => .error (.notATable path)

/-- The settings table of the file that is asked for, or of the usual one. -/
def fileTable (files : Files) (asked : Option Text) : Except LoadFault Toml.Table :=
  let path := Path.normalize (asked.getD defaultPath)
  match files.lookUp path with
  | .file contents => tableOf path contents
  | .directory => .error (.directory path)
  | .tooLong => .error (.pathTooLong path)
  | .nothing => if asked.isSome then .error (.fileMissing path) else .ok []

/-- Loads the settings from the file that is asked for and the environment. -/
def load (types : Types) (files : Files) (path : Option Text) (environment : Environment) :
    Except LoadFault Settings :=
  match fileTable files path with
  | .error fault => .error fault
  | .ok table => (ofLayers types table environment).mapError .rejected

end Settings

end InfixCalculator
