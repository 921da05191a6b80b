import PodSizing.Configuration.Environment
import PodSizing.Configuration.File
import PodSizing.Configuration.Layer
import PodSizing.Json.Settings
import PodSizing.Operator.Settings

/-!
# Configuration

The settings of the operator come from three layers: the defaults, a file, and the environment,
each over the one before.  Settings that no layer gives keep their defaults, and names that are no
settings are ignored.  What is loaded has been checked.  Of the formats of files only JSON and TOML
are described; `Configuration.Format` says what is left out.
-/

namespace PodSizing

open Json

/-- The settings in a tree, the value of each in one of the forms that a conversion allows. -/
def OperatorSettings.ofJsonWith? (conversion : Conversion) (json : Json) :
    Option OperatorSettings := do
  let names :=
    ["operator_name", "api_port", "resize_interval_secs", "policy", "executor", "namespaces"]
  match ← conversion.entries? names json with
  | [name, apiPort, interval, policy, executor, namespaces] =>
      let base := OperatorSettings.default
      let apiPort? (json : Json) := (conversion.whole? json).filter (· < Nat.pow 2 16)
      some
        { name := ← withDefault base.name conversion.text? name
          apiPort := ← withDefault base.apiPort apiPort? apiPort
          resizeIntervalSeconds :=
            ← withDefault base.resizeIntervalSeconds conversion.whole? interval
          policy := ← withDefault base.policy (Policy.ofJsonWith? conversion) policy
          executor := ← withDefault base.executor (ExecutorSettings.ofJsonWith? conversion) executor
          namespaces :=
            ← withDefault base.namespaces (NamespaceFilter.ofJsonWith? conversion) namespaces }
  | _ => none

namespace Configuration

/-- Why no settings are loaded. -/
inductive LoadError where
  /-- The file cannot be read, also because its format is left out here. -/
  | unreadable
  /-- A value does not have a form that its setting takes. -/
  | unusable
  | refused (error : SettingsError)
  /-- A path names a position that its list cannot have. -/
  | misplaced
  deriving DecidableEq

/-- What the operator says when it does not start; a value that is refused says why itself. -/
def LoadError.message : LoadError → String
  | .unreadable => "Failed to read configuration"
  | .unusable => "Failed to parse configuration"
  | .refused error => error.message
  | .misplaced => "Position out of range"

/-- The tree of settings of a file, where one is named, and of the environment over it. -/
def tree (files : Files) (path : Option String) (environment : Environment)
    (namePrefix : String) : Except LoadError Json := do
  let inFile ← match path with
    | none => pure []
    | some path =>
        match fileSettings? files path with
        | some settings => pure settings
        | none => throw .unreadable
  let laid := (overlay? (.object []) inFile).bind (overlay? · (settings namePrefix environment))
  match laid with
  | some tree => pure tree
  | none => throw .misplaced

/-- The settings of a file, where one is named, and of the environment over it. -/
def loadWith (files : Files) (path : Option String) (environment : Environment)
    (namePrefix : String) : Except LoadError OperatorSettings := do
  let tree ← tree files path environment namePrefix
  match OperatorSettings.ofJsonWith? lenient tree with
  | none => throw .unusable
  | some settings =>
      match settings.check with
      | .ok () => pure settings
      | .error error => throw (.refused error)

/-- The prefix of the names of variables that hold settings. -/
def variablePrefix : String := "RIGHTSIZER"

/-- The variable that names the configuration file; when empty, it names none. -/
def fileVariable : String := "RIGHTSIZER_CONFIG_FILE"

/-- The settings of the file that the environment names and of the environment itself. -/
def load (files : Files) (environment : Environment) : Except LoadError OperatorSettings :=
  let path := (environment.lookup fileVariable).filter (· ≠ "")
  loadWith files path environment variablePrefix

end Configuration

end PodSizing
