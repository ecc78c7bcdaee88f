import DenseBench.Members
import DenseBench.RunConfig
import DenseBench.Settings.StandardLibrary

/-!
# Loading run configurations

A configuration is made from three layers of settings: the standard one, a file and environment
variables.  Each field takes its setting from the highest layer that has one.
-/

namespace DenseBench

open Settings

/-- What settings can be read from. -/
structure Surroundings where
  /-- The files. -/
  files : FileTree
  /-- The environment variables by name. -/
  environment : List (String × String)

namespace Settings
namespace Library

variable {ν ε : Type} (library : Library ν ε)

/-- The settings of the standard configuration. -/
def standardLayer : Layer ν :=
  [("dataset", library.ofText DatasetSize.standard.name),
   ("repetitions", library.ofInt RunConfig.standard.repetitions),
   ("log_level", library.ofText RunConfig.standard.logLevel),
   ("failure_policy", library.ofText FailurePolicy.standard.name),
   ("units", library.ofTexts [])]

/-- How the environment variables of the program are read. -/
def variableOptions : VariableOptions where
  marker := "POLYBENCH"
  markerSeparator := "_"
  separator := "__"
  typed := true
  listSeparator := ","
  listKeys := ["units"]

/-- The layer of settings in environment variables. -/
def variableLayer (surroundings : Surroundings) : Layer ν :=
  library.environment variableOptions surroundings.environment

/-- The value at a key. -/
def field (settings : Layer ν) (key : String) : Except ε ν :=
  match Members.get? key settings with
  | some value => .ok value
  | none => .error (library.missing key)

/-- A value as a size class. -/
def toDataset (key : String) (value : ν) : Except ε DatasetSize := do
  (DatasetSize.ofString (← library.toText key value)).mapError library.unknownDataset

/-- The configuration that settings describe. -/
def ofSettings (settings : Layer ν) : Except ε RunConfig := do
  return {
    dataset := ← library.toDataset "dataset" (← library.field settings "dataset")
    repetitions := ← library.toCount "repetitions" (← library.field settings "repetitions")
    logLevel := ← library.toText "log_level" (← library.field settings "log_level")
    failurePolicy := ← library.toPolicy (← library.field settings "failure_policy")
    units := ← library.toTexts "units" (← library.field settings "units") }

/-- The configuration from the settings of a file, if there is one, and of the variables. -/
def ofLayers (file : Option (Layer ν)) (surroundings : Surroundings) : Except ε RunConfig :=
  library.ofSettings
    (library.combine (library.standardLayer :: file.toList ++ [library.variableLayer surroundings]))

/-- Load a configuration with the file at a path, if something stands there. -/
def loadFrom (path : String) (surroundings : Surroundings) : Except ε RunConfig := do
  if (surroundings.files.find? path).isSome then
    library.ofLayers (some (← library.file surroundings.files path)) surroundings
  else library.ofLayers none surroundings

/-- Load a configuration with the first of the usual files. -/
def load (surroundings : Surroundings) : Except ε RunConfig :=
  match RunConfig.usualPaths.find? fun path => (surroundings.files.find? path).isSome with
  | some path => library.loadFrom path surroundings
  | none => library.ofLayers none surroundings

end Library
end Settings

namespace RunConfig

/-- Load a configuration from a file and the variables by the standard library. -/
def loadFrom (path : String) (surroundings : Surroundings) : Loaded RunConfig :=
  Library.standard.loadFrom path surroundings

/-- Load a configuration from the first of the usual files and the variables by the standard
library. -/
def load (surroundings : Surroundings) : Loaded RunConfig :=
  Library.standard.load surroundings

end RunConfig
end DenseBench
