import DenseBench.Runner
import DenseBench.Settings.FileTree

/-!
# Libraries of settings

Settings are read by a library: it knows formats of files, reads environment variables, lays what
it has read over one another and converts values.  What is made of the settings is the same with any
such library.
-/

namespace DenseBench
namespace Settings

/-- Keys with values, from one source. -/
abbrev Layer (ν : Type) : Type :=
  List (String × ν)

/-- How environment variables are read. -/
structure VariableOptions where
  /-- The word that the names begin with, in any case of its letters. -/
  marker : String
  /-- What stands between this word and a key. -/
  markerSeparator : String
  /-- What stands for a dot in a key. -/
  separator : String
  /-- Whether truth values and numbers are told from texts. -/
  typed : Bool
  /-- What stands between the items of a list. -/
  listSeparator : String
  /-- The keys of lists. -/
  listKeys : List String
  deriving DecidableEq, Repr

/-- A library of settings with values of type `ν` and errors of type `ε`. -/
structure Library (ν ε : Type) where
  /-- The value of a text. -/
  ofText : String → ν
  /-- The value of an integer. -/
  ofInt : Int → ν
  /-- The value of a list of texts. -/
  ofTexts : List String → ν
  /-- The layer that a text at a path holds. -/
  read : String → String → Except ε (Layer ν)
  /-- The layer of the file at a path. -/
  file : FileTree → String → Except ε (Layer ν)
  /-- The value for a key that the text of a variable stands for. -/
  valueOf : VariableOptions → String → String → ν
  /-- The layer of variables by name. -/
  environment : VariableOptions → List (String × String) → Layer ν
  /-- Layers laid over one another, the first one lowest. -/
  combine : List (Layer ν) → Layer ν
  /-- The value at a key as a text. -/
  toText : String → ν → Except ε String
  /-- The value at a key as a count. -/
  toCount : String → ν → Except ε Nat
  /-- A value as a failure policy. -/
  toPolicy : ν → Except ε FailurePolicy
  /-- The value at a key as a list of texts. -/
  toTexts : String → ν → Except ε (List String)
  /-- The error of a key without a value. -/
  missing : String → ε
  /-- The error of a text that names no size class. -/
  unknownDataset : UnknownDatasetSize → ε
  /-- The wording of an error. -/
  message : ε → String

end Settings
end DenseBench
