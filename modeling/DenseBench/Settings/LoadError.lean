import DenseBench.DatasetSize
import DenseBench.Numeral.Shortest
import DenseBench.Settings.Setting
import DenseBench.Text.Quoted

/-!
# Errors of loading settings

Why a configuration cannot be had from its sources, and the wording of each reason.
-/

namespace DenseBench
namespace Settings

/-- What a setting is, without the parts it may have. -/
inductive Shape where
  | scalar (value : Scalar)
  | list
  | table

namespace Shape

/-- The shape of a setting. -/
def ofSetting : Setting → Shape
  | .scalar _ value => scalar value
  | .list .. => list
  | .table .. => table

/-- A shape where a setting of one kind of value is wanted. -/
def describe : Shape → String
  | scalar .null => "unit value"
  | scalar (.bool value) => "boolean \x60" ++ toString value ++ "\x60"
  | scalar (.int value) => "64-bit integer \x60" ++ toString value ++ "\x60"
  | scalar (.float value) => "floating point \x60" ++ Numeral.shortestText value ++ "\x60"
  | scalar (.text value) => "string " ++ Text.quoted value
  | list => "sequence"
  | table => "map"

/-- A shape where a list is wanted. -/
def describeUnlisted : Shape → String
  | scalar (.int value) => "integer \x60" ++ toString value ++ "\x60"
  | scalar (.float value) => "floating point \x60" ++ Numeral.pointedText value ++ "\x60"
  | shape => shape.describe

end Shape

/-- The kinds of value that a setting may be wanted for. -/
inductive Wanted where
  | text
  | integer
  | natural
  deriving DecidableEq, Repr

namespace Wanted

/-- The wording of a wanted kind. -/
def describe : Wanted → String
  | text => "a string"
  | integer => "an integer"
  | natural => "an unsigned 64 bit or less integer"

end Wanted

/-- Why a configuration cannot be loaded. -/
inductive LoadError where
  /-- A setting is of the wrong kind. -/
  | wrongKind (found : Shape) (wanted : Wanted) (key : String) (origin : Option String)
  | notAList (found : Shape)
  | missing (key : String)
  | unknownDataset (error : UnknownDatasetSize)
  | unknownPolicy (name : String)
  /-- A failure policy is neither a text nor a table with one key. -/
  | malformedPolicy
  | malformedFile (path : String)
  | unknownFormat (path : String)
  /-- There is no file at a path where something else is. -/
  | fileNotFound (path : String)

namespace LoadError

/-- The wording of an error. -/
def message : LoadError → String
  | wrongKind found wanted key origin =>
    "invalid type: " ++ found.describe ++ ", expected " ++ wanted.describe ++ " for key \x60" ++
      key ++ "\x60" ++ (origin.map (" in " ++ ·)).getD ""
  | notAList found => "invalid type: " ++ found.describeUnlisted ++ ", expected a sequence"
  | missing key => "missing configuration field " ++ Text.quoted key
  | unknownDataset error => error.message
  | unknownPolicy name => "enum FailurePolicy does not have variant constructor " ++ name
  | malformedPolicy =>
    "value of enum FailurePolicy should be represented by either string or table with " ++
      "exactly one key"
  | malformedFile path => "malformed configuration in " ++ path
  | unknownFormat path =>
    "configuration file \"" ++ path ++ "\" is not of a registered file format"
  | fileNotFound path => "configuration file \"" ++ path ++ "\" not found"

end LoadError

/-- A result of loading. -/
abbrev Loaded (α : Type) : Type :=
  Except LoadError α

end Settings
end DenseBench
