import DenseBench.Settings.Library
import DenseBench.Settings.Setting

/-!
# Settings from environment variables

A variable whose name begins with a fixed word, in any case of its letters, holds a setting.  The
rest of the name is the key, in which a separator stands for a dot.  The value is read as a truth
value, an integer or a float where possible; the values of some keys are lists, and any other value
is a text.
-/

namespace DenseBench
namespace Settings
namespace Environment

/-- What settings from variables have as their origin. -/
def origin : String :=
  "the environment"

/-- Put a dot for every separator, from the left, after dropping what is left of the last one. -/
def dotted (separator : List Char) : Nat → List Char → List Char
  | _, [] => []
  | left + 1, _ :: rest => dotted separator left rest
  | 0, c :: rest =>
    if separator ≠ [] ∧ separator.isPrefixOf (c :: rest) then
      '.' :: dotted separator (separator.length - 1) rest
    else c :: dotted separator 0 rest

/-- The beginning of the name of a variable that holds a setting. -/
def opening (options : VariableOptions) : String :=
  Text.lower (options.marker ++ options.markerSeparator)

/-- The key of the setting in a variable with this name. -/
def key? (options : VariableOptions) (name : String) : Option String :=
  let folded := (Text.lower name).toList
  let opening := (opening options).toList
  if opening.isPrefixOf folded then
    some (String.ofList (dotted options.separator.toList 0 (folded.drop opening.length)))
  else none

/-- A truth value, in any case of its letters. -/
def bool? (text : String) : Option Bool :=
  let word := Text.lower text
  if word = "true" then some true else if word = "false" then some false else none

/-- The value of a text that is no truth value and no number. -/
def plain (options : VariableOptions) (key text : String) : Setting :=
  if options.listKeys.contains key then
    .list origin ((text.splitOn options.listSeparator).map fun piece =>
      .scalar origin (.text piece))
  else .scalar origin (.text text)

/-- The setting for a key that the text of a variable stands for. -/
def setting (options : VariableOptions) (key text : String) : Setting :=
  if options.typed then
    match bool? text with
    | some truth => .scalar origin (.bool truth)
    | none =>
      match Numeral.int64? 10 text.toList with
      | some n => .scalar origin (.int n)
      | none =>
        match Numeral.float? text.toList with
        | some x => .scalar origin (.float x)
        | none => plain options key text
  else .scalar origin (.text text)

/-- The layer of settings in an environment of variables by name.  Of several variables for one key
the last one counts. -/
def layer (options : VariableOptions) (environment : List (String × String)) : Layer Setting :=
  Members.ofList (environment.filterMap fun (name, text) =>
    (key? options name).map fun key => (key, setting options key text))

end Environment
end Settings
end DenseBench
