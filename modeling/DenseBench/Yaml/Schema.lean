import DenseBench.Json.Basic
import DenseBench.Numeral.Reading
import DenseBench.Numeral.Shortest

/-!
# Values of YAML scalars

A plain scalar without a tag is the absent value, a truth value, an integer, a float or a text,
depending on how it is spelled.  A tag can ask for one of the first four; where the spelling does
not fit, the value is absent.  Everything else is a text.  The spellings of infinity and of the
absent number have no value.
-/

namespace DenseBench
namespace Yaml
namespace Schema

/-- What tags of the common types begin with. -/
def commonStem : String :=
  "tag:yaml.org,2002:"

/-- A tag without abbreviations. -/
structure Tag where
  /-- What the handle stands for. -/
  stem : String
  /-- The rest. -/
  suffix : String
  deriving DecidableEq, Repr

/-- An integer: decimal, or hexadecimal or octal behind a mark.  A sign may stand behind the mark
or a plus sign too. -/
def int? (text : List Char) : Option Int :=
  let marked := match text with
    | '0' :: 'x' :: rest => Numeral.int64? 16 rest
    | '0' :: 'o' :: rest => Numeral.int64? 8 rest
    | '+' :: rest => Numeral.int64? 10 rest
    | _ => none
  marked <|> Numeral.int64? 10 text

/-- The spellings of infinity and of the absent number. -/
def unusable : List String :=
  [".inf", ".Inf", ".INF", "+.inf", "+.Inf", "+.INF", "-.inf", "-.Inf", "-.INF", ".nan", ".NaN",
    ".NAN"]

/-- A float with a digit in its spelling. -/
def float? (text : List Char) : Option Float :=
  if text.any Char.isDigit then Numeral.float? text else none

/-- The value of a plain scalar without a tag. -/
def plainValue? (text : String) : Option Json :=
  if ["", "~", "null"].contains text then some .null
  else if text = "true" then some (.bool true)
  else if text = "false" then some (.bool false)
  else match int? text.toList with
    | some n => some (.int n)
    | none =>
      if unusable.contains text then none
      else match float? text.toList with
        | some x => some (.float x)
        | none => some (.str text)

/-- The value of a plain scalar with a tag of the common types. -/
def commonValue? (suffix text : String) : Option Json :=
  match suffix with
  | "bool" =>
    some (if text = "true" then .bool true else if text = "false" then .bool false else .null)
  | "int" => some (((Numeral.int64? 10 text.toList).map Json.int).getD .null)
  | "float" =>
    if unusable.contains text then none
    else some (((float? text.toList).map Json.float).getD .null)
  | "null" => some .null
  | _ => some (.str text)

/-- The value of a scalar. -/
def value? (plain : Bool) (tag : Option Tag) (text : String) : Option Json :=
  match plain, tag with
  | false, _ => some (.str text)
  | true, none => plainValue? text
  | true, some tag =>
    if tag.stem = commonStem then commonValue? tag.suffix text else some (.str text)

end Schema
end Yaml
end DenseBench
