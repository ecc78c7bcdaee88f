import DenseBench.Runner
import DenseBench.Settings.LoadError

/-!
# Conversion of settings

A setting is converted to the type of the field that it is for.  Truth values and numbers have
texts; a number of passes may be written as an integer, as a float, which is rounded, as a truth
value, or as a text for one of these.
-/

namespace DenseBench
namespace Settings

/-- The text of a truth value. -/
def boolText (value : Bool) : String :=
  if value then "true" else "false"

/-- A setting as a text. -/
def toText (key : String) : Setting → Loaded String
  | .scalar _ (.text value) => .ok value
  | .scalar _ (.bool value) => .ok (boolText value)
  | .scalar _ (.int value) => .ok (toString value)
  | .scalar _ (.float value) => .ok (Numeral.shortestText value)
  | .scalar origin .null => .error (.wrongKind (.scalar .null) .text key origin)
  | .list origin _ => .error (.wrongKind .list .text key origin)
  | .table origin _ => .error (.wrongKind .table .text key origin)

/-- The count that a text stands for. -/
def countOfText? (text : String) : Option Nat :=
  let word := Text.lower text
  if ["true", "on", "yes"].contains word then some 1
  else if ["false", "off", "no"].contains word then some 0
  else Numeral.uint64? text.toList

/-- The integer nearest to a float, away from zero for a half, in the range of 64 bits; zero for
what is no number. -/
def roundedCount (x : Float) : Nat :=
  x.round.toUInt64.toNat

/-- A setting as a count. -/
def toCount (key : String) : Setting → Loaded Nat
  | .scalar origin (.int value) =>
    if value < 0 then .error (.wrongKind (.scalar (.int value)) .natural key origin)
    else .ok value.toNat
  | .scalar _ (.bool value) => .ok value.toNat
  | .scalar _ (.float value) => .ok (roundedCount value)
  | .scalar origin (.text value) =>
    match countOfText? value with
    | some count => .ok count
    | none => .error (.wrongKind (.scalar (.text value)) .integer key origin)
  | .scalar origin .null => .error (.wrongKind (.scalar .null) .integer key origin)
  | .list origin _ => .error (.wrongKind .list .integer key origin)
  | .table origin _ => .error (.wrongKind .table .integer key origin)

/-- The items of a list as texts, from the item at this position on. -/
def itemsToTexts (key : String) : Nat → List Setting → Loaded (List String)
  | _, [] => .ok []
  | index, item :: rest => do
    let text ← toText (key ++ "[" ++ toString index ++ "]") item
    return text :: (← itemsToTexts key (index + 1) rest)

/-- A setting as a list of texts. -/
def toTexts (key : String) : Setting → Loaded (List String)
  | .list _ items => itemsToTexts key 0 items
  | other => .error (.notAList (.ofSetting other))

/-- The failure policy with this name, in any case of its letters. -/
def policyOfName (name : String) : Loaded FailurePolicy :=
  match FailurePolicy.ofName? (Text.lower name) with
  | some policy => .ok policy
  | none => .error (.unknownPolicy name)

/-- A setting as a failure policy: its name, or a table of which it is the only key. -/
def toPolicy : Setting → Loaded FailurePolicy
  | .scalar _ (.text name) => policyOfName name
  | .table _ [(name, _)] => policyOfName name
  | _ => .error .malformedPolicy

end Settings
end DenseBench
