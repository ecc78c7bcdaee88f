import DenseBench.Json.Basic
import DenseBench.Numeral.Shortest

/-!
# Writing JSON

The compact text of a value: no space, members in their order, and in strings only the quote, the
backslash and the control characters below the space escaped.
-/

namespace DenseBench
namespace Json

/-- The lower-case hexadecimal digit of a number below sixteen. -/
def hexDigit (n : Nat) : Char :=
  Nat.digitChar n

/-- The text of a character inside a string. -/
def escape (c : Char) : List Char :=
  if c = '"' then ['\\', '"']
  else if c = '\\' then ['\\', '\\']
  else if c = '\x08' then ['\\', 'b']
  else if c = '\x0c' then ['\\', 'f']
  else if c = '\n' then ['\\', 'n']
  else if c = '\r' then ['\\', 'r']
  else if c = '\t' then ['\\', 't']
  else if c.toNat < 0x20 then
    ['\\', 'u', '0', '0', hexDigit (c.toNat / 16), hexDigit (c.toNat % 16)]
  else [c]

/-- The quoted text of a string. -/
def quote (text : String) : String :=
  String.ofList ('"' :: text.toList.flatMap escape ++ ['"'])

/-- The text of a float; one that is no number is written as the absent value. -/
def floatText (x : Float) : String :=
  if x.isFinite then Numeral.pointedText x else "null"

mutual

/-- The compact text of a value. -/
def write : Json → String
  | null => "null"
  | bool value => if value then "true" else "false"
  | int value => toString value
  | float value => floatText value
  | str value => quote value
  | arr items => "[" ++ writeItems "" items ++ "]"
  | obj members => "\x7b" ++ writeMembers "" members ++ "\x7d"

/-- The items of an array after the text so far. -/
def writeItems (written : String) : List Json → String
  | [] => written
  | [item] => written ++ item.write
  | item :: rest => writeItems (written ++ item.write ++ ",") rest

/-- The members of an object after the text so far. -/
def writeMembers (written : String) : List (String × Json) → String
  | [] => written
  | [(key, value)] => written ++ quote key ++ ":" ++ value.write
  | (key, value) :: rest => writeMembers (written ++ quote key ++ ":" ++ value.write ++ ",") rest

end

end Json
end DenseBench
