import DenseBench.Text.Unprintable

/-!
# Quoted text

A text between double quotes in which every character can be seen: the quote, the backslash and
four controls have escapes of two characters, and what has no picture of its own is shown by its
number in lower-case hexadecimal digits.
-/

namespace DenseBench
namespace Text

/-- How a character is shown inside quotes. -/
def quotedChar (c : Char) : List Char :=
  if c = '"' then ['\\', '"']
  else if c = '\\' then ['\\', '\\']
  else if c = '\n' then ['\\', 'n']
  else if c = '\r' then ['\\', 'r']
  else if c = '\t' then ['\\', 't']
  else if c = '\x00' then ['\\', '0']
  else if isUnprintable c then
    ['\\', 'u', '\x7b'] ++ Nat.toDigits 16 c.toNat ++ ['\x7d']
  else [c]

/-- A text between double quotes. -/
def quoted (text : String) : String :=
  String.ofList ('"' :: text.toList.flatMap quotedChar ++ ['"'])

end Text
end DenseBench
