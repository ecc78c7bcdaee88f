/-!
# Space between the parts of a TOML text

Blanks are spaces and tabs.  A line ends with a line feed, before which a carriage return may stand.
A comment reaches to the end of its line and holds no control character but the tab.
-/

namespace DenseBench
namespace Toml

/-- A space or a tab. -/
def isBlank (c : Char) : Bool :=
  c = ' ' || c = '\t'

/-- Whether a character may stand unescaped: any but the controls, of which only the tab may. -/
def isVisible (c : Char) : Bool :=
  c = '\t' || (0x20 ≤ c.toNat && c.toNat ≠ 0x7F)

/-- Drop the blanks in front. -/
def skipBlanks (text : List Char) : List Char :=
  text.dropWhile isBlank

/-- What follows the line end in front. -/
def newline? : List Char → Option (List Char)
  | '\n' :: rest => some rest
  | '\r' :: '\n' :: rest => some rest
  | _ => none

/-- Drop the comment in front, if there is one. -/
def skipComment : List Char → List Char
  | '#' :: rest => rest.dropWhile isVisible
  | text => text

/-- What follows a line that may hold nothing more but blanks and a comment. -/
def endOfLine? (text : List Char) : Option (List Char) :=
  match skipComment (skipBlanks text) with
  | [] => some []
  | rest => newline? rest

/-- Drop blanks, line ends and whole comments, inside a comment or outside of it. -/
def skipLinesFrom? : Bool → List Char → Option (List Char)
  | _, '\n' :: rest => skipLinesFrom? false rest
  | _, '\r' :: '\n' :: rest => skipLinesFrom? false rest
  | true, [] => none
  | false, [] => some []
  | true, c :: rest => if isVisible c then skipLinesFrom? true rest else none
  | false, c :: rest =>
    if isBlank c then skipLinesFrom? false rest
    else if c = '#' then skipLinesFrom? true rest
    else some (c :: rest)

/-- Drop the blanks, line ends and comments in front; a comment must end with its line. -/
def skipLines? (text : List Char) : Option (List Char) :=
  skipLinesFrom? false text

end Toml
end DenseBench
