import DenseBench.Numeral.Reading
import DenseBench.Toml.Space

/-!
# Quoted TOML texts

A text stands between double quotes, with escapes, or between single quotes, as it is.  Between
three quotes it may run over several lines: a line end right after the opening quotes is dropped,
every other line end counts as a line feed, and up to two quotes may stand before the closing
ones.  Between three double quotes a backslash at the end of a line drops the blanks and line ends
that follow.
-/

namespace DenseBench
namespace Toml

/-- The character of an escape with a single letter. -/
def escapedLetter? : Char → Option Char
  | 'b' => some '\x08'
  | 't' => some '\t'
  | 'n' => some '\n'
  | 'f' => some '\x0c'
  | 'r' => some '\r'
  | '"' => some '"'
  | '\\' => some '\\'
  | _ => none

/-- The character with this hexadecimal number; surrogates are no characters. -/
def numbered? (digits : List Char) : Option Char := do
  let number ← Numeral.natural? 16 digits
  if number < 0xD800 ∨ (0xDFFF < number ∧ number < 0x110000) then some (Char.ofNat number)
  else none

/-- The rest of a text between double quotes on one line, onto the characters read so far, last one
first. -/
def lineText? (read : List Char) : List Char → Option (List Char × List Char)
  | '"' :: rest => some (read.reverse, rest)
  | '\\' :: 'u' :: a :: b :: c :: d :: rest => do
    lineText? ((← numbered? [a, b, c, d]) :: read) rest
  | '\\' :: 'U' :: a :: b :: c :: d :: e :: f :: g :: h :: rest => do
    lineText? ((← numbered? [a, b, c, d, e, f, g, h]) :: read) rest
  | '\\' :: letter :: rest => do
    lineText? ((← escapedLetter? letter) :: read) rest
  | c :: rest => if isVisible c then lineText? (c :: read) rest else none
  | [] => none

/-- The quotes at the end of a text over several lines: three close it, up to two more belong to the
text. -/
def closing? (quote : Char) (read text : List Char) : Option (List Char × List Char) :=
  match (text.takeWhile (· == quote)).length with
  | 0 | 1 | 2 => none
  | 3 => some (read.reverse, text.drop 3)
  | 4 => some ((quote :: read).reverse, text.drop 4)
  | _ => some ((quote :: quote :: read).reverse, text.drop 5)

/-- Whether a text begins with blanks and a line end. -/
def endsLine (text : List Char) : Bool :=
  (newline? (skipBlanks text)).isSome

/-- The rest of a text between three double quotes, onto the characters read so far, last one first.
While `skipping`, blanks and line ends are dropped. -/
def blockText? (skipping : Bool) (read : List Char) : List Char → Option (List Char × List Char)
  | '"' :: rest =>
    match closing? '"' read ('"' :: rest) with
    | some done => some done
    | none => blockText? false ('"' :: read) rest
  | '\\' :: 'u' :: a :: b :: c :: d :: rest => do
    blockText? false ((← numbered? [a, b, c, d]) :: read) rest
  | '\\' :: 'U' :: a :: b :: c :: d :: e :: f :: g :: h :: rest => do
    blockText? false ((← numbered? [a, b, c, d, e, f, g, h]) :: read) rest
  | '\\' :: letter :: rest =>
    match escapedLetter? letter with
    | some c => blockText? false (c :: read) rest
    | none => if endsLine (letter :: rest) then blockText? true read (letter :: rest) else none
  | '\r' :: '\n' :: rest => blockText? skipping (if skipping then read else '\n' :: read) rest
  | c :: rest =>
    if skipping && (isBlank c || c == '\n') then blockText? true read rest
    else if isVisible c || c == '\n' then blockText? false (c :: read) rest
    else none
  | [] => none

/-- The rest of a text between three single quotes, onto the characters read so far, last one
first. -/
def rawBlockText? (read : List Char) : List Char → Option (List Char × List Char)
  | '\'' :: rest =>
    match closing? '\'' read ('\'' :: rest) with
    | some done => some done
    | none => rawBlockText? ('\'' :: read) rest
  | '\r' :: '\n' :: rest => rawBlockText? ('\n' :: read) rest
  | c :: rest => if isVisible c || c == '\n' then rawBlockText? (c :: read) rest else none
  | [] => none

/-- Drop one line end in front, if there is one. -/
def dropNewline (text : List Char) : List Char :=
  (newline? text).getD text

/-- A text between single quotes on one line. -/
def rawLineText? (text : List Char) : Option (List Char × List Char) :=
  let body := text.takeWhile fun c => isVisible c && c != '\''
  match text.dropWhile fun c => isVisible c && c != '\'' with
  | '\'' :: rest => some (body, rest)
  | _ => none

/-- A quoted text on one line. -/
def quotedLine? : List Char → Option (List Char × List Char)
  | '"' :: rest => lineText? [] rest
  | '\'' :: rest => rawLineText? rest
  | _ => none

/-- A quoted text on one or several lines. -/
def quoted? : List Char → Option (List Char × List Char)
  | '"' :: '"' :: '"' :: rest => blockText? false [] (dropNewline rest)
  | '\'' :: '\'' :: '\'' :: rest => rawBlockText? [] (dropNewline rest)
  | text => quotedLine? text

end Toml
end DenseBench
