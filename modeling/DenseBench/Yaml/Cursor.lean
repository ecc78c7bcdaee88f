/-!
# Cursors in a YAML text

A cursor is what is left of a text together with the place that has been reached: the count of
characters before it, the line and the column, all from zero on.  A line ends with a line feed, a
carriage return, or both.
-/

namespace DenseBench
namespace Yaml

/-- A space or a tab. -/
def isBlank (c : Char) : Bool :=
  c = ' ' || c = '\t'

/-- A line feed or a carriage return. -/
def isBreak (c : Char) : Bool :=
  c = '\n' || c = '\r'

/-- The characters that give flow collections their shape. -/
def isFlow (c : Char) : Bool :=
  c = ',' || c = '[' || c = ']' || c = '\x7b' || c = '\x7d'

/-- Whether a text begins with a blank or a line break, or is at its end. -/
def endsWord : List Char → Bool
  | [] => true
  | c :: _ => isBlank c || isBreak c

/-- Whether a text begins with a line break or is at its end. -/
def endsLine : List Char → Bool
  | [] => true
  | c :: _ => isBreak c

/-- A place in a text. -/
structure Mark where
  /-- The count of characters before. -/
  index : Nat
  /-- The line. -/
  line : Nat
  /-- The column. -/
  column : Nat
  deriving DecidableEq, Repr

/-- The rest of a text from a place on. -/
structure Cursor where
  /-- The place. -/
  mark : Mark
  /-- Whether only blanks stand before the place in its line. -/
  indenting : Bool
  /-- What is left of the text. -/
  rest : List Char
  deriving Repr

namespace Cursor

/-- The beginning of a text. -/
def start (text : List Char) : Cursor :=
  ⟨⟨0, 0, 0⟩, true, text⟩

/-- The column that has been reached. -/
def column (cursor : Cursor) : Nat :=
  cursor.mark.column

/-- Past so many characters of a line. -/
def advance (cursor : Cursor) (count : Nat) : Cursor where
  mark := { cursor.mark with
    index := cursor.mark.index + count
    column := cursor.mark.column + count }
  indenting := cursor.indenting && (cursor.rest.take count).all isBlank
  rest := cursor.rest.drop count

/-- Past one character of a line. -/
def step (cursor : Cursor) : Cursor :=
  cursor.advance 1

/-- Past the characters of a line that have a property. -/
def advanceWhile (cursor : Cursor) (p : Char → Bool) : Cursor :=
  cursor.advance (cursor.rest.takeWhile p).length

/-- To the end of the line. -/
def toLineEnd (cursor : Cursor) : Cursor :=
  cursor.advanceWhile fun c => !isBreak c

/-- Past the line break. -/
def nextLine (cursor : Cursor) : Cursor :=
  let count := match cursor.rest with
    | '\r' :: '\n' :: _ => 2
    | _ => 1
  ⟨⟨cursor.mark.index + count, cursor.mark.line + 1, 0⟩, true, cursor.rest.drop count⟩

/-- Whether the line begins with three dashes or three dots that stand alone. -/
def atDocumentEdge (cursor : Cursor) : Bool :=
  cursor.column == 0 && match cursor.rest with
    | '-' :: '-' :: '-' :: rest => endsWord rest
    | '.' :: '.' :: '.' :: rest => endsWord rest
    | _ => false

/-- The space between the parts of a line. -/
structure LineSpace where
  /-- The place after it. -/
  after : Cursor
  /-- Whether there was a tab. -/
  hasTab : Bool
  /-- Whether there was a space. -/
  hasSpace : Bool

/-- Pass over blanks, and over a comment if a blank precedes it; a comment without a blank before
it is wrong. -/
def lineSpace? (cursor : Cursor) (skips : Char → Bool) : Option LineSpace :=
  let blanks := cursor.rest.takeWhile skips
  let after := cursor.advance blanks.length
  let found (after : Cursor) : LineSpace := ⟨after, blanks.contains '\t', blanks.contains ' '⟩
  match after.rest with
  | '#' :: _ => if blanks.isEmpty then none else some (found after.toLineEnd)
  | _ => some (found after)

/-- The place after the space between the parts of a line. -/
def skipLineSpace? (cursor : Cursor) : Option Cursor :=
  (cursor.lineSpace? isBlank).map LineSpace.after

end Cursor
end Yaml
end DenseBench
