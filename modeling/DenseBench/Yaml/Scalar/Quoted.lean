import DenseBench.Numeral.Reading
import DenseBench.Yaml.Gap

/-!
# Quoted scalars

Between single quotes a quote is written twice and nothing else is special.  Between double quotes
a backslash begins an escape, also of a line break.  Both may run over several lines, which are
folded.
-/

namespace DenseBench
namespace Yaml
namespace Scalar

/-- The character of an escape with a single letter. -/
def escapedLetter? : Char → Option Char
  | '0' => some '\x00'
  | 'a' => some '\x07'
  | 'b' => some '\x08'
  | 't' => some '\t'
  | '\t' => some '\t'
  | 'n' => some '\n'
  | 'v' => some '\x0b'
  | 'f' => some '\x0c'
  | 'r' => some '\r'
  | 'e' => some '\x1b'
  | ' ' => some ' '
  | '"' => some '"'
  | '/' => some '/'
  | '\\' => some '\\'
  | 'N' => some '\u0085'
  | '_' => some '\u00a0'
  | 'L' => some '\u2028'
  | 'P' => some '\u2029'
  | _ => none

/-- The count of hexadecimal digits after the letter of an escape. -/
def escapeWidth? : Char → Option Nat
  | 'x' => some 2
  | 'u' => some 4
  | 'U' => some 8
  | _ => none

/-- The character with this hexadecimal number; surrogates are no characters. -/
def numbered? (digits : List Char) : Option Char := do
  let number ← Numeral.natural? 16 digits
  if number < 0xD800 ∨ (0xDFFF < number ∧ number < 0x110000) then some (Char.ofNat number)
  else none

/-- The character of an escape and the length of the escape, from the letter after the backslash
on. -/
def escape? : List Char → Option (Char × Nat)
  | [] => none
  | letter :: rest =>
    match escapeWidth? letter with
    | some width =>
      if (rest.take width).length = width then
        (numbered? (rest.take width)).map fun c => (c, width + 1)
      else none
    | none => (escapedLetter? letter).map fun c => (c, 1)

/-- Read up to a blank, a line break, the closing quote or past an escaped line break, onto the
characters read so far, last one first.  The fuel is at least the length of the text. -/
def quotedWord? (quote : Char) : Nat → List Char → Cursor → Option (List Char × Gap × Cursor)
  | 0, read, cursor => some (read, .empty, cursor)
  | fuel + 1, read, cursor =>
    match cursor.rest with
    | [] => some (read, .empty, cursor)
    | c :: rest =>
      if isBlank c || isBreak c then some (read, .empty, cursor)
      else if c = '\'' && quote = '\'' && rest.head? = some '\'' then
        quotedWord? quote fuel ('\'' :: read) (cursor.advance 2)
      else if c = quote then some (read, .empty, cursor)
      else if c = '\\' && quote = '"' then
        if rest.head?.any isBreak then some (read, .escaped 0, cursor.step.nextLine)
        else do
          let (escaped, length) ← escape? rest
          quotedWord? quote fuel (escaped :: read) (cursor.advance (length + 1))
      else quotedWord? quote fuel (c :: read) cursor.step

/-- Read words and the gaps between them up to the closing quote, onto the characters read so far,
last one first.  The fuel is greater than the length of the text. -/
def quotedOnto? (quote : Char) (margin : Int) :
    Nat → List Char → Cursor → Option (String × Cursor)
  | 0, _, _ => none
  | fuel + 1, read, cursor => do
    if cursor.atDocumentEdge || cursor.rest.isEmpty || decide (cursor.column < margin) then none
    let (read, gap, cursor) ← quotedWord? quote cursor.rest.length read cursor
    if cursor.rest.head? = some quote then
      return (String.ofList read.reverse, cursor.step)
    let (gap, cursor) ← Gap.read? true margin cursor.rest.length gap cursor
    quotedOnto? quote margin fuel (gap.foldOnto read) cursor

/-- Whether a text may follow a quoted scalar: the end of the line, or a colon after a key, which
lies on one line unless it is in a flow collection, or the shape of that collection. -/
def mayFollowQuoted (inFlow sameLine : Bool) (rest : List Char) : Bool :=
  endsLine rest || match rest with
    | ':' :: _ => inFlow || sameLine
    | c :: _ => inFlow && (c = ',' || c = ']' || c = '\x7d')
    | [] => true

/-- Read a quoted scalar from its opening quote on.  Its lines are not left of the column
`margin`. -/
def quoted? (inFlow : Bool) (margin : Int) (quote : Char) (cursor : Cursor) :
    Option (String × Cursor) := do
  let (text, after) ← quotedOnto? quote margin (cursor.rest.length + 1) [] cursor.step
  let after ← after.skipLineSpace?
  if mayFollowQuoted inFlow (cursor.mark.line = after.mark.line) after.rest then
    some (text, after)
  else none

end Scalar
end Yaml
end DenseBench
