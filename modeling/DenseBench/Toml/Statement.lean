import DenseBench.Toml.Moment
import DenseBench.Toml.Number
import DenseBench.Toml.Quoted
import DenseBench.Toml.Tree

/-!
# TOML statements

A document is a sequence of statements, one on a line: the header of a table, the header of one
more table in a sequence, or a key with its value.  A reader takes a text apart from the left and
hands on what is left of it.  Values may be nested, and keys may have parts, up to a fixed count.
-/

namespace DenseBench
namespace Toml

/-- A key with dots: the last part and the parts before it. -/
structure Key where
  /-- The parts before the last one. -/
  path : List String
  /-- The last part. -/
  name : String
  deriving DecidableEq, Repr

/-- One line of a document. -/
inductive Statement where
  | header (key : Key)
  /-- The header of one more table in a sequence. -/
  | item (key : Key)
  | assignment (key : Key) (value : Json)

/-- Values are nested, and keys have parts, below this count. -/
def maxDepth : Nat := 80

/-- The characters of a key without quotes. -/
def isBare (c : Char) : Bool :=
  c.isAlphanum || c = '_' || c = '-'

/-- One part of a key. -/
def keyPart? (text : List Char) : Option (String × List Char) :=
  match quotedLine? text with
  | some (part, rest) => some (String.ofList part, rest)
  | none =>
    let part := text.takeWhile isBare
    if part.isEmpty then none else some (String.ofList part, text.dropWhile isBare)

/-- More parts of a key, onto the parts read so far, last one first. -/
def keyParts? : Nat → List String → List Char → Option (Key × List Char)
  | 0, _, _ => none
  | fuel + 1, read, text => do
    let (part, rest) ← keyPart? (skipBlanks text)
    match skipBlanks rest with
    | '.' :: rest => keyParts? fuel (part :: read) rest
    | rest => some (⟨read.reverse, part⟩, rest)

/-- A key with the blanks around it. -/
def key? (text : List Char) : Option (Key × List Char) :=
  keyParts? (maxDepth - 1) [] text

mutual

/-- A value in front, nested less than `depth` deep.  The fuel is at least the length of the
text. -/
def value? (depth : Nat) : Nat → List Char → Option (Json × List Char)
  | 0, _ => none
  | fuel + 1, text =>
    match text with
    | [] => none
    | 't' :: 'r' :: 'u' :: 'e' :: rest => some (.bool true, rest)
    | 'f' :: 'a' :: 'l' :: 's' :: 'e' :: rest => some (.bool false, rest)
    | '[' :: rest => if depth ≤ 1 then none else items? (depth - 1) fuel [] rest
    | '\x7b' :: rest =>
      if depth ≤ 1 then none
      else match skipBlanks rest with
        | '\x7d' :: rest => some (.obj [], rest)
        | rest => entries? (depth - 1) fuel [] rest
    | c :: _ =>
      if c = '"' ∨ c = '\'' then do
        let (read, rest) ← quoted? text
        return (.str (String.ofList read), rest)
      else
        match Moment.read? text with
        | some (moment, rest) => some (.str moment.text, rest)
        | none => number? text

/-- The items of an array up to its closing bracket, onto the items read so far, last one first. -/
def items? (depth : Nat) : Nat → List Json → List Char → Option (Json × List Char)
  | 0, _, _ => none
  | fuel + 1, read, text => do
    match ← skipLines? text with
    | ']' :: rest => some (.arr read.reverse, rest)
    | text =>
      let (item, rest) ← value? depth fuel text
      match ← skipLines? rest with
      | ',' :: rest => items? depth fuel (item :: read) rest
      | ']' :: rest => some (.arr (item :: read).reverse, rest)
      | _ => none

/-- The entries of a table inside a line up to its closing brace, onto the entries read so far. -/
def entries? (depth : Nat) : Nat → Contents → List Char → Option (Json × List Char)
  | 0, _, _ => none
  | fuel + 1, read, text => do
    let (key, rest) ← key? text
    match rest with
    | '=' :: rest =>
      let (value, rest) ← value? depth fuel (skipBlanks rest)
      let read ← read.insert? key.path key.name value .explicit
      match skipBlanks rest with
      | ',' :: rest => entries? depth fuel read rest
      | '\x7d' :: rest => some (read.toJson, rest)
      | _ => none
    | _ => none

end

namespace Statement

/-- A statement in front. -/
def read? (text : List Char) : Option (Statement × List Char) := do
  match text with
  | '[' :: '[' :: rest =>
    let (key, rest) ← key? rest
    match rest with
    | ']' :: ']' :: rest => some (item key, rest)
    | _ => none
  | '[' :: rest =>
    let (key, rest) ← key? rest
    match rest with
    | ']' :: rest => some (header key, rest)
    | _ => none
  | _ =>
    let (key, rest) ← key? text
    match rest with
    | '=' :: rest =>
      let (value, rest) ← value? maxDepth (rest.length + 1) (skipBlanks rest)
      some (assignment key value, rest)
    | _ => none

/-- The statements of a document, onto the statements read so far, last one first.  The fuel is
greater than the length of the text. -/
def readAll? : Nat → List Statement → List Char → Option (List Statement)
  | 0, _, _ => none
  | fuel + 1, read, text =>
    match skipBlanks text with
    | [] => some read.reverse
    | '#' :: rest => do readAll? fuel read (← endOfLine? ('#' :: rest))
    | text =>
      match newline? text with
      | some rest => readAll? fuel read rest
      | none => do
        let (statement, rest) ← read? text
        readAll? fuel (statement :: read) (← endOfLine? rest)

end Statement
end Toml
end DenseBench
