import DenseBench.Yaml.Gap

/-!
# Plain scalars

A plain scalar is a text without quotes.  It ends before a colon that a blank follows, before a
comment, before the shape of a flow collection that it stands in, and where the indentation ends.
-/

namespace DenseBench
namespace Yaml
namespace Scalar

/-- Whether a character, before these others, goes on with a plain scalar. -/
def continuesPlain (inFlow : Bool) (c : Char) (rest : List Char) : Bool :=
  if c = ':' && (endsWord rest || (inFlow && rest.head?.any isFlow)) then false
  else !(inFlow && isFlow c)

/-- The length of the word in front. -/
def wordLength (inFlow : Bool) : List Char → Nat
  | [] => 0
  | c :: rest =>
    if isBlank c || isBreak c || !continuesPlain inFlow c rest then 0
    else wordLength inFlow rest + 1

/-- A plain scalar that has been read. -/
structure Plain where
  /-- The text. -/
  text : String
  /-- Whether a line break follows it. -/
  brokenOff : Bool
  /-- The place after it. -/
  after : Cursor

/-- Read words and the gaps between them, onto the characters read so far, last one first.  The
fuel is greater than the length of the text. -/
def plainOnto? (inFlow : Bool) (margin : Int) :
    Nat → List Char → Gap → Cursor → Option Plain
  | 0, _, _, _ => none
  | fuel + 1, read, gap, cursor =>
    let finished : Option Plain :=
      some ⟨String.ofList read.reverse, gap.hasBreak, cursor⟩
    match cursor.rest with
    | [] => finished
    | c :: rest =>
      if cursor.atDocumentEdge || c = '#' then finished
      else if inFlow && c = '-' && rest.head?.any isFlow then none
      else
        let length := wordLength inFlow cursor.rest
        let word := cursor.rest.take length
        let (read, gap) :=
          if length = 0 then (read, gap) else (word.reverse ++ gap.foldOnto read, Gap.empty)
        let cursor := cursor.advance length
        let finished (gap : Gap) (cursor : Cursor) : Option Plain :=
          some ⟨String.ofList read.reverse, gap.hasBreak, cursor⟩
        if cursor.rest.isEmpty || !endsWord cursor.rest then finished gap cursor
        else do
          let (gap, cursor) ← Gap.read? false margin cursor.rest.length gap cursor
          if !inFlow && decide (cursor.column < margin) then finished gap cursor
          else plainOnto? inFlow margin fuel read gap cursor

/-- Read a plain scalar.  Its lines are not left of the column `margin`. -/
def plain? (inFlow : Bool) (margin : Int) (cursor : Cursor) : Option Plain :=
  if inFlow && decide (cursor.column < margin) then none
  else plainOnto? inFlow margin (cursor.rest.length + 1) [] Gap.empty cursor

end Scalar
end Yaml
end DenseBench
