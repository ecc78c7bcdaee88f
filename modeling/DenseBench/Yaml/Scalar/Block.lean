import DenseBench.Yaml.Cursor

/-!
# Block scalars

A block scalar consists of the indented lines after a header: as they are, or with single line
breaks folded into spaces.  The header may tell the depth of the indentation and what becomes of
the line breaks at the end: none is kept, one, or all.
-/

namespace DenseBench
namespace Yaml
namespace Scalar

/-- What becomes of the line breaks at the end. -/
inductive Chomping where
  /-- None is kept. -/
  | strip
  /-- One is kept. -/
  | clip
  /-- All are kept. -/
  | keep
  deriving DecidableEq, Repr

namespace Chomping

/-- The treatment that a character stands for. -/
def ofChar? : Char → Option Chomping
  | '-' => some strip
  | '+' => some keep
  | _ => none

end Chomping

/-- The header of a block scalar. -/
structure BlockHeader where
  /-- What becomes of the line breaks at the end. -/
  chomping : Chomping
  /-- The depth of the indentation, if it is told. -/
  depth : Option Nat
  deriving DecidableEq, Repr

/-- The depth that a digit other than zero tells. -/
def depthOf? (c : Char) : Option Nat :=
  if '1' ≤ c ∧ c ≤ '9' then some (c.toNat - '0'.toNat) else none

/-- A header and its length: a digit and a sign in either order, each at most once.  A zero is no
depth. -/
def blockHeader? (text : List Char) : Option (BlockHeader × Nat) :=
  let zeroAfter (rest : List Char) := rest.head? = some '0'
  match text with
  | [] => some (⟨.clip, none⟩, 0)
  | c :: rest =>
    match Chomping.ofChar? c, depthOf? c with
    | some chomping, _ =>
      match rest.head?.bind depthOf? with
      | some depth => some (⟨chomping, some depth⟩, 2)
      | none => if zeroAfter rest then none else some (⟨chomping, none⟩, 1)
    | none, some depth =>
      match rest.head?.bind Chomping.ofChar? with
      | some chomping => some (⟨chomping, some depth⟩, 2)
      | none => some (⟨.clip, some depth⟩, 1)
    | none, none => if c = '0' then none else some (⟨.clip, none⟩, 0)

/-- Pass over lines without words and then over the indentation, at most up to the column `depth`.
The count of lines is added to a count.  The fuel is greater than the length of the text. -/
def skipIndent (depth : Nat) : Nat → Nat → Cursor → Nat × Cursor
  | 0, lines, cursor => (lines, cursor)
  | fuel + 1, lines, cursor =>
    let spaces := ((cursor.rest.takeWhile (· == ' ')).length).min (depth - cursor.column)
    let cursor := cursor.advance spaces
    match cursor.rest with
    | c :: _ =>
      if isBreak c then skipIndent depth fuel (lines + 1) cursor.nextLine else (lines, cursor)
    | [] => (lines, cursor)

/-- Pass over lines without words and then over the whole indentation, and find the greatest column
reached on the way.  The fuel is greater than the length of the text. -/
def skipAnyIndent : Nat → Nat → Nat → Cursor → Nat × Nat × Cursor
  | 0, greatest, lines, cursor => (greatest, lines, cursor)
  | fuel + 1, greatest, lines, cursor =>
    let cursor := cursor.advanceWhile (· == ' ')
    let greatest := greatest.max cursor.column
    match cursor.rest with
    | c :: _ =>
      if isBreak c then skipAnyIndent fuel greatest (lines + 1) cursor.nextLine
      else (greatest, lines, cursor)
    | [] => (greatest, lines, cursor)

/-- The lines of a block scalar so far. -/
structure BlockText where
  /-- The characters, last one first. -/
  read : List Char
  /-- Whether a line break has been read and not been put to the characters yet. -/
  pending : Bool
  /-- The count of lines without words after that break. -/
  emptyLines : Nat
  /-- Whether the last line begins with a blank. -/
  wasIndented : Bool

namespace BlockText

/-- The characters with the line breaks before a further line.  Between two lines that do not
begin with blanks a single break is folded, unless the text is taken as it is. -/
def separated (text : BlockText) (literal isIndented : Bool) : List Char :=
  let empty := List.replicate text.emptyLines '\n'
  if !literal && text.pending && !text.wasIndented && !isIndented then
    if text.emptyLines = 0 then ' ' :: text.read else empty ++ text.read
  else empty ++ (if text.pending then '\n' :: text.read else text.read)

/-- The whole text, at a place where no further line follows. -/
def finish (text : BlockText) (chomping : Chomping) (endsOpen : Bool) : String :=
  let lastBreak := if text.pending then ['\n'] else []
  let addedBreak := if endsOpen then ['\n'] else []
  let empty := List.replicate text.emptyLines '\n'
  let tail := match chomping with
    | .strip => []
    | .clip => addedBreak ++ lastBreak
    | .keep => empty ++ addedBreak ++ lastBreak
  String.ofList (tail ++ text.read).reverse

end BlockText

/-- Read lines at the column `depth`.  The fuel is greater than the length of the text. -/
def blockLines (literal : Bool) (depth : Nat) : Nat → BlockText → Cursor → BlockText × Cursor
  | 0, text, cursor => (text, cursor)
  | fuel + 1, text, cursor =>
    if cursor.column ≠ depth ∨ cursor.rest.isEmpty ∨ cursor.atDocumentEdge then (text, cursor)
    else
      let isIndented := cursor.rest.head?.any isBlank
      let line := cursor.rest.takeWhile fun c => !isBreak c
      let read := line.reverse ++ text.separated literal isIndented
      let cursor := cursor.advance line.length
      if cursor.rest.isEmpty then (⟨read, false, 0, isIndented⟩, cursor)
      else
        let next := cursor.nextLine
        let (lines, next) := skipIndent depth (next.rest.length + 1) 0 next
        blockLines literal depth fuel ⟨read, true, lines, isIndented⟩ next

/-- Read a block scalar from its first character on, in a block with this indentation. -/
def block? (indent : Int) (cursor : Cursor) : Option (String × Cursor) := do
  let literal := cursor.rest.head? = some '|'
  let (header, length) ← blockHeader? cursor.step.rest
  let headerEnd ← (cursor.step.advance length).skipLineSpace?
  if !endsLine headerEnd.rest then none
  let hasBreak := !headerEnd.rest.isEmpty
  let first := if hasBreak then headerEnd.nextLine else headerEnd
  if first.rest.head? = some '\t' then none
  let fuel := first.rest.length + 1
  let (depth, lines, body) := match header.depth with
    | some depth =>
      let depth := if indent < 0 then depth else indent.toNat + depth
      (depth, skipIndent depth fuel 0 first)
    | none =>
      let (greatest, lines, body) := skipAnyIndent fuel 0 0 first
      let depth := greatest.max (indent + 1).toNat
      (if indent > 0 then depth.max 1 else depth, lines, body)
  if body.rest.isEmpty then
    let text := match header.chomping with
      | .strip => ""
      | .clip => if hasBreak then "\n" else ""
      | .keep =>
        if !hasBreak then ""
        else if lines = 0 then "\n" else String.ofList (List.replicate lines '\n')
    return (text, body)
  if body.column < depth ∧ (body.column : Int) > indent then none
  let (text, after) := blockLines literal depth fuel ⟨[], false, lines, false⟩ body
  let endsOpen := after.rest.isEmpty && decide (depth.max 1 ≤ after.column)
  return (text.finish header.chomping endsOpen, after)

end Scalar
end Yaml
end DenseBench
