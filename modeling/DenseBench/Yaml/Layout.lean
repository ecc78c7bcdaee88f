import DenseBench.Yaml.Scalar.Block
import DenseBench.Yaml.Scalar.Plain
import DenseBench.Yaml.Scalar.Quoted
import DenseBench.Yaml.Tag

/-!
# The layout of a YAML text

A text is taken apart into tokens from the left.  Indentation opens and closes blocks.  Whether a
node is a key shows only at the colon after it, so a place where a key may begin is kept in mind
until then; the tokens that announce the key are put in at that place.
-/

namespace DenseBench
namespace Yaml

/-- A depth of indentation. -/
structure Level where
  /-- The column. -/
  column : Nat
  /-- Whether a block begins there; else it is the least column for the contents of an entry. -/
  isBlock : Bool
  deriving DecidableEq, Repr

/-- A place where a key may begin. -/
structure KeyPlace where
  /-- The place in the text. -/
  mark : Mark
  /-- The count of tokens before it. -/
  token : Nat
  /-- Whether nothing but a key can stand there. -/
  required : Bool
  deriving DecidableEq, Repr

/-- A flow collection that is open. -/
structure Flow where
  /-- Whether it is a sequence. -/
  isSequence : Bool
  /-- The place where a key may begin that is kept in mind for what is around it. -/
  outerKey : Option KeyPlace
  deriving DecidableEq, Repr

/-- How far a text has been taken apart. -/
structure Layout where
  /-- The place that has been reached. -/
  cursor : Cursor
  /-- The tokens so far. -/
  tokens : Array Token
  /-- The depths of indentation, innermost first. -/
  levels : List Level
  /-- The open flow collections, innermost first. -/
  flows : List Flow
  /-- Whether a key may begin here. -/
  keyAllowed : Bool
  /-- The place where a key may have begun. -/
  key : Option KeyPlace
  /-- The place where a colon needs no blank after it. -/
  tightColon : Option Nat

namespace Layout

/-- The beginning of a text. -/
def start (text : List Char) : Layout where
  cursor := .start text
  tokens := #[]
  levels := []
  flows := []
  keyAllowed := true
  key := none
  tightColon := none

/-- Whether a flow collection is open. -/
def inFlow (layout : Layout) : Bool :=
  !layout.flows.isEmpty

/-- The depth of indentation, below zero outside of all blocks. -/
def indent (layout : Layout) : Int :=
  match layout.levels with
  | [] => -1
  | level :: _ => level.column

/-- The layout with one more token. -/
def push (layout : Layout) (token : Token) : Layout :=
  { layout with tokens := layout.tokens.push token }

/-- The layout with one more token in the middle. -/
def insert (layout : Layout) (index : Nat) (token : Token) : Layout :=
  { layout with tokens := layout.tokens.insertIdxIfInBounds index token }

/-- The layout at another place. -/
def moveTo (layout : Layout) (cursor : Cursor) : Layout :=
  { layout with cursor }

/-- The layout where a key may begin or not. -/
def allowKey (layout : Layout) (keyAllowed : Bool) : Layout :=
  { layout with keyAllowed }

/-! ## Indentation -/

/-- Close what lies right of a column; nothing in a flow collection. -/
def unindent (layout : Layout) (column : Int) : Layout :=
  if layout.inFlow then layout
  else
    let closes (level : Level) : Bool := column < level.column
    let blocks := (layout.levels.takeWhile closes).filter Level.isBlock
    { layout with
      levels := layout.levels.dropWhile closes
      tokens := layout.tokens ++ blocks.toArray.map fun _ => Token.blockEnd }

/-- Forget the least columns for contents. -/
def dropMargins (layout : Layout) : Layout :=
  { layout with levels := layout.levels.dropWhile fun level => !level.isBlock }

/-- Ask the contents of an entry of a block to lie at least one column further right. -/
def addMargin (layout : Layout) : Layout :=
  match layout.levels with
  | level :: _ =>
    if !layout.inFlow && level.isBlock then
      { layout with levels := ⟨level.column + 1, false⟩ :: layout.levels }
    else layout
  | [] => layout

/-- Open a block at a column, unless it is open, and put in its token at an index. -/
def openBlock (layout : Layout) (column index : Nat) (token : Token) : Layout :=
  if layout.inFlow then layout
  else
    let levels := match layout.levels with
      | level :: outer => if level.column ≤ column && !level.isBlock then outer else level :: outer
      | [] => []
    let layout := { layout with levels }
    if layout.indent < (column : Int) then
      { layout with levels := ⟨column, true⟩ :: levels }.insert index token
    else layout

/-! ## Keys -/

/-- Keep in mind that a key may begin here. -/
def markKey (layout : Layout) : Layout :=
  if layout.keyAllowed then
    let required := !layout.inFlow && match layout.levels with
      | level :: _ => level.isBlock && level.column == layout.cursor.column
      | [] => false
    { layout with key := some ⟨layout.cursor.mark, layout.tokens.size, required⟩ }
  else layout

/-- Give up the place where a key may have begun; wrong if nothing else could stand there. -/
def dropKey? (layout : Layout) : Option Layout :=
  if layout.key.any KeyPlace.required then none else some { layout with key := none }

/-- The greatest length of a key. -/
def maxKeyLength : Nat := 1024

/-- Give up a place where a key may have begun when it is on an earlier line or too far back; in a
flow collection keys may be long. -/
def dropStaleKey? (layout : Layout) : Option Layout :=
  let mark := layout.cursor.mark
  let stale (place : KeyPlace) : Bool :=
    place.mark.line < mark.line || place.mark.index + maxKeyLength < mark.index
  if !layout.inFlow && layout.key.any stale then layout.dropKey? else some layout

/-! ## Space between tokens -/

/-- Pass over blanks, comments and line breaks.  A tab does not indent.  The fuel is greater than
the length of the text. -/
def skipSpace? : Nat → Layout → Option Layout
  | 0, layout => some layout
  | fuel + 1, layout =>
    let cursor := layout.cursor
    match cursor.rest with
    | [] => some layout
    | c :: _ =>
      if c = '\t' ∧ !layout.levels.isEmpty ∧ cursor.indenting ∧
          cursor.column < layout.indent then do
        let after ← cursor.skipLineSpace?
        if endsLine after.rest then skipSpace? fuel (layout.moveTo after) else none
      else if isBlank c then skipSpace? fuel (layout.moveTo cursor.step)
      else if isBreak c then
        let next := layout.moveTo cursor.nextLine
        skipSpace? fuel (next.allowKey (!layout.inFlow || layout.keyAllowed))
      else if c = '#' then skipSpace? fuel (layout.moveTo cursor.toLineEnd)
      else some layout

/-- Pass over the space after a token in its line. -/
def skipLineSpace? (layout : Layout) : Option Layout :=
  layout.cursor.skipLineSpace?.map layout.moveTo

/-! ## Tokens -/

/-- Take a directive. -/
def directive? (layout : Layout) : Option Layout := do
  let layout ← (layout.unindent (-1)).dropKey?
  let (token, after) ← Yaml.directive? layout.cursor
  return ((layout.allowKey false).moveTo after).push token

/-- Take three dashes or dots.  Nothing but a comment may follow the dots. -/
def documentEdge? (token : Token) (layout : Layout) : Option Layout := do
  let layout ← (layout.unindent (-1)).dropKey?
  let layout := ((layout.allowKey false).moveTo (layout.cursor.advance 3)).push token
  if token = .documentEnd then
    let layout ← layout.skipLineSpace?
    if endsLine layout.cursor.rest then some layout else none
  else some layout

/-- Take an opening bracket or brace. -/
def openFlow? (isSequence : Bool) (layout : Layout) : Option Layout :=
  let layout := layout.markKey.addMargin
  let layout := { layout with
    flows := ⟨isSequence, layout.key⟩ :: layout.flows
    key := none
    keyAllowed := true
    cursor := layout.cursor.step }
  (layout.push (if isSequence then .flowSequence else .flowMapping)).skipLineSpace?

/-- Take the closing bracket or brace of the innermost flow collection. -/
def closeFlow? (isSequence : Bool) (layout : Layout) : Option Layout := do
  let layout ← layout.dropKey?
  match layout.flows with
  | [] => none
  | flow :: outer =>
    if flow.isSequence ≠ isSequence then none
    let layout := { layout with
      flows := outer
      key := flow.outerKey
      keyAllowed := false
      cursor := layout.cursor.step }
    let token := if isSequence then .flowSequenceEnd else .flowMappingEnd
    let layout ← (layout.push token).skipLineSpace?
    return if layout.inFlow then { layout with tightColon := some layout.cursor.mark.index }
      else layout

/-- Take a comma. -/
def flowEntry? (layout : Layout) : Option Layout := do
  let layout ← layout.dropKey?
  (((layout.allowKey true).moveTo layout.cursor.step).push .flowEntry).skipLineSpace?

/-- Take the dash of an item.  After a tab no further dash may follow in the line. -/
def blockEntry? (layout : Layout) : Option Layout := do
  if layout.inFlow || !layout.keyAllowed then none
  let column := layout.cursor.column
  let layout :=
    (layout.moveTo layout.cursor.step).openBlock column layout.tokens.size .blockSequence
  let space ← layout.cursor.lineSpace? isBlank
  let nested := match space.after.rest with
    | '-' :: rest => endsWord rest
    | _ => false
  if space.hasTab && nested then none
  let layout := layout.moveTo space.after
  let layout := match space.after.rest with
    | c :: _ => if isBreak c || isFlow c then layout.addMargin else layout
    | [] => layout
  let layout ← layout.dropKey?
  return (layout.allowKey true).push .blockEntry

/-- Pass over spaces, comments and line breaks up to anything else, which must not be a tab.  The
fuel is greater than the length of the text. -/
def skipUntabbed? : Nat → Layout → Option Layout
  | 0, layout => some layout
  | fuel + 1, layout =>
    let cursor := layout.cursor
    match cursor.rest with
    | [] => some layout
    | c :: _ =>
      if c = ' ' then skipUntabbed? fuel (layout.moveTo cursor.step)
      else if isBreak c then
        skipUntabbed? fuel
          ((layout.moveTo cursor.nextLine).allowKey (!layout.inFlow || layout.keyAllowed))
      else if c = '#' then skipUntabbed? fuel (layout.moveTo cursor.toLineEnd)
      else if c = '\t' then none
      else some layout

/-- Pass over the space after a question mark, which begins with a space or a line break. -/
def skipKeySpace? (layout : Layout) : Option Layout :=
  let isSpace (c : Char) : Bool := c = ' ' || isBreak c
  if layout.cursor.rest.head?.any isSpace then
    skipUntabbed? (layout.cursor.rest.length + 1) layout
  else none

/-- Take the question mark of a key. -/
def explicitKey? (layout : Layout) : Option Layout := do
  if !layout.inFlow && !layout.keyAllowed then none
  let column := layout.cursor.column
  let layout := layout.openBlock column layout.tokens.size .blockMapping
  let layout ← layout.dropKey?
  let layout := (layout.allowKey (!layout.inFlow)).moveTo layout.cursor.step
  let layout ← layout.skipKeySpace?
  return layout.push .key

/-- Whether only tabs stand between a colon and a value that could be taken for more of the
indentation. -/
def hasMereTabs (space : Cursor.LineSpace) : Bool :=
  !space.hasSpace && space.after.rest.head?.any fun c => c = '-' || c.isAlphanum

/-- Pass over the blanks after a colon if they begin with a tab. -/
def skipTabs? (layout : Layout) : Option Layout :=
  match layout.cursor.rest with
  | '\t' :: _ => do
    let space ← layout.cursor.lineSpace? isBlank
    if hasMereTabs space then none else some (layout.moveTo space.after)
  | _ => some layout

/-- Whether the innermost flow collection is a sequence. -/
def inSequence (layout : Layout) : Bool :=
  layout.flows.head?.any Flow.isSequence

/-- Take the colon of a value.  If a key has begun at the place kept in mind, its token is put in
there. -/
def value? (layout : Layout) : Option Layout := do
  let colon := layout.cursor.mark
  let layout ← (layout.moveTo layout.cursor.step).skipTabs?
  match layout.key with
  | some place =>
    if layout.inSequence && place.mark.line < colon.line then none
    let layout := layout.insert place.token .key
    let layout := (layout.openBlock place.mark.column place.token .blockMapping).addMargin
    return { layout with key := none, keyAllowed := false }.push .value
  | none =>
    if !layout.inFlow && !layout.keyAllowed then none
    let layout := layout.openBlock colon.column layout.tokens.size .blockMapping
    return (layout.addMargin.allowKey (!layout.inFlow)).push .value

/-- Take the colon of a value in a flow collection.  An opening bracket or brace may stand right
after it only where the colon needs no blank. -/
def flowValue? (layout : Layout) (next : List Char) : Option Layout :=
  let opens (c : Char) : Bool := c = '[' || c = '\x7b'
  if layout.tightColon ≠ some layout.cursor.mark.index && next.head?.any opens then none
  else layout.value?

/-- Take a node that has only a name or a tag. -/
def property (layout : Layout) (token : Token) (after : Cursor) : Layout :=
  ((layout.markKey.allowKey false).moveTo after).push token

/-- Take the anchor of a node, or a reference to one. -/
def anchor? (make : String → Token) (layout : Layout) : Option Layout := do
  let (name, after) ← anchorName? layout.cursor.step
  return layout.property (make name) after

/-- Take the tag of a node. -/
def tag? (layout : Layout) : Option Layout := do
  let (token, after) ← Yaml.tag? layout.inFlow layout.cursor
  return layout.property token after

/-- Take a block scalar. -/
def blockScalar? (layout : Layout) : Option Layout := do
  let layout := layout.markKey.dropMargins
  let (text, after) ← Scalar.block? layout.indent layout.cursor
  return ((layout.allowKey true).moveTo after).push (.scalar false text)

/-- Take a quoted scalar and the space after it. -/
def quotedScalar? (quote : Char) (layout : Layout) : Option Layout := do
  let (text, after) ← Scalar.quoted? layout.inFlow layout.indent quote layout.cursor
  let layout := (layout.markKey.allowKey false).moveTo after
  let layout ← skipSpace? (after.rest.length + 1) layout
  return { layout with tightColon := some layout.cursor.mark.index }.push (.scalar false text)

/-- Take a plain scalar. -/
def plainScalar? (layout : Layout) : Option Layout := do
  let layout := (layout.markKey.allowKey false).dropMargins
  let plain ← Scalar.plain? layout.inFlow (layout.indent + 1) layout.cursor
  let layout := layout.allowKey plain.brokenOff
  return (layout.moveTo plain.after).push (.scalar true plain.text)

/-- Take the token in front, by its first character and the text after that. -/
def token? (layout : Layout) (c : Char) (rest : List Char) : Option Layout :=
  let alone := endsWord rest
  match c with
  | '[' => layout.openFlow? true
  | '\x7b' => layout.openFlow? false
  | ']' => layout.closeFlow? true
  | '\x7d' => layout.closeFlow? false
  | ',' => layout.flowEntry?
  | '*' => layout.anchor? .alias
  | '&' => layout.anchor? .anchor
  | '!' => layout.tag?
  | '\'' => layout.quotedScalar? '\''
  | '"' => layout.quotedScalar? '"'
  | '-' => if alone then layout.blockEntry? else layout.plainScalar?
  | '?' => if alone then layout.explicitKey? else layout.plainScalar?
  | ':' =>
    if alone then layout.value?
    else if layout.inFlow &&
        (rest.head?.any isFlow || layout.tightColon == some layout.cursor.mark.index) then
      layout.flowValue? rest
    else layout.plainScalar?
  | _ =>
    if (c = '|' || c = '>') && !layout.inFlow then layout.blockScalar?
    else if c = '%' || c = '@' || c = '\x60' then none
    else layout.plainScalar?

/-- Close everything at the end of the text. -/
def finish? (layout : Layout) : Option (Array Token) := do
  let layout ← layout.dropKey?
  return (layout.unindent (-1)).tokens

/-- Take all tokens.  The fuel is greater than the length of the text. -/
def run? : Nat → Layout → Option (Array Token)
  | 0, _ => none
  | fuel + 1, layout => do
    let layout ← skipSpace? (layout.cursor.rest.length + 1) layout
    let layout ← layout.dropStaleKey?
    let layout := layout.unindent layout.cursor.column
    match layout.cursor.rest with
    | [] => layout.finish?
    | c :: rest =>
      if layout.cursor.column < layout.indent then none
      else if layout.cursor.column = 0 ∧ c = '%' then run? fuel (← layout.directive?)
      else if layout.cursor.atDocumentEdge then
        run? fuel (← layout.documentEdge? (if c = '-' then .documentStart else .documentEnd))
      else run? fuel (← layout.token? c rest)

end Layout

namespace Token

/-- The tokens of a text. -/
def ofText? (text : List Char) : Option (Array Token) :=
  Layout.run? (text.length + 1) (.start text)

end Token
end Yaml
end DenseBench
