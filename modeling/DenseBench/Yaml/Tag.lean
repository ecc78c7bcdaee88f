import DenseBench.Numeral.Reading
import DenseBench.Yaml.Cursor
import DenseBench.Yaml.Token

/-!
# Anchors, tags and directives

An anchor gives a node a name, a tag gives it a type, and a directive at the beginning of a line
tells what the handle of a tag stands for.
-/

namespace DenseBench
namespace Yaml

/-- The characters of handles of tags and of names of directives. -/
def isHandleChar (c : Char) : Bool :=
  c.isAlphanum || c = '_' || c = '-'

/-- The characters of the name of an anchor. -/
def isAnchorChar (c : Char) : Bool :=
  !isBlank c && !isBreak c && !isFlow c && c ≠ '\ufeff'

/-- The name of an anchor or of a reference to one, after the character that marks it. -/
def anchorName? (cursor : Cursor) : Option (String × Cursor) :=
  let name := cursor.rest.takeWhile isAnchorChar
  if name.isEmpty then none else some (String.ofList name, cursor.advance name.length)

/-- The characters of the address that a tag abbreviates, besides letters and digits. -/
def addressMarks : List Char :=
  "-_;/?:@&=+$.~*'()#".toList

/-- Whether a character may stand in the suffix of a tag. -/
def isSuffixChar (c : Char) : Bool :=
  c.isAlphanum || addressMarks.contains c || c = '%'

/-- Whether a character may stand in the full address of a tag. -/
def isAddressChar (c : Char) : Bool :=
  isSuffixChar c || c = '!' || c = ',' || c = '[' || c = ']'

/-- The bytes that a text with percent escapes stands for; other characters stand for themselves. -/
def unescape? : List Char → Option (List Char)
  | '%' :: high :: low :: rest => do
    let byte ← Numeral.natural? 16 [high, low]
    if byte < 0x80 then return Char.ofNat byte :: (← unescape? rest) else none
  | '%' :: _ => none
  | c :: rest => do return c :: (← unescape? rest)
  | [] => some []

/-- The handle in front: one exclamation mark, or a name between two. -/
def tagHandle (text : List Char) : List Char :=
  match text with
  | '!' :: rest =>
    let name := rest.takeWhile isHandleChar
    match rest.dropWhile isHandleChar with
    | '!' :: _ => '!' :: name ++ ['!']
    | _ => ['!']
  | _ => []

/-- A tag from its first exclamation mark on. -/
def tag? (inFlow : Bool) (cursor : Cursor) : Option (Token × Cursor) := do
  let (token, after) ← match cursor.rest with
    | '!' :: '<' :: rest =>
      let address := rest.takeWhile isAddressChar
      match rest.dropWhile isAddressChar with
      | '>' :: _ =>
        if address.isEmpty then none
        else some (Token.tag "" (String.ofList (← unescape? address)),
          cursor.advance (address.length + 3))
      | _ => none
    | text =>
      let handle := tagHandle text
      let suffix := (text.drop handle.length).takeWhile isSuffixChar
      let after := cursor.advance (handle.length + suffix.length)
      let address := String.ofList (← unescape? suffix)
      if handle.length > 1 then
        if suffix.isEmpty then none else some (Token.tag (String.ofList handle) address, after)
      else if suffix.isEmpty then some (Token.tag "" "!", after)
      else some (Token.tag "!" address, after)
  if endsWord after.rest || (inFlow && after.rest.head?.any isFlow) then some (token, after)
  else none

/-- The version that a directive tells, after its name: two numbers with a point between them. -/
def versionDirective? (cursor : Cursor) : Option (Token × Cursor) :=
  let cursor := cursor.advanceWhile isBlank
  let major := cursor.rest.takeWhile Char.isDigit
  match cursor.rest.dropWhile Char.isDigit with
  | '.' :: rest =>
    let minor := rest.takeWhile Char.isDigit
    if major.isEmpty || minor.isEmpty then none
    else some (.version, cursor.advance (major.length + minor.length + 1))
  | _ => none

/-- A handle with what it stands for, after the name of the directive. -/
def handleDirective? (cursor : Cursor) : Option (Token × Cursor) :=
  let cursor := cursor.advanceWhile isBlank
  let handle := tagHandle cursor.rest
  let between := cursor.advance handle.length
  let stemStart := between.advanceWhile isBlank
  let stem := stemStart.rest.takeWhile isAddressChar
  let after := stemStart.advance stem.length
  if handle.isEmpty || !between.rest.head?.any isBlank || stem.isEmpty ||
      !endsWord after.rest then none
  else (unescape? stem).map fun address =>
    (.handle (String.ofList handle) (String.ofList address), after)

/-- A directive from its percent sign on, with the end of its line.  A directive with any other name
counts as one for a handle without a name. -/
def directive? (cursor : Cursor) : Option (Token × Cursor) := do
  let nameStart := cursor.step
  let name := nameStart.rest.takeWhile isHandleChar
  let afterName := nameStart.advance name.length
  if name.isEmpty || !endsWord afterName.rest then none
  let (token, after) ← match String.ofList name with
    | "YAML" => versionDirective? afterName
    | "TAG" => handleDirective? afterName
    | _ => some (.handle "" "", afterName.toLineEnd)
  let after ← after.skipLineSpace?
  if !endsLine after.rest then none
  return (token, if after.rest.isEmpty then after else after.nextLine)

end Yaml
end DenseBench
