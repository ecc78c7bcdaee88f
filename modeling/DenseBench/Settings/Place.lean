import DenseBench.Settings.Setting

/-!
# Places of settings

The key of a setting may be a path, such as `a.b[0]`: names of tables and positions in lists.  A
position below zero counts from the end of the list.  A key that is no path is the name of a
setting as it is.
-/

namespace DenseBench
namespace Settings

/-- One step into a setting. -/
inductive Step where
  /-- To the member of a table with this key. -/
  | key (name : String)
  /-- To the item of a list at this position. -/
  | position (index : Int)
  deriving DecidableEq, Repr

/-- Steps from the table of all settings to one of them. -/
structure Place where
  /-- All steps but the last one. -/
  path : List Step
  /-- The last step. -/
  last : Step
  deriving DecidableEq, Repr

namespace Place

/-- The characters of a name in a path. -/
def isNameChar (c : Char) : Bool :=
  c.isAlphanum || c = '_' || c = '-' || c = ' '

/-- A name in front. -/
def name? (text : List Char) : Option (String × List Char) :=
  let name := text.takeWhile isNameChar
  if name.isEmpty then none else some (String.ofList name, text.dropWhile isNameChar)

/-- Drop the spaces and tabs in front. -/
def skipBlanks (text : List Char) : List Char :=
  text.dropWhile fun c => c = ' ' || c = '\t'

/-- A position between brackets, after the opening one. -/
def position? (text : List Char) : Option (Int × List Char) := do
  let (negative, body) := match skipBlanks text with
    | '-' :: rest => (true, rest)
    | rest => (false, rest)
  let magnitude ← Numeral.natural? 10 (body.takeWhile Char.isDigit)
  let index : Int := if negative then -magnitude else magnitude
  match skipBlanks (body.dropWhile Char.isDigit) with
  | ']' :: rest => if Numeral.fitsInt64 index then some (index, rest) else none
  | _ => none

/-- The steps after a name, onto the steps read so far, last one first.  The fuel is at least the
length of the text. -/
def steps? : Nat → List Step → List Char → Option (List Step)
  | _, read, [] => some read.reverse
  | fuel + 1, read, '.' :: rest => do
    let (name, rest) ← name? rest
    steps? fuel (.key name :: read) rest
  | fuel + 1, read, '[' :: rest => do
    let (index, rest) ← position? rest
    steps? fuel (.position index :: read) rest
  | _, _, _ => none

/-- Split off the last of some steps. -/
def ofSteps : Step → List Step → Place
  | step, [] => ⟨[], step⟩
  | step, next :: rest =>
    let place := ofSteps next rest
    ⟨step :: place.path, place.last⟩

/-- The place that a key means. -/
def ofKey (key : String) : Place :=
  let steps := do
    let (name, rest) ← name? key.toList
    return (Step.key name, ← steps? rest.length [] rest)
  match steps with
  | some (first, rest) => ofSteps first rest
  | none => ⟨[], .key key⟩

/-- The position in a list of so many items. -/
def resolve (index : Int) (size : Nat) : Nat :=
  if index < 0 then size - index.natAbs else index.toNat

/-- The item at a position, absent beyond the end. -/
def itemAt (items : List Setting) (index : Nat) : Setting :=
  (items[index]?).getD .absent

/-- Replace the item at a position; absent items fill the list up to it. -/
def replaceItem (items : List Setting) (index : Nat) (item : Setting) : List Setting :=
  let filled := items ++ List.replicate (index + 1 - items.length) Setting.absent
  filled.set index item

/-- Put a setting one step into another one. -/
def putAtStep (value there : Setting) : Step → Setting
  | .key name =>
    let (origin, members) := there.asTable
    .table origin (Setting.merge name members value)
  | .position index =>
    let (origin, items) := there.asList
    .list origin (replaceItem items (resolve index items.length) value)

/-- Put a setting at the end of some steps.  Tables and lists on the way are made as needed. -/
def putAfter (value : Setting) (last : Step) : List Step → Setting → Setting
  | [], there => putAtStep value there last
  | .key name :: rest, there =>
    let (origin, members) := there.asTable
    let inner := (Members.get? name members).getD .absent
    .table origin (Members.put name (putAfter value last rest inner) members)
  | .position index :: rest, there =>
    let (origin, items) := there.asList
    let position := resolve index items.length
    let inner := itemAt items position
    .list origin (replaceItem items position (putAfter value last rest inner))

/-- Put a setting at a place. -/
def put (place : Place) (value there : Setting) : Setting :=
  putAfter value place.last place.path there

end Place
end Settings
end DenseBench
