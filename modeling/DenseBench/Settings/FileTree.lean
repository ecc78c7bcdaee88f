/-!
# File trees

What the files around a program look like to it: texts and directories at paths below the
directory in which it works.  Every directory on the way to an entry is there as well.
-/

namespace DenseBench
namespace Settings

/-- What stands at a path. -/
inductive FileEntry where
  | file (text : String)
  | directory
  deriving DecidableEq, Repr

/-- Files and directories by the names on the way to them. -/
structure FileTree where
  /-- The entries that are named. -/
  entries : List (List String × FileEntry)

namespace FileTree

/-- The parts of a path between slashes. -/
def parts (path : String) : List String :=
  (path.toList.splitOn '/').map String.ofList

/-- The names in a path, without empty names and names of the directory at hand. -/
def names (path : String) : List String :=
  (parts path).filter fun name => name ≠ "" ∧ name ≠ "."

/-- The tree of files at paths; a path that ends with a slash is a directory. -/
def ofPaths (files : List (String × String)) : FileTree where
  entries := files.map fun (path, text) =>
    (names path, if path.toList.getLast? = some '/' then .directory else .file text)

/-- What stands at the end of a way. -/
def entry? (tree : FileTree) (way : List String) : Option FileEntry :=
  match tree.entries.lookup way with
  | some found => some found
  | none =>
    if way.isEmpty || tree.entries.any (fun (other, _) => way.isPrefixOf other) then some .directory
    else none

/-- Where a walk through a tree has come to: a way inside the tree, or no way at all outside of
it. -/
abbrev Spot : Type :=
  Option (List String)

/-- What is at a spot; of the world outside of the tree only directories are known. -/
def at? (tree : FileTree) : Spot → Option FileEntry
  | some way => tree.entry? way
  | none => some .directory

/-- Follow names from a spot; every name needs a directory to start from, and `..` leads out of
it. -/
def walk? (tree : FileTree) : List String → Spot → Option Spot
  | [], spot => some spot
  | name :: rest, spot =>
    if tree.at? spot ≠ some .directory then none
    else match name, spot with
      | "..", some (first :: way) => walk? tree rest (some (first :: way).dropLast)
      | "..", _ => walk? tree rest none
      | name, some way => walk? tree rest (some (way ++ [name]))
      | _, none => none

/-- What stands at a path.  A path that begins with a slash leads out of the tree. -/
def find? (tree : FileTree) (path : String) : Option FileEntry := do
  if path.isEmpty then none
  let start : Spot := if path.toList.head? = some '/' then none else some []
  let entry ← tree.at? (← tree.walk? (names path) start)
  let needsDirectory := [some "", some "."].contains (parts path).getLast?
  if needsDirectory ∧ entry ≠ .directory then none else some entry

end FileTree
end Settings
end DenseBench
