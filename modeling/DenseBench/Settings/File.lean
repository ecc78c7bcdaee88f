import DenseBench.Json.Reader
import DenseBench.Settings.Library
import DenseBench.Settings.LoadError
import DenseBench.Toml.Reader
import DenseBench.Yaml.Reader

/-!
# Settings from files

The extension of the name of a file tells its format.  Where no file stands at a path, the file
beside it whose name has one of the extensions in addition is taken.
-/

namespace DenseBench
namespace Settings

/-- The formats of files with settings; files in any other format are refused. -/
inductive FileFormat where
  /-- Tables line by line. -/
  | toml
  /-- Values between brackets and braces. -/
  | json
  /-- Values by their indentation. -/
  | yaml
  deriving DecidableEq, Repr

namespace FileFormat

/-- The extensions of file names with their formats. -/
def extensions : List (String × FileFormat) :=
  [("toml", toml), ("json", json), ("yaml", yaml), ("yml", yaml)]

/-- The value that a text in a format holds. -/
def parse? : FileFormat → List Char → Option Json
  | toml, text => Toml.parse? text
  | json, text => Json.parse? text
  | yaml, text => Yaml.parse? text

end FileFormat

namespace File

/-- The extension of a file name: what follows its last dot, if anything precedes that dot. -/
def extension? (name : String) : Option String :=
  match (name.toList.splitOn '.').reverse with
  | extension :: rest =>
    if rest.length > 1 ∨ rest.any (· ≠ []) then some (String.ofList extension) else none
  | [] => none

/-- The format of the file at a path. -/
def format? (path : String) : Option FileFormat := do
  let name ← (FileTree.names path).getLast?
  FileFormat.extensions.lookup (← extension? name)

/-- A path without the parts that lead nowhere. -/
def normal (path : String) : String :=
  "/".intercalate (FileTree.names path)

/-- Drop the mark that may stand before a text. -/
def dropMark : List Char → List Char
  | '\ufeff' :: rest => rest
  | text => text

/-- The layer of settings that a text in a format holds. -/
def layerOfText (path : String) (format : FileFormat) (text : String) : Loaded (Layer Setting) :=
  let origin := normal path
  match format.parse? (dropMark text.toList) with
  | some json =>
    match Setting.ofJson (some origin) json with
    | .table _ members => .ok members
    | _ => .error (.malformedFile origin)
  | none => .error (.malformedFile origin)

/-- The layer of settings that a text at a path holds. -/
def read (path text : String) : Loaded (Layer Setting) :=
  match format? path with
  | some format => layerOfText path format text
  | none => .error (.unknownFormat path)

/-- The file whose path is longer by one of the extensions. -/
def beside? (tree : FileTree) (path : String) : Option (String × FileFormat × String) :=
  if (FileTree.names path).getLast? ∈ [none, some ".."] then none
  else FileFormat.extensions.findSome? fun (extension, format) =>
    let sibling := normal path ++ "." ++ extension
    match tree.find? sibling with
    | some (.file text) => some (sibling, format, text)
    | _ => none

/-- The layer of settings of the file at a path. -/
def layer (tree : FileTree) (path : String) : Loaded (Layer Setting) :=
  match tree.find? path, beside? tree path with
  | some (.file text), _ => read path text
  | _, some (sibling, format, text) => layerOfText sibling format text
  | _, none => .error (.fileNotFound path)

end File
end Settings
end DenseBench
