import DenseBench.Text.Blank

/-!
# Dataset sizes

Every kernel of a run works at one size class.  A class has one name and several accepted
spellings; reading ignores surrounding blanks, the case of ASCII letters and one `_dataset` suffix.
-/

namespace DenseBench

/-- Problem size class shared by every kernel in a run. -/
inductive DatasetSize where
  | mini
  | small
  | medium
  | large
  | extraLarge
  deriving DecidableEq, Repr

/-- The error of a spelling that names no size class. -/
structure UnknownDatasetSize where
  /-- The text as it was given. -/
  input : String
  deriving DecidableEq, Repr

namespace UnknownDatasetSize

/-- The wording of the error. -/
def message (error : UnknownDatasetSize) : String :=
  "unknown dataset size '" ++ error.input ++
    "' (expected one of MINI, SMALL, MEDIUM, LARGE, EXTRALARGE)"

end UnknownDatasetSize

namespace DatasetSize

/-- All size classes, smallest first. -/
def all : List DatasetSize :=
  [mini, small, medium, large, extraLarge]

/-- The class that is used when none is chosen. -/
def standard : DatasetSize := mini

/-- Position of a class in `all`. -/
def index : DatasetSize → Fin 5
  | mini => 0
  | small => 1
  | medium => 2
  | large => 3
  | extraLarge => 4

/-- The table with these entries, from the smallest class to the largest. -/
def table {α : Type u} (first second third fourth fifth : α) : Vector α 5 :=
  #v[first, second, third, fourth, fifth]

/-- The entry for this class in a table laid out from the smallest class to the largest. -/
def pick {α : Type u} (size : DatasetSize) (table : Vector α 5) : α :=
  table[size.index]

/-- The name of a class. -/
def name : DatasetSize → String
  | mini => "MINI"
  | small => "SMALL"
  | medium => "MEDIUM"
  | large => "LARGE"
  | extraLarge => "EXTRALARGE"

/-- The lower-case spellings of a class. -/
def spellings : DatasetSize → List (List Char)
  | mini => ["mini".toList]
  | small => ["small".toList]
  | medium => ["medium".toList]
  | large => ["large".toList]
  | extraLarge => ["extralarge".toList, "extra_large".toList, "extra-large".toList, "xl".toList]

/-- The suffix that a spelling may carry. -/
def suffix : List Char :=
  "_dataset".toList

/-- Drop one `_dataset` at the end, if there is one. -/
def dropSuffix (text : List Char) : List Char :=
  if suffix.isSuffixOf text then text.take (text.length - suffix.length) else text

/-- The class with exactly this lower-case spelling. -/
def ofSpelling? (text : List Char) : Option DatasetSize :=
  all.find? fun size => size.spellings.contains text

/-- Read a size class. -/
def parse (text : String) : Except UnknownDatasetSize DatasetSize :=
  match ofSpelling? (dropSuffix ((Text.trim text.toList).map Char.toLower)) with
  | some size => .ok size
  | none => .error ⟨text⟩

/-- The class that a text converts to where it stands for one. -/
def ofString (text : String) : Except UnknownDatasetSize DatasetSize :=
  parse text

end DatasetSize
end DenseBench
