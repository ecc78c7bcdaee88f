import DenseBench.Json.Basic
import DenseBench.Members
import DenseBench.Numeral.Reading
import DenseBench.Text.Lowercase

/-!
# Settings

A setting is a value that remembers the source it was read from, if it was read from one.  Tables
that only hold settings of several sources together have no origin.
-/

namespace DenseBench

/-- A value without parts. -/
inductive Scalar where
  | null
  | bool (value : Bool)
  /-- A signed integer of 64 bits. -/
  | int (value : Int)
  | float (value : Float)
  | text (value : String)

/-- A value with its origin. -/
inductive Setting where
  /-- A value without parts. -/
  | scalar (origin : Option String) (value : Scalar)
  | list (origin : Option String) (items : List Setting)
  | table (origin : Option String) (members : List (String × Setting))

namespace Setting

/-- The absent value, from nowhere. -/
def absent : Setting :=
  scalar none .null

/-- A number of a document: an integer that does not fit in 64 bits with its sign is a float. -/
def ofInt (origin : Option String) (n : Int) : Setting :=
  if Numeral.fitsInt64 n then scalar origin (.int n) else scalar origin (.float (Float.ofInt n))

mutual

/-- The value of a document as a setting. -/
def ofJson (origin : Option String) : Json → Setting
  | .null => scalar origin .null
  | .bool value => scalar origin (.bool value)
  | .int value => ofInt origin value
  | .float value => scalar origin (.float value)
  | .str value => scalar origin (.text value)
  | .arr items => list origin (ofItems origin items)
  | .obj members => table origin (Members.ofList (ofMembers origin members))

/-- The items of an array as settings. -/
def ofItems (origin : Option String) : List Json → List Setting
  | [] => []
  | item :: rest => ofJson origin item :: ofItems origin rest

/-- The members of an object as settings. -/
def ofMembers (origin : Option String) : List (String × Json) → List (String × Setting)
  | [] => []
  | (key, value) :: rest => (key, ofJson origin value) :: ofMembers origin rest

end

/-- Origin and members of a table; anything else is replaced by a table from nowhere. -/
def asTable : Setting → Option String × List (String × Setting)
  | table origin members => (origin, members)
  | _ => (none, [])

/-- Origin and items of a list; anything else is replaced by a list from nowhere. -/
def asList : Setting → Option String × List Setting
  | list origin items => (origin, items)
  | _ => (none, [])

/-- A key as tables of settings spell it. -/
def foldKey (key : String) : String :=
  Text.lower key

mutual

/-- Put a setting at a key.  A table does not replace what is there: its members are put there one
by one. -/
def merge (key : String) (members : List (String × Setting)) : Setting → List (String × Setting)
  | table _ entries =>
    let there := (Members.get? (foldKey key) members).getD (table none [])
    Members.put (foldKey key) (mergeAll entries there) members
  | scalar origin value => Members.put (foldKey key) (scalar origin value) members
  | list origin items => Members.put (foldKey key) (list origin items) members

/-- Put members into a setting, which becomes a table if there is a member. -/
def mergeAll : List (String × Setting) → Setting → Setting
  | [], there => there
  | (key, entry) :: rest, there =>
    let (origin, members) := there.asTable
    mergeAll rest (table origin (merge key members entry))

end

end Setting
end DenseBench
