import DenseBench.Json.Basic
import DenseBench.Members

/-!
# Trees of TOML tables

The tables of a document grow statement by statement.  Every table remembers how it was opened,
since that decides what may still be added to it: no table is opened twice, and no key gets a
second value.
-/

namespace DenseBench
namespace Toml

/-- How a table was opened. -/
inductive Opening where
  /-- By a header of its own; the whole document counts as opened so. -/
  | explicit
  /-- By the header of a table inside it. -/
  | implied
  /-- By a key with dots. -/
  | dotted
  deriving DecidableEq, Repr

/-- What stands at a key. -/
inductive Node where
  /-- A value that is complete. -/
  | value (json : Json)
  /-- A table that may grow. -/
  | table (opening : Opening) (members : List (String × Node))
  /-- A sequence of tables, latest first, of which the latest may grow. -/
  | tables (latest : List (String × Node)) (earlier : List (List (String × Node)))

/-- The contents of a table. -/
abbrev Contents : Type :=
  List (String × Node)

namespace Node

mutual

/-- The value that a node stands for. -/
def toJson : Node → Json
  | value json => json
  | table _ members => .obj (membersToJson members)
  | tables latest earlier => .arr (tablesToJson [.obj (membersToJson latest)] earlier)

/-- The members of a table. -/
def membersToJson : List (String × Node) → List (String × Json)
  | [] => []
  | (key, node) :: rest => (key, node.toJson) :: membersToJson rest

/-- Earlier tables in front of later ones. -/
def tablesToJson (later : List Json) : List (List (String × Node)) → List Json
  | [] => later
  | contents :: rest => tablesToJson (.obj (membersToJson contents) :: later) rest

end

end Node

namespace Contents

/-- The value that a table stands for. -/
def toJson (contents : Contents) : Json :=
  .obj (Node.membersToJson contents)

/-- Change the table at a path of keys, opening tables on the way where there are none.  A path
with dots does not lead into a table with a header of its own; any path leads into the latest of a
sequence of tables. -/
def within? (opens : Opening) (change : Opening → Contents → Option Contents) :
    List String → Opening → Contents → Option Contents
  | [], opening, contents => change opening contents
  | key :: path, _, contents =>
    match Members.get? key contents with
    | none => do
      let inner ← within? opens change path opens []
      return Members.put key (.table opens inner) contents
    | some (.value _) => none
    | some (.tables latest earlier) => do
      let inner ← within? opens change path .explicit latest
      return Members.put key (.tables inner earlier) contents
    | some (.table opening inner) => do
      if opens = .dotted ∧ opening = .explicit then none
      let inner ← within? opens change path opening inner
      return Members.put key (.table opening inner) contents

/-- Give a new key a value, in a table that keys with dots opened or in the table at hand. -/
def insert? (path : List String) (key : String) (value : Json) :
    Opening → Contents → Option Contents :=
  within? .dotted (fun opening contents =>
    if (opening == .dotted) == path.isEmpty || (Members.get? key contents).isSome then none
    else some (Members.put key (.value value) contents)) path

/-- Open a table by a header of its own. -/
def openTable? (key : String) (_ : Opening) (contents : Contents) : Option Contents :=
  match Members.get? key contents with
  | none => some (Members.put key (.table .explicit []) contents)
  | some (.table .implied inner) => some (Members.put key (.table .explicit inner) contents)
  | some _ => none

/-- Add a table to a sequence of tables. -/
def addTable? (key : String) (_ : Opening) (contents : Contents) : Option Contents :=
  match Members.get? key contents with
  | none => some (Members.put key (.tables [] []) contents)
  | some (.tables latest earlier) =>
    some (Members.put key (.tables [] (latest :: earlier)) contents)
  | some _ => none

end Contents
end Toml
end DenseBench
