/-!
# JSON values

The value type that the readers and writers of sizes, policies, settings and reports share.  A
number is an integer or a float, as its text decides.  An object keeps its members in the order of
the text.  It stands for a map, which has every key once: where a key is repeated, the last member
counts, and it is as if the others were not there.
-/

namespace DenseBench

/-- A JSON value. -/
inductive Json where
  | null
  | bool (value : Bool)
  /-- A number without fraction and exponent. -/
  | int (value : Int)
  /-- Any other number. -/
  | float (value : Float)
  | str (value : String)
  | arr (items : List Json)
  | obj (members : List (String × Json))

namespace Json

/-- The value of the last member with this key. -/
def lookup (key : String) (members : List (String × Json)) : Option Json :=
  members.foldl (fun found (name, value) => if name = key then some value else found) none

/-- The member of an object. -/
def member? (json : Json) (key : String) : Option Json :=
  match json with
  | obj members => lookup key members
  | _ => none

/-- Each key once, with its last value, in the order of the first mention. -/
def distinctMembers (members : List (String × Json)) : List (String × Json) :=
  (members.map Prod.fst).eraseDups.filterMap fun key =>
    (lookup key members).map fun value => (key, value)

end Json
end DenseBench
