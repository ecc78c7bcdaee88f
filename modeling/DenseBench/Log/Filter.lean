import DenseBench.Log
import DenseBench.Text.Blank

/-!
# Log filters

A filter is a list of directives with commas between them: a level for all targets, a target, or a
target with a level, as in `info,kernels=trace`.  A directive for a target is for all targets
whose names begin in the same way, and the longest such name decides.  After a slash there may be
a text that messages must contain.
-/

namespace DenseBench
namespace Log

/-- What is shown of the lines from some targets. -/
structure Directive where
  /-- The beginning of the names of the targets; all targets if there is none. -/
  target : Option (List Char)
  /-- The least urgent level that is shown. -/
  limit : Limit
  deriving DecidableEq, Repr

/-- The limit that shows every line. -/
def Limit.widest : Limit :=
  some .trace

namespace Directive

/-- The length of the beginning of a name that a directive asks for. -/
def reach (directive : Directive) : Nat :=
  directive.target.elim 0 List.length

/-- Whether a directive is for a target. -/
def covers (directive : Directive) (target : List Char) : Bool :=
  directive.target.all fun name => name.isPrefixOf target

/-- The pieces of a text between separators. -/
def pieces (separator : Char) (text : List Char) : List (List Char) :=
  ((String.ofList text).splitOn (String.singleton separator)).map String.toList

/-- Read a directive.  A target without a level is shown entirely; a level that there is not makes
the directive void. -/
def parse? (text : List Char) : Option Directive :=
  match pieces '=' (Text.trim text) with
  | [[]] => none
  | [word] =>
    match Limit.parse? word with
    | some limit => some ⟨none, limit⟩
    | none => some ⟨some word, .widest⟩
  | [target, level] =>
    if (Text.trim level).isEmpty then some ⟨some target, .widest⟩
    else (Limit.parse? (Text.trim level)).map fun limit => ⟨some target, limit⟩
  | _ => none

/-- Add a directive; it takes the place of an earlier one for the same targets. -/
def addTo (directives : List Directive) (directive : Directive) : List Directive :=
  if directives.any fun other => other.target == directive.target then
    directives.map fun other => if other.target = directive.target then directive else other
  else directives ++ [directive]

/-- The directive that decides on a target: the one with the longest name, and of those the last. -/
def deciding (directives : List Directive) (target : List Char) : Option Directive :=
  (directives.filter fun directive => directive.covers target).foldl (fun best directive =>
    if best.all fun other => other.reach ≤ directive.reach then some directive else best) none

end Directive

/-- What is shown of a log. -/
structure Filter where
  /-- What is shown of the lines from each target. -/
  directives : List Directive
  /-- The text that every message must contain. -/
  needle : List Char
  deriving DecidableEq, Repr

namespace Filter

/-- The directives that hold where none are given: errors are shown. -/
def standardDirectives : List Directive :=
  [⟨none, some .error⟩]

/-- Read a filter.  With more than one slash nothing of it holds. -/
def parse (text : String) : Filter :=
  let (directives, needle) := match Directive.pieces '/' text.toList with
    | [directives] => (directives, [])
    | [directives, needle] => (directives, needle)
    | _ => ([], [])
  let given := ((Directive.pieces ',' directives).filterMap Directive.parse?).foldl
    Directive.addTo []
  ⟨if given.isEmpty then standardDirectives else given, needle⟩

/-- Whether a text occurs in another one. -/
def occurs (needle : List Char) : List Char → Bool
  | [] => needle.isEmpty
  | c :: rest => needle.isPrefixOf (c :: rest) || occurs needle rest

/-- Whether a filter lets a line through. -/
def admits (filter : Filter) (line : Line) : Bool :=
  let limit := (Directive.deciding filter.directives line.target.toList).elim none Directive.limit
  Limit.admits limit line.level && occurs filter.needle line.message.toList

end Filter
end Log
end DenseBench
