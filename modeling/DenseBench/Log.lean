/-!
# Log lines

A line has a level, the part of the program that it comes from and a message.  What is shown of a
log is chosen afterwards, by level: logging never takes part in a computation.
-/

namespace DenseBench
namespace Log

/-- How urgent a line is. -/
inductive Level where
  /-- The program cannot do what it was asked to do. -/
  | error
  /-- Something is wrong, and the program goes on. -/
  | warn
  /-- What the program does, for its users. -/
  | info
  /-- What the program does, for its authors. -/
  | debug
  /-- Every single step. -/
  | trace
  deriving DecidableEq, Repr

namespace Level

/-- All levels, most urgent first. -/
def all : List Level :=
  [error, warn, info, debug, trace]

/-- Position of a level in `all`, counted from one; zero is left for no level at all. -/
def rank : Level → Nat
  | error => 1
  | warn => 2
  | info => 3
  | debug => 4
  | trace => 5

/-- The name of a level. -/
def name : Level → String
  | error => "ERROR"
  | warn => "WARN"
  | info => "INFO"
  | debug => "DEBUG"
  | trace => "TRACE"

end Level

/-- The least urgent level that is shown, or none at all. -/
abbrev Limit : Type :=
  Option Level

namespace Limit

/-- Position of a limit among all limits. -/
def rank (limit : Limit) : Nat :=
  limit.elim 0 Level.rank

/-- Whether a limit lets a level through. -/
def admits (limit : Limit) (level : Level) : Bool :=
  level.rank ≤ limit.rank

/-- The limit with this name, in any case of its letters. -/
def parse? (text : List Char) : Option Limit :=
  let wanted := String.ofList (text.map Char.toUpper)
  if wanted = "OFF" then some none
  else (Level.all.find? fun level => level.name == wanted).map some

/-- A wider limit admits all that a narrower one admits. -/
theorem admits_of_le {narrow wide : Limit} {level : Level} (le : narrow.rank ≤ wide.rank)
    (admitted : narrow.admits level = true) : wide.admits level = true := by
  simp only [admits, decide_eq_true_eq] at admitted ⊢
  omega

end Limit

/-- One line of a log. -/
structure Line where
  /-- How urgent it is. -/
  level : Level
  /-- The part of the program it comes from. -/
  target : String
  /-- The text. -/
  message : String
  deriving DecidableEq, Repr

end Log
end DenseBench
