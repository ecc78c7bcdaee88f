import DenseBench.Numeral.Reading
import DenseBench.Toml.Space

/-!
# TOML dates and times

A moment is a date, a time of day, or both, and then perhaps with an offset from universal time.
Its text has one form: `T` between date and time, a fraction of at most nine digits without zeros
at its end, and `Z` or a signed offset.
-/

namespace DenseBench
namespace Toml

/-- A day. -/
structure Date where
  /-- The year, of four digits. -/
  year : Nat
  /-- The month, from one on. -/
  month : Nat
  /-- The day of the month, from one on. -/
  day : Nat
  deriving DecidableEq, Repr

/-- A time of day. -/
structure Time where
  /-- The hour. -/
  hour : Nat
  /-- The minute. -/
  minute : Nat
  /-- The second; sixty is a leap second. -/
  second : Nat
  /-- The digits of the fraction of the second, nine at most. -/
  fraction : List Char
  deriving DecidableEq, Repr

/-- The distance from universal time. -/
inductive Offset where
  /-- None. -/
  | universal
  | minutes (count : Int)
  deriving DecidableEq, Repr

/-- A date, a time of day or both. -/
inductive Moment where
  | date (day : Date)
  | time (clock : Time)
  | instant (day : Date) (clock : Time) (offset : Option Offset)
  deriving DecidableEq, Repr

/-- A number with at least so many digits. -/
def padded (width n : Nat) : String :=
  let digits := Nat.toDigits 10 n
  String.ofList (List.replicate (width - digits.length) '0' ++ digits)

namespace Date

/-- The number of days in a month. -/
def daysIn (year month : Nat) : Nat :=
  let leap := year % 4 == 0 && (year % 100 != 0 || year % 400 == 0)
  if month = 2 then if leap then 29 else 28
  else if [4, 6, 9, 11].contains month then 30
  else 31

/-- Whether month and day exist. -/
def isValid (date : Date) : Bool :=
  1 ≤ date.month && date.month ≤ 12 && 1 ≤ date.day && date.day ≤ daysIn date.year date.month

/-- The text of a day. -/
def text (date : Date) : String :=
  padded 4 date.year ++ "-" ++ padded 2 date.month ++ "-" ++ padded 2 date.day

end Date

namespace Time

/-- The text of a time of day. -/
def text (time : Time) : String :=
  let fraction := (time.fraction.reverse.dropWhile (· == '0')).reverse
  padded 2 time.hour ++ ":" ++ padded 2 time.minute ++ ":" ++ padded 2 time.second ++
    if fraction.isEmpty then "" else "." ++ String.ofList fraction

end Time

namespace Offset

/-- The text of an offset. -/
def text : Offset → String
  | universal => "Z"
  | minutes count =>
    let distance := count.natAbs
    (if count < 0 then "-" else "+") ++ padded 2 (distance / 60) ++ ":" ++ padded 2 (distance % 60)

end Offset

namespace Moment

/-- The text of a moment. -/
def text : Moment → String
  | date day => day.text
  | time clock => clock.text
  | instant day clock offset =>
    day.text ++ "T" ++ clock.text ++ (offset.map Offset.text).getD ""

/-- A number of exactly so many digits, not above a bound. -/
def numeral? (width greatest : Nat) (input : List Char) : Option (Nat × List Char) := do
  let digits := input.take width
  if digits.length = width ∧ digits.all Char.isDigit then
    let n ← Numeral.natural? 10 digits
    if n ≤ greatest then some (n, input.drop width) else none
  else none

/-- What follows this character in front. -/
def after? (c : Char) : List Char → Option (List Char)
  | first :: rest => if first = c then some rest else none
  | [] => none

/-- A day in front. -/
def date? (input : List Char) : Option (Date × List Char) := do
  let (year, input) ← numeral? 4 9999 input
  let (month, input) ← numeral? 2 12 (← after? '-' input)
  let (day, input) ← numeral? 2 31 (← after? '-' input)
  let found : Date := ⟨year, month, day⟩
  if found.isValid then some (found, input) else none

/-- A time of day in front.  Digits of the fraction after the ninth do not count. -/
def time? (input : List Char) : Option (Time × List Char) := do
  let (hour, input) ← numeral? 2 23 input
  let (minute, input) ← numeral? 2 59 (← after? ':' input)
  let (second, input) ← numeral? 2 60 (← after? ':' input)
  match input with
  | '.' :: rest =>
    let digits := rest.takeWhile Char.isDigit
    if digits.isEmpty then none
    else some (⟨hour, minute, second, digits.take 9⟩, rest.dropWhile Char.isDigit)
  | _ => some (⟨hour, minute, second, []⟩, input)

/-- An offset in front. -/
def offset? : List Char → Option (Offset × List Char)
  | sign :: rest =>
    if sign = 'Z' ∨ sign = 'z' then some (.universal, rest)
    else if sign = '+' ∨ sign = '-' then do
      let (hour, rest) ← numeral? 2 23 rest
      let (minute, rest) ← numeral? 2 59 (← after? ':' rest)
      let distance : Int := hour * 60 + minute
      some (.minutes (if sign = '-' then -distance else distance), rest)
    else none
  | [] => none

/-- The time of day after a date, behind a `T` or a space. -/
def timeOfDate? : List Char → Option (Time × List Char)
  | separator :: rest =>
    if ['T', 't', ' '].contains separator then time? rest else none
  | [] => none

/-- A moment in front. -/
def read? (input : List Char) : Option (Moment × List Char) :=
  match date? input with
  | some (day, rest) =>
    match timeOfDate? rest with
    | some (clock, rest) =>
      match offset? rest with
      | some (offset, rest) => some (instant day clock (some offset), rest)
      | none => some (instant day clock none, rest)
    | none => some (date day, rest)
  | none => (time? input).map fun (clock, rest) => (time clock, rest)

end Moment
end Toml
end DenseBench
