/-!
# Reading numerals

The readers take the whole text: a sign, digits and nothing else for the integers; a sign, digits
with at most one point and an exponent, or one of the names of infinity and of the absent number,
for binary floating point.  Decimal values are rounded to the nearest float.
-/

namespace DenseBench
namespace Numeral

/-- The value of a digit character, below `radix`; letters count from ten on, in either case. -/
def digitValue? (radix : Nat) (c : Char) : Option Nat :=
  let value :=
    if '0' ≤ c ∧ c ≤ '9' then c.toNat - '0'.toNat
    else if 'a' ≤ c ∧ c ≤ 'z' then c.toNat - 'a'.toNat + 10
    else if 'A' ≤ c ∧ c ≤ 'Z' then c.toNat - 'A'.toNat + 10
    else radix
  if value < radix then some value else none

/-- Read digits onto a value that is already there. -/
def digitsOnto? (radix : Nat) : Nat → List Char → Option Nat
  | value, [] => some value
  | value, c :: rest =>
    match digitValue? radix c with
    | some digit => digitsOnto? radix (value * radix + digit) rest
    | none => none

/-- Read a non-empty text of digits. -/
def natural? (radix : Nat) (text : List Char) : Option Nat :=
  if text.isEmpty then none else digitsOnto? radix 0 text

/-- Whether a sign stands in front, and what follows it. -/
def splitSign : List Char → Bool × List Char
  | '-' :: rest => (true, rest)
  | '+' :: rest => (false, rest)
  | text => (false, text)

/-- The least signed 64-bit integer. -/
def minInt64 : Int := -0x8000000000000000

/-- The greatest signed 64-bit integer. -/
def maxInt64 : Int := 0x7FFFFFFFFFFFFFFF

/-- The greatest unsigned 64-bit integer. -/
def maxUInt64 : Nat := 0xFFFFFFFFFFFFFFFF

/-- Whether an integer fits in a signed 64-bit word. -/
def fitsInt64 (n : Int) : Bool :=
  minInt64 ≤ n && n ≤ maxInt64

/-- Read a signed 64-bit integer with an optional sign. -/
def int64? (radix : Nat) (text : List Char) : Option Int := do
  let (negative, digits) := splitSign text
  let magnitude ← natural? radix digits
  let value : Int := if negative then -magnitude else magnitude
  if fitsInt64 value then some value else none

/-- Read an unsigned 64-bit integer; only a plus sign may stand in front. -/
def uint64? (text : List Char) : Option Nat := do
  let digits := match text with
    | '+' :: rest => rest
    | _ => text
  let value ← natural? 10 digits
  if value ≤ maxUInt64 then some value else none

/-- A decimal fraction `coefficient * 10 ^ exponent`. -/
structure Scientific where
  /-- The digits, without the point. -/
  coefficient : Nat
  /-- The power of ten. -/
  exponent : Int
  deriving DecidableEq, Repr

/-- The float nearest to a decimal fraction.  Powers of ten that are out of reach of every float are
settled without computing them. -/
def Scientific.toFloat (decimal : Scientific) : Float :=
  let magnitude := (Nat.log2 decimal.coefficient * 3 / 10 : Nat) + decimal.exponent
  if decimal.coefficient = 0 then 0.0
  else if magnitude > 320 then 1.0 / 0.0
  else if magnitude < -400 then 0.0
  else Float.ofScientific decimal.coefficient (decimal.exponent < 0) decimal.exponent.natAbs

/-- Negate on request. -/
def withSign (negative : Bool) (x : Float) : Float :=
  if negative then -x else x

/-- The exponent that a text spells after its `e`: an optional sign and digits. -/
def exponent? (text : List Char) : Option Int := do
  let (negative, digits) := splitSign text
  let magnitude ← natural? 10 digits
  return if negative then -magnitude else magnitude

/-- Read an unsigned decimal fraction: digits with at most one point among them, at least one digit,
and an exponent if there is an `e`. -/
def scientific? (text : List Char) : Option Scientific := do
  let whole := text.takeWhile Char.isDigit
  let afterWhole := text.dropWhile Char.isDigit
  let (fraction, afterFraction) := match afterWhole with
    | '.' :: rest => (rest.takeWhile Char.isDigit, rest.dropWhile Char.isDigit)
    | rest => ([], rest)
  let coefficient ← natural? 10 (whole ++ fraction)
  let exponent ← match afterFraction with
    | [] => some 0
    | c :: rest => if c = 'e' ∨ c = 'E' then exponent? rest else none
  return ⟨coefficient, exponent - fraction.length⟩

/-- Read a float: a decimal fraction, `inf`, `infinity` or `nan` in any case, with an optional
sign. -/
def float? (text : List Char) : Option Float := do
  let (negative, body) := splitSign text
  let word := String.ofList (body.map Char.toLower)
  if word = "inf" ∨ word = "infinity" then return withSign negative (1.0 / 0.0)
  if word = "nan" then return withSign negative (0.0 / 0.0)
  return withSign negative (← scientific? body).toFloat

end Numeral
end DenseBench
