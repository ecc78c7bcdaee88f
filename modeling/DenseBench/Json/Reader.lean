import DenseBench.Json.Basic
import DenseBench.Numeral.Reading

/-!
# Reading JSON

A reader takes a text apart from the left and hands on what is left of it.  An integer that does not
fit in 64 bits is a float.  A float is made from the leading digits that fit in 64 bits by one
multiplication or division with a power of ten, and is refused when it is too great.  Values may be
nested up to a fixed depth.
-/

namespace DenseBench
namespace Json

/-- The characters that may stand between the parts of a value. -/
def isSpace (c : Char) : Bool :=
  c = ' ' || c = '\t' || c = '\n' || c = '\r'

/-- Drop the space in front. -/
def skipSpace (text : List Char) : List Char :=
  text.dropWhile isSpace

/-- Four hexadecimal digits. -/
def hexUnit? : List Char → Option (Nat × List Char)
  | a :: b :: c :: d :: rest => do
    let unit ← Numeral.natural? 16 [a, b, c, d]
    return (unit, rest)
  | _ => none

/-- The character of a `\u` escape, which may need a second escape to complete a surrogate pair. -/
def escapedUnit? (text : List Char) : Option (Char × List Char) := do
  let (unit, rest) ← hexUnit? text
  if 0xDC00 ≤ unit ∧ unit ≤ 0xDFFF then none
  else if 0xD800 ≤ unit ∧ unit ≤ 0xDBFF then
    match rest with
    | '\\' :: 'u' :: rest =>
      let (low, rest) ← hexUnit? rest
      if 0xDC00 ≤ low ∧ low ≤ 0xDFFF then
        some (Char.ofNat (0x10000 + (unit - 0xD800) * 0x400 + (low - 0xDC00)), rest)
      else none
    | _ => none
  else some (Char.ofNat unit, rest)

/-- The character of an escape with a single letter. -/
def escapedLetter? : Char → Option Char
  | '"' => some '"'
  | '\\' => some '\\'
  | '/' => some '/'
  | 'b' => some '\x08'
  | 'f' => some '\x0c'
  | 'n' => some '\n'
  | 'r' => some '\r'
  | 't' => some '\t'
  | _ => none

/-- The rest of a string after its opening quote, onto the characters read so far, last one first.
The fuel is at least the length of the text. -/
def stringOnto? : Nat → List Char → List Char → Option (String × List Char)
  | _, read, '"' :: rest => some (String.ofList read.reverse, rest)
  | fuel + 1, read, '\\' :: 'u' :: rest => do
    let (c, rest) ← escapedUnit? rest
    stringOnto? fuel (c :: read) rest
  | fuel + 1, read, '\\' :: letter :: rest => do
    stringOnto? fuel ((← escapedLetter? letter) :: read) rest
  | fuel + 1, read, c :: rest =>
    if c.toNat < 0x20 ∨ c = '\\' then none else stringOnto? fuel (c :: read) rest
  | _, _, _ => none

/-- Multiply or divide a float by a power of ten.  Steps of `10 ^ 308` bring the power into
reach. -/
def scaleByTen? : Nat → Float → Int → Option Float
  | 0, x, _ => some x
  | fuel + 1, x, exponent =>
    if exponent.natAbs ≤ 308 then
      let power := Float.ofScientific 1 false exponent.natAbs
      if exponent < 0 then some (x / power)
      else if (x * power).isInf then none else some (x * power)
    else if x == 0.0 then some x
    else if exponent > 0 then none
    else scaleByTen? fuel (x / 1e308) (exponent + 308)

/-- Take digits onto a coefficient while it fits in 64 bits: the coefficient, the count of digits
taken, and the digits that are left. -/
def coefficientOnto : Nat → Nat → List Char → Nat × Nat × List Char
  | value, taken, [] => (value, taken, [])
  | value, taken, c :: rest =>
    let next := value * 10 + (c.toNat - '0'.toNat)
    if next ≤ Numeral.maxUInt64 then coefficientOnto next (taken + 1) rest
    else (value, taken, c :: rest)

/-- The float of a number with these whole digits, fraction digits and exponent. -/
def floatOf? (whole fraction : List Char) (exponent : Int) : Option Float :=
  let (value, _, dropped) := coefficientOnto 0 0 whole
  let (value, taken, _) := coefficientOnto value 0 fraction
  let power := exponent + dropped.length - taken
  if value = 0 then some 0.0
  else scaleByTen? (power.natAbs / 308 + 1) value.toUInt64.toFloat power

/-- A number; its first digit may be zero only if it is the only one before the point. -/
def number? (text : List Char) : Option (Json × List Char) := do
  let (negative, body) := match text with
    | '-' :: rest => (true, rest)
    | _ => (false, text)
  let whole := body.takeWhile Char.isDigit
  let rest := body.dropWhile Char.isDigit
  if whole.isEmpty ∨ (whole.head? = some '0' ∧ whole.length > 1) then none
  let (fraction, rest, pointed) ← match rest with
    | '.' :: rest =>
      let digits := rest.takeWhile Char.isDigit
      if digits.isEmpty then none else some (digits, rest.dropWhile Char.isDigit, true)
    | _ => some ([], rest, false)
  let (exponent, rest, powered) ← match rest with
    | c :: rest' =>
      if c = 'e' ∨ c = 'E' then
        let (down, digits) := Numeral.splitSign rest'
        let magnitude ← Numeral.natural? 10 (digits.takeWhile Char.isDigit)
        some ((if down then -magnitude else magnitude : Int), digits.dropWhile Char.isDigit, true)
      else some (0, rest, false)
    | [] => some (0, [], false)
  let magnitude ← Numeral.natural? 10 whole
  let value : Int := if negative then -magnitude else magnitude
  let minusZero := negative && magnitude == 0
  if !pointed && !powered && !minusZero && Numeral.minInt64 ≤ value &&
      value ≤ Numeral.maxUInt64 then
    return (int value, rest)
  let x ← floatOf? whole fraction exponent
  return (float (Numeral.withSign negative x), rest)

mutual

/-- A value at the front of the text, nested at most `depth` deep.  The fuel is at least the length
of the text. -/
def value? (depth : Nat) : Nat → List Char → Option (Json × List Char)
  | 0, _ => none
  | fuel + 1, text =>
    match skipSpace text with
    | 'n' :: 'u' :: 'l' :: 'l' :: rest => some (null, rest)
    | 't' :: 'r' :: 'u' :: 'e' :: rest => some (bool true, rest)
    | 'f' :: 'a' :: 'l' :: 's' :: 'e' :: rest => some (bool false, rest)
    | '"' :: rest => do
      let (value, rest) ← stringOnto? rest.length [] rest
      return (str value, rest)
    | '[' :: rest =>
      if depth = 0 then none
      else match skipSpace rest with
        | ']' :: rest => some (arr [], rest)
        | rest => items? (depth - 1) fuel [] rest
    | '\x7b' :: rest =>
      if depth = 0 then none
      else match skipSpace rest with
        | '\x7d' :: rest => some (obj [], rest)
        | rest => members? (depth - 1) fuel [] rest
    | text => number? text

/-- The items of an array up to its closing bracket, onto the items read so far. -/
def items? (depth : Nat) : Nat → List Json → List Char → Option (Json × List Char)
  | 0, _, _ => none
  | fuel + 1, read, text => do
    let (value, rest) ← value? depth fuel text
    match skipSpace rest with
    | ',' :: rest => items? depth fuel (value :: read) rest
    | ']' :: rest => some (arr (value :: read).reverse, rest)
    | _ => none

/-- The members of an object up to its closing brace, onto the members read so far. -/
def members? (depth : Nat) : Nat → List (String × Json) → List Char → Option (Json × List Char)
  | 0, _, _ => none
  | fuel + 1, read, text =>
    match skipSpace text with
    | '"' :: rest => do
      let (key, rest) ← stringOnto? rest.length [] rest
      match skipSpace rest with
      | ':' :: rest =>
        let (value, rest) ← value? depth fuel rest
        match skipSpace rest with
        | ',' :: rest => members? depth fuel ((key, value) :: read) rest
        | '\x7d' :: rest => some (obj ((key, value) :: read).reverse, rest)
        | _ => none
      | _ => none
    | _ => none

end

/-- How deep values may be nested. -/
def maxDepth : Nat := 127

/-- Read a text that holds one value and nothing else. -/
def parse? (text : List Char) : Option Json := do
  let (value, rest) ← value? maxDepth (text.length + 1) text
  if (skipSpace rest).isEmpty then some value else none

end Json
end DenseBench
