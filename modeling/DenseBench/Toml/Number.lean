import DenseBench.Json.Basic
import DenseBench.Numeral.Reading

/-!
# TOML numbers

Single underscores may stand between digits.  An integer is decimal, without zeros in front, or
hexadecimal, octal or binary, and fits in 64 bits.  A fraction and an exponent have digits of their
own.  A float above every finite one is refused; below every finite one it is minus infinity.
-/

namespace DenseBench
namespace Toml

/-- More digits, onto the digits read so far, last one first.  An underscore needs a digit after
it. -/
def moreDigits? (isDigit : Char → Bool) (read : List Char) :
    List Char → Option (List Char × List Char)
  | '_' :: c :: rest => if isDigit c then moreDigits? isDigit (c :: read) rest else none
  | ['_'] => none
  | c :: rest =>
    if isDigit c then moreDigits? isDigit (c :: read) rest else some (read.reverse, c :: rest)
  | [] => some (read.reverse, [])

/-- Digits in front, at least one. -/
def digits? (isDigit : Char → Bool) : List Char → Option (List Char × List Char)
  | c :: rest => if isDigit c then moreDigits? isDigit [c] rest else none
  | [] => none

/-- An integer, if it fits in 64 bits. -/
def intOf? (radix : Nat) (negative : Bool) (digits : List Char) : Option Json := do
  let magnitude ← Numeral.natural? radix digits
  let value : Int := if negative then -magnitude else magnitude
  if Numeral.fitsInt64 value then some (.int value) else none

/-- An integer in another radix than ten, after the letter that names the radix. -/
def radixInt? (radix : Nat) (text : List Char) : Option (Json × List Char) := do
  let (digits, rest) ← digits? (fun c => (Numeral.digitValue? radix c).isSome) text
  return (← intOf? radix false digits, rest)

/-- Digits in front of which none is zero unless it stands alone. -/
def wholeDigits? : List Char → Option (List Char × List Char)
  | '0' :: rest => some (['0'], rest)
  | text => digits? Char.isDigit text

/-- The fraction in front, if there is a point. -/
def fractionDigits? : List Char → Option (Option (List Char) × List Char)
  | '.' :: rest => do
    let (digits, rest) ← digits? Char.isDigit rest
    return (some digits, rest)
  | text => some (none, text)

/-- The exponent in front, if there is an `e`. -/
def exponent? : List Char → Option (Option Int × List Char)
  | [] => some (none, [])
  | c :: rest =>
    if c = 'e' ∨ c = 'E' then do
      let (down, rest) := Numeral.splitSign rest
      let (digits, rest) ← digits? Char.isDigit rest
      let magnitude ← Numeral.natural? 10 digits
      return (some (if down then -magnitude else magnitude), rest)
    else some (none, c :: rest)

/-- A decimal number without its sign. -/
def decimal? (negative : Bool) (text : List Char) : Option (Json × List Char) := do
  let (whole, rest) ← wholeDigits? text
  let (fraction, rest) ← fractionDigits? rest
  let (exponent, rest) ← exponent? rest
  if fraction.isNone ∧ exponent.isNone then return (← intOf? 10 negative whole, rest)
  let places := fraction.getD []
  let coefficient ← Numeral.natural? 10 (whole ++ places)
  let value := Numeral.withSign negative
    (Numeral.Scientific.toFloat ⟨coefficient, exponent.getD 0 - places.length⟩)
  if value.isInf && !negative then none else return (.float value, rest)

/-- A number in front. -/
def number? (text : List Char) : Option (Json × List Char) :=
  match text with
  | '0' :: 'x' :: rest => radixInt? 16 rest
  | '0' :: 'o' :: rest => radixInt? 8 rest
  | '0' :: 'b' :: rest => radixInt? 2 rest
  | _ =>
    let (negative, body) := Numeral.splitSign text
    match body with
    | 'i' :: 'n' :: 'f' :: rest => some (.float (Numeral.withSign negative (1.0 / 0.0)), rest)
    | 'n' :: 'a' :: 'n' :: rest => some (.float (Numeral.withSign negative (0.0 / 0.0)), rest)
    | _ => decimal? negative body

end Toml
end DenseBench
