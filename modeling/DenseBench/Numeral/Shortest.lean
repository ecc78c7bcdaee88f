/-!
# Shortest decimal text of a float

A finite float is written with the fewest significant digits that read back as the same float; among
the decimals with that many digits the nearest is taken, and of two equally near ones the greater.
The text is always positional: no exponent is ever written.
-/

namespace DenseBench
namespace Numeral

/-- A positive fraction, for exact comparisons. -/
structure Ratio where
  /-- The numerator. -/
  num : Nat
  /-- The denominator, positive. -/
  den : Nat
  deriving DecidableEq, Repr

namespace Ratio

/-- The fraction `n * base ^ exponent`. -/
def scaled (n base : Nat) (exponent : Int) : Ratio :=
  match exponent with
  | .ofNat e => ⟨n * Nat.pow base e, 1⟩
  | .negSucc e => ⟨n, Nat.pow base (e + 1)⟩

/-- Strict order of fractions. -/
def lt (x y : Ratio) : Bool :=
  x.num * y.den < y.num * x.den

/-- Order of fractions. -/
def le (x y : Ratio) : Bool :=
  x.num * y.den ≤ y.num * x.den

/-- The quotient of two fractions. -/
def div (x y : Ratio) : Ratio :=
  ⟨x.num * y.den, x.den * y.num⟩

end Ratio

/-- The real numbers that round to a float: bounds that belong to the range or not. -/
structure RoundingRange where
  /-- The float itself. -/
  value : Ratio
  /-- Lower bound. -/
  low : Ratio
  /-- Upper bound. -/
  high : Ratio
  /-- Whether the bounds round to the float as well. -/
  closed : Bool

/-- The least mantissa of a float that is not subnormal, two to the power 52. -/
def leastMantissa : Nat := 0x10000000000000

/-- The count of exponents, two to the power 11. -/
def exponentCount : Nat := 0x800

namespace RoundingRange

/-- The range of the positive float `mantissa * 2 ^ exponent`.  The gap below a power of two is half
the gap above it, unless the exponent is the least one. -/
def ofBinary (mantissa : Nat) (exponent : Int) (least : Bool) : RoundingRange where
  value := Ratio.scaled (4 * mantissa) 2 (exponent - 2)
  low := Ratio.scaled (4 * mantissa - if mantissa = leastMantissa ∧ ¬least then 1 else 2) 2
    (exponent - 2)
  high := Ratio.scaled (4 * mantissa + 2) 2 (exponent - 2)
  closed := mantissa % 2 = 0

/-- The range of a positive finite float, from its bits. -/
def ofFloat (x : Float) : RoundingRange :=
  let bits := x.toBits.toNat
  let fraction := bits % leastMantissa
  let biased : Nat := bits / leastMantissa % exponentCount
  if biased = 0 then ofBinary fraction (-1074) true
  else ofBinary (leastMantissa + fraction) ((biased : Int) - 1075) (biased == 1)

/-- Whether a decimal rounds to the float. -/
def holds (range : RoundingRange) (x : Ratio) : Bool :=
  if range.closed then range.low.le x && x.le range.high
  else range.low.lt x && x.lt range.high

/-- The least `e` at or above `start` with `value < 10 ^ e`, looked for in `fuel` steps. -/
def magnitudeFrom (value : Ratio) : Nat → Int → Int
  | 0, e => e
  | fuel + 1, e =>
    if value.lt (Ratio.scaled 1 10 e) then e else magnitudeFrom value fuel (e + 1)

/-- The candidate with `count` digits, if one of the two neighbours of the value on that decimal
grid rounds to the float. -/
def candidate? (range : RoundingRange) (magnitude : Int) (count : Nat) : Option (Nat × Int) :=
  let unit := magnitude - count
  let quotient := range.value.div (Ratio.scaled 1 10 unit)
  let below := quotient.num / quotient.den
  let rest := quotient.num % quotient.den
  let holdsBelow := range.holds (Ratio.scaled below 10 unit)
  let holdsAbove := range.holds (Ratio.scaled (below + 1) 10 unit)
  let nearerBelow := 2 * rest < quotient.den
  if holdsBelow && (nearerBelow || !holdsAbove) then some (below, unit)
  else if holdsAbove then some (below + 1, unit)
  else none

/-- Digits and power of ten of the shortest decimal.  A float just below a power of ten may have
that power as its neighbour, which is then the digit one. -/
def shortest (range : RoundingRange) : Nat × Int :=
  let magnitude := magnitudeFrom range.value 700 (-330)
  match (List.range 17).findSome? fun i => range.candidate? magnitude (i + 1) with
  | some (digits, unit) => if digits = 10 then (1, unit + 1) else (digits, unit)
  | none => (0, 0)

end RoundingRange

/-- The decimal `digits * 10 ^ exponent` without an exponent. -/
def positional (digits : Nat) (exponent : Int) : String :=
  let text := Nat.toDigits 10 digits
  match exponent with
  | .ofNat zeros => String.ofList (text ++ List.replicate zeros '0')
  | .negSucc e =>
    let places := e + 1
    let padded := List.replicate (places + 1 - text.length) '0' ++ text
    let split := padded.length - places
    String.ofList (padded.take split ++ '.' :: padded.drop split)

/-- The shortest positional text of a float; an integral value has no point. -/
def shortestText (x : Float) : String :=
  if x.isNaN then "NaN"
  else
    let negative := x.toBits >>> 63 == 1
    let magnitude := x.abs
    let body :=
      if magnitude.isInf then "inf"
      else if magnitude == 0.0 then "0"
      else
        let (digits, exponent) := (RoundingRange.ofFloat magnitude).shortest
        positional digits exponent
    if negative then "-" ++ body else body

/-- As `shortestText`, with a point in every finite number. -/
def pointedText (x : Float) : String :=
  let text := shortestText x
  if x.isFinite && !text.contains '.' then text ++ ".0" else text

end Numeral
end DenseBench
