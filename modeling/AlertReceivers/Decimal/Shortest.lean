import AlertReceivers.Decimal.Binary64

namespace AlertReceivers.Decimal

/-!
# Shortest decimal texts

A number is shown by the fewest digits that read back as the same number, and
among those by the digits nearest to it.  Small and large magnitudes are written
with an exponent.
-/

/-- A decimal `coefficient * 10 ^ exponent`. -/
structure Scaled where
  coefficient : Nat
  exponent : Int
  deriving Repr, DecidableEq

/-- The reals that round to one number, in units of a fourth of its last place:
those between `low` and `high`, which belong to them if `inclusive`. -/
structure Interval where
  low : Nat
  value : Nat
  high : Nat
  inclusive : Bool
  /-- The unit is `2 ^ unitExponent`. -/
  unitExponent : Int
  deriving Repr, DecidableEq

namespace Interval

/-- The reals that round to a positive finite number. -/
def ofFinite
    (mantissa : Nat)
    (exponent : Int) :
    Interval where
  low :=
    if mantissa = Nat.pow 2 52 ∧ Binary64.leastExponent < exponent then
      4 * mantissa - 1
    else
      4 * mantissa - 2
  value :=
    4 * mantissa
  high :=
    4 * mantissa + 2
  inclusive :=
    mantissa % 2 = 0
  unitExponent :=
    exponent - 2

/-- Numerator and denominator of a bound divided by `10 ^ place`. -/
def inPlaces
    (interval : Interval)
    (bound : Nat)
    (place : Int) :
    Nat × Nat :=
  let scaled := divPowTwo bound 1 (-interval.unitExponent)
  if place < 0 then
    (scaled.1 * Nat.pow 10 place.natAbs, scaled.2)
  else
    (scaled.1, scaled.2 * Nat.pow 10 place.natAbs)

/-- The place of the first digit of the value. -/
def leadingPlace (interval : Interval) : Int :=
  let (numerator, denominator) := interval.inPlaces interval.value 0
  if denominator ≤ numerator then
    (digits (numerator / denominator)).length - 1
  else
    -(digits (denominator / numerator)).length

/-- Whether `coefficient * 10 ^ place` rounds to the value. -/
def admits
    (interval : Interval)
    (place : Int)
    (coefficient : Nat) :
    Bool :=
  let low := interval.inPlaces interval.low place
  let high := interval.inPlaces interval.high place
  if interval.inclusive then
    low.1 <= coefficient * low.2 && coefficient * high.2 <= high.1
  else
    low.1 < coefficient * low.2 && coefficient * high.2 < high.1

/-- The decimal with its last digit in a place that rounds to the value and lies
nearest to it. -/
def nearest?
    (interval : Interval)
    (place : Int) :
    Option Scaled :=
  let (numerator, denominator) := interval.inPlaces interval.value place
  let below := numerator / denominator
  let nearer := roundDiv numerator denominator
  let farther := if nearer = below then below + 1 else below
  if interval.admits place nearer then
    some ⟨nearer, place⟩
  else if interval.admits place farther then
    some ⟨farther, place⟩
  else
    none

/-- The decimal of the fewest digits, starting from a number of digits. -/
def fewest
    (interval : Interval) :
    Nat → Nat → Scaled
  | 0, count =>
      ⟨(interval.inPlaces interval.value (interval.leadingPlace - count)).1, 0⟩
  | attempts + 1, count =>
      match interval.nearest? (interval.leadingPlace - count) with
      | some decimal =>
          decimal
      | none =>
          interval.fewest attempts (count + 1)

end Interval

/-- Move the zeros at the end of a coefficient into the exponent. -/
def dropZeros : Nat → Scaled → Scaled
  | 0, decimal =>
      decimal
  | attempts + 1, decimal =>
      if decimal.coefficient % 10 = 0 then
        dropZeros attempts ⟨decimal.coefficient / 10, decimal.exponent + 1⟩
      else
        decimal

/-- The shortest decimal that reads back as a positive finite number.  Seventeen
digits always suffice. -/
def shortest
    (mantissa : Nat)
    (exponent : Int) :
    Scaled :=
  dropZeros 20 ((Interval.ofFinite mantissa exponent).fewest 18 0)

/-- A decimal without an exponent and with at least one digit on either side of
the point. -/
def positional (decimal : Scaled) : List Char :=
  let shown := digits decimal.coefficient
  if 0 ≤ decimal.exponent then
    shown ++ List.replicate decimal.exponent.natAbs '0' ++ ['.', '0']
  else
    let fraction := decimal.exponent.natAbs
    if fraction < shown.length then
      shown.take (shown.length - fraction) ++ '.' :: shown.drop (shown.length - fraction)
    else
      ['0', '.'] ++ List.replicate (fraction - shown.length) '0' ++ shown

/-- A decimal with one digit before the point, an exponent after the digits, and
no point if there is one digit only. -/
def scientific (decimal : Scaled) : List Char :=
  let shown := digits decimal.coefficient
  let mantissa :=
    match shown with
    | first :: second :: rest =>
        first :: '.' :: second :: rest
    | _ =>
        shown
  mantissa ++ 'e' :: integer (shown.length + decimal.exponent - 1)

/-- Whether a decimal is written without exponent: it is below `10 ^ 16` and not
below `10 ^ (-5)`. -/
def isPositional (decimal : Scaled) : Bool :=
  let magnitude : Int := (digits decimal.coefficient).length + decimal.exponent
  magnitude <= 16 && -5 < magnitude

/-- The text of a finite number by a layout for its shortest decimal. -/
def finiteText
    (layout : Scaled → List Char)
    (negative : Bool)
    (mantissa : Nat)
    (exponent : Int) :
    List Char :=
  let sign := if negative then ['-'] else []
  if mantissa = 0 then
    sign ++ ['0', '.', '0']
  else
    sign ++ layout (shortest mantissa exponent)

namespace Binary64

/-- The text of a number in a document: `.nan` and `.inf` have a point first. -/
def text : Binary64 → List Char
  | .nan =>
      ".nan".toList
  | .infinite negative =>
      if negative then "-.inf".toList else ".inf".toList
  | .finite negative mantissa exponent =>
      finiteText
        (fun decimal => if isPositional decimal then positional decimal else scientific decimal)
        negative mantissa exponent

/-- The text of a number in a message, which never has an exponent. -/
def positionalText : Binary64 → List Char
  | .nan =>
      "NaN".toList
  | .infinite negative =>
      if negative then "-inf".toList else "inf".toList
  | .finite negative mantissa exponent =>
      finiteText positional negative mantissa exponent

end Binary64

end AlertReceivers.Decimal
