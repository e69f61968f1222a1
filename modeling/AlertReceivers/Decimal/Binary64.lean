import AlertReceivers.Decimal.Digits

namespace AlertReceivers.Decimal

/-!
# Double-precision numbers

A finite number is a mantissa below `2 ^ 53` times a power of two not below
`2 ^ (-1074)`.  Decimal texts are rounded to the nearest such number, and a tie
goes to the even mantissa.  All arithmetic is exact.
-/

/-- A binary floating-point number of 64 bits.  All not-a-numbers are one. -/
inductive Binary64 where
  | nan
  | infinite (negative : Bool)
  | finite (negative : Bool) (mantissa : Nat) (exponent : Int)
  deriving Repr, DecidableEq

/-- The quotient of two numbers, rounded to the nearest, ties to even. -/
def roundDiv (numerator denominator : Nat) : Nat :=
  let quotient := numerator / denominator
  let twice := 2 * (numerator % denominator)
  if twice < denominator then
    quotient
  else if denominator < twice then
    quotient + 1
  else
    quotient + quotient % 2

/-- A ratio divided by a power of two, as numerator and denominator. -/
def divPowTwo
    (numerator denominator : Nat)
    (exponent : Int) :
    Nat × Nat :=
  if exponent < 0 then
    (numerator * Nat.pow 2 exponent.natAbs, denominator)
  else
    (numerator, denominator * Nat.pow 2 exponent.natAbs)

namespace Binary64

/-- The exponent of the finite numbers next to zero. -/
def leastExponent : Int :=
  -1074

/-- The exponent of the largest finite numbers. -/
def greatestExponent : Int :=
  971

/-- Zero with a sign. -/
def zero (negative : Bool) : Binary64 :=
  .finite negative 0 leastExponent

/-- The power of two by which a positive ratio is divided to give a mantissa. -/
def exponentOf (numerator denominator : Nat) : Int :=
  let estimate : Int := (numerator.log2 : Int) - denominator.log2 - 52
  let scaled := divPowTwo numerator denominator estimate
  max leastExponent
    (if scaled.1 / scaled.2 < Nat.pow 2 52 then estimate - 1 else estimate)

/-- The number nearest to a ratio. -/
def ofRatio
    (negative : Bool)
    (numerator denominator : Nat) :
    Binary64 :=
  if numerator = 0 then
    zero negative
  else
    let exponent := exponentOf numerator denominator
    let scaled := divPowTwo numerator denominator exponent
    let rounded := roundDiv scaled.1 scaled.2
    let mantissa := if rounded = Nat.pow 2 53 then Nat.pow 2 52 else rounded
    let exponent := if rounded = Nat.pow 2 53 then exponent + 1 else exponent
    if greatestExponent < exponent then
      .infinite negative
    else
      .finite negative mantissa exponent

/-- The number nearest to a decimal.  A decimal far beyond the finite numbers,
or far below the least of them, is settled by its order of magnitude. -/
def ofDecimal
    (negative : Bool)
    (coefficient : Nat)
    (exponent : Int) :
    Binary64 :=
  let magnitude : Int := (digits coefficient).length + exponent
  if coefficient = 0 ∨ magnitude < -330 then
    zero negative
  else if 310 < magnitude then
    .infinite negative
  else if exponent < 0 then
    ofRatio negative coefficient (Nat.pow 10 exponent.natAbs)
  else
    ofRatio negative (coefficient * Nat.pow 10 exponent.natAbs) 1

/-- Read the exponent of a decimal, which is zero if there is none. -/
def readExponent? : List Char → Option Int
  | [] =>
      some 0
  | mark :: rest =>
      if mark = 'e' ∨ mark = 'E' then
        let (negative, chars) := splitSign rest
        (read? 10 chars).map fun value => if negative then -value else (value : Int)
      else
        none

/-- Read a decimal with an optional sign, fraction and exponent.  There is a
digit before or after the point. -/
def ofText? (chars : List Char) : Option Binary64 :=
  let (negative, unsigned) := splitSign chars
  let whole := unsigned.takeWhile Char.isDigit
  let afterWhole := unsigned.dropWhile Char.isDigit
  let (fraction, afterFraction) :=
    match afterWhole with
    | '.' :: rest =>
        (rest.takeWhile Char.isDigit, rest.dropWhile Char.isDigit)
    | rest =>
        ([], rest)
  match read? 10 (whole ++ fraction), readExponent? afterFraction with
  | some coefficient, some exponent =>
      some (ofDecimal negative coefficient (exponent - fraction.length))
  | _, _ =>
      none

/-- Whether a number is finite. -/
def isFinite : Binary64 → Bool
  | .finite .. =>
      true
  | _ =>
      false

/-- Equality of values: the two zeros are equal, and so are two not-a-numbers. -/
def sameValue : Binary64 → Binary64 → Bool
  | .finite _ 0 _, .finite _ 0 _ =>
      true
  | first, second =>
      first == second

end Binary64

end AlertReceivers.Decimal
