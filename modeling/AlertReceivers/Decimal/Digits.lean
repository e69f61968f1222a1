namespace AlertReceivers.Decimal

/-!
# Digits

Numbers as digits and back, in the bases that texts use.
-/

/-- The decimal digits of a number. -/
def digits (number : Nat) : List Char :=
  Nat.toDigits 10 number

/-- The decimal digits of an integer, after a `-` if it is negative. -/
def integer (number : Int) : List Char :=
  if number < 0 then
    '-' :: digits number.natAbs
  else
    digits number.natAbs

/-- The value of a digit, letters of either case standing for ten and more. -/
def digitValue? (char : Char) : Option Nat :=
  if '0' ≤ char ∧ char ≤ '9' then
    some (char.toNat - '0'.toNat)
  else if 'a' ≤ char ∧ char ≤ 'z' then
    some (char.toNat - 'a'.toNat + 10)
  else if 'A' ≤ char ∧ char ≤ 'Z' then
    some (char.toNat - 'A'.toNat + 10)
  else
    none

/-- Read further digits onto the value of those before them. -/
def readFrom?
    (base value : Nat) :
    List Char → Option Nat
  | [] =>
      some value
  | char :: rest =>
      match digitValue? char with
      | some digit =>
          if digit < base then
            readFrom? base (value * base + digit) rest
          else
            none
      | none =>
          none

/-- The value of a text of one or more digits of a base. -/
def read?
    (base : Nat)
    (chars : List Char) :
    Option Nat :=
  if chars.isEmpty then
    none
  else
    readFrom? base 0 chars

/-- Split a sign off a text. -/
def splitSign : List Char → Bool × List Char
  | '-' :: rest =>
      (true, rest)
  | '+' :: rest =>
      (false, rest)
  | chars =>
      (false, chars)

end AlertReceivers.Decimal
