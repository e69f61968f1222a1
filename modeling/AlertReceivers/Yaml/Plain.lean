import AlertReceivers.Decimal.Binary64

namespace AlertReceivers.Yaml

/-!
# Plain scalars

A scalar without quotes stands for nothing, a flag, a number or its own text.
Integers may be written in base two, eight or sixteen.  Digits with a zero in front
of them are a text.
-/

/-- What a plain scalar stands for. -/
inductive Plain where
  | null
  | boolean (value : Bool)
  | integer (value : Int)
  /-- An integer of more than 64 and at most 128 bits. -/
  | wideInteger (value : Int)
  | real (value : Decimal.Binary64)
  | text
  deriving Repr, DecidableEq

namespace Plain

/-- The words that stand for nothing. -/
def nullWords : List String :=
  ["null", "Null", "NULL", "~"]

/-- Whether a text is a word for nothing. -/
def isNullWord (chars : List Char) : Bool :=
  nullWords.any fun word => word.toList == chars

/-- The flag of a word. -/
def boolean? (chars : List Char) : Option Bool :=
  if ["true", "True", "TRUE"].any fun word => word.toList == chars then
    some true
  else if ["false", "False", "FALSE"].any fun word => word.toList == chars then
    some false
  else
    none

/-- A text without a plus in front of it. -/
def dropPlus : List Char → List Char
  | '+' :: rest =>
      rest
  | chars =>
      chars

/-- Whether a text is two or more digits, the first of which is zero, after an
optional sign. -/
def hasIdleZero (chars : List Char) : Bool :=
  match (Decimal.splitSign chars).2 with
  | '0' :: first :: rest =>
      (first :: rest).all Char.isDigit
  | _ =>
      false

/-- The number that digits write, in the base that a mark in front of them names. -/
def magnitude? : List Char → Option Nat
  | '0' :: 'x' :: digits =>
      Decimal.read? 16 digits
  | '0' :: 'o' :: digits =>
      Decimal.read? 8 digits
  | '0' :: 'b' :: digits =>
      Decimal.read? 2 digits
  | digits =>
      Decimal.read? 10 digits

/-- The integer that a text writes. -/
def integer? (chars : List Char) : Option Int :=
  if hasIdleZero chars then
    none
  else
    match chars with
    | '-' :: rest =>
        (magnitude? rest).map fun magnitude => -(magnitude : Int)
    | _ =>
        (magnitude? (dropPlus chars)).map fun magnitude => (magnitude : Int)

/-- Whether a text has two signs in front, the first of which is a plus. -/
def hasSignAfterPlus : List Char → Bool
  | '+' :: sign :: _ =>
      sign == '+' || sign == '-'
  | _ =>
      false

/-- The words for the infinite numbers, without sign. -/
def infinityWords : List String :=
  [".inf", ".Inf", ".INF"]

/-- The words for what is not a number. -/
def nanWords : List String :=
  [".nan", ".NaN", ".NAN"]

/-- The number that a text writes, other than an integer. -/
def real? (chars : List Char) : Option Decimal.Binary64 :=
  if hasSignAfterPlus chars then
    none
  else if infinityWords.any fun word => word.toList == dropPlus chars then
    some (.infinite false)
  else if infinityWords.any fun word => '-' :: word.toList == chars then
    some (.infinite true)
  else if nanWords.any fun word => word.toList == chars then
    some .nan
  else
    match Decimal.Binary64.ofText? chars with
    | some value =>
        if value.isFinite then some value else none
    | none =>
        none

/-- An integer that a text writes, if it has at most 128 bits. -/
def ofInteger? (value : Int) : Option Plain :=
  if -9223372036854775808 ≤ value ∧ value < 18446744073709551616 then
    some (.integer value)
  else if
      -170141183460469231731687303715884105728 ≤ value ∧
        value < 340282366920938463463374607431768211456 then
    some (.wideInteger value)
  else
    none

/-- The integer that a text stands for. -/
def readInteger? (chars : List Char) : Option Plain :=
  (integer? chars).bind ofInteger?

/-- What a plain scalar stands for. -/
def read (chars : List Char) : Plain :=
  if chars.isEmpty || isNullWord chars then
    .null
  else
    match boolean? chars, readInteger? chars with
    | some value, _ =>
        .boolean value
    | none, some number =>
        number
    | none, none =>
        if hasIdleZero chars then
          .text
        else
          match real? chars with
          | some value =>
              .real value
          | none =>
              .text

end Plain

end AlertReceivers.Yaml
