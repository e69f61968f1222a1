import AlertReceivers.Failure

namespace AlertReceivers.Span

/-!
# Units of time

The units that a span can be written in, with their spellings, and amounts of
them added up as seconds and nanoseconds of 64 bits each.
-/

/-- The largest number that a 64-bit counter holds. -/
def counterMax : Nat :=
  18446744073709551615

/-- Why a text is no span. -/
inductive Reason where
  | empty
  | numberExpected (offset : Nat)
  | invalidCharacter (offset : Nat)
  | unitNeeded (amount : Nat)
  | unknownUnit (unit : String)
  | tooLargeOrFine
  | outOfRange
  deriving Repr, DecidableEq

/-- A unit of time.  A month is 30.44 days and a year is 365.25 days. -/
inductive TimeUnit where
  | nanosecond
  | microsecond
  | millisecond
  | second
  | minute
  | hour
  | day
  | week
  | month
  | year
  deriving Repr, DecidableEq

/-- The length of a unit, in seconds or in nanoseconds. -/
inductive Scale where
  | seconds (count : Nat)
  | nanos (count : Nat)
  deriving Repr, DecidableEq

/-- A fraction below one, as a part of a power of ten. -/
structure Fraction where
  numerator : Nat
  denominator : Nat
  deriving Repr, DecidableEq

/-- A time without sign as whole seconds and the nanoseconds of another one. -/
structure Elapsed where
  seconds : Nat
  nanos : Nat
  deriving Repr, DecidableEq

namespace TimeUnit

/-- The spellings of each unit. -/
def spellings : List (TimeUnit × List String) :=
  [(.nanosecond, ["nanos", "nsec", "ns"]),
   (.microsecond, ["usec", "us", "µs"]),
   (.millisecond, ["millis", "msec", "ms"]),
   (.second, ["seconds", "second", "secs", "sec", "s"]),
   (.minute, ["minutes", "minute", "min", "mins", "m"]),
   (.hour, ["hours", "hour", "hr", "hrs", "h"]),
   (.day, ["days", "day", "d"]),
   (.week, ["weeks", "week", "wk", "wks", "w"]),
   (.month, ["months", "month", "M"]),
   (.year, ["years", "year", "yr", "yrs", "y"])]

/-- The unit of a spelling. -/
def ofSpelling? (spelling : String) : Option TimeUnit :=
  (spellings.find? fun unit => unit.2.contains spelling).map (·.1)

/-- The length of a whole unit. -/
def scale : TimeUnit → Scale
  | .nanosecond =>
      .nanos 1
  | .microsecond =>
      .nanos 1000
  | .millisecond =>
      .nanos 1000000
  | .second =>
      .seconds 1
  | .minute =>
      .seconds 60
  | .hour =>
      .seconds 3600
  | .day =>
      .seconds 86400
  | .week =>
      .seconds 604800
  | .month =>
      .seconds 2630016
  | .year =>
      .seconds 31557600

/-- The length that a fraction of a unit is taken of.  A fraction of an hour or
more is a whole number of seconds, and a nanosecond has no fractions. -/
def fractionScale? : TimeUnit → Option Scale
  | .nanosecond =>
      none
  | .second =>
      some (.nanos 1000000000)
  | .minute =>
      some (.nanos 60000000000)
  | unit =>
      some unit.scale

end TimeUnit

/-- A number that a counter holds. -/
def counted (value : Nat) : Outcome Reason Nat :=
  if value ≤ counterMax then
    .ok value
  else
    .refuse .tooLargeOrFine

/-- The quotient of two numbers, which has to be exact. -/
def exactly (numerator denominator : Nat) : Outcome Reason Nat :=
  if numerator % denominator = 0 then
    .ok (numerator / denominator)
  else
    .refuse .tooLargeOrFine

namespace Scale

/-- A number of units of this length. -/
def whole
    (amount : Nat) :
    Scale → Outcome Reason Elapsed
  | .seconds count => do
      let seconds ← counted (amount * count)
      .ok ⟨seconds, 0⟩
  | .nanos count => do
      let nanos ← counted (amount * count)
      .ok ⟨0, nanos⟩

/-- A fraction of a unit of this length. -/
def part
    (fraction : Fraction) :
    Scale → Outcome Reason Elapsed
  | .seconds count => do
      let product ← counted (fraction.numerator * count)
      let seconds ← exactly product fraction.denominator
      .ok ⟨seconds, 0⟩
  | .nanos count => do
      let product ← counted (fraction.numerator * count)
      let nanos ← exactly product fraction.denominator
      .ok ⟨0, nanos⟩

end Scale

namespace Elapsed

/-- No time. -/
def zero : Elapsed :=
  ⟨0, 0⟩

/-- Add an amount to a time with less than a second of nanoseconds.  The sums are
kept in 64-bit counters.  Nanoseconds of exactly one second are carried last,
and if that carry overflows, there is no answer. -/
def add
    (total amount : Elapsed) :
    Outcome Reason Elapsed :=
  let nanos := total.nanos + amount.nanos
  let carried := if 1000000000 < nanos then nanos / 1000000000 else 0
  let left := if 1000000000 < nanos then nanos % 1000000000 else nanos
  let seconds := total.seconds + (amount.seconds + carried)
  if counterMax < nanos ∨ counterMax < amount.seconds + carried ∨ counterMax < seconds then
    .refuse .tooLargeOrFine
  else if left = 1000000000 then
    if seconds = counterMax then .abort else .ok ⟨seconds + 1, 0⟩
  else
    .ok ⟨seconds, left⟩

/-- The length of a time in nanoseconds. -/
def toNanos (elapsed : Elapsed) : Nat :=
  elapsed.seconds * 1000000000 + elapsed.nanos

end Elapsed

/-- Add a number of units, and a fraction of one, to a time. -/
def addComponent
    (total : Elapsed)
    (amount : Nat)
    (fraction : Option Fraction)
    (spelling : List Char) :
    Outcome Reason Elapsed :=
  match TimeUnit.ofSpelling? (String.ofList spelling) with
  | none =>
      .refuse
        (if spelling.isEmpty then .unitNeeded amount else .unknownUnit (String.ofList spelling))
  | some unit => do
      let whole ← unit.scale.whole amount
      let sum ← total.add whole
      match fraction, unit.fractionScale? with
      | none, _ =>
          .ok sum
      | some _, none =>
          .refuse .tooLargeOrFine
      | some fraction, some scale =>
          let part ← scale.part fraction
          sum.add part

end AlertReceivers.Span
