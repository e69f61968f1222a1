import AlertReceivers.Decimal.Digits

namespace AlertReceivers

/-!
# Time spans

A span is a signed number of nanoseconds of 64 bits.  Its text names hours,
minutes, seconds, milliseconds, microseconds and nanoseconds, the largest first
and without those that are zero: `1h30m`, `-1m30s`, `744h`, and `0s` for the
empty span.
-/

/-- A signed number of nanoseconds of 64 bits. -/
structure Span where
  nanos : Int
  inRange : -9223372036854775808 ≤ nanos ∧ nanos < 9223372036854775808
  deriving DecidableEq

namespace Span

instance : Repr Span where
  reprPrec span prec :=
    reprPrec span.nanos prec

/-- The span of a number of nanoseconds, if it has 64 bits. -/
def ofNanos? (nanos : Int) : Option Span :=
  if inRange : -9223372036854775808 ≤ nanos ∧ nanos < 9223372036854775808 then
    some ⟨nanos, inRange⟩
  else
    none

/-- The empty span. -/
def zero : Span where
  nanos :=
    0
  inRange := by
    decide

instance : Inhabited Span :=
  ⟨zero⟩

/-- The span of a number of seconds. -/
def ofSeconds? (seconds : Int) : Option Span :=
  ofNanos? (seconds * 1000000000)

/-- The span of a number of minutes. -/
def ofMinutes? (minutes : Int) : Option Span :=
  ofSeconds? (minutes * 60)

/-- The span of a number of hours. -/
def ofHours? (hours : Int) : Option Span :=
  ofMinutes? (hours * 60)

/-- Whether a span goes back in time. -/
def isNegative (span : Span) : Bool :=
  span.nanos < 0

/-- Spans are ordered by their signed length. -/
def compare (first second : Span) : Ordering :=
  Ord.compare first.nanos second.nanos

/-- The units of a span's text and their lengths in nanoseconds. -/
def textUnits : List (String × Nat) :=
  [("h", 3600000000000), ("m", 60000000000), ("s", 1000000000),
   ("ms", 1000000), ("us", 1000), ("ns", 1)]

/-- A length in nanoseconds as whole numbers of the units, leaving out zeros. -/
def componentsText : List (String × Nat) → Nat → List Char
  | [], _ =>
      []
  | (unit, size) :: units, nanos =>
      if size ≤ nanos then
        Decimal.digits (nanos / size) ++ unit.toList ++ componentsText units (nanos % size)
      else
        componentsText units nanos

/-- The canonical text of a span. -/
def text (span : Span) : String :=
  if span.nanos = 0 then
    "0s"
  else
    String.ofList
      ((if span.isNegative then ['-'] else []) ++
        componentsText textUnits span.nanos.natAbs)

end Span

end AlertReceivers
