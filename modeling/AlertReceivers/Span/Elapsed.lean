import AlertReceivers.Span.Reader

namespace AlertReceivers.Span

/-!
# Spans as elapsed time

A span that is not negative is a time of whole seconds and nanoseconds, and a
time is a span if its nanoseconds fit in 64 bits.
-/

namespace Elapsed

/-- The digits of a fraction of a second, without zeros at the end. -/
def fractionDigits (nanos : Nat) : List Char :=
  let shown := Decimal.digits nanos
  ((List.replicate (9 - shown.length) '0' ++ shown).reverse.dropWhile (· == '0')).reverse

/-- A time of a second or more, in seconds. -/
def secondsText (elapsed : Elapsed) : String :=
  let fraction := fractionDigits elapsed.nanos
  String.ofList
    (Decimal.digits elapsed.seconds ++
      (if fraction.isEmpty then [] else '.' :: fraction) ++ ['s'])

/-- The span of a time. -/
def toSpan (elapsed : Elapsed) : Outcome Refusal Span :=
  (ofElapsed false elapsed).mapRefusal fun reason => ⟨elapsed.secondsText, reason⟩

end Elapsed

/-- A span as a time, unless it is negative. -/
def toElapsed? (span : Span) : Option Elapsed :=
  if span.isNegative then
    none
  else
    some ⟨span.nanos.natAbs / 1000000000, span.nanos.natAbs % 1000000000⟩

end AlertReceivers.Span
