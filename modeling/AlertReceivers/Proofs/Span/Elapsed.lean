import AlertReceivers.Proofs.Span.Composed
import AlertReceivers.Span.Elapsed

namespace AlertReceivers.Span

/-!
# Spans as elapsed time

A time and a span are made from each other exactly if they have the same number of
nanoseconds.  So the two ways are inverse to each other where they are defined, and both
keep the order.
-/

/-- The seconds of a time fit into a counter, and its nanoseconds make no further second. -/
structure Elapsed.IsReduced (elapsed : Elapsed) : Prop where
  fits :
    elapsed.seconds ≤ counterMax
  belowSecond :
    elapsed.nanos < 1000000000

/-- Times are ordered by their seconds, and by their nanoseconds if these are the same. -/
def Elapsed.compare (first second : Elapsed) : Ordering :=
  (Ord.compare first.seconds second.seconds).then (Ord.compare first.nanos second.nanos)

variable {elapsed other : Elapsed}
variable {span otherSpan : Span}

/-- A time is made into the span with its number of nanoseconds. -/
theorem toSpan_eq_ok_iff : elapsed.toSpan = .ok span ↔ span.nanos = elapsed.toNanos := by
  rw [Elapsed.toSpan, Outcome.mapRefusal_eq_ok_iff]
  refine (@ofElapsed_eq_ok_iff .none elapsed span).trans
    ⟨fun isSpan => isSpan.2, fun sameNanos => ⟨?_, sameNanos⟩⟩
  have inRange := span.inRange
  omega

/-- A time is made into no span if a span does not hold its number of nanoseconds. -/
theorem toSpan_eq_refuse
    (tooLong : 9223372036854775807 < elapsed.toNanos) :
    elapsed.toSpan = .refuse ⟨elapsed.secondsText, .outOfRange⟩ := by
  rw [Elapsed.toSpan, ofElapsed, dif_neg (by omega)]
  rfl

/-- A time can be made into a span exactly if a span holds its number of nanoseconds. -/
theorem exists_toSpan_iff :
    (∃ span, elapsed.toSpan = .ok span) ↔ elapsed.toNanos ≤ 9223372036854775807 := by
  constructor
  · rintro ⟨span, isSpan⟩
    have sameNanos := toSpan_eq_ok_iff.mp isSpan
    have inRange := span.inRange
    omega
  · intro short
    exact ⟨⟨elapsed.toNanos, by omega⟩, toSpan_eq_ok_iff.mpr rfl⟩

theorem toElapsed?_eq_none_iff : span.toElapsed? = none ↔ span.nanos < 0 := by
  simp [toElapsed?, isNegative]

/-- A span is made into the time with its number of nanoseconds, less than a second of them
beside the seconds. -/
theorem toElapsed?_eq_some_iff :
    span.toElapsed? = some elapsed ↔
      elapsed.nanos < 1000000000 ∧ span.nanos = elapsed.toNanos := by
  obtain ⟨seconds, nanos⟩ := elapsed
  simp only [toElapsed?, isNegative, decide_eq_true_eq, Elapsed.toNanos]
  split
  · rename_i negative
    simp only [reduceCtorEq, false_iff]
    omega
  · rw [Option.some.injEq, Elapsed.mk.injEq]
    omega

/-- The time of a span is reduced. -/
theorem isReduced_of_toElapsed?
    (isTime : span.toElapsed? = some elapsed) :
    elapsed.IsReduced := by
  obtain ⟨belowSecond, sameNanos⟩ := toElapsed?_eq_some_iff.mp isTime
  have inRange := span.inRange
  rw [Elapsed.toNanos] at sameNanos
  refine ⟨?_, belowSecond⟩
  unfold counterMax
  omega

section Order

variable (isReduced : elapsed.IsReduced)
variable (otherReduced : other.IsReduced)
include isReduced otherReduced

theorem compare_eq_lt_iff :
    elapsed.compare other = .lt ↔ elapsed.toNanos < other.toNanos := by
  have belowSecond := isReduced.belowSecond
  have otherBelowSecond := otherReduced.belowSecond
  rw [Elapsed.compare, Ordering.then_eq_lt, Nat.compare_eq_lt, Nat.compare_eq_eq,
    Nat.compare_eq_lt, Elapsed.toNanos, Elapsed.toNanos]
  omega

theorem compare_eq_gt_iff :
    elapsed.compare other = .gt ↔ other.toNanos < elapsed.toNanos := by
  have belowSecond := isReduced.belowSecond
  have otherBelowSecond := otherReduced.belowSecond
  rw [Elapsed.compare, Ordering.then_eq_gt, Nat.compare_eq_gt, Nat.compare_eq_eq,
    Nat.compare_eq_gt, Elapsed.toNanos, Elapsed.toNanos]
  omega

/-- Spans with the numbers of nanoseconds of reduced times are in the same order. -/
theorem compare_eq_compare
    (sameNanos : span.nanos = elapsed.toNanos)
    (otherSameNanos : otherSpan.nanos = other.toNanos) :
    span.compare otherSpan = elapsed.compare other := by
  have isBelow := compare_eq_lt_iff isReduced otherReduced
  have isAbove := compare_eq_gt_iff isReduced otherReduced
  unfold Span.compare
  cases order : elapsed.compare other with
  | lt =>
      have below := isBelow.mp order
      exact Int.compare_eq_lt.mpr (by omega)
  | eq =>
      have notBelow := mt isBelow.mpr (by simp [order])
      have notAbove := mt isAbove.mpr (by simp [order])
      exact Int.compare_eq_eq.mpr (by omega)
  | gt =>
      have above := isAbove.mp order
      exact Int.compare_eq_gt.mpr (by omega)

end Order

/--
A time can be made into a span exactly if its nanoseconds are at most the largest number of
63 bits, and this span gives the time back; every other time is refused as out of range.
A span gives no time exactly if it is negative, and otherwise a reduced time that gives the
span back.  In both ways the order is kept.
-/
theorem time_conversions_inverse_and_monotone
    (isReduced : elapsed.IsReduced)
    (otherReduced : other.IsReduced)
    (span otherSpan : Span) :
    ((∃ made, elapsed.toSpan = .ok made) ↔
        elapsed.seconds * 1000000000 + elapsed.nanos ≤ 9223372036854775807) ∧
      (9223372036854775807 < elapsed.seconds * 1000000000 + elapsed.nanos →
        elapsed.toSpan = .refuse ⟨elapsed.secondsText, .outOfRange⟩) ∧
      (elapsed.toSpan = .ok span → span.toElapsed? = some elapsed) ∧
      (span.toElapsed? = none ↔ span.nanos < 0) ∧
      (0 ≤ span.nanos →
        ∃ made, span.toElapsed? = some made ∧ made.IsReduced ∧ made.toSpan = .ok span) ∧
      (elapsed.toSpan = .ok span →
        other.toSpan = .ok otherSpan →
          span.compare otherSpan = elapsed.compare other) ∧
      (span.toElapsed? = some elapsed →
        otherSpan.toElapsed? = some other →
          elapsed.compare other = span.compare otherSpan) := by
  refine ⟨exists_toSpan_iff, toSpan_eq_refuse, fun isSpan => ?_, toElapsed?_eq_none_iff,
    fun notNegative => ?_, fun isSpan isOtherSpan => ?_, fun isTime isOtherTime => ?_⟩
  · exact toElapsed?_eq_some_iff.mpr ⟨isReduced.belowSecond, toSpan_eq_ok_iff.mp isSpan⟩
  · have isSome : span.toElapsed? ≠ none :=
      mt toElapsed?_eq_none_iff.mp (Int.not_lt.mpr notNegative)
    obtain ⟨made, isMade⟩ := Option.ne_none_iff_exists'.mp isSome
    exact ⟨made, isMade, isReduced_of_toElapsed? isMade,
      toSpan_eq_ok_iff.mpr (toElapsed?_eq_some_iff.mp isMade).2⟩
  · exact compare_eq_compare isReduced otherReduced (toSpan_eq_ok_iff.mp isSpan)
      (toSpan_eq_ok_iff.mp isOtherSpan)
  · exact (compare_eq_compare isReduced otherReduced (toElapsed?_eq_some_iff.mp isTime).2
      (toElapsed?_eq_some_iff.mp isOtherTime).2).symm

/-- The longest span. -/
def longest : Span where
  nanos :=
    9223372036854775807
  inRange := by
    decide

/-- The longest span and its time are made from each other and come after the empty ones,
and the next nanosecond is refused. -/
theorem time_conversions_inverse_and_monotone_longest :
    (⟨9223372036, 854775807⟩ : Elapsed).toSpan = .ok longest ∧
      longest.toElapsed? = some ⟨9223372036, 854775807⟩ ∧
      longest.compare zero = Elapsed.compare ⟨9223372036, 854775807⟩ .zero ∧
      (⟨9223372036, 854775808⟩ : Elapsed).toSpan =
        .refuse ⟨"9223372036.854775808s", .outOfRange⟩ := by
  have lastReduced : Elapsed.IsReduced ⟨9223372036, 854775807⟩ := ⟨by decide, by decide⟩
  have nextReduced : Elapsed.IsReduced ⟨9223372036, 854775808⟩ := ⟨by decide, by decide⟩
  have zeroReduced : Elapsed.zero.IsReduced := ⟨by decide, by decide⟩
  have isLongest : (⟨9223372036, 854775807⟩ : Elapsed).toSpan = .ok longest :=
    toSpan_eq_ok_iff.mpr rfl
  have isZero : Elapsed.zero.toSpan = .ok zero :=
    toSpan_eq_ok_iff.mpr rfl
  obtain ⟨_, _, givesBack, _, _, keepsOrder, _⟩ :=
    time_conversions_inverse_and_monotone lastReduced zeroReduced longest zero
  obtain ⟨_, isRefused, _⟩ :=
    time_conversions_inverse_and_monotone nextReduced zeroReduced longest zero
  have inSeconds : (⟨9223372036, 854775808⟩ : Elapsed).secondsText = "9223372036.854775808s" := by
    decide
  refine ⟨isLongest, givesBack isLongest, keepsOrder isLongest isZero, ?_⟩
  rw [← inSeconds]
  exact isRefused (by decide)

end AlertReceivers.Span
