import AlertReceivers.Proofs.Outcome
import AlertReceivers.Span.Unit
import Mathlib.Tactic.SplitIfs

namespace AlertReceivers.Span

/-!
# Adding components

Amounts of time are added up exactly, however they are spread over seconds and
nanoseconds, or there is no sum because the counters do not hold it.  Only an amount
that fills up the last second of the counters leaves an addition without an answer.
-/

/-- The length of a unit in nanoseconds. -/
def Scale.size : Scale → Nat
  | .seconds count =>
      count * 1000000000
  | .nanos count =>
      count

/-- With an amount, a time fills up the last second that the counters hold. -/
def Elapsed.FillsUp (total amount : Elapsed) : Prop :=
  total.seconds + amount.seconds = counterMax ∧
    total.nanos + amount.nanos = 1000000000

/-- How an addition ends. -/
inductive Elapsed.Added (total amount : Elapsed) : Outcome Reason Elapsed → Prop where
  | sum {sum : Elapsed} :
      sum.toNanos = total.toNanos + amount.toNanos →
      ¬ total.FillsUp amount →
      Added total amount (.ok sum)
  | tooLarge :
      counterMax < total.toNanos + amount.toNanos →
      ¬ total.FillsUp amount →
      Added total amount (.refuse .tooLargeOrFine)
  | filledUp :
      total.FillsUp amount →
      Added total amount .abort

/-- An outcome totals a number of nanoseconds if it is a time of exactly this length, or
none because a counter does not hold the number. -/
inductive Totals (nanos : Nat) : Outcome Reason Elapsed → Prop where
  | length {elapsed : Elapsed} :
      elapsed.toNanos = nanos →
      Totals nanos (.ok elapsed)
  | tooLarge {failure : Failure Reason} :
      counterMax < nanos →
      Totals nanos (.error failure)

/-- A counter takes all numbers up to its limit as they are. -/
theorem counted_eq_ok_iff
    {value result : Nat} :
    counted value = .ok result ↔ value ≤ counterMax ∧ value = result := by
  unfold counted
  split
  · rename_i fits
    simp [fits]
  · rename_i exceeds
    simp [exceeds, Outcome.refuse]

/-- A number beyond the limit of counters is refused. -/
theorem counted_eq_refuse
    {value : Nat}
    (exceeds : counterMax < value) :
    counted value = .refuse .tooLargeOrFine := by
  rw [counted, if_neg (by omega)]

namespace Totals

variable {nanos : Nat}
variable {outcome : Outcome Reason Elapsed}

/-- A chain totals a number if its first part totals less, and the second part then
totals the number. -/
theorem bind
    {less : Nat}
    {next : Elapsed → Outcome Reason Elapsed}
    (totals : Totals less outcome)
    (isLess : less ≤ nanos)
    (totalsNext : ∀ elapsed, elapsed.toNanos = less → Totals nanos (next elapsed)) :
    Totals nanos (outcome >>= next) := by
  cases totals with
  | length isLength =>
      exact totalsNext _ isLength
  | tooLarge exceeds =>
      exact .tooLarge (by omega)

/-- A number that is counted first does not exceed what is totalled. -/
theorem counted
    {value : Nat}
    {next : Nat → Outcome Reason Elapsed}
    (isLess : value ≤ nanos)
    (totals : Totals nanos (next value)) :
    Totals nanos (counted value >>= next) := by
  by_cases fits : value ≤ counterMax
  · rw [counted_eq_ok_iff.mpr ⟨fits, rfl⟩, Outcome.ok_bind]
    exact totals
  · rw [counted_eq_refuse (by omega)]
    exact .tooLarge (by omega)

/-- There is a time exactly if the counters hold it, and it has the length. -/
theorem exists_eq_ok
    (totals : Totals nanos outcome)
    (fits : nanos ≤ counterMax) :
    ∃ elapsed, outcome = .ok elapsed ∧ elapsed.toNanos = nanos := by
  cases totals with
  | length isLength =>
      exact ⟨_, rfl, isLength⟩
  | tooLarge exceeds =>
      omega

/-- A time is as long as what it sums up. -/
theorem toNanos_eq
    {elapsed : Elapsed}
    (totals : Totals nanos outcome)
    (isTime : outcome = .ok elapsed) :
    elapsed.toNanos = nanos := by
  cases totals with
  | length isLength =>
      cases isTime
      exact isLength
  | tooLarge _ =>
      cases isTime

end Totals

/-- An addition ends with the exact sum, or an error if the counters do not hold it,
unless the last second is filled up. -/
theorem Elapsed.added (total amount : Elapsed) :
    total.Added amount (total.add amount) := by
  obtain ⟨totalSeconds, totalNanos⟩ := total
  obtain ⟨seconds, nanos⟩ := amount
  by_cases exceeds : 1000000000 < totalNanos + nanos
  · have notFull : ¬ FillsUp ⟨totalSeconds, totalNanos⟩ ⟨seconds, nanos⟩ :=
      fun full => Nat.ne_of_gt exceeds full.2
    have notSecond : (totalNanos + nanos) % 1000000000 ≠ 1000000000 := by
      omega
    simp only [add, if_pos exceeds, if_neg notSecond]
    split
    · refine .tooLarge ?_ notFull
      simp only [toNanos, counterMax] at *
      omega
    · refine .sum ?_ notFull
      simp only [toNanos]
      omega
  · simp only [add, if_neg exceeds]
    split
    · have notFull : ¬ FillsUp ⟨totalSeconds, totalNanos⟩ ⟨seconds, nanos⟩ := fun full => by
        have secondsFull : totalSeconds + seconds = counterMax := full.1
        simp only [counterMax] at *
        omega
      refine .tooLarge ?_ notFull
      simp only [toNanos, counterMax] at *
      omega
    · split_ifs with isSecond isLast
      · exact .filledUp ⟨isLast, isSecond⟩
      · refine .sum ?_ fun full => isLast full.1
        simp only [toNanos]
        omega
      · exact .sum (by simp only [toNanos]; omega) fun full => isSecond full.2

/-- An addition gives no answer exactly if the last second is filled up. -/
theorem Elapsed.add_eq_aborted_iff
    {total amount : Elapsed} :
    total.add amount = .error .aborted ↔ total.FillsUp amount := by
  have added := total.added amount
  generalize total.add amount = outcome at added ⊢
  cases added with
  | sum _ notFull =>
      simp [notFull]
  | tooLarge _ notFull =>
      simp [notFull, Outcome.refuse]
  | filledUp full =>
      simp [full, Outcome.abort]

/-- With what fills up the last second, a time has as many seconds as there are numbers
in a counter. -/
theorem Elapsed.FillsUp.toNanos_eq
    {total amount : Elapsed}
    (full : total.FillsUp amount) :
    total.toNanos + amount.toNanos = (counterMax + 1) * 1000000000 := by
  obtain ⟨secondsFull, nanosFull⟩ := full
  simp only [toNanos] at *
  omega

/-- A sum totals the lengths that are added. -/
theorem Elapsed.totals_add (total amount : Elapsed) :
    Totals (total.toNanos + amount.toNanos) (total.add amount) := by
  have added := total.added amount
  generalize total.add amount = outcome at added ⊢
  cases added with
  | sum isSum _ =>
      exact .length isSum
  | tooLarge exceeds _ =>
      exact .tooLarge exceeds
  | filledUp full =>
      refine .tooLarge ?_
      rw [full.toNanos_eq]
      omega

/-- A number of units totals its length. -/
theorem Scale.totals_whole
    (scale : Scale)
    (amount : Nat) :
    Totals (amount * scale.size) (scale.whole amount) := by
  cases scale with
  | seconds count =>
      rw [size, ← Nat.mul_assoc]
      refine .counted (by omega) (.length ?_)
      simp [Elapsed.toNanos]
  | nanos count =>
      refine .counted (Nat.le_refl _) (.length ?_)
      simp [Elapsed.toNanos, size]

/-- No unit is empty. -/
theorem TimeUnit.size_pos (unit : TimeUnit) : 0 < unit.scale.size := by
  cases unit <;> decide

/-- A component without a fraction adds its whole units. -/
theorem addComponent_none
    {unit : TimeUnit}
    {spelling : List Char}
    (named : TimeUnit.ofSpelling? (String.ofList spelling) = some unit)
    (total : Elapsed)
    (amount : Nat) :
    addComponent total amount none spelling =
      unit.scale.whole amount >>= fun whole => total.add whole := by
  simp only [addComponent, named]
  cases unit.scale.whole amount with
  | error failure =>
      rfl
  | ok whole =>
      rw [Outcome.ok_bind, Outcome.ok_bind]
      cases total.add whole <;> rfl

/-- A whole number of units totals its length with what it is added to. -/
theorem totals_addComponent
    {unit : TimeUnit}
    {spelling : List Char}
    (named : TimeUnit.ofSpelling? (String.ofList spelling) = some unit)
    (total : Elapsed)
    (amount : Nat) :
    Totals (total.toNanos + amount * unit.scale.size)
      (addComponent total amount none spelling) := by
  rw [addComponent_none named]
  refine (unit.scale.totals_whole amount).bind (by omega) fun whole isLength => ?_
  rw [← isLength]
  exact total.totals_add whole

end AlertReceivers.Span
