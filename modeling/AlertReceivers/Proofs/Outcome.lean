import AlertReceivers.Failure

namespace AlertReceivers.Outcome

/-!
# Inverting outcomes

What the value of a chain of readings says of the readings it was made from.
-/

variable {α β ε δ : Type}

/-- A chain has a value exactly if both of its parts have one. -/
theorem bind_eq_ok_iff
    {result : Except ε α}
    {next : α → Except ε β}
    {value : β} :
    (result >>= next) = .ok value ↔
      ∃ middle, result = .ok middle ∧ next middle = .ok value := by
  cases result with
  | error failure =>
      simp [bind, Except.bind]
  | ok middle =>
      simp [bind, Except.bind]

/-- A chain fails exactly if its first part does, or its second part on what the first
one gives. -/
theorem bind_eq_error_iff
    {result : Except ε α}
    {next : α → Except ε β}
    {failure : ε} :
    (result >>= next) = .error failure ↔
      result = .error failure ∨
        ∃ middle, result = .ok middle ∧ next middle = .error failure := by
  cases result with
  | error other =>
      simp [bind, Except.bind]
  | ok middle =>
      simp [bind, Except.bind]

/-- A chain whose first part has a value goes on with it. -/
@[simp] theorem ok_bind
    (middle : α)
    (next : α → Except ε β) :
    ((.ok middle : Except ε α) >>= next) = next middle :=
  rfl

/-- A chain whose first part fails, fails. -/
@[simp] theorem error_bind
    (failure : ε)
    (next : α → Except ε β) :
    ((.error failure : Except ε α) >>= next) = .error failure :=
  rfl

/-- An outcome whose value is changed has a value exactly if it had one before. -/
theorem map_eq_ok_iff
    {change : α → β}
    {result : Except ε α}
    {value : β} :
    result.map change = .ok value ↔
      ∃ former, result = .ok former ∧ change former = value := by
  cases result with
  | error failure =>
      simp [Except.map]
  | ok former =>
      simp [Except.map]

/-- Changing the value of an outcome makes nothing fail, and keeps every failure. -/
theorem map_eq_error_iff
    {change : α → β}
    {result : Except ε α}
    {failure : ε} :
    result.map change = .error failure ↔ result = .error failure := by
  cases result with
  | error former =>
      simp [Except.map]
  | ok value =>
      simp [Except.map]

/-- Other refusals leave the value of an outcome as it is. -/
theorem mapRefusal_eq_ok_iff
    {change : ε → δ}
    {outcome : Outcome ε α}
    {value : α} :
    outcome.mapRefusal change = .ok value ↔ outcome = .ok value := by
  cases outcome with
  | error failure =>
      simp [mapRefusal]
  | ok former =>
      simp [mapRefusal]

/-- Other refusals do not change whether an outcome is an abort. -/
theorem mapRefusal_eq_aborted_iff
    {change : ε → δ}
    {outcome : Outcome ε α} :
    outcome.mapRefusal change = .error .aborted ↔
      outcome = .error .aborted := by
  cases outcome with
  | error failure =>
      cases failure <;> simp [mapRefusal, Failure.map]
  | ok former =>
      simp [mapRefusal]

/-- A result that counts as an outcome keeps its value. -/
theorem ofExcept_eq_ok_iff
    {result : Except ε α}
    {value : α} :
    ofExcept result = .ok value ↔ result = .ok value := by
  cases result <;> simp [ofExcept, refuse]

/-- Without its failures, a result has the same value. -/
theorem toOption_eq_some_iff
    {result : Except ε α}
    {value : α} :
    result.toOption = some value ↔ result = .ok value := by
  cases result <;> simp [Except.toOption]

/-- The value of an outcome that has one. -/
@[simp] theorem value?_ok (value : α) :
    value? (.ok value : Outcome ε α) = some value :=
  rfl

/-- An outcome has a value exactly if it is one. -/
theorem value?_eq_some_iff
    {outcome : Outcome ε α}
    {value : α} :
    outcome.value? = some value ↔ outcome = .ok value := by
  cases outcome <;> simp [value?]

/-- An outcome has a refusal exactly if it is one. -/
theorem refusal?_eq_some_iff
    {outcome : Outcome ε α}
    {error : ε} :
    outcome.refusal? = some error ↔ outcome = .refuse error := by
  rcases outcome with (_ | _) | _ <;> simp [refusal?, refuse]

/-- Two results fail alike, or have related values. -/
inductive Matches (related : α → β → Prop) : Except ε α → Except ε β → Prop where
  | ok {first : α} {second : β} :
      related first second →
      Matches related (.ok first) (.ok second)
  | error {failure : ε} :
      Matches related (.error failure) (.error failure)

/-- A result matches itself if each value is related to itself. -/
theorem Matches.refl
    {related : α → α → Prop}
    (reflexive : ∀ value, related value value)
    (result : Except ε α) :
    Matches related result result := by
  cases result with
  | error failure =>
      exact .error
  | ok value =>
      exact .ok (reflexive value)

/-- Chains match if their first parts do, and their second parts on related
values. -/
theorem Matches.bind
    {α' β' : Type}
    {related : α → β → Prop}
    {relatedNext : α' → β' → Prop}
    {first : Except ε α}
    {second : Except ε β}
    {firstNext : α → Except ε α'}
    {secondNext : β → Except ε β'}
    (isMatch : Matches related first second)
    (next :
      ∀ firstValue secondValue, related firstValue secondValue →
        Matches relatedNext (firstNext firstValue) (secondNext secondValue)) :
    Matches relatedNext (first >>= firstNext) (second >>= secondNext) := by
  cases isMatch with
  | ok isRelated =>
      exact next _ _ isRelated
  | error =>
      exact .error

/-- Matching outcomes are both aborts or none of them is. -/
theorem Matches.isAborted_eq
    {related : α → β → Prop}
    {first : Outcome ε α}
    {second : Outcome ε β}
    (isMatch : Matches related first second) :
    first.isAborted = second.isAborted := by
  cases isMatch with
  | ok _ =>
      rfl
  | @error failure =>
      cases failure <;> rfl

/-- Matching outcomes are refused alike. -/
theorem Matches.refusal?_eq
    {related : α → β → Prop}
    {first : Outcome ε α}
    {second : Outcome ε β}
    (isMatch : Matches related first second) :
    first.refusal? = second.refusal? := by
  cases isMatch with
  | ok _ =>
      rfl
  | @error failure =>
      cases failure <;> rfl

/-- Results that match are outcomes that match. -/
theorem Matches.ofExcept
    {related : α → β → Prop}
    {first : Except ε α}
    {second : Except ε β}
    (isMatch : Matches related first second) :
    Matches related (ofExcept first) (ofExcept second) := by
  cases isMatch with
  | ok isRelated =>
      exact .ok isRelated
  | error =>
      exact .error

end AlertReceivers.Outcome
