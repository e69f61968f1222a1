namespace AlertReceivers

/-!
# Failures

A reading can end without a value in two ways: it refuses what it was given with
an error, or a counter overflows and it gives up without an answer.
-/

/-- How an operation ends without a value. -/
inductive Failure (ε : Type) where
  | refused (error : ε)
  | aborted
  deriving Repr, DecidableEq

/-- A value, or how the operation ended without one. -/
abbrev Outcome (ε α : Type) :=
  Except (Failure ε) α

namespace Failure

/-- Give a refusal another error. -/
def map (change : ε → δ) : Failure ε → Failure δ
  | .refused error =>
      .refused (change error)
  | .aborted =>
      .aborted

end Failure

namespace Outcome

/-- End with an error. -/
def refuse (error : ε) : Outcome ε α :=
  .error (.refused error)

/-- End without an answer. -/
def abort : Outcome ε α :=
  .error .aborted

/-- Give a refusal another error and keep every other ending. -/
def mapRefusal
    (change : ε → δ) :
    Outcome ε α → Outcome δ α
  | .ok value =>
      .ok value
  | .error failure =>
      .error (failure.map change)

/-- An outcome that can only be refused. -/
def ofExcept : Except ε α → Outcome ε α
  | .ok value =>
      .ok value
  | .error error =>
      refuse error

/-- The value of an outcome. -/
def value? : Outcome ε α → Option α
  | .ok value =>
      some value
  | .error _ =>
      none

/-- The error of a refusal. -/
def refusal? : Outcome ε α → Option ε
  | .error (.refused error) =>
      some error
  | _ =>
      none

/-- Whether an outcome is an abort. -/
def isAborted : Outcome ε α → Bool
  | .error .aborted =>
      true
  | _ =>
      false

end Outcome

end AlertReceivers
