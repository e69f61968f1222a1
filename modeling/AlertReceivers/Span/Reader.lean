import AlertReceivers.Span.Basic
import AlertReceivers.Span.Unit
import AlertReceivers.Text.Blank
import AlertReceivers.Text.Quoted

namespace AlertReceivers.Span

/-!
# Reading spans

A span is written as numbers with units, one after another, after an optional
sign: `90s`, `1h 30m`, `-1.5 days`.  White space may stand before and inside the
numbers and after the units.  Errors give an offset in bytes; where a number is
missing, that of the white space in front of the character that was found.
-/

/-- The characters that units are spelled with. -/
def isUnitLetter (char : Char) : Bool :=
  char.isAlpha || char == 'µ'

/-- The value of a decimal digit. -/
def digitOf (char : Char) : Nat :=
  char.toNat - '0'.toNat

/-- Where the reading of a text stands. -/
inductive Phase where
  /-- Before a number; `isFirst` says that nothing was read yet.  The mark is the
  offset that an error gives. -/
  | beforeNumber (isFirst : Bool) (mark : Nat)
  /-- Inside the whole part of a number. -/
  | inWhole (amount : Nat)
  /-- After the point of a number.  The mark is the offset that an error gives. -/
  | inFraction (amount : Nat) (fraction : Fraction) (mark : Nat)
  /-- Inside a unit, whose letters so far are given backwards. -/
  | inUnit (amount : Nat) (fraction : Option Fraction) (letters : List Char)
  deriving Repr, DecidableEq

/-- The reading so far: the sum of the finished components, and the phase. -/
structure Progress where
  total : Elapsed
  phase : Phase
  deriving Repr, DecidableEq

/-- Append a digit to a number that a counter holds. -/
def appendDigit (value : Nat) (char : Char) : Outcome Reason Nat :=
  counted (value * 10 + digitOf char)

/-- Append a digit to a fraction. -/
def Fraction.append (fraction : Fraction) (char : Char) : Outcome Reason Fraction := do
  let denominator ← counted (fraction.denominator * 10)
  let numerator ← appendDigit fraction.numerator char
  .ok ⟨numerator, denominator⟩

/-- A fraction to which no digit was appended yet. -/
def Fraction.start : Fraction :=
  ⟨0, 1⟩

/-- Read one character at an offset. -/
def Progress.step
    (progress : Progress)
    (offset : Nat)
    (char : Char) :
    Outcome Reason Progress :=
  match progress.phase with
  | .beforeNumber _ mark =>
      if char.isDigit then
        .ok { progress with phase := .inWhole (digitOf char) }
      else if Text.isBlank char then
        .ok progress
      else
        .refuse (.numberExpected mark)
  | .inWhole amount =>
      if char.isDigit then do
        let amount ← appendDigit amount char
        .ok { progress with phase := .inWhole amount }
      else if Text.isBlank char then
        .ok progress
      else if isUnitLetter char then
        .ok { progress with phase := .inUnit amount none [char] }
      else if char = '.' then
        .ok { progress with phase := .inFraction amount .start offset }
      else
        .refuse (.invalidCharacter offset)
  | .inFraction amount fraction mark =>
      if char.isDigit then do
        let fraction ← fraction.append char
        .ok { progress with phase := .inFraction amount fraction (offset + char.utf8Size) }
      else if Text.isBlank char then
        .ok { progress with phase := .inFraction amount fraction (offset + char.utf8Size) }
      else if isUnitLetter char && fraction != .start then
        .ok { progress with phase := .inUnit amount (some fraction) [char] }
      else
        .refuse (.invalidCharacter mark)
  | .inUnit amount fraction letters =>
      if char.isDigit then do
        let total ← addComponent progress.total amount fraction letters.reverse
        .ok ⟨total, .inWhole (digitOf char)⟩
      else if Text.isBlank char then do
        let total ← addComponent progress.total amount fraction letters.reverse
        .ok ⟨total, .beforeNumber false (offset + char.utf8Size)⟩
      else if isUnitLetter char then
        .ok { progress with phase := .inUnit amount fraction (char :: letters) }
      else
        .refuse (.invalidCharacter offset)

/-- The sum of the components at the end of the text. -/
def Progress.finish (progress : Progress) : Outcome Reason Elapsed :=
  match progress.phase with
  | .beforeNumber isFirst _ =>
      if isFirst then .refuse .empty else .ok progress.total
  | .inWhole amount =>
      addComponent progress.total amount none []
  | .inFraction amount fraction mark =>
      if fraction = .start then
        .refuse (.invalidCharacter mark)
      else
        addComponent progress.total amount (some fraction) []
  | .inUnit amount fraction letters =>
      addComponent progress.total amount fraction letters.reverse

/-- Read the characters from an offset on. -/
def Progress.readFrom
    (progress : Progress)
    (offset : Nat) :
    List Char → Outcome Reason Elapsed
  | [] =>
      progress.finish
  | char :: rest => do
      let next ← progress.step offset char
      next.readFrom (offset + char.utf8Size) rest

/-- Read a time without sign. -/
def readElapsed (chars : List Char) : Outcome Reason Elapsed :=
  Progress.readFrom ⟨.zero, .beforeNumber true 0⟩ 0 chars

/-- The span of a time in a direction. -/
def ofElapsed
    (negative : Bool)
    (elapsed : Elapsed) :
    Outcome Reason Span :=
  if small : elapsed.toNanos < 9223372036854775808 then
    .ok {
      nanos := if negative then -elapsed.toNanos else elapsed.toNanos
      inRange := by
        split <;> omega
    }
  else
    .refuse .outOfRange

/-- Read a span between white space. -/
def readChars (chars : List Char) : Outcome Reason Span :=
  let (negative, body) := Decimal.splitSign (Text.trim chars)
  if body = ['0'] then
    .ok zero
  else do
    let elapsed ← readElapsed body
    ofElapsed negative elapsed

namespace Reason

/-- A reason as messages say it. -/
def message : Reason → String
  | .empty =>
      "value was empty"
  | .numberExpected offset =>
      "expected number at " ++ toString offset
  | .invalidCharacter offset =>
      "invalid character at " ++ toString offset
  | .unitNeeded amount =>
      "time unit needed, for example " ++ toString amount ++ "sec or " ++ toString amount ++ "ms"
  | .unknownUnit unit =>
      "unknown time unit " ++ Text.quoted unit ++
        ", supported units: ns, us/µs, ms, sec, min, hours, days, weeks, months, years " ++
        "(and few variations)"
  | .tooLargeOrFine =>
      "number is too large or cannot be represented without a lack of precision " ++
        "(values below 1ns are not supported)"
  | .outOfRange =>
      "duration out of range"

end Reason

/-- A text that is no span, and why. -/
structure Refusal where
  input : String
  reason : Reason
  deriving Repr, DecidableEq

/-- The message of a text that is no span. -/
def Refusal.message (refusal : Refusal) : String :=
  "invalid duration \"" ++ refusal.input ++ "\": " ++ refusal.reason.message

/-- Read a span. -/
def read (input : String) : Outcome Refusal Span :=
  (readChars input.toList).mapRefusal fun reason => ⟨input, reason⟩

end AlertReceivers.Span
