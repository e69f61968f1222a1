import AlertReceivers.Proofs.Decimal.Digits
import AlertReceivers.Proofs.Span.Component
import AlertReceivers.Span.Reader
import Mathlib.Algebra.Group.Nat.Defs

namespace AlertReceivers.Span

/-!
# Written components

A component of a text is a number with a unit: digits, perhaps a point and the digits of
a fraction, and the letters of the unit.  White space may stand among the digits and
after them.  Components are read one after another, and each is added before the next
number begins.
-/

/-- Each of the characters is a digit, or white space that does not count. -/
def AreDigits (chars : List Char) : Prop :=
  ∀ char ∈ chars, char.isDigit = true ∨ Text.isBlank char = true

/-- The characters are white space. -/
def AreBlank (chars : List Char) : Prop :=
  ∀ char ∈ chars, Text.isBlank char = true

/-- The characters begin with a digit. -/
def StartsNumber (chars : List Char) : Prop :=
  ∃ digit others, chars = digit :: others ∧ digit.isDigit = true

instance : DecidablePred AreDigits :=
  List.decidableBAll fun (char : Char) => char.isDigit = true ∨ Text.isBlank char = true

instance : DecidablePred AreBlank :=
  List.decidableBAll fun (char : Char) => Text.isBlank char = true

/-- The number of bytes of characters. -/
def width : List Char → Nat
  | [] =>
      0
  | char :: rest =>
      char.utf8Size + width rest

/-- What further digits make of a number. -/
def appendDigits (amount : Nat) (chars : List Char) : Nat :=
  Nat.ofDigitChars 10 (chars.filter Char.isDigit) amount

/-- What further digits make of a fraction. -/
def Fraction.extend (fraction : Fraction) (chars : List Char) : Fraction :=
  ⟨appendDigits fraction.numerator chars,
    fraction.denominator * 10 ^ chars.countP Char.isDigit⟩

/-- A number with a unit as it is written.  The letters need not name a unit. -/
structure Component where
  digit : Char
  digits : List Char
  fraction? : Option (List Char)
  letters : List Char
  isDigit : digit.isDigit = true
  areDigits : AreDigits digits
  areFractionDigits : ∀ fraction ∈ fraction?, AreDigits fraction
  someFractionDigit : ∀ fraction ∈ fraction?, 0 < fraction.countP Char.isDigit
  someLetter : letters ≠ []
  areLetters : ∀ letter ∈ letters, isUnitLetter letter = true

namespace Component

/-- The point and the digits of a fraction, if there is one. -/
def fractionChars : Option (List Char) → List Char
  | none =>
      []
  | some digits =>
      '.' :: digits

/-- The characters of a component. -/
def chars (component : Component) : List Char :=
  component.digit ::
    (component.digits ++ (fractionChars component.fraction? ++ component.letters))

/-- The whole number of a component. -/
def amount (component : Component) : Nat :=
  appendDigits (digitOf component.digit) component.digits

/-- The fraction of a component, if it has one. -/
def fraction (component : Component) : Option Fraction :=
  component.fraction?.map Fraction.start.extend

/-- Counters hold the numbers of a component. -/
structure Fits (component : Component) : Prop where
  amount :
    component.amount ≤ counterMax
  fraction :
    ∀ fraction ∈ component.fraction, fraction.denominator ≤ counterMax

end Component

@[simp] theorem width_nil : width [] = 0 :=
  rfl

@[simp] theorem width_cons (char : Char) (chars : List Char) :
    width (char :: chars) = char.utf8Size + width chars :=
  rfl

section Characters

variable {char : Char}

/-- Digits are not blank. -/
theorem isBlank_of_isDigit
    (isDigit : char.isDigit = true) :
    Text.isBlank char = false := by
  have bounds := Decimal.toNat_of_isDigit isDigit
  have outside : ∀ range ∈ Text.blankRanges, range.2 < 48 ∨ 57 < range.1 := by
    decide
  rw [Text.isBlank, Text.inRanges, List.any_eq_false]
  intro range member
  have apart := outside range member
  simp only [Bool.and_eq_true, decide_eq_true_eq, not_and]
  omega

/-- Blank characters are no digits. -/
theorem not_digit_of_isBlank
    (isBlank : Text.isBlank char = true) :
    char.isDigit = false := by
  rw [Bool.eq_false_iff]
  intro isDigit
  rw [isBlank_of_isDigit isDigit] at isBlank
  cases isBlank

/-- The letters of units are neither digits nor white space. -/
theorem not_digit_of_isUnitLetter
    (isLetter : isUnitLetter char = true) :
    char.isDigit = false ∧ Text.isBlank char = false := by
  have bounds :
      (65 ≤ char.toNat ∧ char.toNat ≤ 90) ∨
        (97 ≤ char.toNat ∧ char.toNat ≤ 122) ∨
        char.toNat = 181 := by
    unfold isUnitLetter Char.isAlpha Char.isUpper Char.isLower at isLetter
    simp only [Bool.or_eq_true, Bool.and_eq_true, decide_eq_true_eq, beq_iff_eq,
      UInt32.le_iff_toNat_le] at isLetter
    rcases isLetter with (isUpper | isLower) | rfl
    · exact .inl isUpper
    · exact .inr (.inl isLower)
    · exact .inr (.inr rfl)
  constructor
  · rw [Bool.eq_false_iff]
    intro isDigit
    have digitBounds := Decimal.toNat_of_isDigit isDigit
    omega
  · have outside :
        ∀ range ∈ Text.blankRanges,
          range.2 < 65 ∨ (122 < range.1 ∧ range.2 < 181) ∨ 181 < range.1 := by
      decide
    rw [Text.isBlank, Text.inRanges, List.any_eq_false]
    intro range member
    have apart := outside range member
    simp only [Bool.and_eq_true, decide_eq_true_eq, not_and]
    omega

end Characters

section Digits

variable {char : Char}
variable {amount : Nat}
variable {chars : List Char}

/-- A digit stands for a number below ten. -/
theorem digitOf_lt_of_isDigit
    (isDigit : char.isDigit = true) :
    digitOf char < 10 := by
  have bounds := Decimal.toNat_of_isDigit isDigit
  have isZero : '0'.toNat = 48 := rfl
  rw [digitOf, isZero]
  omega

/-- A counter holds every digit. -/
theorem digitOf_le_counterMax
    (isDigit : char.isDigit = true) :
    digitOf char ≤ counterMax := by
  have isSmall := digitOf_lt_of_isDigit isDigit
  unfold counterMax
  omega

theorem appendDigits_cons_of_isDigit
    (isDigit : char.isDigit = true) :
    appendDigits amount (char :: chars) =
      appendDigits (amount * 10 + digitOf char) chars := by
  rw [appendDigits, List.filter_cons_of_pos isDigit, Nat.ofDigitChars_cons,
    Nat.mul_comm 10]
  rfl

theorem appendDigits_cons_of_isBlank
    (isBlank : Text.isBlank char = true) :
    appendDigits amount (char :: chars) = appendDigits amount chars := by
  have notDigit : ¬ char.isDigit = true := by
    simp [not_digit_of_isBlank isBlank]
  rw [appendDigits, List.filter_cons_of_neg notDigit]
  rfl

/-- The digits of two texts are appended one after the other. -/
theorem appendDigits_append
    (amount : Nat)
    (chars others : List Char) :
    appendDigits amount (chars ++ others) = appendDigits (appendDigits amount chars) others := by
  rw [appendDigits, List.filter_append, Nat.ofDigitChars_append]
  rfl

/-- A digit at the end is the last one of the amount. -/
theorem appendDigits_snoc_of_isDigit
    (isDigit : char.isDigit = true) :
    appendDigits amount (chars ++ [char]) = appendDigits amount chars * 10 + digitOf char := by
  rw [appendDigits_append, appendDigits_cons_of_isDigit isDigit]
  rfl

/-- A blank at the end adds no digit. -/
theorem appendDigits_snoc_of_isBlank
    (isBlank : Text.isBlank char = true) :
    appendDigits amount (chars ++ [char]) = appendDigits amount chars := by
  rw [appendDigits_append, appendDigits_cons_of_isBlank isBlank]
  rfl

/-- Further digits make no amount smaller. -/
theorem le_appendDigits (amount : Nat) (chars : List Char) :
    amount ≤ appendDigits amount chars := by
  rw [appendDigits, Nat.ofDigitChars_eq_ofDigitChars_zero]
  have scaled : amount ≤ 10 ^ (chars.filter Char.isDigit).length * amount :=
    Nat.le_mul_of_pos_left amount (Nat.pow_pos (by decide))
  omega

/-- Digits begin with a digit or with a blank. -/
theorem AreDigits.cons_cases
    (areDigits : AreDigits (char :: chars)) :
    (char.isDigit = true ∨ char.isDigit = false ∧ Text.isBlank char = true) ∧
      AreDigits chars := by
  obtain ⟨isDigit, others⟩ := List.forall_mem_cons.mp areDigits
  refine ⟨?_, others⟩
  cases isDigitChar : char.isDigit with
  | true =>
      exact .inl rfl
  | false =>
      exact .inr ⟨rfl, by simpa [isDigitChar] using isDigit⟩

end Digits

namespace Fraction

variable {char : Char}
variable {fraction : Fraction}

theorem extend_cons_of_isDigit
    (isDigit : char.isDigit = true)
    (chars : List Char) :
    fraction.extend (char :: chars) =
      extend ⟨fraction.numerator * 10 + digitOf char, fraction.denominator * 10⟩ chars := by
  rw [extend, appendDigits_cons_of_isDigit isDigit, List.countP_cons_of_pos isDigit,
    Nat.pow_succ, Nat.mul_comm (10 ^ _) 10, ← Nat.mul_assoc]
  rfl

theorem extend_cons_of_isBlank
    (isBlank : Text.isBlank char = true)
    (chars : List Char) :
    fraction.extend (char :: chars) = fraction.extend chars := by
  have notDigit : ¬ char.isDigit = true := by
    simp [not_digit_of_isBlank isBlank]
  rw [extend, appendDigits_cons_of_isBlank isBlank, List.countP_cons_of_neg notDigit]
  rfl

/-- A fraction is extended by two texts one after the other. -/
theorem extend_append
    (fraction : Fraction)
    (chars others : List Char) :
    fraction.extend (chars ++ others) = (fraction.extend chars).extend others := by
  rw [extend, appendDigits_append, List.countP_append, Nat.pow_add, ← Nat.mul_assoc]
  rfl

/-- A digit at the end is the last one of the fraction. -/
theorem extend_snoc_of_isDigit
    (isDigit : char.isDigit = true)
    (chars : List Char) :
    fraction.extend (chars ++ [char]) =
      ⟨(fraction.extend chars).numerator * 10 + digitOf char,
        (fraction.extend chars).denominator * 10⟩ := by
  rw [extend_append, extend_cons_of_isDigit isDigit]
  simp [extend, appendDigits]

/-- A blank at the end does not extend the fraction. -/
theorem extend_snoc_of_isBlank
    (isBlank : Text.isBlank char = true)
    (chars : List Char) :
    fraction.extend (chars ++ [char]) = fraction.extend chars := by
  rw [extend_append, extend_cons_of_isBlank isBlank]
  simp [extend, appendDigits]

/-- A fraction is at its start exactly as long as it has no digit. -/
theorem extend_eq_start_iff
    {chars : List Char} :
    start.extend chars = start ↔ chars.countP Char.isDigit = 0 := by
  constructor
  · intro same
    have isOne : 1 * 10 ^ chars.countP Char.isDigit = 1 := congrArg denominator same
    cases count : chars.countP Char.isDigit with
    | zero =>
        rfl
    | succ less =>
        rw [count, Nat.pow_succ] at isOne
        omega
  · intro noDigit
    have noDigits : chars.filter Char.isDigit = [] := by
      simpa [List.countP_eq_length_filter] using noDigit
    simp [extend, appendDigits, noDigits, noDigit, start]

/-- A digit is appended to a fraction below one exactly if a counter holds the new
denominator. -/
theorem append_eq_ok_iff
    {next : Fraction}
    (belowOne : fraction.numerator < fraction.denominator)
    (isDigit : char.isDigit = true) :
    fraction.append char = .ok next ↔
      fraction.denominator * 10 ≤ counterMax ∧
        ⟨fraction.numerator * 10 + digitOf char, fraction.denominator * 10⟩ = next := by
  have isSmall := digitOf_lt_of_isDigit isDigit
  rw [append]
  by_cases fits : fraction.denominator * 10 ≤ counterMax
  · have numeratorFits : fraction.numerator * 10 + digitOf char ≤ counterMax := by
      omega
    simp [counted_eq_ok_iff.mpr ⟨fits, rfl⟩, appendDigit,
      counted_eq_ok_iff.mpr ⟨numeratorFits, rfl⟩, fits]
  · rw [counted_eq_refuse (by omega)]
    simp [Outcome.refuse, fits]

/-- Appending digits to a fraction below one leaves it below one. -/
theorem extend_belowOne
    (belowOne : fraction.numerator < fraction.denominator)
    {chars : List Char}
    (areDigits : AreDigits chars) :
    (fraction.extend chars).numerator < (fraction.extend chars).denominator := by
  induction chars generalizing fraction with
  | nil =>
      simpa [extend, appendDigits] using belowOne
  | cons char others inductionHypothesis =>
      obtain ⟨isDigit | ⟨_, isBlank⟩, areOthers⟩ := areDigits.cons_cases
      · have isSmall := digitOf_lt_of_isDigit isDigit
        rw [extend_cons_of_isDigit isDigit]
        exact inductionHypothesis (by simp only; omega) areOthers
      · rw [extend_cons_of_isBlank isBlank]
        exact inductionHypothesis belowOne areOthers

end Fraction

section Reading

variable {amount : Nat}

/-- Digits are read to the number that they make, as long as a counter holds it. -/
theorem readFrom_digits
    {digits : List Char}
    (total : Elapsed)
    (areDigits : AreDigits digits)
    (fits : amount ≤ counterMax)
    (offset : Nat)
    (rest : List Char) :
    Progress.readFrom ⟨total, .inWhole amount⟩ offset (digits ++ rest) =
      counted (appendDigits amount digits) >>= fun number =>
        Progress.readFrom ⟨total, .inWhole number⟩ (offset + width digits) rest := by
  induction digits generalizing amount offset with
  | nil =>
      rw [appendDigits, List.filter_nil, Nat.ofDigitChars_nil,
        counted_eq_ok_iff.mpr ⟨fits, rfl⟩]
      rfl
  | cons char others inductionHypothesis =>
      obtain ⟨isDigit | ⟨notDigit, isBlank⟩, areOthers⟩ := areDigits.cons_cases
      · rw [appendDigits_cons_of_isDigit isDigit, List.cons_append, Progress.readFrom,
          width_cons, ← Nat.add_assoc]
        simp only [Progress.step, isDigit, if_true, appendDigit]
        by_cases stepFits : amount * 10 + digitOf char ≤ counterMax
        · rw [counted_eq_ok_iff.mpr ⟨stepFits, rfl⟩, Outcome.ok_bind]
          exact inductionHypothesis areOthers stepFits _
        · have exceeds := le_appendDigits (amount * 10 + digitOf char) others
          rw [counted_eq_refuse (by omega), counted_eq_refuse (by omega)]
          rfl
      · rw [appendDigits_cons_of_isBlank isBlank, List.cons_append, Progress.readFrom,
          width_cons, ← Nat.add_assoc]
        simp only [Progress.step, notDigit, isBlank, if_true, Bool.false_eq_true,
          if_false, Outcome.ok_bind]
        exact inductionHypothesis areOthers fits _

/-- The digits of a fraction are read as long as a counter holds the denominator. -/
theorem readFrom_fraction
    {digits : List Char}
    {fraction : Fraction}
    (total : Elapsed)
    (areDigits : AreDigits digits)
    (belowOne : fraction.numerator < fraction.denominator)
    (fits : (fraction.extend digits).denominator ≤ counterMax)
    (mark offset : Nat)
    (rest : List Char) :
    ∃ later,
      Progress.readFrom ⟨total, .inFraction amount fraction mark⟩ offset (digits ++ rest) =
        Progress.readFrom ⟨total, .inFraction amount (fraction.extend digits) later⟩
          (offset + width digits) rest := by
  induction digits generalizing fraction mark offset with
  | nil =>
      refine ⟨mark, ?_⟩
      simp [Fraction.extend, appendDigits]
  | cons char others inductionHypothesis =>
      obtain ⟨isDigit | ⟨notDigit, isBlank⟩, areOthers⟩ := areDigits.cons_cases
      · rw [Fraction.extend_cons_of_isDigit isDigit] at fits ⊢
        have isSmall := digitOf_lt_of_isDigit isDigit
        have stepFits : fraction.denominator * 10 ≤ counterMax :=
          Nat.le_trans (Nat.le_mul_of_pos_right _ (Nat.pow_pos (by decide))) fits
        have appends := (Fraction.append_eq_ok_iff belowOne isDigit).mpr ⟨stepFits, rfl⟩
        rw [List.cons_append, Progress.readFrom, width_cons, ← Nat.add_assoc]
        simp only [Progress.step, isDigit, if_true, appends, Outcome.ok_bind]
        exact inductionHypothesis areOthers (by simp only; omega) fits _ _
      · rw [Fraction.extend_cons_of_isBlank isBlank] at fits ⊢
        rw [List.cons_append, Progress.readFrom, width_cons, ← Nat.add_assoc]
        simp only [Progress.step, notDigit, isBlank, if_true, Bool.false_eq_true,
          if_false, Outcome.ok_bind]
        exact inductionHypothesis areOthers belowOne fits _ _

/-- Letters are kept until the unit ends. -/
theorem readFrom_letters
    {letters : List Char}
    (total : Elapsed)
    (fraction : Option Fraction)
    (areLetters : ∀ letter ∈ letters, isUnitLetter letter = true)
    (seen : List Char)
    (offset : Nat)
    (rest : List Char) :
    Progress.readFrom ⟨total, .inUnit amount fraction seen⟩ offset (letters ++ rest) =
      Progress.readFrom ⟨total, .inUnit amount fraction (letters.reverse ++ seen)⟩
        (offset + width letters) rest := by
  induction letters generalizing seen offset with
  | nil =>
      rfl
  | cons letter others inductionHypothesis =>
      obtain ⟨isLetter, areOthers⟩ := List.forall_mem_cons.mp areLetters
      obtain ⟨notDigit, notBlank⟩ := not_digit_of_isUnitLetter isLetter
      rw [List.cons_append, Progress.readFrom, width_cons, ← Nat.add_assoc,
        List.reverse_cons, List.append_assoc, List.singleton_append]
      simp only [Progress.step, isLetter, notDigit, notBlank, if_true,
        Bool.false_eq_true, if_false, Outcome.ok_bind]
      exact inductionHypothesis areOthers (letter :: seen) _

/-- The letters after a number are read as its unit. -/
theorem readFrom_unit
    {letters : List Char}
    {phase : Phase}
    {fraction : Option Fraction}
    (total : Elapsed)
    (begins :
      ∀ offset letter, isUnitLetter letter = true →
        Progress.step ⟨total, phase⟩ offset letter =
          .ok ⟨total, .inUnit amount fraction [letter]⟩)
    (someLetter : letters ≠ [])
    (areLetters : ∀ letter ∈ letters, isUnitLetter letter = true)
    (offset : Nat)
    (rest : List Char) :
    Progress.readFrom ⟨total, phase⟩ offset (letters ++ rest) =
      Progress.readFrom ⟨total, .inUnit amount fraction letters.reverse⟩
        (offset + width letters) rest := by
  obtain ⟨letter, others, rfl⟩ := List.exists_cons_of_ne_nil someLetter
  obtain ⟨isLetter, areOthers⟩ := List.forall_mem_cons.mp areLetters
  rw [List.cons_append, Progress.readFrom, begins offset letter isLetter, Outcome.ok_bind,
    readFrom_letters total fraction areOthers, List.reverse_cons, width_cons, Nat.add_assoc]

/-- White space in front of a number is passed over. -/
theorem readFrom_blanks
    {gap : List Char}
    (total : Elapsed)
    (isFirst : Bool)
    (mark : Nat)
    (areBlank : AreBlank gap)
    (offset : Nat)
    (rest : List Char) :
    Progress.readFrom ⟨total, .beforeNumber isFirst mark⟩ offset (gap ++ rest) =
      Progress.readFrom ⟨total, .beforeNumber isFirst mark⟩ (offset + width gap) rest := by
  induction gap generalizing offset with
  | nil =>
      rfl
  | cons blank others inductionHypothesis =>
      obtain ⟨isBlank, areOthers⟩ := List.forall_mem_cons.mp areBlank
      rw [List.cons_append, Progress.readFrom, width_cons, ← Nat.add_assoc]
      simp only [Progress.step, not_digit_of_isBlank isBlank, isBlank, if_true,
        Bool.false_eq_true, if_false, Outcome.ok_bind]
      exact inductionHypothesis areOthers _

/-- A component is added at the end of the text. -/
theorem readFrom_end
    (total : Elapsed)
    (fraction : Option Fraction)
    (letters : List Char)
    (offset : Nat) :
    Progress.readFrom ⟨total, .inUnit amount fraction letters⟩ offset [] =
      addComponent total amount fraction letters.reverse :=
  rfl

/-- A component is added before the next number begins. -/
theorem readFrom_next
    {gap letters rest : List Char}
    {fraction : Option Fraction}
    (total : Elapsed)
    (areBlank : AreBlank gap)
    (starts : StartsNumber rest)
    (offset : Nat) :
    ∃ mark,
      Progress.readFrom ⟨total, .inUnit amount fraction letters⟩ offset (gap ++ rest) =
        addComponent total amount fraction letters.reverse >>= fun sum =>
          Progress.readFrom ⟨sum, .beforeNumber false mark⟩ (offset + width gap) rest := by
  cases gap with
  | nil =>
      obtain ⟨digit, others, rfl, isDigit⟩ := starts
      refine ⟨offset, ?_⟩
      simp only [List.nil_append, Progress.readFrom, Progress.step, isDigit, if_true,
        bind_assoc, Outcome.ok_bind]
      rfl
  | cons blank others =>
      obtain ⟨isBlank, areOthers⟩ := List.forall_mem_cons.mp areBlank
      refine ⟨offset + blank.utf8Size, ?_⟩
      rw [List.cons_append, Progress.readFrom, width_cons, ← Nat.add_assoc]
      simp only [Progress.step, not_digit_of_isBlank isBlank, isBlank, if_true,
        Bool.false_eq_true, if_false, bind_assoc, Outcome.ok_bind,
        readFrom_blanks _ _ _ areOthers]

namespace Component

variable {component : Component}

/-- The characters of a component start a number. -/
theorem startsNumber (component : Component) (rest : List Char) :
    StartsNumber (component.chars ++ rest) :=
  ⟨_, _, rfl, component.isDigit⟩

/-- The digits of a component are read if a counter holds their number. -/
theorem readFrom_amount
    (component : Component)
    (total : Elapsed)
    (isFirst : Bool)
    (mark offset : Nat)
    (rest : List Char) :
    Progress.readFrom ⟨total, .beforeNumber isFirst mark⟩ offset (component.chars ++ rest) =
      counted component.amount >>= fun amount =>
        Progress.readFrom ⟨total, .inWhole amount⟩
          (offset + width (component.digit :: component.digits))
          (fractionChars component.fraction? ++ (component.letters ++ rest)) := by
  have isDigit := component.isDigit
  rw [chars, List.cons_append, Progress.readFrom, width_cons, ← Nat.add_assoc]
  simp only [Progress.step, isDigit, if_true, Outcome.ok_bind, List.append_assoc]
  exact readFrom_digits total component.areDigits (digitOf_le_counterMax isDigit) _ _

/-- A component without a fraction is read if a counter holds its number. -/
theorem readFrom_whole
    (isWhole : component.fraction? = none)
    (total : Elapsed)
    (isFirst : Bool)
    (mark offset : Nat)
    (rest : List Char) :
    ∃ later,
      Progress.readFrom ⟨total, .beforeNumber isFirst mark⟩ offset (component.chars ++ rest) =
        counted component.amount >>= fun amount =>
          Progress.readFrom ⟨total, .inUnit amount none component.letters.reverse⟩ later
            rest := by
  have begins : ∀ amount offset letter, isUnitLetter letter = true →
      Progress.step ⟨total, .inWhole amount⟩ offset letter =
        .ok ⟨total, .inUnit amount none [letter]⟩ := by
    intro amount offset letter isLetter
    obtain ⟨notDigit, notBlank⟩ := not_digit_of_isUnitLetter isLetter
    simp [Progress.step, notDigit, notBlank, isLetter]
  refine ⟨offset + width (component.digit :: component.digits) + width component.letters, ?_⟩
  rw [readFrom_amount, isWhole]
  congr 1
  funext amount
  exact readFrom_unit total (begins amount) component.someLetter component.areLetters _ rest

/-- A component is read if counters hold its numbers. -/
theorem readFrom_chars
    (fits : component.Fits)
    (total : Elapsed)
    (isFirst : Bool)
    (mark offset : Nat)
    (rest : List Char) :
    ∃ later,
      Progress.readFrom ⟨total, .beforeNumber isFirst mark⟩ offset (component.chars ++ rest) =
        Progress.readFrom
          ⟨total, .inUnit component.amount component.fraction component.letters.reverse⟩ later
          rest := by
  have isAmount := counted_eq_ok_iff.mpr ⟨fits.amount, rfl⟩
  cases isFraction : component.fraction? with
  | none =>
      obtain ⟨later, reads⟩ := readFrom_whole isFraction total isFirst mark offset rest
      refine ⟨later, ?_⟩
      rw [reads, isAmount, Outcome.ok_bind, fraction, isFraction, Option.map_none]
  | some digits =>
      have areDigits := component.areFractionDigits digits isFraction
      have someDigit := component.someFractionDigit digits isFraction
      have named : component.fraction = some (Fraction.start.extend digits) := by
        rw [fraction, isFraction, Option.map_some]
      have begins : ∀ mark offset letter, isUnitLetter letter = true →
          Progress.step
              ⟨total, .inFraction component.amount (Fraction.start.extend digits) mark⟩
              offset letter =
            .ok ⟨total, .inUnit component.amount component.fraction [letter]⟩ := by
        intro mark offset letter isLetter
        obtain ⟨notDigit, notBlank⟩ := not_digit_of_isUnitLetter isLetter
        simp [Progress.step, notDigit, notBlank, isLetter, named,
          Fraction.extend_eq_start_iff, Nat.ne_of_gt someDigit]
      have point : ∀ offset,
          Progress.step ⟨total, .inWhole component.amount⟩ offset '.' =
            .ok ⟨total, .inFraction component.amount .start offset⟩ :=
        fun _ => rfl
      rw [readFrom_amount, isAmount, Outcome.ok_bind, isFraction, fractionChars,
        List.cons_append, Progress.readFrom, point, Outcome.ok_bind]
      obtain ⟨last, reads⟩ :=
        readFrom_fraction total areDigits (by decide) (fits.fraction _ named) _ _
          (component.letters ++ rest)
      rw [reads, readFrom_unit total (begins last) component.someLetter
        component.areLetters]
      exact ⟨_, rfl⟩

end Component

end Reading

end AlertReceivers.Span
