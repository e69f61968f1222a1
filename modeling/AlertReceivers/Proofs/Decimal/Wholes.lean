import AlertReceivers.Decimal.Binary64
import AlertReceivers.Proofs.Decimal.Digits
import Mathlib.Data.List.Induction
import Mathlib.Data.List.TakeWhile
import Mathlib.Tactic.Ring

namespace AlertReceivers.Decimal

/-!
# Whole numbers in digits

Digits without an idle zero in front of them are the digits of their value.  From half
a step behind the greatest finite double on, this value is too large for a double.
-/

/-- One or more digits, the first of which is zero only if it stands alone. -/
structure IsNumeral (chars : List Char) : Prop where
  nonempty :
    chars ≠ []
  areDigits :
    ∀ char ∈ chars, char.isDigit = true
  noIdleZero :
    chars.head? = some '0' → chars = ['0']

/-- Whether characters are a numeral can be computed. -/
theorem isNumeral_iff
    {chars : List Char} :
    IsNumeral chars ↔
      chars ≠ [] ∧ chars.all Char.isDigit = true ∧ (chars.head? = some '0' → chars = ['0']) where
  mp isNumeral :=
    ⟨isNumeral.nonempty, List.all_eq_true.mpr isNumeral.areDigits, isNumeral.noIdleZero⟩
  mpr isNumeral :=
    ⟨isNumeral.1, List.all_eq_true.mp isNumeral.2.1, isNumeral.2.2⟩

instance : DecidablePred IsNumeral :=
  fun _ => decidable_of_iff _ isNumeral_iff.symm

/-- The number that digits write. -/
def wholeValue (chars : List Char) : Nat :=
  Nat.ofDigitChars 10 chars 0

section Digits

variable {chars : List Char}

theorem readFrom?_of_digits
    (areDigits : ∀ char ∈ chars, char.isDigit = true)
    (value : Nat) :
    readFrom? 10 value chars = some (Nat.ofDigitChars 10 chars value) := by
  induction chars generalizing value with
  | nil =>
      rfl
  | cons char rest inductionHypothesis =>
      obtain ⟨headDigit, restDigits⟩ := List.forall_mem_cons.mp areDigits
      have bounds := toNat_of_isDigit headDigit
      have isSmall : char.toNat - 48 < 10 := by omega
      rw [readFrom?, digitValue?_of_isDigit headDigit]
      simp only [isSmall, if_true, inductionHypothesis restDigits]
      rw [Nat.ofDigitChars_cons, Nat.mul_comm]
      rfl

/-- Digits are read as the number that they write. -/
theorem read?_of_digits
    (nonempty : chars ≠ [])
    (areDigits : ∀ char ∈ chars, char.isDigit = true) :
    read? 10 chars = some (wholeValue chars) := by
  rw [read?, if_neg (by simpa using nonempty), readFrom?_of_digits areDigits]
  rfl

/-- The digit of the value of a digit is this digit. -/
theorem digitChar_of_isDigit
    {char : Char}
    (isDigit : char.isDigit = true) :
    Nat.digitChar (char.toNat - 48) = char := by
  have everyCode : ∀ code < 128,
      (Char.ofNat code).isDigit = true → Nat.digitChar (code - 48) = Char.ofNat code := by
    decide +kernel
  have bounds := toNat_of_isDigit isDigit
  have isCode := everyCode char.toNat (by omega)
  rw [Char.ofNat_toNat] at isCode
  exact isCode isDigit

theorem wholeValue_concat
    {char : Char} :
    wholeValue (chars ++ [char]) = 10 * wholeValue chars + (char.toNat - 48) := by
  rw [wholeValue, Nat.ofDigitChars_append]
  rfl

/-- Digits without an idle zero are the digits of their value. -/
theorem IsNumeral.digits_eq (isNumeral : IsNumeral chars) :
    digits (wholeValue chars) = chars := by
  obtain ⟨nonempty, areDigits, noIdleZero⟩ := isNumeral
  induction chars using List.reverseRecOn with
  | nil =>
      exact (nonempty rfl).elim
  | append_singleton front last inductionHypothesis =>
      obtain ⟨frontDigits, lastDigit⟩ := List.forall_mem_append.mp areDigits
      have isDigit := lastDigit last List.mem_cons_self
      have bounds := toNat_of_isDigit isDigit
      have isLast := digitChar_of_isDigit isDigit
      rw [wholeValue_concat]
      by_cases alone : front = []
      · subst alone
        rw [digits, Nat.toDigits_of_lt_base (by simp [wholeValue]; omega)]
        simpa [wholeValue] using isLast
      · have sameHead : (front ++ [last]).head? = front.head? := by
          rw [List.head?_append, List.head?_eq_some_head alone, Option.some_or]
        have notZero : front.head? ≠ some '0' := by
          intro isZero
          have single := congrArg List.length (noIdleZero (sameHead.trans isZero))
          have someFront := List.length_pos_iff.mpr alone
          rw [List.length_append, List.length_singleton, List.length_singleton] at single
          omega
        have isFront := inductionHypothesis alone frontDigits fun isZero =>
          (notZero isZero).elim
        have positive : 0 < wholeValue front := by
          refine Nat.pos_of_ne_zero fun isZero => ?_
          rw [isZero] at isFront
          exact notZero (by rw [← isFront]; rfl)
        rw [digits] at isFront ⊢
        rw [← Nat.toDigits_append_toDigits (by decide) positive (by omega), isFront,
          Nat.toDigits_of_lt_base (by omega), isLast]

/-- The digits of a number are digits. -/
theorem isDigit_of_mem_digits
    {number : Nat}
    {char : Char}
    (member : char ∈ digits number) :
    char.isDigit = true :=
  Nat.isDigit_of_mem_toDigits (by decide) (by decide) member

/-- The digits of a number write this number. -/
theorem wholeValue_digits (number : Nat) : wholeValue (digits number) = number :=
  Nat.ofDigitChars_ten_toDigits

/-- Every number has digits. -/
theorem digits_ne_nil (number : Nat) : digits number ≠ [] :=
  Nat.toDigits_ne_nil

/-- Only zero has a zero as its only digit. -/
theorem digits_eq_zero_iff
    {number : Nat} :
    digits number = ['0'] ↔ number = 0 := by
  constructor
  · intro isZero
    have value := wholeValue_digits number
    rw [isZero] at value
    exact value.symm
  · rintro rfl
    rfl

/-- The digits of a number have no idle zero. -/
theorem isNumeral_digits (number : Nat) : IsNumeral (digits number) where
  nonempty :=
    digits_ne_nil number
  areDigits :=
    fun _ member => isDigit_of_mem_digits member
  noIdleZero := by
    induction number using Nat.strongRecOn with
    | ind number inductionHypothesis =>
        intro startsWithZero
        by_cases isDigit : number < 10
        · rw [digits, Nat.toDigits_of_lt_base isDigit] at startsWithZero ⊢
          rw [Option.some.inj startsWithZero]
        · have isAppend : digits (number / 10) ++ digits (number % 10) = digits number := by
            rw [digits, digits, digits, Nat.toDigits_append_toDigits (by decide) (by omega)
              (by omega), Nat.div_add_mod]
          have sameHead : (digits number).head? = (digits (number / 10)).head? := by
            rw [← isAppend, List.head?_append, List.head?_eq_some_head (digits_ne_nil _),
              Option.some_or]
          have isZero := inductionHypothesis (number / 10) (by omega)
            (sameHead.symm.trans startsWithZero)
          have tooSmall := digits_eq_zero_iff.mp isZero
          omega

end Digits

namespace Binary64

/-- The least number that is too large for a double: half a step behind the greatest
finite one. -/
def leastOverflow : Nat :=
  2 ^ 1024 - 2 ^ 970

/-- A quotient is rounded up to an even number from half a step below it on. -/
theorem roundDiv_eq_iff
    {number half top : Nat}
    (positive : 0 < half)
    (even : top % 2 = 0)
    (below : number < top * (2 * half)) :
    roundDiv number (2 * half) = top ↔ (2 * top - 1) * half ≤ number := by
  have notZero : 0 < top := Nat.pos_of_ne_zero fun isZero => by simp [isZero] at below
  have smallRest : number % (2 * half) < 2 * half := Nat.mod_lt _ (by omega)
  have parts := Nat.div_add_mod number (2 * half)
  have belowTop : number / (2 * half) < top := Nat.div_lt_of_lt_mul (by rwa [Nat.mul_comm])
  unfold roundDiv
  dsimp only
  generalize number / (2 * half) = quotient at parts belowTop ⊢
  generalize number % (2 * half) = rest at parts smallRest ⊢
  obtain ⟨gap, rfl⟩ : ∃ gap, top = quotient + 1 + gap := ⟨top - quotient - 1, by omega⟩
  have shape : (2 * (quotient + 1 + gap) - 1) * half =
      2 * half * quotient + half + 2 * (gap * half) := by
    have odd : 2 * (quotient + 1 + gap) - 1 = 2 * quotient + 1 + 2 * gap := by omega
    rw [odd]
    ring
  rw [shape, ← parts]
  rcases Nat.eq_zero_or_pos gap with rfl | hasGap
  · split_ifs <;> omega
  · have wide : half ≤ gap * half := Nat.le_mul_of_pos_left half hasGap
    split_ifs <;> omega

section Wholes

variable {number : Nat}
variable (large : 2 ^ 52 ≤ number)
include large

theorem exponentOf_whole : exponentOf number 1 = (number.log2 : Int) - 52 := by
  have notZero : number ≠ 0 := by omega
  have atLeast : 52 ≤ number.log2 := (Nat.le_log2 notZero).mpr large
  have logOne : ((Nat.log2 1 : Nat) : Int) = 0 := by decide
  have notNegative : ¬ (number.log2 : Int) - 52 < 0 := by omega
  have isPower : ((number.log2 : Int) - 52).natAbs = number.log2 - 52 := by omega
  have wide : ¬ number / 2 ^ (number.log2 - 52) < 2 ^ 52 := by
    rw [Nat.not_lt, Nat.le_div_iff_mul_le (Nat.two_pow_pos _), ← Nat.pow_add,
      Nat.add_sub_cancel' atLeast]
    exact Nat.log2_self_le notZero
  unfold exponentOf divPowTwo
  dsimp only
  rw [logOne, Int.sub_zero, if_neg notNegative, isPower]
  simp only [Nat.one_mul, Nat.pow_eq, wide, if_false, leastExponent]
  omega

/-- A whole number is rounded to a mantissa of 53 bits. -/
theorem isFinite_ofRatio_iff
    {negative : Bool} :
    (ofRatio negative number 1).isFinite = true ↔
      (number.log2 : Int) - 52 +
          (if roundDiv number (2 ^ (number.log2 - 52)) = 2 ^ 53 then 1 else 0) ≤
        greatestExponent := by
  have notZero : number ≠ 0 := by omega
  have atLeast : 52 ≤ number.log2 := (Nat.le_log2 notZero).mpr large
  have notNegative : ¬ (number.log2 : Int) - 52 < 0 := by omega
  have isPower : ((number.log2 : Int) - 52).natAbs = number.log2 - 52 := by omega
  unfold ofRatio
  rw [if_neg notZero, exponentOf_whole large]
  dsimp only [divPowTwo]
  rw [if_neg notNegative, isPower]
  simp only [Nat.one_mul, Nat.pow_eq]
  by_cases carries : roundDiv number (2 ^ (number.log2 - 52)) = 2 ^ 53
  · simp only [carries, if_true]
    split_ifs with isLarge
    · exact iff_of_false (by simp [isFinite]) (by omega)
    · exact iff_of_true rfl (by omega)
  · simp only [carries, if_false]
    split_ifs with isLarge
    · exact iff_of_false (by simp [isFinite]) (by omega)
    · exact iff_of_true rfl (by omega)

/-- The nearest double to a whole number is finite below the overflow. -/
theorem isFinite_ofRatio_whole
    {negative : Bool} :
    (ofRatio negative number 1).isFinite = true ↔ number < leastOverflow := by
  have notZero : number ≠ 0 := by omega
  rw [isFinite_ofRatio_iff large, greatestExponent]
  rcases Nat.lt_trichotomy number.log2 1023 with below | atTop | above
  · have small := (Nat.log2_lt notZero).mp below
    refine iff_of_true (by split_ifs <;> omega) (Nat.lt_of_lt_of_le small ?_)
    decide +kernel
  · obtain ⟨power, isPower⟩ : ∃ power, 970 = power := ⟨_, rfl⟩
    have small : number < 2 ^ 53 * (2 * 2 ^ power) := by
      have isSmall := (Nat.log2_lt notZero).mp (show number.log2 < 1024 by omega)
      rw [← isPower]
      refine Nat.lt_of_lt_of_le isSmall ?_
      decide +kernel
    have carries := roundDiv_eq_iff (Nat.two_pow_pos power) (by decide) small
    have isLog : number.log2 - 52 = power.succ := by omega
    have sameBound : (2 * 2 ^ 53 - 1) * 2 ^ power = leastOverflow := by
      rw [← isPower]
      decide +kernel
    rw [← Nat.pow_succ', ← isLog, sameBound] at carries
    split_ifs with isTop
    · exact iff_of_false (by omega) (Nat.not_lt.mpr (carries.mp isTop))
    · exact iff_of_true (by omega) (Nat.not_le.mp (mt carries.mpr isTop))
  · have isLarge := (Nat.le_log2 notZero).mp (show 1024 ≤ number.log2 by omega)
    refine iff_of_false (by split_ifs <;> omega) (Nat.not_lt.mpr (Nat.le_trans ?_ isLarge))
    decide +kernel

/-- The digits of a whole number are read as a finite double below the overflow. -/
theorem isFinite_ofDecimal_whole
    {negative : Bool} :
    (ofDecimal negative number 0).isFinite = true ↔ number < leastOverflow := by
  have notZero : number ≠ 0 := by omega
  have notSmall : ¬ (number = 0 ∨ ((digits number).length : Int) + 0 < -330) := by omega
  unfold ofDecimal
  dsimp only
  rw [if_neg notSmall]
  split_ifs with isLong isNegative
  · have long : ¬ number < 10 ^ 310 := by
      rw [← Nat.length_toDigits_le_iff (by decide) (by decide)]
      rw [digits] at isLong
      omega
    refine iff_of_false (by simp [isFinite]) (Nat.not_lt.mpr ?_)
    refine Nat.le_trans ?_ (Nat.not_lt.mp long)
    decide +kernel
  · cases isNegative
  · simpa using isFinite_ofRatio_whole large

end Wholes

section Digits

variable {chars : List Char}
variable (areDigits : ∀ char ∈ chars, char.isDigit = true)
include areDigits

/-- Digits are read as the double nearest to their value. -/
theorem ofText?_of_digits
    (nonempty : chars ≠ []) :
    ofText? chars = some (ofDecimal false (wholeValue chars) 0) := by
  have nothingLeft : chars.dropWhile Char.isDigit = [] :=
    List.dropWhile_eq_nil_iff.mpr areDigits
  have allTaken : chars.takeWhile Char.isDigit = chars :=
    List.takeWhile_eq_self_iff.mpr areDigits
  unfold ofText?
  rw [splitSign_of_digits areDigits]
  dsimp only
  rw [nothingLeft, allTaken]
  dsimp only
  rw [List.append_nil, read?_of_digits nonempty areDigits]
  rfl

end Digits

end Binary64

end AlertReceivers.Decimal
