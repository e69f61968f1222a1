import AlertReceivers.Decimal.Digits

namespace AlertReceivers.Decimal

/-!
# Digits and signs

What is known of a character that is a digit, and of the one sign that may be taken off
the front of a number.
-/

section Digits

variable {char : Char}

/-- The codes of digits are those from `0` to `9`. -/
theorem toNat_of_isDigit (isDigit : char.isDigit = true) :
    48 ≤ char.toNat ∧ char.toNat ≤ 57 := by
  simp only [Char.isDigit, Bool.and_eq_true, decide_eq_true_eq] at isDigit
  exact ⟨UInt32.le_iff_toNat_le.mp isDigit.1, UInt32.le_iff_toNat_le.mp isDigit.2⟩

/-- The value of a digit is its distance from `0`. -/
theorem digitValue?_of_isDigit (isDigit : char.isDigit = true) :
    digitValue? char = some (char.toNat - 48) := by
  simp only [Char.isDigit, Bool.and_eq_true, decide_eq_true_eq] at isDigit
  exact if_pos isDigit

end Digits

/-- Whether a character is a sign. -/
def isSign (char : Char) : Bool :=
  char == '+' || char == '-'

section Signs

variable {char : Char}
variable {chars : List Char}

theorem isSign_eq_true_iff :
    isSign char = true ↔ char = '+' ∨ char = '-' := by
  simp [isSign]

/-- A digit is no sign. -/
theorem not_sign_of_isDigit (isDigit : char.isDigit = true) :
    isSign char = false := by
  refine Bool.eq_false_iff.mpr fun sign => ?_
  rcases isSign_eq_true_iff.mp sign with rfl | rfl
  · cases isDigit
  · cases isDigit

/-- Nothing is taken off a text that does not begin with a sign. -/
theorem splitSign_of_noSign (noSign : ∀ char ∈ chars.head?, isSign char = false) :
    splitSign chars = (false, chars) := by
  unfold splitSign
  split
  · exact absurd (noSign '-' rfl) (by decide)
  · exact absurd (noSign '+' rfl) (by decide)
  · rfl

/-- Nothing is taken off digits. -/
theorem splitSign_of_digits (areDigits : ∀ char ∈ chars, char.isDigit = true) :
    splitSign chars = (false, chars) :=
  splitSign_of_noSign fun char isFirst =>
    not_sign_of_isDigit (areDigits char (List.mem_of_head? isFirst))

/-- One sign is taken off. -/
theorem splitSign_of_isSign
    (sign : isSign char = true)
    (rest : List Char) :
    ∃ negative, splitSign (char :: rest) = (negative, rest) := by
  rcases isSign_eq_true_iff.mp sign with rfl | rfl
  · exact ⟨false, rfl⟩
  · exact ⟨true, rfl⟩

/-- Only signs are taken off. -/
theorem exists_signs_of_splitSign (chars : List Char) :
    ∃ signs : List Char,
      (∀ sign ∈ signs, isSign sign = true) ∧ signs ++ (splitSign chars).2 = chars := by
  unfold splitSign
  split
  · exact ⟨['-'], by simp [isSign], rfl⟩
  · exact ⟨['+'], by simp [isSign], rfl⟩
  · exact ⟨[], by simp, rfl⟩

/-- What is left was there before. -/
theorem mem_of_mem_splitSign (member : char ∈ (splitSign chars).2) :
    char ∈ chars := by
  obtain ⟨signs, _, isSplit⟩ := exists_signs_of_splitSign chars
  rw [← isSplit]
  exact List.mem_append_right signs member

/-- What is no sign is left. -/
theorem mem_splitSign_of_mem
    (member : char ∈ chars)
    (noSign : isSign char = false) :
    char ∈ (splitSign chars).2 := by
  obtain ⟨signs, areSigns, isSplit⟩ := exists_signs_of_splitSign chars
  rw [← isSplit] at member
  refine (List.mem_append.mp member).resolve_left fun inSigns => ?_
  rw [areSigns char inSigns] at noSign
  cases noSign

end Signs

end AlertReceivers.Decimal
