import AlertReceivers.Proofs.Decimal.Wholes
import AlertReceivers.Proofs.Span.Numerals
import AlertReceivers.Yaml.Resolution

namespace AlertReceivers.Yaml

/-!
# Digits without quotes

Digits stand for the integer that they write, as far as 64 bits reach.  Larger numbers
are too wide for a node at first, and then doubles.  Where no double is large enough,
digits are a text.
-/

open Decimal (IsNumeral wholeValue)
open Decimal.Binary64 (leastOverflow)

namespace Plain

section Digits

variable {chars : List Char}
variable (areDigits : ∀ char ∈ chars, char.isDigit = true)
include areDigits

/-- Words with another character than digits are no digits. -/
theorem any_eq_false_of_digits
    {words : List String}
    (areWords : ∀ word ∈ words, word.toList.all Char.isDigit = false) :
    (words.any fun word => word.toList == chars) = false := by
  rw [List.any_eq_false]
  intro word member isChars
  have notDigits := areWords word member
  rw [eq_of_beq isChars, List.all_eq_true.mpr areDigits] at notDigits
  cases notDigits

theorem dropPlus_of_digits : dropPlus chars = chars := by
  unfold dropPlus
  split
  · exact absurd (areDigits '+' List.mem_cons_self) (by decide)
  · rfl

theorem magnitude?_of_digits : magnitude? chars = Decimal.read? 10 chars := by
  have second : ∀ {mark rest}, chars = '0' :: mark :: rest → mark.isDigit = true := by
    rintro mark rest rfl
    exact areDigits mark (by simp)
  unfold magnitude?
  split
  · exact absurd (second rfl) (by decide)
  · exact absurd (second rfl) (by decide)
  · exact absurd (second rfl) (by decide)
  · rfl

/-- Digits are a double exactly if they write a number below the least one that is too
large. -/
theorem real?_of_digits
    (nonempty : chars ≠ [])
    (large : 2 ^ 52 ≤ wholeValue chars) :
    real? chars =
      if wholeValue chars < leastOverflow then
        some (.ofDecimal false (wholeValue chars) 0)
      else
        none := by
  have noSigns : hasSignAfterPlus chars = false := by
    unfold hasSignAfterPlus
    split
    · exact absurd (areDigits '+' List.mem_cons_self) (by decide)
    · rfl
  have notMinus : (infinityWords.any fun word => '-' :: word.toList == chars) = false := by
    rw [List.any_eq_false]
    rintro word _ isChars
    obtain rfl := eq_of_beq isChars
    exact absurd (areDigits '-' List.mem_cons_self) (by decide)
  unfold real?
  rw [noSigns, dropPlus_of_digits areDigits, any_eq_false_of_digits areDigits (by decide),
    notMinus, any_eq_false_of_digits areDigits (by decide),
    Decimal.Binary64.ofText?_of_digits areDigits nonempty]
  simp only [Decimal.Binary64.isFinite_ofDecimal_whole large, Bool.false_eq_true, if_false]

end Digits

section Numerals

variable {chars : List Char}
variable (isNumeral : IsNumeral chars)
include isNumeral

theorem hasIdleZero_of_numeral : hasIdleZero chars = false := by
  have noSign := Decimal.splitSign_of_digits isNumeral.areDigits
  unfold hasIdleZero
  rw [noSign]
  split
  · rename_i first rest shape
    dsimp only at shape
    have alone := isNumeral.noIdleZero (by rw [shape]; rfl)
    rw [shape] at alone
    cases alone
  · rfl

/-- A numeral is read as the integer that it writes. -/
theorem readInteger?_of_numeral :
    readInteger? chars = ofInteger? (wholeValue chars) := by
  have isInteger : integer? chars = some (wholeValue chars : Int) := by
    unfold integer?
    rw [if_neg (by simp [hasIdleZero_of_numeral isNumeral])]
    split
    · exact absurd (isNumeral.areDigits '-' List.mem_cons_self) (by decide)
    · rw [dropPlus_of_digits isNumeral.areDigits, magnitude?_of_digits isNumeral.areDigits,
        Decimal.read?_of_digits isNumeral.nonempty isNumeral.areDigits]
      rfl
  rw [readInteger?, isInteger, Option.bind_some]

/-- Digits stand for an integer, or else for a double or for themselves. -/
theorem read_of_numeral :
    read chars =
      match ofInteger? (wholeValue chars) with
      | some number =>
          number
      | none =>
          match real? chars with
          | some value =>
              .real value
          | none =>
              .text := by
  have hasChars : chars.isEmpty = false := List.isEmpty_eq_false_iff.mpr isNumeral.nonempty
  have notNull : isNullWord chars = false :=
    any_eq_false_of_digits isNumeral.areDigits (by decide)
  have notBoolean : boolean? chars = none := by
    unfold boolean?
    rw [any_eq_false_of_digits isNumeral.areDigits (by decide),
      any_eq_false_of_digits isNumeral.areDigits (by decide)]
    rfl
  unfold read
  rw [hasChars, notNull, notBoolean, readInteger?_of_numeral isNumeral,
    hasIdleZero_of_numeral isNumeral]
  cases ofInteger? (wholeValue chars) <;> rfl

/-- A numeral of at most 64 bits is read as its number. -/
theorem read_of_narrow
    (narrow : wholeValue chars < 2 ^ 64) :
    read chars = .integer (wholeValue chars) := by
  have isInteger : ofInteger? (wholeValue chars) = some (.integer (wholeValue chars)) :=
    if_pos (by omega)
  rw [read_of_numeral isNumeral, isInteger]

/-- A numeral of 65 to 128 bits is read as an integer that no node holds. -/
theorem read_of_wide
    (wide : 2 ^ 64 ≤ wholeValue chars)
    (bounded : wholeValue chars < 2 ^ 128) :
    read chars = .wideInteger (wholeValue chars) := by
  have isInteger : ofInteger? (wholeValue chars) = some (.wideInteger (wholeValue chars)) := by
    unfold ofInteger?
    rw [if_neg (by omega), if_pos (by omega)]
  rw [read_of_numeral isNumeral, isInteger]

/-- Beyond 128 bits, digits stand for the nearest double, if there is one. -/
theorem read_of_large
    (large : 2 ^ 128 ≤ wholeValue chars) :
    read chars =
      if wholeValue chars < leastOverflow then
        .real (.ofDecimal false (wholeValue chars) 0)
      else
        .text := by
  have notInteger : ofInteger? (wholeValue chars) = none := by
    unfold ofInteger?
    rw [if_neg (by omega), if_neg (by omega)]
  rw [read_of_numeral isNumeral, notInteger,
    real?_of_digits isNumeral.areDigits isNumeral.nonempty (by omega)]
  by_cases finite : wholeValue chars < leastOverflow
  · simp only [finite, if_true]
  · simp only [finite, if_false]

end Numerals

end Plain

/-- Numbers whose digits are kept: those of at most 64 bits, and those that are too large
for a double. -/
def KeepsDigits (number : Nat) : Prop :=
  number < 2 ^ 64 ∨ leastOverflow ≤ number

instance : DecidablePred KeepsDigits :=
  fun number => inferInstanceAs (Decidable (number < 2 ^ 64 ∨ leastOverflow ≤ number))

/-- Numbers that are too wide for a node, but not yet doubles. -/
def IsWide (number : Nat) : Prop :=
  2 ^ 64 ≤ number ∧ number < 2 ^ 128

instance : DecidablePred IsWide :=
  fun number => inferInstanceAs (Decidable (2 ^ 64 ≤ number ∧ number < 2 ^ 128))

/-- Numbers of 65 to 128 bits do not keep their digits. -/
theorem IsWide.not_keepsDigits
    {number : Nat}
    (wide : IsWide number) :
    ¬ KeepsDigits number := by
  have far : 2 ^ 128 ≤ leastOverflow := by decide +kernel
  rw [KeepsDigits, not_or, Nat.not_lt, Nat.not_le]
  exact ⟨wide.1, Nat.lt_of_lt_of_le wide.2 far⟩

/-- The text that digits without quotes leave in a node: the digits, or else the text of
the nearest double. -/
def textOfDigits (digits : String) : String :=
  if KeepsDigits (wholeValue digits.toList) then
    digits
  else
    (Number.real (.ofDecimal false (wholeValue digits.toList) 0)).text

/-- The double that takes the place of digits is not written as digits alone. -/
theorem exists_mark_of_not_keepsDigits
    {number : Nat}
    (changes : ¬ KeepsDigits number) :
    ∃ mark ∈ (Number.real (.ofDecimal false number 0)).text.toList, mark.isDigit = false := by
  rw [KeepsDigits, not_or, Nat.not_lt, Nat.not_le] at changes
  have finite : (Decimal.Binary64.ofDecimal false number 0).isFinite = true :=
    (Decimal.Binary64.isFinite_ofDecimal_whole (by omega)).mpr changes.2
  generalize Decimal.Binary64.ofDecimal false number 0 = value at finite ⊢
  cases value with
  | nan | infinite =>
      cases finite
  | finite negative mantissa exponent =>
      obtain ⟨mark, member, isMark⟩ :=
        (Decimal.isFractional_text negative mantissa exponent).marked
      refine ⟨mark, by rwa [Number.text, String.toList_ofList], ?_⟩
      rcases isMark with rfl | rfl
      · decide
      · decide

section Nodes

variable {digits : String}
variable (isNumeral : IsNumeral digits.toList)
include isNumeral

/-- Digits always have a text. -/
theorem textOfDigits_ne_empty : textOfDigits digits ≠ "" := by
  unfold textOfDigits
  split_ifs with keeps
  · rintro rfl
    exact isNumeral.nonempty rfl
  · obtain ⟨mark, member, _⟩ := exists_mark_of_not_keepsDigits keeps
    intro isEmpty
    rw [isEmpty] at member
    cases member

/-- The digits that are kept are the only ones that a node has as its text. -/
theorem textOfDigits_eq_iff :
    textOfDigits digits = digits ↔ KeepsDigits (wholeValue digits.toList) := by
  unfold textOfDigits
  split_ifs with keeps
  · exact iff_of_true rfl keeps
  · refine iff_of_false (fun isDigits => ?_) keeps
    obtain ⟨mark, member, notDigit⟩ := exists_mark_of_not_keepsDigits keeps
    rw [isDigits] at member
    rw [isNumeral.areDigits mark member] at notDigit
    cases notDigit

/-- Digits of a number that is not too wide become a node with their text. -/
theorem exists_node_of_numeral
    (notWide : ¬ IsWide (wholeValue digits.toList)) :
    ∃ node,
      (Plain.read digits.toList).toNode digits = .ok node ∧
        node.scalarText? = some (textOfDigits digits) := by
  unfold IsWide at notWide
  unfold textOfDigits
  by_cases narrow : wholeValue digits.toList < 2 ^ 64
  · have keeps : KeepsDigits (wholeValue digits.toList) := .inl narrow
    rw [Plain.read_of_narrow isNumeral narrow, if_pos keeps]
    refine ⟨_, rfl, congrArg some ?_⟩
    rw [Number.text, Decimal.integer, if_neg (by omega), Int.natAbs_natCast,
      isNumeral.digits_eq, String.ofList_toList]
  · rw [Plain.read_of_large isNumeral (by omega)]
    by_cases bounded : wholeValue digits.toList < leastOverflow
    · have changes : ¬ KeepsDigits (wholeValue digits.toList) :=
        not_or.mpr ⟨narrow, Nat.not_le.mpr bounded⟩
      rw [if_pos bounded, if_neg changes]
      exact ⟨_, rfl, rfl⟩
    · have keeps : KeepsDigits (wholeValue digits.toList) := .inr (Nat.not_lt.mp bounded)
      rw [if_neg bounded, if_pos keeps]
      exact ⟨_, rfl, rfl⟩

example :
    textOfDigits "340282366920938463463374607431768211456" = "3.402823669209385e38" := by
  decide +kernel

/-- Digits of a number that is too wide become no node. -/
theorem toNode_of_wide
    (wide : IsWide (wholeValue digits.toList)) :
    (Plain.read digits.toList).toNode digits =
      .error (.type (.wideInteger (wholeValue digits.toList)) .node) := by
  rw [Plain.read_of_wide isNumeral wide.1 wide.2]
  rfl

end Nodes

end AlertReceivers.Yaml
