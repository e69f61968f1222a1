import AlertReceivers.Node.Basic
import AlertReceivers.Proofs.Decimal.Wholes
import AlertReceivers.Proofs.Span.Signs

namespace AlertReceivers

/-!
# Numbers as spans

The text of a number has no unit.  Its only letter is the mark of an exponent, which
stands where a unit would, but is none.  So no number but the integer zero is a span.
-/

namespace Decimal

/-- Whether a character is a digit, a minus, a point or the mark of an exponent. -/
def isNumeralChar (char : Char) : Bool :=
  char.isDigit || char == '-' || char == '.' || char == 'e'

/-- The characters are those of numbers. -/
def AreNumeral (chars : List Char) : Prop :=
  ∀ char ∈ chars, isNumeralChar char = true

instance : DecidablePred AreNumeral :=
  List.decidableBAll fun (char : Char) => isNumeralChar char = true

/-- The characters of a number that is not written as an integer. -/
structure IsFractional (chars : List Char) : Prop where
  areNumeral :
    AreNumeral chars
  marked :
    ∃ mark ∈ chars, mark = '.' ∨ mark = 'e'

theorem AreNumeral.append
    {first second : List Char}
    (firstNumeral : AreNumeral first)
    (secondNumeral : AreNumeral second) :
    AreNumeral (first ++ second) :=
  List.forall_mem_append.mpr ⟨firstNumeral, secondNumeral⟩

theorem AreNumeral.cons
    {char : Char}
    {chars : List Char}
    (isNumeral : isNumeralChar char = true)
    (areNumeral : AreNumeral chars) :
    AreNumeral (char :: chars) :=
  List.forall_mem_cons.mpr ⟨isNumeral, areNumeral⟩

theorem areNumeral_digits (number : Nat) : AreNumeral (digits number) := by
  intro char member
  simp [isNumeralChar, isDigit_of_mem_digits member]

theorem areNumeral_zeros (count : Nat) : AreNumeral (List.replicate count '0') := by
  intro char member
  rw [List.eq_of_mem_replicate member]
  rfl

/-- Integers are written with characters of numerals. -/
theorem areNumeral_integer (number : Int) : AreNumeral (integer number) := by
  unfold integer
  split
  · exact .cons rfl (areNumeral_digits _)
  · exact areNumeral_digits _

/-- A sign in front of a number leaves it a number. -/
theorem IsFractional.signed
    {sign chars : List Char}
    (areNumeral : AreNumeral sign)
    (isFractional : IsFractional chars) :
    IsFractional (sign ++ chars) := by
  obtain ⟨mark, member, isMark⟩ := isFractional.marked
  exact ⟨areNumeral.append isFractional.areNumeral,
    mark, List.mem_append_right sign member, isMark⟩

/-- A number without an exponent has a point. -/
theorem isFractional_positional (decimal : Scaled) : IsFractional (positional decimal) := by
  have shown := areNumeral_digits decimal.coefficient
  refine ⟨?_, '.', ?_, .inl rfl⟩
  · unfold positional
    dsimp only
    split_ifs
    · exact (shown.append (areNumeral_zeros _)).append (by decide)
    · refine AreNumeral.append (fun char member => ?_) (.cons rfl fun char member => ?_)
      · exact shown char (List.mem_of_mem_take member)
      · exact shown char (List.mem_of_mem_drop member)
    · exact (AreNumeral.append (by decide) (areNumeral_zeros _)).append shown
  · unfold positional
    dsimp only
    split_ifs <;> simp

/-- A number with an exponent has a mark for it. -/
theorem isFractional_scientific (decimal : Scaled) : IsFractional (scientific decimal) := by
  have shown := areNumeral_digits decimal.coefficient
  refine ⟨?_, 'e', ?_, .inr rfl⟩
  · unfold scientific
    dsimp only
    refine AreNumeral.append ?_ (.cons rfl (areNumeral_integer _))
    split
    · rename_i first second rest isShown
      rw [isShown] at shown
      obtain ⟨firstNumeral, others⟩ := List.forall_mem_cons.mp shown
      exact .cons firstNumeral (.cons rfl others)
    · exact shown
  · unfold scientific
    simp

/-- Finite numbers are written with a point or an exponent. -/
theorem isFractional_finiteText
    {layout : Scaled → List Char}
    (isFractional : ∀ decimal, IsFractional (layout decimal))
    (negative : Bool)
    (mantissa : Nat)
    (exponent : Int) :
    IsFractional (finiteText layout negative mantissa exponent) := by
  have sign : AreNumeral (if negative = true then ['-'] else []) := by
    cases negative <;> decide
  unfold finiteText
  dsimp only
  split
  · have zero : IsFractional ['0', '.', '0'] :=
      ⟨by decide, '.', by decide, .inl rfl⟩
    exact zero.signed sign
  · exact (isFractional _).signed sign

/-- Finite doubles are written with a point or an exponent. -/
theorem isFractional_text
    (negative : Bool)
    (mantissa : Nat)
    (exponent : Int) :
    IsFractional (Binary64.text (.finite negative mantissa exponent)) := by
  unfold Binary64.text
  refine isFractional_finiteText (fun decimal => ?_) negative mantissa exponent
  split
  · exact isFractional_positional decimal
  · exact isFractional_scientific decimal

end Decimal

namespace Span

open Decimal (isSign mem_of_mem_splitSign mem_splitSign_of_mem not_sign_of_isDigit splitSign
  splitSign_of_noSign)

/-- What was read so far has no unit with a name: its only letter is `e`. -/
inductive Progress.Unnamed : Progress → Prop where
  | beforeNumber {total : Elapsed} {mark : Nat} :
      Unnamed ⟨total, .beforeNumber true mark⟩
  | inWhole {total : Elapsed} {amount : Nat} :
      Unnamed ⟨total, .inWhole amount⟩
  | inFraction {total : Elapsed} {amount mark : Nat} {fraction : Fraction} :
      Unnamed ⟨total, .inFraction amount fraction mark⟩
  | inUnit
      {total : Elapsed}
      {amount : Nat}
      {fraction : Option Fraction}
      {letters : List Char} :
      (∀ letter ∈ letters, letter = 'e') →
      Unnamed ⟨total, .inUnit amount fraction letters⟩

/-- A step refuses the text, or still there is no unit with a name. -/
inductive StaysUnnamed : Outcome Reason Progress → Prop where
  | refused {reason : Reason} :
      StaysUnnamed (.refuse reason)
  | goesOn {next : Progress} :
      next.Unnamed →
      StaysUnnamed (.ok next)

section Reading

variable {char : Char}
variable {chars : List Char}
variable {progress : Progress}

/-- The letter `e` alone spells no unit, however often it is repeated. -/
theorem ofSpelling?_eq_none
    {letters : List Char}
    (onlyE : ∀ letter ∈ letters, letter = 'e') :
    TimeUnit.ofSpelling? (String.ofList letters) = none := by
  have otherLetter :
      ∀ row ∈ TimeUnit.spellings, ∀ spelling ∈ row.2,
        spelling.toList.any (· != 'e') = true := by
    decide
  rw [TimeUnit.ofSpelling?, Option.map_eq_none_iff, List.find?_eq_none]
  intro row inTable spells
  have isOther := otherLetter row inTable _ (List.contains_iff_mem.mp spells)
  obtain ⟨letter, member, notE⟩ := List.any_eq_true.mp isOther
  rw [String.toList_ofList] at member
  exact bne_iff_ne.mp notE (onlyE letter member)

theorem exists_refuse_of_addComponent
    {letters : List Char}
    (onlyE : ∀ letter ∈ letters, letter = 'e')
    (total : Elapsed)
    (amount : Nat)
    (fraction : Option Fraction) :
    ∃ reason, addComponent total amount fraction letters = .refuse reason := by
  simp only [addComponent, ofSpelling?_eq_none onlyE]
  exact ⟨_, rfl⟩

theorem StaysUnnamed.bind
    {α : Type}
    {outcome : Outcome Reason α}
    {next : α → Progress}
    (answers : outcome ≠ .error .aborted)
    (unnamed : ∀ value, (next value).Unnamed) :
    StaysUnnamed (outcome >>= fun value => .ok (next value)) := by
  cases outcome with
  | ok value =>
      exact .goesOn (unnamed value)
  | error failure =>
      cases failure with
      | refused reason =>
          exact .refused
      | aborted =>
          exact (answers rfl).elim

/-- Reading a character other than the letters of units leaves them without a name. -/
theorem Progress.Unnamed.step
    (unnamed : progress.Unnamed)
    (onlyE : isUnitLetter char = true → char = 'e')
    (offset : Nat) :
    StaysUnnamed (progress.step offset char) := by
  cases unnamed with
  | beforeNumber =>
      simp only [Progress.step]
      split_ifs
      · exact .goesOn .inWhole
      · exact .goesOn .beforeNumber
      · exact .refused
  | inWhole =>
      simp only [Progress.step]
      split_ifs with isDigit isBlank isLetter
      · exact .bind (appendDigit_ne_aborted _ _) fun _ => .inWhole
      · exact .goesOn .inWhole
      · exact .goesOn (.inUnit (by simpa using onlyE isLetter))
      · exact .goesOn .inFraction
      · exact .refused
  | inFraction =>
      simp only [Progress.step]
      split_ifs with isDigit isBlank begins
      · exact .bind (Fraction.append_ne_aborted _ _) fun _ => .inFraction
      · exact .goesOn .inFraction
      · have isLetter := (Bool.and_eq_true_iff.mp begins).1
        exact .goesOn (.inUnit (by simpa using onlyE isLetter))
      · exact .refused
  | @inUnit total amount fraction letters areE =>
      have reversedE : ∀ letter ∈ letters.reverse, letter = 'e' :=
        fun letter member => areE letter (List.mem_reverse.mp member)
      obtain ⟨reason, isRefused⟩ :=
        exists_refuse_of_addComponent reversedE total amount fraction
      simp only [Progress.step, isRefused]
      split_ifs with isDigit isBlank isLetter
      · exact .refused
      · exact .refused
      · exact .goesOn (.inUnit (List.forall_mem_cons.mpr ⟨onlyE isLetter, areE⟩))
      · exact .refused

/-- A text that ends before a unit has a name is refused. -/
theorem Progress.Unnamed.finish
    (unnamed : progress.Unnamed) :
    ∃ reason, progress.finish = .refuse reason := by
  have noLetters : ∀ letter ∈ ([] : List Char), letter = 'e' := by
    simp
  cases unnamed with
  | beforeNumber =>
      exact ⟨.empty, rfl⟩
  | @inWhole total amount =>
      exact exists_refuse_of_addComponent noLetters total amount none
  | inFraction =>
      simp only [Progress.finish]
      split
      · exact ⟨_, rfl⟩
      · exact exists_refuse_of_addComponent noLetters _ _ _
  | inUnit areE =>
      exact exists_refuse_of_addComponent
        (fun letter member => areE letter (List.mem_reverse.mp member)) _ _ _

/-- Characters without letters of units but `e` are refused. -/
theorem Progress.Unnamed.readFrom
    (unnamed : progress.Unnamed)
    (onlyE : ∀ char ∈ chars, isUnitLetter char = true → char = 'e')
    (offset : Nat) :
    ∃ reason, progress.readFrom offset chars = .refuse reason := by
  induction chars generalizing progress offset with
  | nil =>
      exact unnamed.finish
  | cons char rest inductionHypothesis =>
      obtain ⟨headE, restE⟩ := List.forall_mem_cons.mp onlyE
      have stays := unnamed.step headE offset
      rw [Progress.readFrom]
      generalize progress.step offset char = outcome at stays
      cases stays with
      | refused =>
          exact ⟨_, rfl⟩
      | goesOn nextUnnamed =>
          exact inductionHypothesis nextUnnamed restE _

/-- Numbers have no white space, and no letter of a unit but `e`. -/
theorem of_isNumeralChar
    (isNumeral : Decimal.isNumeralChar char = true) :
    Text.isBlank char = false ∧ (isUnitLetter char = true → char = 'e') := by
  have cases : char.isDigit = true ∨ char = '-' ∨ char = '.' ∨ char = 'e' := by
    simpa [Decimal.isNumeralChar, or_assoc] using isNumeral
  rcases cases with isDigit | rfl | rfl | rfl
  · refine ⟨isBlank_of_isDigit isDigit, fun isLetter => ?_⟩
    rw [(not_digit_of_isUnitLetter isLetter).1] at isDigit
    cases isDigit
  · decide
  · decide
  · decide

/-- The characters of a number other than zero are refused. -/
theorem exists_refuse_of_areNumeral
    (areNumeral : Decimal.AreNumeral chars)
    (notZero : (splitSign chars).2 ≠ ['0']) :
    ∃ reason, readChars chars = .refuse reason := by
  have isTrimmed : Text.trim chars = chars :=
    trim_eq_self_of_ends
      (fun char isFirst => (of_isNumeralChar (areNumeral char (List.mem_of_head? isFirst))).1)
      (fun char isLast => (of_isNumeralChar (areNumeral char (List.mem_of_getLast? isLast))).1)
  have onlyE : ∀ char ∈ (splitSign chars).2, isUnitLetter char = true → char = 'e' :=
    fun char member => (of_isNumeralChar (areNumeral char (mem_of_mem_splitSign member))).2
  have start : Progress.Unnamed ⟨.zero, .beforeNumber true 0⟩ := .beforeNumber
  obtain ⟨reason, isRefused⟩ := start.readFrom onlyE 0
  have isSplit : splitSign (Text.trim chars) = ((splitSign chars).1, (splitSign chars).2) :=
    congrArg splitSign isTrimmed
  refine ⟨reason, ?_⟩
  rw [readChars_of_splitSign isSplit, if_neg notZero, readElapsed, isRefused]
  rfl

/-- No number with a point or an exponent is a span. -/
theorem exists_refuse_of_isFractional
    (isFractional : Decimal.IsFractional chars) :
    ∃ reason, readChars chars = .refuse reason := by
  refine exists_refuse_of_areNumeral isFractional.areNumeral fun isZero => ?_
  obtain ⟨mark, member, isMark⟩ := isFractional.marked
  have noSign : isSign mark = false := by
    rcases isMark with rfl | rfl <;> rfl
  have inBody := mem_splitSign_of_mem member noSign
  rw [isZero, List.mem_singleton] at inBody
  subst inBody
  rcases isMark with isPoint | isExponent
  · cases isPoint
  · cases isExponent

/-- An integer is digits behind a sign. -/
theorem splitSign_integer (number : Int) :
    (splitSign (Decimal.integer number)).2 = Decimal.digits number.natAbs := by
  unfold Decimal.integer
  split
  · rfl
  · rw [splitSign_of_noSign]
    intro char isFirst
    exact not_sign_of_isDigit (Decimal.isDigit_of_mem_digits (List.mem_of_head? isFirst))

end Reading

/-- The text of a number is that of a span only if the number is the integer zero. -/
theorem read_numberText (number : Number) :
    number = .integer 0 ∧ read number.text = .ok zero ∨
      number ≠ .integer 0 ∧ ∃ reason, read number.text = .refuse ⟨number.text, reason⟩ := by
  by_cases isZero : number = .integer 0
  · subst isZero
    exact .inl ⟨rfl, rfl⟩
  · refine .inr ⟨isZero, ?_⟩
    have isRefused : ∃ reason, readChars number.text.toList = .refuse reason := by
      cases number with
      | integer value =>
          rw [Number.text, String.toList_ofList]
          refine exists_refuse_of_areNumeral (Decimal.areNumeral_integer value) ?_
          rw [splitSign_integer, Ne, Decimal.digits_eq_zero_iff, Int.natAbs_eq_zero]
          rintro rfl
          exact isZero rfl
      | real value =>
          rw [Number.text, String.toList_ofList]
          cases value with
          | nan =>
              exact ⟨.numberExpected 0, rfl⟩
          | infinite negative =>
              refine ⟨.numberExpected 0, ?_⟩
              cases negative <;> rfl
          | finite negative mantissa exponent =>
              exact exists_refuse_of_isFractional
                (Decimal.isFractional_text negative mantissa exponent)
    obtain ⟨reason, isRefused⟩ := isRefused
    refine ⟨reason, ?_⟩
    rw [read, isRefused]
    rfl

end Span

end AlertReceivers
