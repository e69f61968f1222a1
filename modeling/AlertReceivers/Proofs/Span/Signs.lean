import AlertReceivers.Proofs.Span.Composed
import AlertReceivers.Proofs.Span.LastSecond
import Mathlib.Data.List.TakeWhile

namespace AlertReceivers.Span

/-!
# Signs and padding

White space around a text does not count, and a sign in front of a text only gives the
direction of the span.  Texts that are no spans are refused for the same reason with and
without them: offsets in reasons count from behind the white space and the sign.  Only
one sign is taken off.
-/

open Decimal (isSign isSign_eq_true_iff splitSign splitSign_of_isSign splitSign_of_noSign)

/-- A text that does not begin with a sign and has no white space at either end. -/
structure IsBare (text : String) : Prop where
  noSign :
    ∀ char ∈ text.toList.head?, isSign char = false
  noBlankInFront :
    ∀ char ∈ text.toList.head?, Text.isBlank char = false
  noBlankBehind :
    ∀ char ∈ text.toList.getLast?, Text.isBlank char = false

/-- Two spans are of the same length and go in opposite directions. -/
def AreOpposite (first second : Span) : Prop :=
  first.nanos = -second.nanos

/-- Two readings end with related spans, or refuse their texts for the same reason. -/
inductive AnswersAlike (related : Span → Span → Prop) :
    Outcome Refusal Span → Outcome Refusal Span → Prop where
  | span {first second : Span} :
      related first second →
      AnswersAlike related (.ok first) (.ok second)
  | refused {first second : Refusal} :
      first.reason = second.reason →
      AnswersAlike related (.refuse first) (.refuse second)

/-- The ends of a text tell whether it is bare. -/
theorem isBare_of_ends
    {text : String}
    {first last : Char}
    (isFirst : text.toList.head? = some first)
    (isLast : text.toList.getLast? = some last)
    (noSign : isSign first = false)
    (noBlankInFront : Text.isBlank first = false)
    (noBlankBehind : Text.isBlank last = false) :
    IsBare text := by
  constructor
  · simpa [isFirst] using noSign
  · simpa [isFirst] using noBlankInFront
  · simpa [isLast] using noBlankBehind

section Trimming

variable {chars : List Char}

/-- White space around characters is trimmed like that at their ends. -/
theorem trim_padded
    {front back : List Char}
    (frontBlank : AreBlank front)
    (backBlank : AreBlank back)
    (chars : List Char) :
    Text.trim (front ++ chars ++ back) = Text.trim chars := by
  have backReversed : ∀ char ∈ back.reverse, Text.isBlank char = true :=
    fun char member => backBlank char (List.mem_reverse.mp member)
  have nothingBehind : back.dropWhile Text.isBlank = [] :=
    List.dropWhile_eq_nil_iff.mpr backBlank
  rw [List.append_assoc, Text.trim, List.dropWhile_append_of_pos frontBlank,
    List.dropWhile_append, Text.trim]
  split
  · rename_i allBlank
    rw [nothingBehind, List.isEmpty_iff.mp allBlank]
  · rw [List.reverse_append, List.dropWhile_append_of_pos backReversed]

/-- Characters without white space at either end are left alone, even if there are none. -/
theorem trim_eq_self_of_ends
    (noBlankInFront : ∀ char ∈ chars.head?, Text.isBlank char = false)
    (noBlankBehind : ∀ char ∈ chars.getLast?, Text.isBlank char = false) :
    Text.trim chars = chars := by
  cases chars with
  | nil =>
      rfl
  | cons first others =>
      have someChar : first :: others ≠ [] := List.cons_ne_nil first others
      exact trim_eq_self rfl (List.dropLast_concat_getLast someChar).symm
        (noBlankInFront first rfl)
        (noBlankBehind _ (List.getLast?_eq_some_getLast someChar))

theorem not_blank_of_isSign
    {char : Char}
    (sign : isSign char = true) :
    Text.isBlank char = false := by
  rcases isSign_eq_true_iff.mp sign with rfl | rfl <;> rfl

/-- A sign in front of a bare text leaves nothing to trim. -/
theorem IsBare.trim_signed
    {body : String}
    {char : Char}
    (isBare : IsBare body)
    (sign : isSign char = true) :
    Text.trim (char :: body.toList) = char :: body.toList := by
  have signNotBlank := not_blank_of_isSign sign
  refine trim_eq_self_of_ends (by simpa using signNotBlank) ?_
  intro last isLast
  rw [List.getLast?_cons, Option.mem_some_iff] at isLast
  cases behind : body.toList.getLast? with
  | none =>
      simp only [behind, Option.getD_none] at isLast
      exact isLast ▸ signNotBlank
  | some other =>
      simp only [behind, Option.getD_some] at isLast
      exact isLast ▸ isBare.noBlankBehind other behind

theorem IsBare.splitSign_trim
    {body : String}
    (isBare : IsBare body) :
    splitSign (Text.trim body.toList) = (false, body.toList) := by
  rw [trim_eq_self_of_ends isBare.noBlankInFront isBare.noBlankBehind]
  exact splitSign_of_noSign isBare.noSign

end Trimming

section Reading

variable {first second : List Char}
variable {body : List Char}
variable {negative : Bool}

/-- A span is read from what is left without white space and sign. -/
theorem readChars_of_splitSign
    {chars : List Char}
    (isSplit : splitSign (Text.trim chars) = (negative, body)) :
    readChars chars =
      if body = ['0'] then
        .ok zero
      else
        readElapsed body >>= ofElapsed negative := by
  rw [readChars, isSplit]

/-- In either direction, a time is a span of the same length, or too long. -/
theorem ofElapsed_matches (elapsed : Elapsed) :
    Outcome.Matches AreOpposite (ofElapsed true elapsed) (ofElapsed false elapsed) := by
  unfold ofElapsed
  split
  · exact .ok (by simp [AreOpposite])
  · exact .error

/-- The same characters behind opposite signs are read as opposite spans. -/
theorem readChars_matches
    (isNegative : splitSign (Text.trim first) = (true, body))
    (isPositive : splitSign (Text.trim second) = (false, body)) :
    Outcome.Matches AreOpposite (readChars first) (readChars second) := by
  rw [readChars_of_splitSign isNegative, readChars_of_splitSign isPositive]
  split
  · exact .ok rfl
  · have sameTime := Outcome.Matches.refl (fun _ => rfl) (readElapsed body)
    refine sameTime.bind fun elapsed other same => ?_
    subst same
    exact ofElapsed_matches elapsed

/-- Texts whose characters are read alike have like answers, unless there is none. -/
theorem answersAlike_iff_of_matches
    {related : Span → Span → Prop}
    {first second : String}
    (isMatch : Outcome.Matches related (readChars first.toList) (readChars second.toList)) :
    AnswersAlike related (read first) (read second) ↔ ¬ FillsUpLastSecond second := by
  rw [← read_eq_aborted_iff, read, read]
  generalize readChars first.toList = firstOutcome at isMatch
  generalize readChars second.toList = secondOutcome at isMatch
  cases isMatch with
  | ok isRelated =>
      refine iff_of_true (.span isRelated) fun aborts => ?_
      cases aborts
  | @error failure =>
      cases failure with
      | refused reason =>
          refine iff_of_true (.refused rfl) fun aborts => ?_
          cases aborts
      | aborted =>
          refine iff_of_false (fun alike => ?_) (not_not_intro rfl)
          cases alike

theorem answersAlike_iff_of_readChars_eq
    {first second : String}
    (same : readChars first.toList = readChars second.toList) :
    AnswersAlike (· = ·) (read first) (read second) ↔ ¬ FillsUpLastSecond second := by
  refine answersAlike_iff_of_matches ?_
  rw [same]
  exact Outcome.Matches.refl (fun _ => rfl) _

/-- Behind a sign, another one is no number. -/
theorem readElapsed_of_isSign
    {char : Char}
    (sign : isSign char = true)
    (rest : List Char) :
    readElapsed (char :: rest) = .refuse (.numberExpected 0) := by
  rcases isSign_eq_true_iff.mp sign with rfl | rfl <;> rfl

/-- A text with two signs is refused. -/
theorem read_of_two_signs
    {text : String}
    {first second : Char}
    {rest : List Char}
    (firstSign : isSign first = true)
    (secondSign : isSign second = true)
    (isTrimmed : Text.trim text.toList = first :: second :: rest) :
    read text = .refuse ⟨text, .numberExpected 0⟩ := by
  obtain ⟨negative, isSplit⟩ := splitSign_of_isSign firstSign (second :: rest)
  rw [← isTrimmed] at isSplit
  have notZero : second :: rest ≠ ['0'] := by
    intro isZero
    obtain ⟨rfl, _⟩ := List.cons.inj isZero
    cases secondSign
  rw [read, readChars_of_splitSign isSplit, if_neg notZero, readElapsed_of_isSign secondSign]
  rfl

end Reading

/--
A plus in front of a bare text changes nothing, and a minus gives the opposite span.  White
space around any text changes nothing.  In each case both texts are spans or both are
refused for the same reason, except for those that fill up the last second, which have no
answer with or without sign or white space.  A text with two signs in front is refused.
-/
theorem signed_and_padded_answersAlike_iff (text : String) :
    (IsBare text →
      (AnswersAlike (· = ·) (read ("+" ++ text)) (read text) ↔ ¬ FillsUpLastSecond text) ∧
        (AnswersAlike AreOpposite (read ("-" ++ text)) (read text) ↔
          ¬ FillsUpLastSecond text)) ∧
      (∀ front back, AreBlank front.toList → AreBlank back.toList →
        (AnswersAlike (· = ·) (read (front ++ text ++ back)) (read text) ↔
          ¬ FillsUpLastSecond text)) ∧
      ∀ first second rest,
        isSign first = true →
          isSign second = true →
          Text.trim text.toList = first :: second :: rest →
          ∃ reason, read text = .refuse ⟨text, reason⟩ := by
  refine ⟨fun isBare => ⟨?_, ?_⟩, ?_, ?_⟩
  · have isPlus : splitSign (Text.trim ("+" ++ text).toList) = (false, text.toList) := by
      rw [String.toList_append]
      exact congrArg splitSign (isBare.trim_signed (rfl : isSign '+' = true))
    refine answersAlike_iff_of_readChars_eq ?_
    rw [readChars_of_splitSign isPlus, readChars_of_splitSign isBare.splitSign_trim]
  · have isMinus : splitSign (Text.trim ("-" ++ text).toList) = (true, text.toList) := by
      rw [String.toList_append]
      exact congrArg splitSign (isBare.trim_signed (rfl : isSign '-' = true))
    exact answersAlike_iff_of_matches (readChars_matches isMinus isBare.splitSign_trim)
  · intro front back frontBlank backBlank
    refine answersAlike_iff_of_readChars_eq ?_
    rw [String.toList_append, String.toList_append, readChars, readChars,
      trim_padded frontBlank backBlank]
  · intro first second rest firstSign secondSign isTrimmed
    exact ⟨_, read_of_two_signs firstSign secondSign isTrimmed⟩

/-- The longest span in either direction, and a text with two signs and white space. -/
theorem signed_and_padded_answersAlike_longest :
    IsBare "9223372036854775807ns" ∧
      ¬ FillsUpLastSecond "9223372036854775807ns" ∧
      AnswersAlike AreOpposite (read "-9223372036854775807ns") (read "9223372036854775807ns") ∧
      AnswersAlike (· = ·) (read "\t 9223372036854775807ns\n")
        (read "9223372036854775807ns") ∧
      ∃ reason, read " +-0" = .refuse ⟨" +-0", reason⟩ := by
  have isBare : IsBare "9223372036854775807ns" :=
    isBare_of_ends rfl rfl rfl rfl rfl
  have notFull : ¬ FillsUpLastSecond "9223372036854775807ns" := by
    obtain ⟨span, isSpan⟩ : ∃ span, read "9223372036854775807ns" = .ok span := ⟨_, rfl⟩
    rw [← read_eq_aborted_iff, isSpan]
    exact nofun
  have frontBlank : AreBlank "\t ".toList := by
    decide
  have backBlank : AreBlank "\n".toList := by
    decide
  obtain ⟨signed, padded, _⟩ := signed_and_padded_answersAlike_iff "9223372036854775807ns"
  obtain ⟨_, _, twoSigns⟩ := signed_and_padded_answersAlike_iff " +-0"
  exact ⟨isBare, notFull, (signed isBare).2.mpr notFull,
    (padded _ _ frontBlank backBlank).mpr notFull,
    twoSigns '+' '-' ['0'] rfl rfl (by decide)⟩

/-- A bare text that fills up the last second is neither a span nor refused, with a sign or
without. -/
theorem lastSecond_signed_without_answer :
    IsBare lastSecondText ∧
      ¬ AnswersAlike (· = ·) (read ("+" ++ lastSecondText)) (read lastSecondText) := by
  have isBare : IsBare lastSecondText :=
    isBare_of_ends rfl rfl rfl rfl rfl
  rw [read_lastSecondText]
  exact ⟨isBare, nofun⟩

end AlertReceivers.Span
