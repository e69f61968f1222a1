import AlertReceivers.Yaml.Source
import Mathlib.Data.List.Basic
import Mathlib.Data.List.Infix
import Mathlib.Data.String.Basic

namespace AlertReceivers.Yaml

/-!
# Sources before two ends

Two texts may share their beginning and go on with different words.  Reading goes the
same way in both, as long as it does not go into the words.
-/

open String (utf8Len)

/-- Characters take bytes. -/
theorem utf8Len_pos
    {chars : List Char}
    (nonempty : chars ≠ []) :
    0 < utf8Len chars :=
  Nat.pos_of_ne_zero (mt String.utf8Len_eq_zero.mp nonempty)

namespace Mark

/-- Passing over characters of a line adds their bytes to the offset. -/
theorem offset_passAll
    (mark : Mark)
    (chars : List Char) :
    (mark.passAll chars).offset = mark.offset + utf8Len chars := by
  induction chars generalizing mark with
  | nil =>
      rfl
  | cons char rest inductionHypothesis =>
      rw [String.utf8Len_cons, Nat.add_comm (utf8Len rest), ← Nat.add_assoc]
      exact inductionHypothesis (mark.pass char)

theorem offset_beyond
    (mark : Mark)
    (chars : List Char) :
    (mark.beyond chars).offset = mark.offset + utf8Len chars := by
  fun_induction beyond mark chars with
  | case1 mark rest inductionHypothesis =>
      rw [inductionHypothesis, String.utf8Len_cons, String.utf8Len_cons, Nat.add_assoc,
        Nat.add_comm (utf8Len rest), ← Nat.add_assoc]
      rfl
  | case2 mark char rest _ inductionHypothesis =>
      rw [inductionHypothesis, String.utf8Len_cons, Nat.add_comm (utf8Len rest),
        ← Nat.add_assoc]
      split <;> rfl
  | case3 mark =>
      rfl

end Mark

namespace Source

/-- A source leads to the sources further on in the same text. -/
def Leads (source next : Source) : Prop :=
  ∃ passed,
    source.rest = passed ++ next.rest ∧
      next.mark.offset = source.mark.offset + utf8Len passed

namespace Leads

variable {source next last : Source}

/-- A source leads to itself. -/
theorem refl (source : Source) : source.Leads source :=
  ⟨[], rfl, rfl⟩

/-- What a source leads to, leads on. -/
theorem trans
    (leads : source.Leads next)
    (leadsOn : next.Leads last) :
    source.Leads last := by
  obtain ⟨passed, isRest, isOffset⟩ := leads
  obtain ⟨more, isLast, isLastOffset⟩ := leadsOn
  refine ⟨passed ++ more, ?_, ?_⟩
  · rw [isRest, isLast, List.append_assoc]
  · rw [isLastOffset, isOffset, String.utf8Len_append, Nat.add_assoc]

/-- What is left is an end of the text before. -/
theorem suffix (leads : source.Leads next) : next.rest <:+ source.rest := by
  obtain ⟨passed, isRest, _⟩ := leads
  exact ⟨passed, isRest.symm⟩

/-- No source leads back. -/
theorem offset_le (leads : source.Leads next) :
    source.mark.offset ≤ next.mark.offset := by
  obtain ⟨passed, _, isOffset⟩ := leads
  rw [isOffset]
  exact Nat.le_add_right _ _

/-- The number of bytes up to the end of the text stays the same. -/
theorem end_eq (leads : source.Leads next) :
    next.mark.offset + utf8Len next.rest = source.mark.offset + utf8Len source.rest := by
  obtain ⟨passed, isRest, isOffset⟩ := leads
  rw [isRest, isOffset, String.utf8Len_append, Nat.add_assoc]

end Leads

/-- Passing over a character goes on in the text. -/
theorem leads_pass
    (mark : Mark)
    (char : Char)
    (rest : List Char) :
    Leads ⟨mark, char :: rest⟩ ⟨mark.pass char, rest⟩ :=
  ⟨[char], rfl, by simp [Mark.pass]⟩

/-- Passing over a break goes on in the text. -/
theorem leads_down
    (mark : Mark)
    (char : Char)
    (rest : List Char) :
    Leads ⟨mark, char :: rest⟩ ⟨mark.down char.utf8Size, rest⟩ :=
  ⟨[char], rfl, by simp [Mark.down]⟩

/-- Two characters may make up one break. -/
theorem leads_down_pair
    (mark : Mark)
    (rest : List Char) :
    Leads ⟨mark, '\r' :: '\n' :: rest⟩ ⟨mark.down 2, rest⟩ :=
  ⟨['\r', '\n'], rfl, rfl⟩

/-- Skipping characters goes on in the text. -/
theorem leads_skip
    (source : Source)
    (count : Nat) :
    source.Leads (source.skip count) :=
  ⟨source.rest.take count, (List.take_append_drop count source.rest).symm,
    Mark.offset_passAll _ _⟩

/-- White space is passed over. -/
theorem leads_white (source : Source) :
    source.Leads (source.beyond source.white) := by
  refine ⟨source.white, ?_, Mark.offset_beyond _ _⟩
  exact (List.prefix_iff_eq_append.mp (List.takeWhile_prefix isWhite)).symm

/-- Skipping a break goes on in the text. -/
theorem leads_skipBreak (source : Source) : source.Leads source.skipBreak := by
  obtain ⟨mark, rest⟩ := source
  unfold skipBreak
  split
  case h_1 rest isRest =>
    cases isRest
    exact leads_down_pair mark rest
  case h_2 char rest _ isRest =>
    cases isRest
    split
    · exact leads_down mark char rest
    · exact .refl _
  case h_3 =>
    exact .refl _

/-- The end of a line that has nothing but a comment. -/
def lineEnd (source : Source) : Source :=
  let blanks := source.skipWhile isBlank
  if blanks.rest.head? = some '#' then
    blanks.skipWhile fun char => !isBreak char
  else
    blanks

/-- A line is finished if only a comment stands between here and its end. -/
theorem finishLine?_eq (source : Source) :
    source.finishLine? =
      if source.lineEnd.rest.head?.all isBreak then
        some source.lineEnd.skipBreak
      else
        none :=
  rfl

theorem leads_lineEnd (source : Source) : source.Leads source.lineEnd := by
  unfold lineEnd
  dsimp only
  split
  · exact (leads_skip _ _).trans (leads_skip _ _)
  · exact leads_skip _ _

/-- Finishing a line goes on in the text. -/
theorem leads_of_finishLine?
    {source next : Source}
    (finished : source.finishLine? = some next) :
    source.Leads next := by
  rw [finishLine?_eq, Option.ite_none_right_eq_some, Option.some.injEq] at finished
  obtain ⟨_, rfl⟩ := finished
  exact (leads_lineEnd source).trans (leads_skipBreak _)

end Source

section CharacterClasses

variable {char other : Char}
variable (isWordChar : char.isAlphanum = true)
include isWordChar

/-- Characters of words are no marks. -/
theorem ne_of_isAlphanum
    (isMark : other.isAlphanum = false) :
    char ≠ other := by
  rintro rfl
  rw [isMark] at isWordChar
  cases isWordChar

/-- Characters of words break no lines. -/
theorem isBreak_of_isAlphanum : isBreak char = false := by
  simp [isBreak, ne_of_isAlphanum isWordChar]

/-- Characters of words are no spaces. -/
theorem isSpace_of_isAlphanum : isSpace char = false := by
  simp [isSpace, ne_of_isAlphanum isWordChar]

/-- Characters of words are no blanks. -/
theorem isBlank_of_isAlphanum : isBlank char = false := by
  simp [isBlank, ne_of_isAlphanum isWordChar]

/-- Characters of words are no white space. -/
theorem isWhite_of_isAlphanum : isWhite char = false := by
  simp [isWhite, isBlank_of_isAlphanum isWordChar, isBreak_of_isAlphanum isWordChar]

theorem isSeparator_of_isAlphanum : isSeparator char = false := by
  simp [isSeparator, isWhite_of_isAlphanum isWordChar, ne_of_isAlphanum isWordChar]

/-- Letters and digits stand among the printable characters of ASCII. -/
theorem toNat_of_isAlphanum : 0x30 ≤ char.toNat ∧ char.toNat ≤ 0x7a := by
  have between : ∀ {low high : UInt32},
      char.val ≥ low ∧ char.val ≤ high → low.toNat ≤ char.toNat ∧ char.toNat ≤ high.toNat :=
    fun bounds => bounds.imp UInt32.le_iff_toNat_le.mp UInt32.le_iff_toNat_le.mp
  rcases Bool.or_eq_true_iff.mp isWordChar with isLetter | isDigit
  · rcases Bool.or_eq_true_iff.mp isLetter with isUpper | isLower
    · exact (between (of_decide_eq_true isUpper)).imp
        (Nat.le_trans (by decide)) (Nat.le_trans · (by decide))
    · have bounds := Bool.and_eq_true_iff.mp isLower
      exact (between (bounds.imp of_decide_eq_true of_decide_eq_true)).imp
        (Nat.le_trans (by decide)) (Nat.le_trans · (by decide))
  · have bounds := Bool.and_eq_true_iff.mp isDigit
    exact (between (bounds.imp of_decide_eq_true of_decide_eq_true)).imp
      (Nat.le_trans (by decide)) (Nat.le_trans · (by decide))

/-- Each character of a word takes one byte. -/
theorem utf8Size_of_isAlphanum : char.utf8Size = 1 := by
  rw [Char.utf8Size_eq_one_iff, UInt32.le_iff_toNat_le]
  exact (toNat_of_isAlphanum isWordChar).2.trans (by decide)

end CharacterClasses

/-- A text starts with a letter or a digit. -/
def StartsWord (chars : List Char) : Prop :=
  ∃ char rest, chars = char :: rest ∧ char.isAlphanum = true

/-- The first character of a text in front of a word belongs to the word or stands
before it. -/
theorem StartsWord.cons_cases
    {chars rest tail : List Char}
    {char : Char}
    (startsWord : StartsWord chars)
    (isText : char :: tail = rest ++ chars) :
    (rest = [] ∧ chars = char :: tail ∧ char.isAlphanum = true) ∨
      ∃ more, rest = char :: more ∧ tail = more ++ chars := by
  obtain ⟨first, chars, rfl, isWordChar⟩ := startsWord
  cases rest with
  | nil =>
      cases isText
      exact .inl ⟨rfl, rfl, isWordChar⟩
  | cons char rest =>
      cases isText
      exact .inr ⟨rest, rfl, rfl⟩

/-- No document starts or ends where a word starts. -/
theorem StartsWord.atBoundary_eq
    {chars : List Char}
    (startsWord : StartsWord chars)
    (mark : Mark) :
    Source.atBoundary ⟨mark, chars⟩ = false := by
  obtain ⟨char, rest, rfl, isWordChar⟩ := startsWord
  simp [Source.atBoundary, startsBoundary, ne_of_isAlphanum isWordChar]

/-- Two ends of texts that start with words. -/
structure WordEnds (firstEnd secondEnd : List Char) : Prop where
  first : StartsWord firstEnd
  second : StartsWord secondEnd

/-- Two sources stand at the same place before different ends of a text. -/
inductive Source.Twins (firstEnd secondEnd : List Char) : Source → Source → Prop where
  | intro (mark : Mark) (rest : List Char) :
      Twins firstEnd secondEnd ⟨mark, rest ++ firstEnd⟩ ⟨mark, rest ++ secondEnd⟩

/-- Something that is read before one end of a text, with at least some characters left,
is read before another end as well. -/
def Follows
    (kept firstEnd secondEnd : List Char)
    (firstReading secondReading : Option (α × Source)) :
    Prop :=
  ∀ value firstNext,
    firstReading = some (value, firstNext) →
      kept <:+ firstNext.rest →
        ∃ secondNext,
          secondReading = some (value, secondNext) ∧
            Source.Twins firstEnd secondEnd firstNext secondNext

/-- A reading leads on from a source. -/
def LeadsOn (source : Source) (reading : Option (α × Source)) : Prop :=
  ∀ value next, reading = some (value, next) → source.Leads next

section Ends

variable {kept firstEnd secondEnd : List Char}
variable {first second : Source}

namespace LeadsOn

variable {source : Source}

/-- Reading nothing leads on. -/
theorem pure
    {next : Source}
    (leads : source.Leads next)
    (value : α) :
    LeadsOn source (some (value, next)) := by
  rintro _ _ ⟨⟩
  exact leads

/-- A reading that fails leads nowhere else. -/
theorem fail : LeadsOn source (none : Option (α × Source)) := by
  rintro _ _ ⟨⟩

/-- A reading leads on from everything in front of it. -/
theorem of_leads
    {next : Source}
    {reading : Option (α × Source)}
    (leads : source.Leads next)
    (leadsOn : LeadsOn next reading) :
    LeadsOn source reading :=
  fun value last isLast => leads.trans (leadsOn value last isLast)

/-- Readings one after the other lead on if each of them does. -/
theorem bind
    {reading : Option (α × Source)}
    {next : α × Source → Option (β × Source)}
    (leads : LeadsOn source reading)
    (leadsOn : ∀ value after, LeadsOn after (next (value, after))) :
    LeadsOn source (reading >>= next) := by
  intro value last isLast
  obtain ⟨⟨between, after⟩, isBetween, isNext⟩ := Option.bind_eq_some_iff.mp isLast
  exact (leads between after isBetween).trans (leadsOn between after value last isNext)

/-- What is made of the value that was read does not matter. -/
theorem map
    {reading : Option (α × Source)}
    (leads : LeadsOn source reading)
    (change : α → β) :
    LeadsOn source (reading >>= fun result => some (change result.1, result.2)) :=
  leads.bind fun _ after => .pure (.refl after) _

end LeadsOn

namespace Follows

/-- A reading that fails is read before no end. -/
theorem fail
    {reading : Option (α × Source)} :
    Follows kept firstEnd secondEnd none reading := by
  rintro _ _ ⟨⟩

/-- Where twins are left, the same value is read before both ends. -/
theorem pure
    {firstNext secondNext : Source}
    (twins : kept <:+ firstNext.rest → Source.Twins firstEnd secondEnd firstNext secondNext)
    (value : α) :
    Follows kept firstEnd secondEnd (some (value, firstNext)) (some (value, secondNext)) := by
  rintro _ _ ⟨⟩ isKept
  exact ⟨_, rfl, twins isKept⟩

/-- The same case applies before both ends. -/
theorem ite
    {firstTest secondTest : Prop}
    [Decidable firstTest]
    [Decidable secondTest]
    {firstThen secondThen firstElse secondElse : Option (α × Source)}
    (same : firstTest ↔ secondTest)
    (isTrue : firstTest → Follows kept firstEnd secondEnd firstThen secondThen)
    (isFalse : ¬ firstTest → Follows kept firstEnd secondEnd firstElse secondElse) :
    Follows kept firstEnd secondEnd
      (if firstTest then firstThen else firstElse)
      (if secondTest then secondThen else secondElse) := by
  by_cases holds : firstTest
  · rw [if_pos holds, if_pos (same.mp holds)]
    exact isTrue holds
  · rw [if_neg holds, if_neg (mt same.mpr holds)]
    exact isFalse holds

/-- It is enough to look at readings that leave something of the text. -/
theorem of_kept
    {source : Source}
    {firstReading secondReading : Option (α × Source)}
    (leads : LeadsOn source firstReading)
    (follows :
      kept <:+ source.rest →
        Follows kept firstEnd secondEnd firstReading secondReading) :
    Follows kept firstEnd secondEnd firstReading secondReading :=
  fun value next isNext isKept =>
    follows (isKept.trans (leads value next isNext).suffix) value next isNext isKept

/-- One reading after another. -/
theorem bind
    {firstReading secondReading : Option (α × Source)}
    {firstNext secondNext : α × Source → Option (β × Source)}
    (follows : Follows kept firstEnd secondEnd firstReading secondReading)
    (leadsOn : ∀ value after, LeadsOn after (firstNext (value, after)))
    (next :
      ∀ value firstAfter secondAfter,
        Source.Twins firstEnd secondEnd firstAfter secondAfter →
          Follows kept firstEnd secondEnd
            (firstNext (value, firstAfter)) (secondNext (value, secondAfter))) :
    Follows kept firstEnd secondEnd
      (firstReading >>= firstNext) (secondReading >>= secondNext) := by
  intro value firstLast isLast isKept
  obtain ⟨⟨between, firstAfter⟩, isFirst, isNext⟩ := Option.bind_eq_some_iff.mp isLast
  have keptBetween : kept <:+ firstAfter.rest :=
    isKept.trans (leadsOn between firstAfter value firstLast isNext).suffix
  obtain ⟨secondAfter, isSecond, twins⟩ := follows between firstAfter isFirst keptBetween
  obtain ⟨secondLast, isSecondLast, lastTwins⟩ :=
    next between firstAfter secondAfter twins value firstLast isNext isKept
  refine ⟨secondLast, ?_, lastTwins⟩
  rw [isSecond]
  exact isSecondLast

/-- The same is made of the values that were read. -/
theorem map
    {firstReading secondReading : Option (α × Source)}
    (follows : Follows kept firstEnd secondEnd firstReading secondReading)
    (change : α → β) :
    Follows kept firstEnd secondEnd
      (firstReading >>= fun result => some (change result.1, result.2))
      (secondReading >>= fun result => some (change result.1, result.2)) :=
  follows.bind (fun _ after => .pure (.refl after) _) fun _ _ _ twins => .pure (fun _ => twins) _

end Follows

namespace WordEnds

variable (ends : WordEnds firstEnd secondEnd)
include ends

/-- Whatever does not tell letters and digits apart, finds the same character next. -/
theorem head?_eq
    (test : Option Char → β)
    (alike :
      ∀ char other : Char, char.isAlphanum = true → other.isAlphanum = true →
        test (some char) = test (some other))
    (rest : List Char) :
    test (rest ++ firstEnd).head? = test (rest ++ secondEnd).head? := by
  cases rest with
  | nil =>
      obtain ⟨⟨char, firstRest, rfl, isFirst⟩, ⟨other, secondRest, rfl, isSecond⟩⟩ := ends
      exact alike char other isFirst isSecond
  | cons char rest =>
      rfl

/-- No break goes on in a word. -/
theorem single
    {char : Char}
    {rest : List Char}
    (isSingle : ∀ tail, char = '\r' → rest ++ firstEnd = '\n' :: tail → False)
    (tail : List Char)
    (isReturn : char = '\r')
    (isPair : rest ++ secondEnd = '\n' :: tail) :
    False := by
  rcases ends.second.cons_cases isPair.symm with ⟨_, _, isWordChar⟩ | ⟨more, rfl, _⟩
  · cases isWordChar
  · exact isSingle _ isReturn rfl

/-- Whether a word ends here is the same before both words. -/
theorem endsWord_eq (rest : List Char) :
    endsWord (rest ++ firstEnd) = endsWord (rest ++ secondEnd) := by
  cases rest with
  | nil =>
      obtain ⟨⟨char, firstRest, rfl, isFirst⟩, ⟨other, secondRest, rfl, isSecond⟩⟩ := ends
      exact (isSeparator_of_isAlphanum isFirst).trans
        (isSeparator_of_isAlphanum isSecond).symm
  | cons char rest =>
      rfl

/-- Three marks of a boundary do not go into the word. -/
theorem startsBoundary_eq (rest : List Char) :
    startsBoundary (rest ++ firstEnd) = startsBoundary (rest ++ secondEnd) := by
  match rest with
  | [] | [_] | [_, _] =>
      obtain ⟨⟨char, firstRest, rfl, isFirst⟩, ⟨other, secondRest, rfl, isSecond⟩⟩ := ends
      simp [startsBoundary, ne_of_isAlphanum isFirst, ne_of_isAlphanum isSecond]
  | first :: second :: third :: rest =>
      have isWord := ends.endsWord_eq rest
      have byMarks : ∀ rest,
          startsBoundary (first :: second :: third :: rest) =
            ((first = '-' ∧ second = '-' ∧ third = '-' ∨
              first = '.' ∧ second = '.' ∧ third = '.') && endsWord rest) := by
        intro rest
        unfold startsBoundary
        split
        case h_1 isDashes | h_2 isDots =>
          simp_all
        case h_3 notDashes notDots =>
          symm
          rw [Bool.and_eq_false_iff, decide_eq_false_iff_not]
          left
          rintro (⟨rfl, rfl, rfl⟩ | ⟨rfl, rfl, rfl⟩)
          · exact notDashes rest rfl
          · exact notDots rest rfl
      simp only [List.cons_append, byMarks, isWord]

/-- If not more than the shared part is taken, the same is taken. -/
theorem takeWhile_eq
    {matching : Char → Bool}
    (alike :
      ∀ char other : Char, char.isAlphanum = true → other.isAlphanum = true →
        matching char = matching other)
    {rest : List Char}
    (isShort : ((rest ++ firstEnd).takeWhile matching).length ≤ rest.length) :
    (rest ++ firstEnd).takeWhile matching = (rest ++ secondEnd).takeWhile matching := by
  induction rest with
  | nil =>
      obtain ⟨⟨char, firstRest, rfl, isFirst⟩, ⟨other, secondRest, rfl, isSecond⟩⟩ := ends
      have same := alike char other isFirst isSecond
      cases isMatch : matching char with
      | true =>
          simp [isMatch] at isShort
      | false =>
          rw [List.nil_append, List.nil_append, List.takeWhile_cons, List.takeWhile_cons,
            ← same, isMatch]
          rfl
  | cons char rest inductionHypothesis =>
      simp only [List.cons_append, List.takeWhile_cons] at isShort ⊢
      split at isShort
      case isTrue isMatch =>
        rw [if_pos isMatch, if_pos isMatch,
          inductionHypothesis (Nat.le_of_succ_le_succ isShort)]
      case isFalse isMatch =>
        rw [if_neg isMatch, if_neg isMatch]

/-- No more than the shared part is passed over as long as the first end is kept. -/
theorem count_le
    {rest : List Char}
    {count : Nat}
    (isKept : firstEnd <:+ (rest ++ firstEnd).drop count) :
    count ≤ rest.length := by
  obtain ⟨⟨char, firstRest, rfl, _⟩, _⟩ := ends
  have isLong := isKept.length_le
  rw [List.length_drop, List.length_append, List.length_cons] at isLong
  omega

/-- White space stops before a word. -/
theorem takeWhile_append
    {matching : Char → Bool}
    (stops : ∀ char : Char, char.isAlphanum = true → matching char = false)
    (rest : List Char) :
    (rest ++ firstEnd).takeWhile matching = rest.takeWhile matching := by
  obtain ⟨⟨char, firstRest, rfl, isFirst⟩, _⟩ := ends
  induction rest with
  | nil =>
      exact List.takeWhile_cons_of_neg (by simp [stops char isFirst])
  | cons other rest inductionHypothesis =>
      rw [List.cons_append, List.takeWhile_cons, List.takeWhile_cons, inductionHypothesis]

end WordEnds

namespace Source

namespace Twins

theorem skip_of_le
    (mark : Mark)
    {rest : List Char}
    {count : Nat}
    (isShort : count ≤ rest.length) :
    Twins firstEnd secondEnd
      (Source.skip ⟨mark, rest ++ firstEnd⟩ count)
      (Source.skip ⟨mark, rest ++ secondEnd⟩ count) := by
  unfold Source.skip
  dsimp only
  rw [List.take_append_of_le_length isShort, List.take_append_of_le_length isShort,
    List.drop_append_of_le_length isShort, List.drop_append_of_le_length isShort]
  exact .intro _ _

variable (twins : Twins firstEnd secondEnd first second)
include twins

/-- Twins stand at the same place. -/
theorem mark_eq : first.mark = second.mark := by
  obtain ⟨mark, rest⟩ := twins
  rfl

/-- The first twin has the first end in front of it. -/
theorem suffix : firstEnd <:+ first.rest := by
  obtain ⟨mark, rest⟩ := twins
  exact ⟨rest, rfl⟩

/-- If another character is left before the end, both sources start with the same
character. -/
theorem exists_cons
    {char : Char}
    (isKept : char :: firstEnd <:+ first.rest) :
    ∃ mark head rest,
      first = ⟨mark, head :: (rest ++ firstEnd)⟩ ∧
        second = ⟨mark, head :: (rest ++ secondEnd)⟩ := by
  obtain ⟨mark, rest⟩ := twins
  cases rest with
  | nil =>
      exact (Nat.not_succ_le_self _ isKept.length_le).elim
  | cons head rest =>
      exact ⟨mark, head, rest, rfl, rfl⟩

/-- Twins skip the same characters if one more is left before the end. -/
theorem skip_of_more
    {char : Char}
    {count : Nat}
    (isKept : char :: firstEnd <:+ (first.skip count).rest) :
    Twins firstEnd secondEnd (first.skip count) (second.skip count) := by
  obtain ⟨mark, rest⟩ := twins
  have isLong := isKept.length_le
  refine skip_of_le mark ?_
  simp only [Source.skip, List.length_drop, List.length_append, List.length_cons] at isLong
  omega

/-- A run of characters that ends before the shared part does is the same in both
texts. -/
theorem takeWhile_of_more
    {char : Char}
    {matching : Char → Bool}
    (isKept : char :: firstEnd <:+ (first.skipWhile matching).rest) :
    first.rest.takeWhile matching = second.rest.takeWhile matching := by
  obtain ⟨mark, rest⟩ := twins
  have isLong := isKept.length_le
  have isShort : ((rest ++ firstEnd).takeWhile matching).length < rest.length := by
    simp only [Source.skipWhile, Source.skip, List.length_drop, List.length_append,
      List.length_cons] at isLong
    omega
  have isInner : (rest.takeWhile matching).length ≠ rest.length := by
    intro isWhole
    rw [List.takeWhile_append, if_pos isWhole, List.length_append] at isShort
    omega
  dsimp only
  rw [List.takeWhile_append, List.takeWhile_append, if_neg isInner, if_neg isInner]

/-- Twins skip the same run of characters if one more is left before the end. -/
theorem skipWhile_of_more
    {char : Char}
    {matching : Char → Bool}
    (isKept : char :: firstEnd <:+ (first.skipWhile matching).rest) :
    Twins firstEnd secondEnd (first.skipWhile matching) (second.skipWhile matching) := by
  have sameRun := twins.takeWhile_of_more isKept
  unfold Source.skipWhile at isKept ⊢
  rw [← sameRun]
  exact twins.skip_of_more isKept

/-- Some characters are passed over that are shared by both texts. -/
theorem skip
    (ends : WordEnds firstEnd secondEnd)
    {count : Nat}
    (isKept : firstEnd <:+ (first.skip count).rest) :
    Twins firstEnd secondEnd (first.skip count) (second.skip count) := by
  obtain ⟨mark, rest⟩ := twins
  exact skip_of_le mark (ends.count_le isKept)

variable (ends : WordEnds firstEnd secondEnd)
include ends

/-- Whether a document starts or ends here is the same for twins. -/
theorem atBoundary_eq : first.atBoundary = second.atBoundary := by
  obtain ⟨mark, rest⟩ := twins
  unfold Source.atBoundary
  rw [ends.startsBoundary_eq]

/-- A test of the next character that holds of all characters of words or of none is the
same for twins. -/
theorem head?_eq
    (test : Option Char → β)
    (alike :
      ∀ char other : Char, char.isAlphanum = true → other.isAlphanum = true →
        test (some char) = test (some other)) :
    test first.rest.head? = test second.rest.head? := by
  obtain ⟨mark, rest⟩ := twins
  exact ends.head?_eq test alike rest

/-- If a class without letters and digits comes next, so does a character before the
word. -/
theorem exists_char_of_head
    (test : Option Char → Bool)
    (stops : ∀ char : Char, char.isAlphanum = true → test (some char) = false)
    (isNext : test first.rest.head? = true) :
    ∃ char, char :: firstEnd <:+ first.rest := by
  obtain ⟨mark, rest⟩ := twins
  rcases List.eq_nil_or_concat rest with rfl | ⟨init, last, rfl⟩
  · obtain ⟨⟨char, firstRest, rfl, isFirst⟩, _⟩ := ends
    rw [List.nil_append, List.head?_cons, stops char isFirst] at isNext
    cases isNext
  · exact ⟨last, init, by simp⟩

/-- A run of characters that ends before the word is the same in both texts. -/
theorem takeWhile_eq
    {matching : Char → Bool}
    (alike :
      ∀ char other : Char, char.isAlphanum = true → other.isAlphanum = true →
        matching char = matching other)
    (isKept : firstEnd <:+ (first.skipWhile matching).rest) :
    first.rest.takeWhile matching = second.rest.takeWhile matching := by
  obtain ⟨mark, rest⟩ := twins
  exact ends.takeWhile_eq alike (ends.count_le isKept)

/-- Twins skip the same run of characters if all characters of words are in it or none is.
-/
theorem skipWhile
    {matching : Char → Bool}
    (alike :
      ∀ char other : Char, char.isAlphanum = true → other.isAlphanum = true →
        matching char = matching other)
    (isKept : firstEnd <:+ (first.skipWhile matching).rest) :
    Twins firstEnd secondEnd (first.skipWhile matching) (second.skipWhile matching) := by
  have sameRun := twins.takeWhile_eq ends alike isKept
  unfold Source.skipWhile at isKept ⊢
  rw [← sameRun]
  exact twins.skip ends isKept

/-- What stops before words, stops at the same place in both texts. -/
theorem skipWhile_of_stops
    {matching : Char → Bool}
    (stops : ∀ char : Char, char.isAlphanum = true → matching char = false) :
    Twins firstEnd secondEnd (first.skipWhile matching) (second.skipWhile matching) := by
  refine twins.skipWhile ends
    (fun char other isFirst isSecond => (stops char isFirst).trans (stops other isSecond).symm)
    ?_
  obtain ⟨mark, rest⟩ := twins
  unfold Source.skipWhile Source.skip
  dsimp only
  rw [ends.takeWhile_append stops,
    List.drop_append_of_le_length (List.takeWhile_prefix matching).length_le]
  exact List.suffix_append _ _

/-- The same white space is passed over. -/
theorem white :
    first.white = second.white ∧
      Twins firstEnd secondEnd (first.beyond first.white) (second.beyond second.white) := by
  obtain ⟨mark, rest⟩ := twins
  have flipped : WordEnds secondEnd firstEnd := ⟨ends.second, ends.first⟩
  have firstWhite := ends.takeWhile_append (fun _ => isWhite_of_isAlphanum) rest
  have secondWhite := flipped.takeWhile_append (fun _ => isWhite_of_isAlphanum) rest
  have isShort : (rest.takeWhile isWhite).length ≤ rest.length :=
    (List.takeWhile_prefix isWhite).length_le
  unfold Source.white Source.beyond
  dsimp only
  rw [firstWhite, secondWhite, List.drop_append_of_le_length isShort,
    List.drop_append_of_le_length isShort]
  exact ⟨rfl, .intro _ _⟩

end Twins

/-- A break that is no pair is a single character. -/
theorem skipBreak_cons
    (mark : Mark)
    {char : Char}
    {rest : List Char}
    (single : char = '\r' → rest.head? ≠ some '\n') :
    skipBreak ⟨mark, char :: rest⟩ =
      if isBreak char then ⟨mark.down char.utf8Size, rest⟩ else ⟨mark, char :: rest⟩ := by
  unfold skipBreak
  split
  case h_1 rest isPair =>
    cases isPair
    exact (single rfl rfl).elim
  case h_2 isCons =>
    cases isCons
    rfl
  case h_3 isNil =>
    cases isNil

/-- The break before a word, if there is one, is the same. -/
theorem Twins.skipBreak
    (twins : Twins firstEnd secondEnd first second)
    (ends : WordEnds firstEnd secondEnd) :
    Twins firstEnd secondEnd first.skipBreak second.skipBreak := by
  obtain ⟨mark, rest⟩ := twins
  cases rest with
  | nil =>
      obtain ⟨⟨char, firstRest, rfl, isFirst⟩, ⟨other, secondRest, rfl, isSecond⟩⟩ := ends
      rw [List.nil_append, List.nil_append,
        skipBreak_cons mark fun isReturn => (ne_of_isAlphanum isFirst rfl isReturn).elim,
        skipBreak_cons mark fun isReturn => (ne_of_isAlphanum isSecond rfl isReturn).elim,
        isBreak_of_isAlphanum isFirst, isBreak_of_isAlphanum isSecond]
      exact .intro mark []
  | cons char rest =>
      have sameHead :
          ((rest ++ firstEnd).head? = some '\n') = ((rest ++ secondEnd).head? = some '\n') :=
        ends.head?_eq (· = some '\n')
          (fun char other isFirst isSecond => by
            simp [ne_of_isAlphanum isFirst, ne_of_isAlphanum isSecond])
          rest
      by_cases single : char = '\r' → (rest ++ firstEnd).head? ≠ some '\n'
      · have secondSingle : char = '\r' → (rest ++ secondEnd).head? ≠ some '\n' := by
          rwa [Ne, ← sameHead]
        rw [List.cons_append, List.cons_append, skipBreak_cons mark single,
          skipBreak_cons mark secondSingle]
        split
        · exact .intro _ rest
        · exact .intro mark (char :: rest)
      · rw [Classical.not_imp, not_not] at single
        obtain ⟨rfl, isNext⟩ := single
        cases rest with
        | nil =>
            obtain ⟨⟨char, firstRest, rfl, isFirst⟩, _⟩ := ends
            exact (ne_of_isAlphanum isFirst rfl (Option.some.inj isNext)).elim
        | cons char rest =>
            cases isNext
            exact .intro _ rest

/-- Twins go to the end of their line alike. -/
theorem Twins.lineEnd
    (twins : Twins firstEnd secondEnd first second)
    (ends : WordEnds firstEnd secondEnd)
    (isKept : firstEnd <:+ first.lineEnd.rest) :
    Twins firstEnd secondEnd first.lineEnd second.lineEnd := by
  have blanks := twins.skipWhile_of_stops ends fun _ => isBlank_of_isAlphanum
  have sameComment := blanks.head?_eq ends (· = some '#')
    fun char other isFirst isSecond => by
      simp [ne_of_isAlphanum isFirst, ne_of_isAlphanum isSecond]
  unfold Source.lineEnd at isKept ⊢
  dsimp only at isKept ⊢
  split at isKept
  case isTrue isComment =>
    rw [if_pos isComment, if_pos (sameComment.mp isComment)]
    exact blanks.skipWhile ends
      (fun char other isFirst isSecond => by
        rw [isBreak_of_isAlphanum isFirst, isBreak_of_isAlphanum isSecond])
      isKept
  case isFalse isEnd =>
    rw [if_neg isEnd, if_neg (mt sameComment.mpr isEnd)]
    exact blanks

/-- A line without content is finished in both texts, and at least its break stands
before the word. -/
theorem Twins.finishLine?
    {firstNext : Source}
    (twins : Twins firstEnd secondEnd first second)
    (ends : WordEnds firstEnd secondEnd)
    (finished : first.finishLine? = some firstNext)
    (isKept : firstEnd <:+ firstNext.rest) :
    (∃ secondNext,
        second.finishLine? = some secondNext ∧
          Twins firstEnd secondEnd firstNext secondNext) ∧
      ∃ char, char :: firstEnd <:+ first.rest := by
  rw [finishLine?_eq, Option.ite_none_right_eq_some, Option.some.injEq] at finished
  obtain ⟨atEnd, rfl⟩ := finished
  have lineEnd := twins.lineEnd ends (isKept.trans (leads_skipBreak _).suffix)
  have sameEnd := lineEnd.head?_eq ends (Option.all isBreak)
    fun char other isFirst isSecond => by
      simp [isBreak_of_isAlphanum isFirst, isBreak_of_isAlphanum isSecond]
  constructor
  · rw [sameEnd] at atEnd
    rw [finishLine?_eq, if_pos atEnd]
    exact ⟨_, rfl, lineEnd.skipBreak ends⟩
  · obtain ⟨char, isSuffix⟩ := lineEnd.exists_char_of_head ends (Option.all isBreak)
      (fun char isWordChar => isBreak_of_isAlphanum isWordChar) atEnd
    exact ⟨char, isSuffix.trans (leads_lineEnd first).suffix⟩

/-- Every source is a twin of itself. -/
theorem Twins.of_suffix
    {source : Source}
    (isSuffix : firstEnd <:+ source.rest) :
    Twins firstEnd firstEnd source source := by
  obtain ⟨mark, _⟩ := source
  obtain ⟨rest, rfl⟩ := isSuffix
  exact .intro mark rest

end Source

/-- What is read up to the end of a line may rely on a break before the word. -/
theorem Follows.finishLine
    {firstReading secondReading : Option (α × Source)}
    (ends : WordEnds firstEnd secondEnd)
    (follows :
      ∀ char, Follows (char :: firstEnd) firstEnd secondEnd firstReading secondReading)
    (build : α → β) :
    Follows firstEnd firstEnd secondEnd
      (firstReading >>= fun result =>
        result.2.finishLine? >>= fun next => some (build result.1, next))
      (secondReading >>= fun result =>
        result.2.finishLine? >>= fun next => some (build result.1, next)) := by
  intro value last isLast isKept
  obtain ⟨⟨between, firstAfter⟩, isFirst, isNext⟩ := Option.bind_eq_some_iff.mp isLast
  obtain ⟨next, finished, isSome⟩ := Option.bind_eq_some_iff.mp isNext
  cases isSome
  have keptAfter := isKept.trans (Source.leads_of_finishLine? finished).suffix
  obtain ⟨_, char, keptChar⟩ :=
    (Source.Twins.of_suffix keptAfter).finishLine? ⟨ends.first, ends.first⟩ finished isKept
  obtain ⟨secondAfter, isSecond, twins⟩ := follows char between firstAfter isFirst keptChar
  obtain ⟨⟨secondLast, isFinished, lastTwins⟩, _⟩ := twins.finishLine? ends finished isKept
  refine ⟨secondLast, ?_, lastTwins⟩
  rw [isSecond, Option.bind_eq_bind, Option.bind_some, isFinished]
  rfl

end Ends

/-- Finishing a line leads on. -/
theorem LeadsOn.finishLine
    (source : Source)
    (value : α) :
    LeadsOn source (source.finishLine? >>= fun next => some (value, next)) := by
  intro _ last isLast
  obtain ⟨next, finished, isSome⟩ := Option.bind_eq_some_iff.mp isLast
  cases isSome
  exact Source.leads_of_finishLine? finished

end AlertReceivers.Yaml
