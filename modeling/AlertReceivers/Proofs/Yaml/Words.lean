import AlertReceivers.Proofs.Yaml.Source
import AlertReceivers.Yaml.Scalar.Words

namespace AlertReceivers.Yaml

/-!
# Words before two ends

Scalars without quotes are read the same way before either end of a text.  If the end
itself is such a scalar, its first word is read as it stands.
-/

variable {firstEnd secondEnd : List Char}
variable {first second : Source}
variable {inFlow : Bool}
variable {indent fuel : Nat}
variable {white : List Char}

/-- A letter or digit belongs to the word that goes on after it. -/
theorem word?_cons_of_isAlphanum
    {char : Char}
    (isWordChar : char.isAlphanum = true)
    (rest : List Char) :
    word? inFlow (char :: rest) = (word? inFlow rest).map fun word => char :: word := by
  have notMark : flowMarks.contains char = false := by
    simp [flowMarks, ne_of_isAlphanum isWordChar]
  rw [word?, isWhite_of_isAlphanum isWordChar, notMark]
  simp [ne_of_isAlphanum isWordChar]

/-- A word that ends before the end of the text is the same in both. -/
theorem word?_eq
    (ends : WordEnds firstEnd secondEnd)
    {rest word : List Char}
    (isWord : word? inFlow (rest ++ firstEnd) = some word)
    (isShort : word.length ≤ rest.length) :
    word? inFlow (rest ++ secondEnd) = some word := by
  induction rest generalizing word with
  | nil =>
      obtain ⟨⟨char, firstRest, rfl, isFirst⟩, _⟩ := ends
      rw [List.nil_append, word?_cons_of_isAlphanum isFirst, Option.map_eq_some_iff] at isWord
      obtain ⟨_, _, rfl⟩ := isWord
      cases isShort
  | cons char rest inductionHypothesis =>
      have sameMark := ends.head?_eq (fun head => head.any ('?' :: flowMarks).contains)
        (fun char other isFirst isSecond => by
          simp [flowMarks, ne_of_isAlphanum isFirst, ne_of_isAlphanum isSecond])
        rest
      simp only [List.cons_append, word?, sameMark, ends.endsWord_eq rest] at isWord ⊢
      split at isWord
      case isTrue isEnd =>
        rw [if_pos isEnd]
        exact isWord
      case isFalse notWhite =>
      rw [if_neg notWhite]
      split at isWord
      case isTrue =>
        cases isWord
      case isFalse notRefused =>
      rw [if_neg notRefused]
      split at isWord
      case isTrue isEnd =>
        rw [if_pos isEnd]
        exact isWord
      case isFalse goesOn =>
      rw [if_neg goesOn]
      obtain ⟨shorter, isShorter, rfl⟩ := Option.map_eq_some_iff.mp isWord
      rw [inductionHypothesis isShorter (Nat.le_of_succ_le_succ isShort)]
      rfl

/-- A word in front of the end is the same for twins. -/
theorem Source.Twins.word?_eq
    {word : List Char}
    (twins : Source.Twins firstEnd secondEnd first second)
    (ends : WordEnds firstEnd secondEnd)
    (isWord : word? inFlow first.rest = some word)
    (isKept : firstEnd <:+ (first.skip word.length).rest) :
    word? inFlow second.rest = some word := by
  obtain ⟨mark, rest⟩ := twins
  exact Yaml.word?_eq ends isWord (ends.count_le isKept)

/-- After a word, the rest of a scalar is read from there. -/
theorem leads_of_word
    {source : Source}
    {word : List Char}
    {words : Words}
    (leadsOn :
      ∀ {white source words},
        readWords inFlow indent fuel white source = some words → source.Leads words.after)
    (goesOn : ¬ (source.atBoundary || source.rest.head? == some '#') = true)
    (isWord : word? inFlow source.rest = some word)
    (nonempty : ¬ word.isEmpty = true)
    (isRead : readWords inFlow indent (fuel + 1) white source = some words) :
    (source.skip word.length).Leads words.after := by
  rw [readWords, if_neg goesOn, isWord] at isRead
  dsimp only [Option.bind_eq_bind, Option.bind_some] at isRead
  rw [if_neg nonempty] at isRead
  refine (Source.leads_white _).trans ?_
  split at isRead
  · cases isRead
  split at isRead
  · cases isRead
    exact .refl _
  obtain ⟨others, isOthers, isLast⟩ := Option.bind_eq_some_iff.mp isRead
  have leads := leadsOn isOthers
  cases isLast
  exact leads

/-- Reading words goes on in the text. -/
theorem leads_of_readWords
    {words : Words}
    (isRead : readWords inFlow indent fuel white first = some words) :
    first.Leads words.after := by
  induction fuel generalizing white first words with
  | zero =>
      cases isRead
  | succ fuel inductionHypothesis =>
      have isStep := isRead
      rw [readWords] at isStep
      split at isStep
      case isTrue =>
        cases isStep
        exact .refl _
      case isFalse goesOn =>
      obtain ⟨word, isWord, isRest⟩ := Option.bind_eq_some_iff.mp isStep
      split at isRest
      case isTrue =>
        cases isRest
        exact .refl _
      case isFalse nonempty =>
      exact (first.leads_skip _).trans
        (leads_of_word inductionHypothesis goesOn isWord nonempty isRead)

/-- Words that end before the end of the text are the same in both. -/
theorem readWords_follows
    {words : Words}
    (ends : WordEnds firstEnd secondEnd)
    (twins : Source.Twins firstEnd secondEnd first second)
    (isRead : readWords inFlow indent fuel white first = some words)
    (isKept : firstEnd <:+ words.after.rest) :
    ∃ secondAfter,
      readWords inFlow indent fuel white second =
          some { words with after := secondAfter } ∧
        Source.Twins firstEnd secondEnd words.after secondAfter := by
  induction fuel generalizing white first second words with
  | zero =>
      cases isRead
  | succ fuel inductionHypothesis =>
      have sameComment := twins.head?_eq ends (· == some '#')
        fun char other isFirst isSecond => by
          simp [ne_of_isAlphanum isFirst, ne_of_isAlphanum isSecond]
      have isStep := isRead
      rw [readWords] at isStep ⊢
      rw [← twins.atBoundary_eq ends, ← sameComment]
      split at isStep
      case isTrue isEnd =>
        rw [if_pos isEnd]
        cases isStep
        exact ⟨second, rfl, twins⟩
      case isFalse goesOn =>
      rw [if_neg goesOn]
      obtain ⟨word, isWord, isRest⟩ := Option.bind_eq_some_iff.mp isStep
      split at isRest
      case isTrue isEmpty =>
        rw [List.isEmpty_iff] at isEmpty
        subst isEmpty
        cases isRest
        rw [twins.word?_eq ends isWord twins.suffix]
        exact ⟨second, rfl, twins⟩
      case isFalse nonempty =>
      have isKeptThere : firstEnd <:+ (first.skip word.length).rest :=
        isKept.trans
          (leads_of_word leads_of_readWords goesOn isWord nonempty isRead).suffix
      have afterWord := twins.skip ends isKeptThere
      rw [twins.word?_eq ends isWord isKeptThere]
      obtain ⟨sameWhite, afterWhite⟩ := afterWord.white ends
      rw [← sameWhite] at afterWhite
      dsimp only [Option.bind_eq_bind, Option.bind_some] at isRest ⊢
      rw [if_neg nonempty, ← afterWord.mark_eq, ← sameWhite, ← afterWhite.mark_eq]
      split at isRest
      case isTrue =>
        cases isRest
      case isFalse noTab =>
      rw [if_neg noTab]
      split at isRest
      case isTrue isEnd =>
        rw [if_pos isEnd]
        cases isRest
        exact ⟨_, rfl, afterWhite⟩
      case isFalse goesOn =>
      rw [if_neg goesOn]
      obtain ⟨others, isOthers, isLast⟩ := Option.bind_eq_some_iff.mp isRest
      cases isLast
      obtain ⟨secondAfter, isSecond, lastTwins⟩ :=
        inductionHypothesis afterWhite isOthers isKept
      rw [isSecond]
      exact ⟨secondAfter, rfl, lastTwins⟩

/-- A text is one word of letters and digits. -/
structure IsWord (word : List Char) : Prop where
  nonempty : word ≠ []
  isAlphanum : ∀ char ∈ word, char.isAlphanum = true

/-- Whether characters are a word can be computed. -/
theorem isWord_iff {word : List Char} :
    IsWord word ↔ (!word.isEmpty && word.all Char.isAlphanum) = true := by
  simp only [Bool.and_eq_true, Bool.not_eq_true', List.isEmpty_eq_false_iff, List.all_eq_true]
  exact ⟨fun isWord => ⟨isWord.nonempty, isWord.isAlphanum⟩, fun isWord => ⟨isWord.1, isWord.2⟩⟩

instance : DecidablePred IsWord :=
  fun _ => decidable_of_iff _ isWord_iff.symm

/-- A word starts a text that begins with it. -/
theorem IsWord.startsWord_append
    {word : List Char}
    (isWord : IsWord word)
    (after : List Char) :
    StartsWord (word ++ after) := by
  obtain ⟨nonempty, isAlphanum⟩ := isWord
  cases word with
  | nil =>
      exact (nonempty rfl).elim
  | cons char rest =>
      exact ⟨char, rest ++ after, rfl, isAlphanum char List.mem_cons_self⟩

/-- Neither the boundary of a document nor a comment starts with a word. -/
theorem StartsWord.goesOn
    {chars : List Char}
    (startsWord : StartsWord chars)
    (mark : Mark) :
    ¬ (Source.atBoundary ⟨mark, chars⟩ || chars.head? == some '#') = true := by
  rw [startsWord.atBoundary_eq]
  obtain ⟨char, rest, rfl, isWordChar⟩ := startsWord
  simp [ne_of_isAlphanum isWordChar]

theorem word?_append
    {word : List Char}
    (isAlphanum : ∀ char ∈ word, char.isAlphanum = true)
    (after : List Char) :
    word? inFlow (word ++ after) = (word? inFlow after).map fun more => word ++ more := by
  induction word with
  | nil =>
      simp
  | cons char word inductionHypothesis =>
      rw [List.cons_append, word?_cons_of_isAlphanum (isAlphanum char List.mem_cons_self),
        inductionHypothesis fun other member => isAlphanum other (List.mem_cons_of_mem _ member),
        Option.map_map]
      rfl

theorem skip_append
    (mark : Mark)
    (word after : List Char)
    (count : Nat) :
    Source.skip ⟨mark, word ++ after⟩ (word.length + count) =
      Source.skip ⟨mark.passAll word, after⟩ count := by
  simp [Source.skip, Mark.passAll, List.take_length_add_append]

/-- Words of the same length lead to the same place. -/
theorem passAll_eq
    {word other : List Char}
    (isAlphanum : ∀ char ∈ word, char.isAlphanum = true)
    (otherIsAlphanum : ∀ char ∈ other, char.isAlphanum = true)
    (sameLength : word.length = other.length)
    (mark : Mark) :
    mark.passAll word = mark.passAll other := by
  induction word generalizing other mark with
  | nil =>
      rw [List.eq_nil_of_length_eq_zero sameLength.symm]
  | cons char word inductionHypothesis =>
      cases other with
      | nil =>
          cases sameLength
      | cons otherChar other =>
          obtain ⟨isHead, isRest⟩ := List.forall_mem_cons.mp isAlphanum
          obtain ⟨otherIsHead, otherIsRest⟩ := List.forall_mem_cons.mp otherIsAlphanum
          have samePass : mark.pass char = mark.pass otherChar := by
            rw [Mark.pass, Mark.pass, utf8Size_of_isAlphanum isHead,
              utf8Size_of_isAlphanum otherIsHead]
          change (mark.pass char).passAll word = (mark.pass otherChar).passAll other
          rw [samePass]
          exact inductionHypothesis isRest otherIsRest (Nat.succ.inj sameLength) _

/-- A word of the same length in place of another one is read as it stands, and what
comes after it stays the same. -/
theorem readWords_at_word
    {word other after : List Char}
    {mark : Mark}
    {words : Words}
    (isWord : IsWord word)
    (otherIsWord : IsWord other)
    (sameLength : word.length = other.length)
    (isRead : readWords inFlow indent fuel [] ⟨mark, word ++ after⟩ = some words) :
    ∃ text,
      words.text = word ++ text ∧
        readWords inFlow indent fuel [] ⟨mark, other ++ after⟩ =
          some { words with text := other ++ text } := by
  cases fuel with
  | zero =>
      cases isRead
  | succ fuel =>
      rw [readWords, if_neg (StartsWord.goesOn (isWord.startsWord_append after) mark),
        word?_append isWord.isAlphanum] at isRead
      rw [readWords, if_neg (StartsWord.goesOn (otherIsWord.startsWord_append after) mark),
        word?_append otherIsWord.isAlphanum]
      cases isMore : word? inFlow after with
      | none =>
          rw [isMore] at isRead
          cases isRead
      | some more =>
          rw [isMore] at isRead
          have isNonempty : ¬ (word ++ more).isEmpty = true := by
            simp [isWord.nonempty]
          have otherIsNonempty : ¬ (other ++ more).isEmpty = true := by
            simp [otherIsWord.nonempty]
          dsimp only [Option.map_some, Option.bind_eq_bind, Option.bind_some] at isRead ⊢
          rw [if_neg isNonempty, List.length_append, skip_append] at isRead
          rw [if_neg otherIsNonempty, List.length_append, skip_append,
            ← passAll_eq isWord.isAlphanum otherIsWord.isAlphanum sameLength]
          split at isRead
          case isTrue =>
            cases isRead
          case isFalse noTab =>
          rw [if_neg noTab]
          split at isRead
          case isTrue isEnd =>
            rw [if_pos isEnd]
            cases isRead
            exact ⟨more, rfl, rfl⟩
          case isFalse goesOn =>
          rw [if_neg goesOn]
          obtain ⟨others, isOthers, isLast⟩ := Option.bind_eq_some_iff.mp isRead
          cases isLast
          rw [isOthers]
          have noWhite : foldWhite [] = [] := rfl
          refine ⟨more ++ others.text, ?_, ?_⟩
          · simp only [noWhite, List.nil_append, List.append_assoc]
          · simp only [noWhite, List.nil_append, List.append_assoc, Option.bind_some]

/-- A word takes up some of the text. -/
theorem offset_lt_of_readWords
    {word after : List Char}
    {mark : Mark}
    {words : Words}
    (isWord : IsWord word)
    (isRead : readWords inFlow indent fuel [] ⟨mark, word ++ after⟩ = some words) :
    mark.offset < words.after.mark.offset := by
  cases fuel with
  | zero =>
      cases isRead
  | succ fuel =>
      have goesOn := StartsWord.goesOn (isWord.startsWord_append after) mark
      have isStep := isRead
      rw [readWords, if_neg goesOn] at isStep
      obtain ⟨text, isText, _⟩ := Option.bind_eq_some_iff.mp isStep
      have isWhole := isText
      rw [word?_append isWord.isAlphanum] at isWhole
      obtain ⟨more, _, rfl⟩ := Option.map_eq_some_iff.mp isWhole
      have leads := leads_of_word leads_of_readWords goesOn isText
        (by simp [isWord.nonempty]) isRead
      rw [List.length_append, skip_append] at leads
      calc
        mark.offset < mark.offset + String.utf8Len word :=
          Nat.lt_add_of_pos_right (utf8Len_pos isWord.nonempty)
        _ = (mark.passAll word).offset := (mark.offset_passAll word).symm
        _ ≤ words.after.mark.offset :=
          ((Source.leads_skip ⟨mark.passAll word, after⟩ more.length).trans leads).offset_le

end AlertReceivers.Yaml
