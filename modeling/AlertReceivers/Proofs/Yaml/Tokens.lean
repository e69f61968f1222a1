import AlertReceivers.Proofs.Yaml.Composition
import AlertReceivers.Proofs.Yaml.LexerTwins

namespace AlertReceivers.Yaml

/-!
# Tokens of texts that differ in one word

Where a text has a word of letters and digits that is a token of its own, another word of
the same length in its place is a token at the same place, and all other tokens stay the
same.
-/

open ListFacts (exists_last)

/-- Twins without ends are the same. -/
theorem Source.Twins.eq_of_nothing
    {first second : Source}
    (twins : Source.Twins [] [] first second) :
    first = second := by
  obtain ⟨mark, rest⟩ := twins
  rfl

/-- Twins have the same text, and then their ends. -/
theorem Source.Twins.exists_eq
    {firstEnd secondEnd : List Char}
    {first second : Source}
    (twins : Source.Twins firstEnd secondEnd first second) :
    ∃ mark rest, first = ⟨mark, rest ++ firstEnd⟩ ∧ second = ⟨mark, rest ++ secondEnd⟩ := by
  obtain ⟨mark, rest⟩ := twins
  exact ⟨mark, rest, rfl, rfl⟩

/-- Twins at the first end are both at their ends. -/
theorem Source.Twins.exists_mark
    {firstEnd secondEnd : List Char}
    {first second : Source}
    (twins : Source.Twins firstEnd secondEnd first second)
    (atEnd : first.rest = firstEnd) :
    ∃ mark, first = ⟨mark, firstEnd⟩ ∧ second = ⟨mark, secondEnd⟩ := by
  obtain ⟨mark, rest⟩ := twins
  obtain rfl : rest = [] := List.append_left_eq_self.mp atEnd
  exact ⟨mark, rfl, rfl⟩

namespace Lexer

variable {first second next : Lexer}
variable {alike : List Token → List Token → Prop}
variable {fuel : Nat}
variable {tokens : List Token}

/-- Twins without ends finish alike. -/
theorem finish_matches
    (insertable : Insertable alike)
    (twins : Twins [] [] alike first second) :
    Matches [] [] alike first.finish second.finish := by
  have sameMark := twins.mark_eq
  have sameColumn := twins.column_eq
  have atEnd := fun mark : Mark =>
    closeBlocks_twins (twins.move (.intro mark []) first.keyAllowed) insertable (-1)
  obtain ⟨_, _⟩ := twins
  unfold finish
  rw [← sameColumn]
  dsimp only at sameMark ⊢
  rw [← sameMark]
  refine (removeKey_matches (atEnd _)).bind fun _ _ ended => ?_
  exact fun next isNext =>
    emitMark_follows ended insertable .nothing .streamEnd 0 next isNext List.nil_suffix

/-- After the word, the lexers add the same tokens. -/
theorem run_after
    {differ : Token → Token → Prop}
    (twins : Twins [] [] (ListDiffer differ) first second)
    (isRun : first.run fuel = some tokens) :
    ∃ others, second.run fuel = some others ∧ ListDiffer differ tokens others := by
  have insertable := insertable_listDiffer differ
  induction fuel generalizing first second with
  | zero =>
      cases isRun
  | succ fuel inductionHypothesis =>
      obtain ⟨ready, isReady, isRest⟩ := Option.bind_eq_some_iff.mp isRun
      obtain ⟨secondReady, isSecondReady, readyTwins⟩ :=
        approach_follows .nothing insertable twins ready isReady List.nil_suffix
      rw [run, isSecondReady, Option.bind_eq_bind, Option.bind_some,
        ← readyTwins.source.eq_of_nothing]
      split at isRest
      case h_1 =>
        obtain ⟨ended, isEnded, isSome⟩ := Option.bind_eq_some_iff.mp isRest
        obtain ⟨secondEnded, isSecondEnded, endedTwins⟩ :=
          finish_matches insertable readyTwins ended isEnded
        obtain ⟨_, lists⟩ := endedTwins
        cases isSome
        exact ⟨_, by rw [isSecondEnded]; rfl, lists.reverse⟩
      case h_2 char rest isCons =>
        obtain ⟨next, isNext, isLast⟩ := Option.bind_eq_some_iff.mp isRest
        obtain ⟨last, isKept⟩ := exists_last char rest []
        rw [List.append_nil, ← isCons] at isKept
        have follows := add_follows .nothing insertable readyTwins (fuel + 1) char rest isKept
        rw [List.append_nil] at follows
        obtain ⟨secondNext, isSecondNext, nextTwins⟩ := follows next isNext List.nil_suffix
        rw [isSecondNext]
        exact inductionHypothesis nextTwins isLast

/-- A lexer has not yet come to a place in front of some end of the text. -/
structure Before
    (place : Nat)
    (ending : List Char)
    (lexer : Lexer) :
    Prop where
  atEnd : lexer.source.mark.offset + String.utf8Len lexer.source.rest = place + String.utf8Len ending
  plain : ∀ token ∈ lexer.tokens, token.IsPlain → token.start.offset < place

section Before

variable {place : Nat}
variable {ending : List Char}

/-- The way to the next token adds no plain scalar behind the place. -/
theorem Before.approach
    (before : Before place ending first)
    (isReady : first.approach = some next) :
    Before place ending next := by
  obtain ⟨leads, found⟩ := approach_eq_some isReady
  refine ⟨leads.end_eq.trans before.atEnd, fun token member isPlain => ?_⟩
  exact before.plain token ((found token member).resolve_right (not_not.mpr isPlain)) isPlain

/-- A token that starts before the place is no plain scalar behind it. -/
theorem Before.add
    {char : Char}
    {rest : List Char}
    (before : Before place ending first)
    (isEarly : first.source.mark.offset < place)
    (isNext : first.add fuel char rest = some next) :
    Before place ending next := by
  have steps := steps_of_add isNext
  refine ⟨steps.source.end_eq.trans before.atEnd, fun token member isPlain => ?_⟩
  rcases steps.tokens token member with earlier | starts
  · exact before.plain token earlier isPlain
  · exact starts isPlain ▸ isEarly

/-- A step that leads into the end leads beyond the place. -/
theorem Before.lt_of_not_suffix
    (before : Before place ending first)
    (isKept : ending <:+ first.source.rest)
    (leads : first.source.Leads next.source)
    (passes : ¬ ending <:+ next.source.rest) :
    place < next.source.mark.offset := by
  obtain ⟨passed, isEnding⟩ : next.source.rest <:+ ending :=
    (List.suffix_or_suffix_of_suffix leads.suffix isKept).resolve_right passes
  have nonempty : passed ≠ [] := by
    rintro rfl
    exact passes (isEnding ▸ List.suffix_refl _)
  have atEnd := leads.end_eq.trans before.atEnd
  rw [← isEnding, String.utf8Len_append] at atEnd
  have isPos := utf8Len_pos nonempty
  omega

/-- No token starts at a place that the lexer has passed without one. -/
theorem Before.not_mem
    (before : Before place ending first)
    (isReady : first.approach = some next)
    (isLate : place < next.source.mark.offset)
    (isRun : first.run fuel = some tokens)
    {token : Token}
    (member : token ∈ tokens)
    (isPlain : token.IsPlain) :
    token.start.offset ≠ place := by
  rcases plain_of_run isReady isRun member isPlain with earlier | later
  · exact (before.plain token earlier isPlain).ne
  · exact (isLate.trans_le later).ne'

/-- The place is as far ahead as the text in front of the end is long. -/
theorem Before.place_eq
    {mark : Mark}
    {rest : List Char}
    (before : Before place ending first)
    (isSource : first.source = ⟨mark, rest ++ ending⟩) :
    place = first.source.mark.offset + String.utf8Len rest := by
  have atEnd := before.atEnd
  rw [isSource, String.utf8Len_append] at atEnd
  rw [isSource]
  dsimp only at atEnd ⊢
  omega

section PlainToken

variable {token : Token}
variable (member : token ∈ tokens)
variable (isPlain : token.IsPlain)
variable (atPlace : token.start.offset = place)
include member isPlain atPlace

/-- A lexer that finds a plain token at the place does not go into the end on its way to
the next token. -/
theorem Before.keeps_of_approach
    (before : Before place ending first)
    (isKept : ending <:+ first.source.rest)
    (isReady : first.approach = some next)
    (isRun : first.run fuel = some tokens) :
    ending <:+ next.source.rest := by
  by_contra passes
  have isLate := before.lt_of_not_suffix isKept (approach_eq_some isReady).1 passes
  exact before.not_mem isReady isLate isRun member isPlain atPlace

/-- A lexer that finds a plain token at the place does not go into the end with an earlier
token. -/
theorem Before.keeps_of_add
    {char : Char}
    {rest : List Char}
    (before : Before place ending first)
    (isKept : ending <:+ first.source.rest)
    (isEarly : first.source.mark.offset < place)
    (isNext : first.add (fuel + 1) char rest = some next)
    (isRun : next.run fuel = some tokens) :
    ending <:+ next.source.rest := by
  by_contra passes
  obtain ⟨ready, isReady⟩ := exists_approach_of_run isRun
  have isLate := before.lt_of_not_suffix isKept (steps_of_add isNext).source passes
  have isLater := isLate.trans_le (approach_eq_some isReady).1.offset_le
  exact (before.add isEarly isNext).not_mem isReady isLater isRun member isPlain atPlace

end PlainToken

end Before

section Word

variable {word other after : List Char}
variable (isWord : IsWord word)
variable (otherIsWord : IsWord other)
variable (sameLength : word.length = other.length)

/-- Where a word starts, a plain scalar is added. -/
theorem add_of_startsWord
    {char : Char}
    {rest : List Char}
    (isWordChar : char.isAlphanum = true)
    (atWord : first.source.rest = char :: rest) :
    first.add fuel char rest = first.addWords fuel := by
  have notBoundary : first.source.atBoundary = false :=
    StartsWord.atBoundary_eq ⟨char, rest, atWord, isWordChar⟩ first.source.mark
  have startsHere : startsWords first.inFlow char rest = true := by
    simp [startsWords, isWhite_of_isAlphanum isWordChar, leadingMarks,
      ne_of_isAlphanum isWordChar]
  unfold add
  rw [notBoundary, startsHere]
  simp [ne_of_isAlphanum isWordChar]

include isWord otherIsWord sameLength

/-- Both words are added as plain tokens.  If the first token has no more than the word,
neither has the second. -/
theorem addWords_at_word
    (twins : Twins (word ++ after) (other ++ after) Eq first second)
    (atWord : first.source.rest = word ++ after)
    (isNext : first.addWords fuel = some next) :
    ∃ secondNext text,
      second.addWords fuel = some secondNext ∧
        first.source.mark.offset < next.source.mark.offset ∧
        (∀ token ∈ next.tokens,
          token.IsPlain →
            token ∈ first.tokens ∨ token.kind = .scalar true (String.ofList (word ++ text))) ∧
        (text = [] →
          Twins [] []
            (ListDiffer (Token.Differ (String.ofList word) (String.ofList other)))
            next secondNext) := by
  obtain ⟨saved, isSaved, isRest⟩ := Option.bind_eq_some_iff.mp isNext
  obtain ⟨words, isRead, isSome⟩ := Option.bind_eq_some_iff.mp isRest
  have stays := stays_of_saveKey isSaved
  obtain ⟨secondSaved, isSecondSaved, savedTwins⟩ := saveKey_matches twins saved isSaved
  obtain ⟨source, rfl⟩ := savedTwins
  rw [← stays.source] at atWord ⊢
  obtain ⟨mark, isSource, rfl⟩ := source.exists_mark atWord
  rw [isSource] at isRead
  obtain ⟨text, isText, isSecondRead⟩ :=
    readWords_at_word isWord otherIsWord sameLength isRead
  cases isSome
  have isSecondNext : second.addWords fuel = some _ :=
    Option.bind_eq_some_iff.mpr
      ⟨_, isSecondSaved, Option.bind_eq_some_iff.mpr ⟨_, isSecondRead, rfl⟩⟩
  refine ⟨_, text, isSecondNext, ?_, fun token member isPlain => ?_, ?_⟩
  · rw [isSource]
    exact offset_lt_of_readWords isWord isRead
  · rcases List.mem_cons.mp member with rfl | earlier
    · exact .inr (by rw [← isText])
    · exact (stays.tokens token earlier).imp_right fun notPlain => (notPlain isPlain).elim
  · rintro rfl
    rw [List.append_nil] at isText
    have lists : ListDiffer (Token.Differ (String.ofList word) (String.ofList other))
        (⟨.scalar true (String.ofList words.text), saved.source.mark, words.after.mark⟩ ::
          saved.tokens)
        (⟨.scalar true (String.ofList (other ++ [])), mark, words.after.mark⟩ ::
          saved.tokens) := by
      rw [isText, List.append_nil, isSource]
      exact .here .scalar
    exact .intro (.of_suffix List.nil_suffix) lists

/-- If the first word is a token of its own, the second one is as well. -/
theorem run_at_word
    (twins : Twins (word ++ after) (other ++ after) Eq first second)
    (atWord : first.source.rest = word ++ after)
    (notYet :
      ∀ token ∈ first.tokens, token.IsPlain → token.start.offset < first.source.mark.offset)
    (isNext : first.addWords (fuel + 1) = some next)
    (isRun : next.run fuel = some tokens)
    {token : Token}
    (member : token ∈ tokens)
    (isToken : token.kind = .scalar true (String.ofList word))
    (isHere : token.start.offset = first.source.mark.offset) :
    ∃ secondNext others,
      second.addWords (fuel + 1) = some secondNext ∧
        secondNext.run fuel = some others ∧
        ListDiffer (Token.Differ (String.ofList word) (String.ofList other)) tokens others := by
  have isPlain : token.IsPlain := ⟨_, isToken⟩
  obtain ⟨secondNext, text, isSecondNext, isLater, added, nextTwins⟩ :=
    addWords_at_word isWord otherIsWord sameLength twins atWord isNext
  obtain ⟨nextReady, isNextReady⟩ := exists_approach_of_run isRun
  have found : token ∈ next.tokens := by
    refine (plain_of_run isNextReady isRun member isPlain).resolve_right fun startsLater => ?_
    rw [isHere] at startsLater
    exact (isLater.trans_le ((approach_eq_some isNextReady).1.offset_le.trans startsLater)).false
  have noMore : text = [] := by
    rcases added token found isPlain with earlier | isWhole
    · exact ((notYet token earlier isPlain).ne isHere).elim
    · rw [isToken, TokenKind.scalar.injEq, String.ofList_inj] at isWhole
      exact List.self_eq_append_right.mp isWhole.2
  obtain ⟨others, isSecondRun, lists⟩ := run_after (nextTwins noMore) isRun
  exact ⟨secondNext, others, isSecondNext, isSecondRun, lists⟩

/-- If the first word is a token of its own, the second one is in its place. -/
theorem run_differ
    {place : Nat}
    (twins : Twins (word ++ after) (other ++ after) Eq first second)
    (isKept : word ++ after <:+ first.source.rest)
    (before : Before place (word ++ after) first)
    (isRun : first.run fuel = some tokens)
    {token : Token}
    (member : token ∈ tokens)
    (isToken : token.kind = .scalar true (String.ofList word))
    (atPlace : token.start.offset = place) :
    ∃ others,
      second.run fuel = some others ∧
        ListDiffer (Token.Differ (String.ofList word) (String.ofList other)) tokens others := by
  have ends : EndsAlike (word ++ after) (other ++ after) :=
    .words ⟨isWord.startsWord_append after, otherIsWord.startsWord_append after⟩
  have isPlain : token.IsPlain := ⟨_, isToken⟩
  induction fuel generalizing first second with
  | zero =>
      cases isRun
  | succ fuel inductionHypothesis =>
      obtain ⟨ready, isReady, isRest⟩ := Option.bind_eq_some_iff.mp isRun
      have beforeReady := before.approach isReady
      -- A token at the place of the word is found only if the lexer comes to the word.
      have readyKept : word ++ after <:+ ready.source.rest :=
        before.keeps_of_approach member isPlain atPlace isKept isReady isRun
      obtain ⟨secondReady, isSecondReady, readyTwins⟩ :=
        approach_follows ends insertable_eq twins ready isReady readyKept
      obtain ⟨mark, rest, isFirst, isSecond⟩ := readyTwins.source.exists_eq
      rw [run, isSecondReady, Option.bind_eq_bind, Option.bind_some, isSecond]
      rw [isFirst] at isRest
      cases rest with
      | nil =>
          have isPlace : place = ready.source.mark.offset := beforeReady.place_eq isFirst
          obtain ⟨char, tail, isText, isWordChar⟩ := isWord.startsWord_append after
          obtain ⟨otherChar, otherTail, isOther, otherIsWordChar⟩ :=
            otherIsWord.startsWord_append after
          rw [List.nil_append] at isFirst isSecond isRest
          rw [isText] at isRest
          obtain ⟨next, isNext, isLast⟩ := Option.bind_eq_some_iff.mp isRest
          rw [add_of_startsWord isWordChar (by rw [isFirst, isText])] at isNext
          obtain ⟨secondNext, others, isSecondNext, isSecondRun, lists⟩ :=
            run_at_word isWord otherIsWord sameLength readyTwins (by rw [isFirst])
              (isPlace ▸ beforeReady.plain) isNext isLast member isToken (isPlace ▸ atPlace)
          refine ⟨others, ?_, lists⟩
          rw [List.nil_append, isOther]
          dsimp only
          rw [add_of_startsWord otherIsWordChar (by rw [isSecond, isOther]), isSecondNext]
          exact isSecondRun
      | cons char rest =>
          obtain ⟨next, isNext, isLast⟩ := Option.bind_eq_some_iff.mp isRest
          obtain ⟨last, isMore⟩ := exists_last char rest (word ++ after)
          have isEarly : ready.source.mark.offset < place := by
            rw [beforeReady.place_eq isFirst]
            exact Nat.lt_add_of_pos_right (utf8Len_pos (List.cons_ne_nil char rest))
          have nextKept : word ++ after <:+ next.source.rest :=
            beforeReady.keeps_of_add member isPlain atPlace readyKept isEarly isNext isLast
          obtain ⟨secondNext, isSecondNext, nextTwins⟩ :=
            add_follows ends insertable_eq readyTwins (fuel + 1) char rest
              (by rw [isFirst]; exact isMore) next isNext nextKept
          obtain ⟨others, isSecondRun, lists⟩ :=
            inductionHypothesis nextTwins nextKept (beforeReady.add isEarly isNext) isLast
          refine ⟨others, ?_, lists⟩
          rw [List.cons_append]
          dsimp only
          rw [isSecondNext]
          exact isSecondRun

end Word

end Lexer

/-- Letters and digits may stand in every text. -/
theorem inRanges_of_isAlphanum
    {char : Char}
    (isWordChar : char.isAlphanum = true) :
    Text.inRanges allowedRanges char.toNat = true := by
  obtain ⟨isLow, isHigh⟩ := toNat_of_isAlphanum isWordChar
  have bounds : 0x20 ≤ char.toNat ∧ char.toNat ≤ 0x7e := by
    omega
  simp [Text.inRanges, allowedRanges, bounds]

/-- Another word in place of a token of the same length is a token in its place. -/
theorem tokens?_differ
    {before word other after : List Char}
    (isWord : IsWord word)
    (otherIsWord : IsWord other)
    (sameLength : word.length = other.length)
    {tokens : List Token}
    (isTokens : tokens? (before ++ (word ++ after)) = some tokens)
    {token : Token}
    (member : token ∈ tokens)
    (isToken : token.kind = .scalar true (String.ofList word))
    (atPlace : token.start.offset = String.utf8Len before) :
    ∃ others,
      tokens? (before ++ (other ++ after)) = some others ∧
        ListDiffer (Token.Differ (String.ofList word) (String.ofList other)) tokens others := by
  obtain ⟨isAllowed, isRun⟩ := Option.ite_none_right_eq_some.mp isTokens
  have otherIsAllowed :
      (before ++ (other ++ after)).all
        (fun char => Text.inRanges allowedRanges char.toNat) = true := by
    simp only [List.all_append, Bool.and_eq_true] at isAllowed ⊢
    refine ⟨isAllowed.1, List.all_eq_true.mpr fun char member => ?_, isAllowed.2.2⟩
    exact inRanges_of_isAlphanum (otherIsWord.isAlphanum char member)
  have sameFuel :
      (before ++ (word ++ after)).length + 1 = (before ++ (other ++ after)).length + 1 := by
    simp [sameLength]
  have atStart :
      Lexer.Before (String.utf8Len before) (word ++ after)
        (Lexer.start (before ++ (word ++ after))) :=
    ⟨by simp [Lexer.start, Mark.start], nofun⟩
  rw [tokens?, if_pos otherIsAllowed, ← sameFuel]
  exact Lexer.run_differ isWord otherIsWord sameLength (.intro (.intro .start before) rfl)
    (List.suffix_append _ _) atStart isRun member isToken atPlace

/-- A plain scalar of its own stands in a text after some other text. -/
def IsPlainWordAfter (before word after : String) : Prop :=
  ∃ tokens token,
    tokens? (before ++ word ++ after).toList = some tokens ∧
      token ∈ tokens ∧
      token.kind = .scalar true word ∧
      token.start.offset = before.utf8ByteSize

/-- Another word of the same length in place of a plain scalar gives a document that
differs in this scalar at most. -/
theorem parse?_differ
    {before word other after : String}
    (isWord : IsWord word.toList)
    (otherIsWord : IsWord other.toList)
    (sameLength : word.length = other.length)
    (isPlainWord : IsPlainWordAfter before word after)
    {tree : Tree}
    (parsed : parse? (before ++ word ++ after) = some (some tree)) :
    ∃ otherTree,
      parse? (before ++ other ++ after) = some (some otherTree) ∧
        (tree = otherTree ∨ Tree.Differ word other tree otherTree) := by
  obtain ⟨tokens, token, isTokens, member, isToken, isStart⟩ := isPlainWord
  have atPlace : token.start.offset = String.utf8Len before.toList := by
    rw [isStart, ← String.utf8ByteSize_ofList, String.ofList_toList]
  unfold parse? at parsed ⊢
  rw [isTokens, Option.bind_some] at parsed
  simp only [String.toList_append, List.append_assoc] at isTokens ⊢
  obtain ⟨others, isOthers, lists⟩ := tokens?_differ isWord otherIsWord
    (by rwa [String.length_toList, String.length_toList]) isTokens member (by rw [isToken, String.ofList_toList]) atPlace
  rw [String.ofList_toList, String.ofList_toList] at lists
  rw [isOthers, Option.bind_some]
  exact composeOnly_differ lists parsed

end AlertReceivers.Yaml
