import AlertReceivers.Proofs.Yaml.Lexer

namespace AlertReceivers.Yaml

/-!
# Cutting two texts into tokens

Two lexers that stand at the same place of two texts take the same steps, as long as they
stay in front of the words that tell the texts apart.
-/

open ListFacts (exists_shared)

/-- The name after a mark. -/
def Source.markedName (source : Source) : List Char :=
  (source.rest.drop 1).takeWhile isNameChar

/-- The source after a mark and a name. -/
def Source.afterMarkedName (source : Source) : Source :=
  source.skip (source.markedName.length + 1)

/-- Whether a name may end here. -/
def Lexer.endsName (next : Option Char) : Bool :=
  next.all fun char => isWhite char || Lexer.afterAnchor.contains char

/-- Two ends of texts that no step tells apart from before them. -/
inductive EndsAlike : List Char → List Char → Prop where
  | nothing :
      EndsAlike [] []
  | words {firstEnd secondEnd : List Char} :
      WordEnds firstEnd secondEnd → EndsAlike firstEnd secondEnd

variable {firstEnd secondEnd : List Char}

/-- Nothing is passed over where a word starts. -/
theorem passWhite_of_startsWord
    (inFlow keyAllowed : Bool)
    (mark : Mark)
    {chars : List Char}
    (startsWord : StartsWord chars) :
    Lexer.passWhite inFlow keyAllowed false mark chars = (keyAllowed, ⟨mark, chars⟩) := by
  obtain ⟨char, rest, rfl, isWordChar⟩ := startsWord
  rw [Lexer.passWhite_cons fun _ isReturn _ => ne_of_isAlphanum isWordChar rfl isReturn]
  simp [isSpace_of_isAlphanum isWordChar, isBreak_of_isAlphanum isWordChar,
    Lexer.byteOrderMark, ne_of_isAlphanum isWordChar]

/-- White space and comments that end in front of a word are passed over in both texts. -/
theorem passWhite_eq
    (ends : WordEnds firstEnd secondEnd)
    (inFlow keyAllowed inComment : Bool)
    (mark : Mark)
    {chars rest : List Char}
    (isText : chars = rest ++ firstEnd)
    (isKept : firstEnd <:+ (Lexer.passWhite inFlow keyAllowed inComment mark chars).2.rest) :
    ∃ secondNext,
      Lexer.passWhite inFlow keyAllowed inComment mark (rest ++ secondEnd) =
          ((Lexer.passWhite inFlow keyAllowed inComment mark chars).1, secondNext) ∧
        Source.Twins firstEnd secondEnd
          (Lexer.passWhite inFlow keyAllowed inComment mark chars).2 secondNext := by
  fun_induction Lexer.passWhite inFlow keyAllowed inComment mark chars generalizing rest with
  | case1 _ _ mark tail inductionHypothesis =>
      obtain ⟨more, rfl, rfl⟩ := exists_shared ['\r', '\n'] isText
        (isKept.trans (Lexer.leads_passWhite _ _ _ _ _).suffix)
      exact inductionHypothesis rfl isKept
  | case2 _ _ mark char tail isSingle isBreakChar inductionHypothesis =>
      obtain ⟨more, rfl, rfl⟩ := exists_shared [char] isText
        (isKept.trans (Lexer.leads_passWhite _ _ _ _ _).suffix)
      obtain ⟨secondNext, isSecond, twins⟩ := inductionHypothesis rfl isKept
      refine ⟨secondNext, (Lexer.passWhite_cons (ends.single isSingle)).trans ?_, twins⟩
      exact (if_pos isBreakChar).trans isSecond
  | case3 _ _ mark char tail isSingle notBreak isWhiteChar inductionHypothesis =>
      obtain ⟨more, rfl, rfl⟩ := exists_shared [char] isText
        (isKept.trans (Lexer.leads_passWhite _ _ _ _ _).suffix)
      obtain ⟨secondNext, isSecond, twins⟩ := inductionHypothesis rfl isKept
      refine ⟨secondNext, (Lexer.passWhite_cons (ends.single isSingle)).trans ?_, twins⟩
      exact (if_neg notBreak).trans ((if_pos isWhiteChar).trans isSecond)
  | case4 _ _ mark tail isSingle notBreak notWhite inductionHypothesis =>
      obtain ⟨more, rfl, rfl⟩ := exists_shared ['#'] isText
        (isKept.trans (Lexer.leads_passWhite _ _ _ _ _).suffix)
      obtain ⟨secondNext, isSecond, twins⟩ := inductionHypothesis rfl isKept
      refine ⟨secondNext, (Lexer.passWhite_cons (ends.single isSingle)).trans ?_, twins⟩
      exact (if_neg notBreak).trans ((if_neg notWhite).trans ((if_pos rfl).trans isSecond))
  | case5 _ inComment mark char tail isSingle notBreak notWhite notComment =>
      rcases ends.first.cons_cases isText with ⟨rfl, rfl, _⟩ | ⟨more, rfl, rfl⟩
      · obtain rfl : inComment = false := by
          simp only [Bool.or_eq_true, not_or, Bool.not_eq_true] at notWhite
          exact notWhite.1.1.1
        exact ⟨_, passWhite_of_startsWord _ _ mark ends.second, .intro mark []⟩
      · refine ⟨_, (Lexer.passWhite_cons (ends.single isSingle)).trans ?_,
          .intro mark (char :: more)⟩
        exact (if_neg notBreak).trans ((if_neg notWhite).trans (if_neg notComment))
  | case6 =>
      obtain ⟨char, tail, rfl, _⟩ := ends.first
      cases (List.append_eq_nil_iff.mp isText.symm).2

namespace EndsAlike

variable {first second : Source}
variable (ends : EndsAlike firstEnd secondEnd)
include ends

/-- Whether a word ends here is the same before both ends. -/
theorem endsWord_eq (rest : List Char) :
    endsWord (rest ++ firstEnd) = endsWord (rest ++ secondEnd) := by
  cases ends with
  | nothing =>
      rfl
  | words ends =>
      exact ends.endsWord_eq rest

/-- Whether a blank comes next is the same before both ends. -/
theorem nextIsBlank_eq (rest : List Char) :
    (rest ++ firstEnd).head?.any isBlank = (rest ++ secondEnd).head?.any isBlank := by
  cases ends with
  | nothing =>
      rfl
  | words ends =>
      exact ends.head?_eq (Option.any isBlank)
        (fun char other isFirst isSecond =>
          (isBlank_of_isAlphanum isFirst).trans (isBlank_of_isAlphanum isSecond).symm)
        rest

variable (twins : Source.Twins firstEnd secondEnd first second)
include twins

/-- Whether a document starts or ends here is the same before both ends. -/
theorem atBoundary_eq : first.atBoundary = second.atBoundary := by
  cases ends with
  | nothing =>
      obtain ⟨mark, rest⟩ := twins
      rfl
  | words ends =>
      exact twins.atBoundary_eq ends

/-- Characters in front of the end are passed over in both texts. -/
theorem skip
    {count : Nat}
    (isKept : firstEnd <:+ (first.skip count).rest) :
    Source.Twins firstEnd secondEnd (first.skip count) (second.skip count) := by
  cases ends with
  | nothing =>
      obtain ⟨mark, rest⟩ := twins
      exact .of_suffix isKept
  | words ends =>
      exact twins.skip ends isKept

/-- What goes the same way before two words, goes the same way in one text. -/
theorem follows
    (reader : Source → Option (α × Source))
    (words :
      WordEnds firstEnd secondEnd →
        Follows firstEnd firstEnd secondEnd (reader first) (reader second)) :
    Follows firstEnd firstEnd secondEnd (reader first) (reader second) := by
  cases ends with
  | nothing =>
      obtain ⟨mark, rest⟩ := twins
      exact fun value next isNext isKept => ⟨next, isNext, .of_suffix isKept⟩
  | words ends =>
      exact words ends

/-- Words that end in front of the end are the same in both texts. -/
theorem readWords
    {inFlow : Bool}
    {indent fuel : Nat}
    {words : Words}
    (isRead : readWords inFlow indent fuel [] first = some words)
    (isKept : firstEnd <:+ words.after.rest) :
    ∃ secondAfter,
      Yaml.readWords inFlow indent fuel [] second =
          some { words with after := secondAfter } ∧
        Source.Twins firstEnd secondEnd words.after secondAfter := by
  cases ends with
  | nothing =>
      obtain ⟨mark, rest⟩ := twins
      exact ⟨words.after, isRead, .of_suffix isKept⟩
  | words ends =>
      exact readWords_follows ends twins isRead isKept

/-- White space and comments in front of the end are passed over in both texts. -/
theorem passWhite
    {inFlow keyAllowed : Bool}
    (isKept :
      firstEnd <:+
        (Lexer.passWhite inFlow keyAllowed false first.mark first.rest).2.rest) :
    ∃ secondNext,
      Lexer.passWhite inFlow keyAllowed false second.mark second.rest =
          ((Lexer.passWhite inFlow keyAllowed false first.mark first.rest).1, secondNext) ∧
        Source.Twins firstEnd secondEnd
          (Lexer.passWhite inFlow keyAllowed false first.mark first.rest).2 secondNext := by
  obtain ⟨mark, rest⟩ := twins
  cases ends with
  | nothing =>
      exact ⟨_, rfl, .of_suffix isKept⟩
  | words ends =>
      exact passWhite_eq ends inFlow keyAllowed false mark rfl isKept

/-- A name after a mark that ends in front of the end is the same in both texts. -/
theorem markedName
    (isKept : firstEnd <:+ first.afterMarkedName.rest)
    (isEnded : Lexer.endsName first.afterMarkedName.rest.head? = true) :
    first.markedName = second.markedName ∧
      Source.Twins firstEnd secondEnd first.afterMarkedName second.afterMarkedName ∧
      Lexer.endsName second.afterMarkedName.rest.head? = true := by
  cases ends with
  | nothing =>
      obtain ⟨mark, rest⟩ := twins
      exact ⟨rfl, .of_suffix isKept, isEnded⟩
  | words ends =>
      have stops : ∀ char : Char, char.isAlphanum = true →
          Lexer.endsName (some char) = false := by
        intro char isWordChar
        simp [Lexer.endsName, isWhite_of_isAlphanum isWordChar, Lexer.afterAnchor,
          ne_of_isAlphanum isWordChar]
      have start := twins.skip ends isKept
      obtain ⟨char, isMore⟩ := start.exists_char_of_head ends Lexer.endsName stops isEnded
      have afterName : char :: firstEnd <:+ ((first.skip 1).skipWhile isNameChar).rest := by
        simpa [Source.afterMarkedName, Source.markedName, Source.skip, Source.skipWhile,
          Nat.add_comm] using isMore
      have afterMark := twins.skip_of_more (afterName.trans (Source.leads_skip _ _).suffix)
      have sameName : first.markedName = second.markedName :=
        afterMark.takeWhile_of_more afterName
      have sameEnd := start.head?_eq ends Lexer.endsName
        fun char other isFirst isSecond => (stops char isFirst).trans (stops other isSecond).symm
      unfold Source.afterMarkedName at isEnded start sameEnd ⊢
      rw [← sameName]
      exact ⟨rfl, start, sameEnd ▸ isEnded⟩

end EndsAlike

namespace Lexer

/-- Two lexers differ in nothing but the ends of their texts and in their tokens. -/
inductive Twins
    (firstEnd secondEnd : List Char)
    (alike : List Token → List Token → Prop) :
    Lexer → Lexer → Prop where
  | intro {lexer : Lexer} {source : Source} {tokens : List Token} :
      Source.Twins firstEnd secondEnd lexer.source source →
        alike lexer.tokens tokens →
          Twins firstEnd secondEnd alike lexer { lexer with source, tokens }

/-- A step at a place is also taken in the second text. -/
def Matches
    (firstEnd secondEnd : List Char)
    (alike : List Token → List Token → Prop)
    (firstResult secondResult : Option Lexer) :
    Prop :=
  ∀ next, firstResult = some next →
    ∃ secondNext,
      secondResult = some secondNext ∧ Twins firstEnd secondEnd alike next secondNext

/-- A step that stays in front of the end is also taken in the second text. -/
def Follows
    (firstEnd secondEnd : List Char)
    (alike : List Token → List Token → Prop)
    (firstResult secondResult : Option Lexer) :
    Prop :=
  ∀ next, firstResult = some next →
    firstEnd <:+ next.source.rest →
      ∃ secondNext,
        secondResult = some secondNext ∧ Twins firstEnd secondEnd alike next secondNext

/-- A relation between lists is kept by the same element at the same place of both. -/
def Insertable (alike : List Token → List Token → Prop) : Prop :=
  ∀ (first second : List Token) (number : Nat) (token : Token),
    alike first second →
      alike
        (first.take number ++ token :: first.drop number)
        (second.take number ++ token :: second.drop number)

variable {alike : List Token → List Token → Prop}
variable {first second : Lexer}
variable {firstResult secondResult : Option Lexer}

/-- Equal lists of tokens stay equal. -/
theorem insertable_eq : Insertable Eq := by
  rintro first _ number token rfl
  rfl

/-- Lists of tokens that differ in one token do so with another token in both. -/
theorem insertable_listDiffer (differ : Token → Token → Prop) :
    Insertable (ListDiffer differ) :=
  fun _ _ number token lists => lists.insert number token

/-- The same ends of blocks are added to both lists. -/
theorem Insertable.replicate_append
    (insertable : Insertable alike)
    {firstTokens secondTokens : List Token}
    (tokens : alike firstTokens secondTokens)
    (count : Nat)
    (token : Token) :
    alike
      (List.replicate count token ++ firstTokens)
      (List.replicate count token ++ secondTokens) := by
  induction count with
  | zero =>
      exact tokens
  | succ count inductionHypothesis =>
      exact insertable _ _ 0 token inductionHypothesis

namespace Matches

/-- A step that is not taken need not be taken in the second text. -/
theorem fail : Matches firstEnd secondEnd alike none secondResult := by
  rintro _ ⟨⟩

/-- Two lexers at the same place are what the same step leads to. -/
theorem pure
    (twins : Twins firstEnd secondEnd alike first second) :
    Matches firstEnd secondEnd alike (some first) (some second) := by
  rintro _ ⟨⟩
  exact ⟨second, rfl, twins⟩

variable {firstNext secondNext : Lexer → Option Lexer}

/-- Steps at a place, one after the other, are also taken in the second text. -/
theorem bind
    (isMatch : Matches firstEnd secondEnd alike firstResult secondResult)
    (next :
      ∀ firstLexer secondLexer,
        Twins firstEnd secondEnd alike firstLexer secondLexer →
          Matches firstEnd secondEnd alike (firstNext firstLexer) (secondNext secondLexer)) :
    Matches firstEnd secondEnd alike
      (firstResult >>= firstNext) (secondResult >>= secondNext) := by
  intro last isLast
  obtain ⟨between, isFirst, isNext⟩ := Option.bind_eq_some_iff.mp isLast
  obtain ⟨secondBetween, rfl, twins⟩ := isMatch between isFirst
  exact next between secondBetween twins last isNext

/-- A step at a place may be the first part of one that goes on in the text. -/
theorem bindFollows
    (isMatch : Matches firstEnd secondEnd alike firstResult secondResult)
    (next :
      ∀ firstLexer secondLexer,
        firstResult = some firstLexer →
          Twins firstEnd secondEnd alike firstLexer secondLexer →
            Follows firstEnd secondEnd alike (firstNext firstLexer) (secondNext secondLexer)) :
    Follows firstEnd secondEnd alike
      (firstResult >>= firstNext) (secondResult >>= secondNext) := by
  intro last isLast
  obtain ⟨between, isFirst, isNext⟩ := Option.bind_eq_some_iff.mp isLast
  obtain ⟨secondBetween, rfl, twins⟩ := isMatch between isFirst
  exact next between secondBetween isFirst twins last isNext

end Matches

namespace Follows

/-- A step that is not taken stays in front of every end. -/
theorem fail : Follows firstEnd secondEnd alike none secondResult := by
  rintro _ ⟨⟩

/-- The same case applies in both texts. -/
theorem ite
    {firstTest secondTest : Prop}
    [Decidable firstTest]
    [Decidable secondTest]
    {firstElse secondElse : Option Lexer}
    (same : firstTest ↔ secondTest)
    (isThen : Follows firstEnd secondEnd alike firstResult secondResult)
    (isElse : Follows firstEnd secondEnd alike firstElse secondElse) :
    Follows firstEnd secondEnd alike
      (if firstTest then firstResult else firstElse)
      (if secondTest then secondResult else secondElse) := by
  by_cases holds : firstTest
  · rw [if_pos holds, if_pos (same.mp holds)]
    exact isThen
  · rw [if_neg holds, if_neg (mt same.mpr holds)]
    exact isElse

end Follows

section Places

variable (twins : Twins firstEnd secondEnd alike first second)
include twins

/-- Twins stand at the same place. -/
theorem Twins.mark_eq : first.source.mark = second.source.mark := by
  obtain ⟨source, _⟩ := twins
  exact source.mark_eq

/-- Twins have the same text in front of the ends. -/
theorem Twins.source : Source.Twins firstEnd secondEnd first.source second.source := by
  obtain ⟨source, _⟩ := twins
  exact source

/-- Twins are both inside brackets or none of them is. -/
theorem Twins.inFlow_eq : first.inFlow = second.inFlow := by
  obtain ⟨_, _⟩ := twins
  rfl

/-- Twins stand in the same column. -/
theorem Twins.column_eq : first.column = second.column :=
  congrArg Mark.column twins.mark_eq

/-- A key may start for both twins or for none. -/
theorem Twins.keyAllowed_eq : first.keyAllowed = second.keyAllowed := by
  obtain ⟨_, _⟩ := twins
  rfl

/-- Twins stay twins when a key may start for both or for none. -/
theorem Twins.allow (keyAllowed : Bool) :
    Twins firstEnd secondEnd alike { first with keyAllowed } { second with keyAllowed } := by
  obtain ⟨source, tokens⟩ := twins
  exact .intro source tokens

/-- Twins stay twins when both go to the same place of their texts. -/
theorem Twins.move
    {firstSource secondSource : Source}
    (source : Source.Twins firstEnd secondEnd firstSource secondSource)
    (keyAllowed : Bool) :
    Twins firstEnd secondEnd alike
      { first with source := firstSource, keyAllowed }
      { second with source := secondSource, keyAllowed } := by
  obtain ⟨_, tokens⟩ := twins
  exact .intro source tokens

/-- Twins stay twins with the same key. -/
theorem Twins.allowAt
    (keyAllowed : Bool)
    (key : Option KeyStart) :
    Twins firstEnd secondEnd alike
      { first with keyAllowed, key } { second with keyAllowed, key } := by
  obtain ⟨source, tokens⟩ := twins
  exact .intro source tokens

/-- Twins are indented alike. -/
theorem Twins.indent_eq : first.indent = second.indent := by
  obtain ⟨_, _⟩ := twins
  rfl

/-- Twins forget the same keys. -/
theorem dropStaleKeys_matches :
    Matches firstEnd secondEnd alike first.dropStaleKeys second.dropStaleKeys := by
  obtain ⟨source, tokens⟩ := twins
  intro next isNext
  obtain ⟨key, isKey, isRest⟩ := Option.bind_eq_some_iff.mp isNext
  obtain ⟨outerKeys, isOuter, isSome⟩ := Option.bind_eq_some_iff.mp isRest
  cases isSome
  refine ⟨_, ?_, .intro source tokens⟩
  unfold dropStaleKeys
  dsimp only
  rw [← source.mark_eq, isKey, Option.bind_eq_bind, Option.bind_some, isOuter]
  rfl

/-- Twins forget the key of their innermost level alike. -/
theorem removeKey_matches :
    Matches firstEnd secondEnd alike first.removeKey second.removeKey := by
  obtain ⟨source, tokens⟩ := twins
  unfold removeKey
  dsimp only
  split
  · split
    · exact .fail
    · exact .pure (.intro source tokens)
  · exact .pure (.intro source tokens)

/-- Twins remember where a key may start alike. -/
theorem saveKey_matches :
    Matches firstEnd secondEnd alike first.saveKey second.saveKey := by
  have removed := removeKey_matches twins
  have sameMark := twins.mark_eq
  have sameColumn := twins.column_eq
  obtain ⟨source, tokens⟩ := twins
  unfold saveKey
  dsimp only at sameMark ⊢
  split
  · refine removed.bind fun firstCleared secondCleared cleared => ?_
    obtain ⟨clearedSource, clearedTokens⟩ := cleared
    rw [← sameColumn, ← sameMark]
    exact .pure (.intro clearedSource clearedTokens)
  · exact .pure (.intro source tokens)

variable (insertable : Insertable alike)
include insertable

/-- Twins stay twins with a token put before others. -/
theorem emitAt_twins
    (number : Nat)
    (token : Token) :
    Twins firstEnd secondEnd alike (first.emitAt number token) (second.emitAt number token) := by
  obtain ⟨source, tokens⟩ := twins
  exact .intro source (insertable _ _ _ token tokens)

/-- Twins stay twins with a token up to the same place of both texts. -/
theorem emitTo_twins
    {firstNext secondNext : Source}
    (next : Source.Twins firstEnd secondEnd firstNext secondNext)
    (kind : TokenKind) :
    Twins firstEnd secondEnd alike
      (first.emitTo kind firstNext) (second.emitTo kind secondNext) := by
  have sameMark := twins.mark_eq
  have sameEnd := next.mark_eq
  obtain ⟨source, tokens⟩ := twins
  unfold emitTo emit
  dsimp only at sameMark ⊢
  rw [← sameMark, ← sameEnd]
  exact .intro next (insertable _ _ 0 _ tokens)

/-- Twins open blocks alike. -/
theorem openBlock_twins
    (column number : Nat)
    (kind : TokenKind)
    (mark : Mark) :
    Twins firstEnd secondEnd alike
      (first.openBlock column number kind mark) (second.openBlock column number kind mark) := by
  have sameFlow := twins.inFlow_eq
  obtain ⟨source, tokens⟩ := twins
  unfold openBlock
  rw [← sameFlow]
  dsimp only
  split
  · exact .intro source (insertable _ _ _ _ tokens)
  · exact .intro source tokens

/-- Twins close blocks alike. -/
theorem closeBlocks_twins (column : Int) :
    Twins firstEnd secondEnd alike (first.closeBlocks column) (second.closeBlocks column) := by
  have sameFlow := twins.inFlow_eq
  have sameMark := twins.mark_eq
  obtain ⟨source, tokens⟩ := twins
  unfold closeBlocks
  rw [← sameFlow]
  dsimp only at sameMark ⊢
  split
  · exact .intro source tokens
  · rw [← sameMark]
    exact .intro source (insertable.replicate_append tokens _ _)

/-- Twins leave all blocks alike. -/
theorem leaveBlocks_matches :
    Matches firstEnd secondEnd alike first.leaveBlocks second.leaveBlocks := by
  refine (removeKey_matches (closeBlocks_twins twins insertable (-1))).bind
    fun _ _ left => ?_
  obtain ⟨source, tokens⟩ := left
  exact .pure (.intro source tokens)

/-- A mark in front of the end is a token of both texts. -/
theorem emitMark_follows
    (ends : EndsAlike firstEnd secondEnd)
    (kind : TokenKind)
    (width : Nat) :
    Follows firstEnd secondEnd alike
      (some (first.emitMark kind width)) (some (second.emitMark kind width)) := by
  rintro _ ⟨⟩ isKept
  exact ⟨_, rfl, emitTo_twins twins insertable (ends.skip twins.source isKept) kind⟩

/-- A token that is read in the same way is added to both lists. -/
theorem emitTo_follows
    {firstReading secondReading : Option (α × Source)}
    (reading : Yaml.Follows firstEnd firstEnd secondEnd firstReading secondReading)
    (kind : α → TokenKind) :
    Follows firstEnd secondEnd alike
      (firstReading >>= fun result => some (first.emitTo (kind result.1) result.2))
      (secondReading >>= fun result => some (second.emitTo (kind result.1) result.2)) := by
  intro next isNext isKept
  obtain ⟨⟨value, firstNext⟩, isFirst, isSome⟩ := Option.bind_eq_some_iff.mp isNext
  cases isSome
  obtain ⟨secondNext, rfl, nextTwins⟩ := reading value firstNext isFirst isKept
  exact ⟨_, rfl, emitTo_twins twins insertable nextTwins (kind value)⟩

end Places

section Steps

variable (ends : EndsAlike firstEnd secondEnd)
variable (insertable : Insertable alike)
variable (twins : Twins firstEnd secondEnd alike first second)
include ends insertable twins

/-- A directive is a token of both texts. -/
theorem addDirective_follows :
    Follows firstEnd secondEnd alike first.addDirective second.addDirective :=
  (leaveBlocks_matches twins insertable).bindFollows fun _ _ _ left =>
    emitTo_follows left insertable
      (ends.follows left.source readDirective? fun words =>
        readDirective?_follows words left.source)
      id

/-- The start or the end of a document is a token of both texts. -/
theorem addBoundary_follows (kind : TokenKind) :
    Follows firstEnd secondEnd alike (first.addBoundary kind) (second.addBoundary kind) :=
  (leaveBlocks_matches twins insertable).bindFollows fun _ _ _ left =>
    emitMark_follows left insertable ends kind 3

/-- An opening bracket is a token of both texts. -/
theorem openFlow_follows (kind : TokenKind) :
    Follows firstEnd secondEnd alike (first.openFlow kind) (second.openFlow kind) := by
  refine (saveKey_matches twins).bindFollows fun _ _ _ saved => ?_
  obtain ⟨source, tokens⟩ := saved
  refine emitMark_follows ?_ insertable ends kind 1
  exact .intro source tokens

/-- A closing bracket is a token of both texts. -/
theorem closeFlow_follows (kind : TokenKind) :
    Follows firstEnd secondEnd alike (first.closeFlow kind) (second.closeFlow kind) := by
  refine (removeKey_matches twins).bindFollows fun _ _ _ cleared => ?_
  obtain ⟨source, tokens⟩ := cleared
  dsimp only
  split
  all_goals
    refine emitMark_follows ?_ insertable ends kind 1
    exact .intro source tokens

/-- A comma between brackets is a token of both texts. -/
theorem addFlowEntry_follows :
    Follows firstEnd secondEnd alike first.addFlowEntry second.addFlowEntry :=
  (removeKey_matches twins).bindFollows fun _ _ _ cleared =>
    emitMark_follows (cleared.allow true) insertable ends .flowEntry 1

/-- The dash of an item is a token of both texts, and may open a block in both. -/
theorem addBlockEntry_follows :
    Follows firstEnd secondEnd alike first.addBlockEntry second.addBlockEntry := by
  have opened := openBlock_twins twins insertable first.column first.count
    .blockSequenceStart first.source.mark
  have sameFlow := twins.inFlow_eq
  have sameMark := twins.mark_eq
  have sameColumn := twins.column_eq
  obtain ⟨source, tokens⟩ := twins
  unfold addBlockEntry
  rw [← sameFlow, ← sameColumn, ← sameMark]
  exact .ite .rfl
    ((removeKey_matches opened).bindFollows fun _ _ _ cleared =>
      emitMark_follows (cleared.allow true) insertable ends .blockEntry 1)
    .fail

/-- The mark of a key is a token of both texts, and may open a block in both. -/
theorem addKey_follows :
    Follows firstEnd secondEnd alike first.addKey second.addKey := by
  have opened := openBlock_twins twins insertable first.column first.count
    .blockMappingStart first.source.mark
  have sameFlow := twins.inFlow_eq
  have sameMark := twins.mark_eq
  have sameColumn := twins.column_eq
  obtain ⟨source, tokens⟩ := twins
  unfold addKey
  rw [← sameFlow, ← sameColumn, ← sameMark]
  exact .ite .rfl
    ((removeKey_matches opened).bindFollows fun _ _ _ cleared =>
      emitMark_follows (cleared.allow _) insertable ends .key 1)
    .fail

/-- The mark of a value is a token of both texts, and what stands before it is a key in
both. -/
theorem addValue_follows :
    Follows firstEnd secondEnd alike first.addValue second.addValue := by
  have opened := openBlock_twins twins insertable first.column first.count
    .blockMappingStart first.source.mark
  have keyed := fun key : KeyStart =>
    openBlock_twins (emitAt_twins twins insertable key.number ⟨.key, key.mark, key.mark⟩)
      insertable key.mark.column key.number .blockMappingStart key.mark
  have sameFlow := twins.inFlow_eq
  have sameMark := twins.mark_eq
  have sameColumn := twins.column_eq
  obtain ⟨source, tokens⟩ := twins
  unfold addValue
  rw [← sameFlow, ← sameColumn, ← sameMark]
  dsimp only
  split
  case h_1 key _ =>
    exact emitMark_follows ((keyed key).allowAt false none) insertable ends .value 1
  case h_2 =>
    exact .ite .rfl (emitMark_follows (opened.allow _) insertable ends .value 1) .fail

/-- A tag is a token of both texts, if another character stands between it and the end. -/
theorem addTag_follows
    {last : Char}
    (isKept : last :: firstEnd <:+ first.source.rest) :
    Follows firstEnd secondEnd alike first.addTag second.addTag := by
  refine (saveKey_matches twins).bindFollows fun firstSaved secondSaved isSaved saved => ?_
  rw [← (stays_of_saveKey isSaved).source] at isKept
  rw [← saved.inFlow_eq]
  refine emitTo_follows (saved.allow false) insertable
    (ends.follows saved.source (readTag? firstSaved.inFlow) fun words => ?_)
    id
  obtain ⟨mark, head, rest, isFirst, isSecond⟩ := saved.source.exists_cons isKept
  rw [isFirst, isSecond]
  exact readTag?_follows words firstSaved.inFlow mark head rest

/-- A quoted scalar is a token of both texts. -/
theorem addQuoted_follows
    (fuel : Nat)
    {quote : Char}
    (notWordChar : quote.isAlphanum = false) :
    Follows firstEnd secondEnd alike
      (first.addQuoted fuel quote) (second.addQuoted fuel quote) := by
  refine (saveKey_matches twins).bindFollows fun _ _ _ saved => ?_
  refine emitTo_follows (saved.allow false) insertable
    (ends.follows saved.source (fun source => readQuoted quote fuel false (source.skip 1))
      fun words => ?_)
    fun text => .scalar false (String.ofList text)
  exact .of_kept (leadsOn_readQuoted false _) fun isKept =>
    readQuoted_follows words notWordChar (saved.source.skip words isKept) false

/-- A block scalar is a token of both texts. -/
theorem addBlockScalar_follows
    (fuel : Nat)
    (isFolded : Bool) :
    Follows firstEnd secondEnd alike
      (first.addBlockScalar fuel isFolded) (second.addBlockScalar fuel isFolded) := by
  refine (removeKey_matches twins).bindFollows fun firstCleared _ _ cleared => ?_
  refine emitTo_follows (cleared.allow true) insertable ?_
    fun text => .scalar false (String.ofList text)
  rw [← cleared.indent_eq]
  refine ends.follows cleared.source
    (fun source => readBlock isFolded firstCleared.indent fuel (source.skip 1))
    fun words => ?_
  exact .of_kept (leadsOn_readBlock isFolded _ _) fun isKept =>
    readBlock_follows words (cleared.source.skip words isKept) isFolded _

/-- A plain scalar in front of the end is a token of both texts. -/
theorem addWords_follows (fuel : Nat) :
    Follows firstEnd secondEnd alike (first.addWords fuel) (second.addWords fuel) := by
  refine (saveKey_matches twins).bindFollows fun _ _ _ saved => ?_
  intro next isNext isKept
  obtain ⟨words, isRead, isSome⟩ := Option.bind_eq_some_iff.mp isNext
  cases isSome
  obtain ⟨secondAfter, isSecond, after⟩ := ends.readWords saved.source isRead isKept
  rw [saved.inFlow_eq, saved.indent_eq] at isSecond
  rw [isSecond]
  exact ⟨_, rfl, emitTo_twins (saved.allow words.broken) insertable after _⟩

omit ends insertable twins in
/-- An anchor or a reference is a name with an end after it. -/
theorem addAnchor_eq
    (lexer : Lexer)
    (kind : String → TokenKind) :
    lexer.addAnchor kind = lexer.saveKey >>= fun saved =>
      if !saved.source.markedName.isEmpty && endsName saved.source.afterMarkedName.rest.head? then
        some ({ saved with keyAllowed := false }.emitTo
          (kind (String.ofList saved.source.markedName)) saved.source.afterMarkedName)
      else
        none :=
  rfl

/-- An anchor or a reference is a token of both texts. -/
theorem addAnchor_follows (kind : String → TokenKind) :
    Follows firstEnd secondEnd alike (first.addAnchor kind) (second.addAnchor kind) := by
  rw [addAnchor_eq, addAnchor_eq]
  refine (saveKey_matches twins).bindFollows fun firstSaved secondSaved _ saved => ?_
  intro next isNext isKept
  obtain ⟨isName, isSome⟩ := Option.ite_none_right_eq_some.mp isNext
  cases isSome
  obtain ⟨isNonempty, isEnded⟩ := Bool.and_eq_true_iff.mp isName
  obtain ⟨sameName, after, secondIsEnded⟩ := ends.markedName saved.source isKept isEnded
  rw [sameName] at isNonempty ⊢
  rw [if_pos (Bool.and_eq_true_iff.mpr ⟨isNonempty, secondIsEnded⟩)]
  exact ⟨_, rfl, emitTo_twins (saved.allow false) insertable after _⟩

/-- Every step that stays in front of the end is the same in both texts. -/
theorem add_follows
    (fuel : Nat)
    (char : Char)
    (rest : List Char)
    {last : Char}
    (isKept : last :: firstEnd <:+ first.source.rest) :
    Follows firstEnd secondEnd alike
      (first.add fuel char (rest ++ firstEnd)) (second.add fuel char (rest ++ secondEnd)) := by
  have sameStart :
      startsWords first.inFlow char (rest ++ firstEnd) =
        startsWords second.inFlow char (rest ++ secondEnd) := by
    unfold startsWords
    rw [twins.inFlow_eq, ends.nextIsBlank_eq, ends.endsWord_eq]
  have sameEnd := ends.endsWord_eq rest
  unfold add
  rw [twins.column_eq, ends.atBoundary_eq twins.source, sameEnd, twins.inFlow_eq]
  rw [twins.inFlow_eq] at sameStart
  rw [sameStart]
  refine .ite .rfl (addDirective_follows ends insertable twins) ?_
  refine .ite .rfl (addBoundary_follows ends insertable twins _) ?_
  refine .ite .rfl (openFlow_follows ends insertable twins _) ?_
  refine .ite .rfl (openFlow_follows ends insertable twins _) ?_
  refine .ite .rfl (closeFlow_follows ends insertable twins _) ?_
  refine .ite .rfl (closeFlow_follows ends insertable twins _) ?_
  refine .ite .rfl (addFlowEntry_follows ends insertable twins) ?_
  refine .ite .rfl (addBlockEntry_follows ends insertable twins) ?_
  refine .ite .rfl (addKey_follows ends insertable twins) ?_
  refine .ite .rfl (addValue_follows ends insertable twins) ?_
  refine .ite .rfl (addAnchor_follows ends insertable twins _) ?_
  refine .ite .rfl (addAnchor_follows ends insertable twins _) ?_
  refine .ite .rfl (addTag_follows ends insertable twins isKept) ?_
  refine .ite .rfl (addBlockScalar_follows ends insertable twins fuel _) ?_
  by_cases isQuote : char = '\'' ∨ char = '"'
  · rw [if_pos isQuote, if_pos isQuote]
    exact addQuoted_follows ends insertable twins fuel (by
      rcases isQuote with rfl | rfl <;> rfl)
  · rw [if_neg isQuote, if_neg isQuote]
    exact .ite .rfl (addWords_follows ends insertable twins fuel) .fail

/-- The way to a token that starts in front of the end is the same in both texts. -/
theorem approach_follows :
    Follows firstEnd secondEnd alike first.approach second.approach := by
  intro ready isReady isKept
  obtain ⟨dropped, isDropped, isSome⟩ := Option.bind_eq_some_iff.mp isReady
  have keptThere := isKept
  rw [← Option.some.inj isSome, (stays_closeBlocks dropped _).source,
    (stays_of_dropStaleKeys isDropped).source] at keptThere
  obtain ⟨secondSource, isSecond, white⟩ := ends.passWhite twins.source keptThere
  obtain ⟨secondDropped, isSecondDropped, droppedTwins⟩ :=
    dropStaleKeys_matches (twins.move white _) dropped isDropped
  cases isSome
  refine ⟨_, ?_, closeBlocks_twins droppedTwins insertable _⟩
  unfold approach
  rw [← twins.inFlow_eq, ← twins.keyAllowed_eq, isSecond]
  dsimp only
  rw [isSecondDropped, white.mark_eq]
  rfl

end Steps

end Lexer

end AlertReceivers.Yaml
