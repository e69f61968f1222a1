import AlertReceivers.Proofs.Yaml.Source
import AlertReceivers.Yaml.Scalar.Block
import AlertReceivers.Yaml.Scalar.Quoted

namespace AlertReceivers.Yaml

/-!
# Scalars before two ends

Scalars between quotes and scalars over several lines are read the same way before
either end of a text.
-/

variable {firstEnd secondEnd : List Char}
variable {first second : Source}
variable {fuel : Nat}

section Quoted

variable {quote : Char}

/-- Reading a quoted scalar goes on in the text. -/
theorem leadsOn_readQuoted
    (afterWhite : Bool)
    (source : Source) :
    LeadsOn source (readQuoted quote fuel afterWhite source) := by
  induction fuel generalizing afterWhite source with
  | zero =>
      exact .fail
  | succ fuel inductionHypothesis =>
      have goesOn :
          ∀ {next : Source} (afterWhite : Bool) (build : List Char → List Char),
            source.Leads next →
              LeadsOn source
                (readQuoted quote fuel afterWhite next >>= fun result =>
                  some (build result.1, result.2)) :=
        fun afterWhite build leads =>
          (LeadsOn.of_leads leads (inductionHypothesis afterWhite _)).map build
      rw [readQuoted]
      split
      · exact .fail
      split
      · exact goesOn true (foldWhite source.white ++ ·) source.leads_white
      split
      · exact .fail
      split
      · split
        · exact goesOn false (quote :: ·) (source.leads_skip 2)
        · exact .pure (source.leads_skip 1) _
      split
      · split
        · exact goesOn true _
            (((source.leads_skip 1).trans (Source.leads_skipBreak _)).trans
              (Source.leads_white _))
        · intro value last isLast
          obtain ⟨⟨escaped, width⟩, _, isNext⟩ := Option.bind_eq_some_iff.mp isLast
          exact goesOn false (escaped :: ·) (source.leads_skip _) value last isNext
      · exact goesOn false _ (source.leads_skip 1)

/-- Between quotes, the first character of a word is passed over. -/
theorem leadsOn_readQuoted_of_startsWord
    {chars : List Char}
    (startsWord : StartsWord chars)
    (notWordChar : quote.isAlphanum = false)
    (fuel : Nat)
    (mark : Mark)
    (afterWhite : Bool) :
    LeadsOn (Source.skip ⟨mark, chars⟩ 1)
      (readQuoted quote (fuel + 1) afterWhite ⟨mark, chars⟩) := by
  have notBoundary := startsWord.atBoundary_eq mark
  obtain ⟨char, rest, rfl, isWordChar⟩ := startsWord
  have notMark : ¬ (quote = '"' ∧ char = '\\') :=
    fun ⟨_, isMark⟩ => ne_of_isAlphanum isWordChar rfl isMark
  rw [readQuoted]
  dsimp only
  rw [notBoundary, Bool.and_false, isWhite_of_isAlphanum isWordChar,
    if_neg Bool.false_ne_true, if_neg Bool.false_ne_true,
    if_neg (ne_of_isAlphanum isWordChar notWordChar), if_neg notMark]
  exact (leadsOn_readQuoted false _).map (char :: ·)

/-- An escape takes at least one character. -/
theorem escape?_width_pos
    {chars : List Char}
    {char : Char}
    {width : Nat}
    (isEscape : escape? chars = some (char, width)) :
    0 < width := by
  unfold escape? at isEscape
  split at isEscape
  · cases isEscape
  split at isEscape
  · obtain ⟨_, _, isRest⟩ := Option.bind_eq_some_iff.mp isEscape
    obtain ⟨_, _, isLast⟩ := Option.bind_eq_some_iff.mp isRest
    simp only [Option.ite_none_right_eq_some, Option.some.injEq, Prod.mk.injEq] at isLast
    exact isLast.2.2 ▸ Nat.succ_pos _
  · obtain ⟨_, _, isLast⟩ := Option.map_eq_some_iff.mp isEscape
    cases isLast
    exact Nat.one_pos

/-- An escape within the shared part is the same before both ends. -/
theorem escape?_eq
    (secondEnd : List Char)
    {rest : List Char}
    {char : Char}
    {width : Nat}
    (isEscape : escape? (rest ++ firstEnd) = some (char, width))
    (isShort : width ≤ rest.length) :
    escape? (rest ++ secondEnd) = some (char, width) := by
  cases rest with
  | nil =>
      have isPositive := escape?_width_pos isEscape
      cases Nat.le_zero.mp isShort
      cases isPositive
  | cons letter rest =>
      simp only [List.cons_append, escape?] at isEscape ⊢
      split at isEscape
      case h_1 count isCount =>
        obtain ⟨_, _, isRest⟩ := Option.bind_eq_some_iff.mp isEscape
        obtain ⟨_, _, isLast⟩ := Option.bind_eq_some_iff.mp isRest
        simp only [Option.ite_none_right_eq_some, Option.some.injEq, Prod.mk.injEq] at isLast
        obtain ⟨_, _, rfl⟩ := isLast
        have isShorter : count ≤ rest.length := Nat.le_of_succ_le_succ isShort
        rw [List.take_append_of_le_length isShorter] at isEscape ⊢
        exact isEscape
      case h_2 isLetter =>
        exact isEscape

/-- A quoted scalar is read before both ends, since a quote comes after it. -/
theorem readQuoted_follows
    (ends : WordEnds firstEnd secondEnd)
    (notWordChar : quote.isAlphanum = false)
    (twins : Source.Twins firstEnd secondEnd first second)
    (afterWhite : Bool) :
    Follows firstEnd firstEnd secondEnd
      (readQuoted quote fuel afterWhite first) (readQuoted quote fuel afterWhite second) := by
  induction fuel generalizing first second afterWhite with
  | zero =>
      exact .fail
  | succ fuel inductionHypothesis =>
      have goesOn :
          ∀ {firstNext secondNext : Source} (afterWhite : Bool)
            (build : List Char → List Char),
            (firstEnd <:+ firstNext.rest →
              Source.Twins firstEnd secondEnd firstNext secondNext) →
              Follows firstEnd firstEnd secondEnd
                (readQuoted quote fuel afterWhite firstNext >>= fun result =>
                  some (build result.1, result.2))
                (readQuoted quote fuel afterWhite secondNext >>= fun result =>
                  some (build result.1, result.2)) := by
        intro firstNext secondNext afterWhite build isTwins
        refine .of_kept ((leadsOn_readQuoted afterWhite firstNext).map build) fun isKept => ?_
        exact (inductionHypothesis (isTwins isKept) afterWhite).map build
      obtain ⟨sameWhite, afterWhites⟩ := twins.white ends
      have sameBoundary := twins.atBoundary_eq ends
      have isTwins := twins
      obtain ⟨mark, rest⟩ := twins
      cases rest with
      | nil =>
          -- What passes over the first character of the end does not keep the end.
          have passesEnd :=
            leadsOn_readQuoted_of_startsWord ends.first notWordChar fuel mark afterWhite
          refine .of_kept passesEnd fun isKept => ?_
          obtain ⟨⟨char, firstRest, rfl, _⟩, _⟩ := ends
          exact (Nat.not_succ_le_self _ isKept.length_le).elim
      | cons char rest =>
          rw [readQuoted, readQuoted]
          dsimp only [List.cons_append] at sameWhite afterWhites sameBoundary isTwins ⊢
          have next :
              Source.Twins firstEnd secondEnd
                (Source.skip ⟨mark, char :: (rest ++ firstEnd)⟩ 1)
                (Source.skip ⟨mark, char :: (rest ++ secondEnd)⟩ 1) :=
            .intro _ rest
          refine .ite Iff.rfl (fun isWhite => ?_) fun notWhite => ?_
          · rw [← sameWhite] at afterWhites ⊢
            exact goesOn true (foldWhite _ ++ ·) fun _ => afterWhites
          refine .ite (by rw [sameBoundary]) (fun _ => .fail) fun _ => ?_
          have sameQuote := ends.head?_eq (· = some quote)
            (fun char other isFirst isSecond => by
              simp [ne_of_isAlphanum isFirst notWordChar, ne_of_isAlphanum isSecond notWordChar])
            rest
          have sameBreak := ends.head?_eq (Option.any isBreak)
            (fun char other isFirst isSecond => by
              simp [isBreak_of_isAlphanum isFirst, isBreak_of_isAlphanum isSecond])
            rest
          refine .ite Iff.rfl (fun isQuote => ?_) fun notQuote => ?_
          · refine .ite (by rw [sameQuote]) (fun _ => ?_) fun _ => ?_
            · exact goesOn false (quote :: ·) (isTwins.skip ends)
            · exact .pure (fun _ => next) _
          refine .ite Iff.rfl (fun isEscape => ?_) fun _ => ?_
          · refine .ite (by rw [sameBreak]) (fun isLineEnd => ?_) fun _ => ?_
            · obtain ⟨sameWhite, afterWhites⟩ := (next.skipBreak ends).white ends
              rw [← sameWhite] at afterWhites ⊢
              exact goesOn true (lineBreaks _ ++ ·) fun _ => afterWhites
            · intro value last isLast isKept
              obtain ⟨⟨escaped, width⟩, isEscape, isRest⟩ := Option.bind_eq_some_iff.mp isLast
              have isKeptThere :=
                isKept.trans
                  ((leadsOn_readQuoted false _).map (escaped :: ·) value last isRest).suffix
              have sameEscape :=
                escape?_eq secondEnd isEscape (ends.count_le isKeptThere)
              rw [sameEscape]
              exact goesOn false (escaped :: ·) (isTwins.skip ends) value last isRest isKept
          · exact goesOn false (char :: ·) fun _ => next

end Quoted

section Block

/-- Reading the indent in a header goes on in the text. -/
theorem leadsOn_readIndent? (source : Source) : LeadsOn source (readIndent? source) := by
  unfold readIndent?
  split
  · split
    · split
      · exact .fail
      · exact .pure (source.leads_skip 1) _
    · exact .pure (.refl _) _
  · exact .pure (.refl _) _

/-- The indent of a header does not go into what comes before the end of its line. -/
theorem readIndent?_follows
    {char : Char}
    (twins : Source.Twins firstEnd secondEnd first second) :
    Follows (char :: firstEnd) firstEnd secondEnd
      (readIndent? first) (readIndent? second) := by
  refine .of_kept (leadsOn_readIndent? first) fun isKept => ?_
  obtain ⟨mark, head, rest, rfl, rfl⟩ := twins.exists_cons isKept
  refine .ite Iff.rfl (fun _ => ?_) fun _ => .pure (fun _ => twins) _
  exact .ite Iff.rfl (fun _ => .fail) fun _ => .pure (fun _ => .intro _ rest) _

/-- Reading what becomes of the last breaks goes on in the text. -/
theorem leads_readChomping (source : Source) : source.Leads (readChomping source).2 := by
  unfold readChomping
  split
  · exact source.leads_skip 1
  · exact .refl source

/-- The chomping of a header does not go into what comes before the end of its line. -/
theorem readChomping_twins
    {char : Char}
    (twins : Source.Twins firstEnd secondEnd first second)
    (isKept : char :: firstEnd <:+ first.rest) :
    ∃ chomping firstAfter secondAfter,
      readChomping first = (chomping, firstAfter) ∧
        readChomping second = (chomping, secondAfter) ∧
        Source.Twins firstEnd secondEnd firstAfter secondAfter := by
  obtain ⟨mark, head, rest, rfl, rfl⟩ := twins.exists_cons isKept
  unfold readChomping
  dsimp only [List.head?_cons]
  split
  · exact ⟨_, _, _, rfl, rfl, .intro _ rest⟩
  · exact ⟨_, _, _, rfl, rfl, twins⟩

/-- Read a header without the end of its line. -/
def readSigns? (source : Source) : Option (BlockHeader × Source) :=
  if (source.rest.head?.bind chomping?).isSome then
    readIndent? (readChomping source).2 >>= fun result =>
      some (⟨(readChomping source).1, result.1⟩, result.2)
  else
    readIndent? source >>= fun result =>
      some (⟨(readChomping result.2).1, result.1⟩, (readChomping result.2).2)

/-- A header is its signs and the end of its line. -/
theorem readHeader?_eq (source : Source) :
    readHeader? source =
      readSigns? source >>= fun result =>
        result.2.finishLine? >>= fun next => some (result.1, next) := by
  unfold readHeader? readSigns?
  split
  · rcases readChomping source with ⟨chomping, afterChomping⟩
    dsimp only
    cases readIndent? afterChomping <;> rfl
  · cases readIndent? source <;> rfl

theorem leadsOn_readSigns? (source : Source) : LeadsOn source (readSigns? source) := by
  unfold readSigns?
  split
  · exact .of_leads (leads_readChomping source) ((leadsOn_readIndent? _).map _)
  · exact (leadsOn_readIndent? source).bind fun _ after => .pure (leads_readChomping after) _

theorem readSigns?_follows
    {char : Char}
    (twins : Source.Twins firstEnd secondEnd first second) :
    Follows (char :: firstEnd) firstEnd secondEnd
      (readSigns? first) (readSigns? second) := by
  refine .of_kept (leadsOn_readSigns? first) fun isKept => ?_
  have sameHead : first.rest.head? = second.rest.head? := by
    obtain ⟨mark, head, rest, rfl, rfl⟩ := twins.exists_cons isKept
    rfl
  obtain ⟨chomping, firstAfter, secondAfter, isFirst, isSecond, after⟩ :=
    readChomping_twins twins isKept
  unfold readSigns?
  refine .ite (by rw [sameHead]) (fun _ => ?_) fun _ => ?_
  · rw [isFirst, isSecond]
    exact (readIndent?_follows after).map _
  · refine (readIndent?_follows twins).bind
      (fun _ after => .pure (leads_readChomping after) _) fun indent _ _ twins => ?_
    refine .of_kept (.pure (leads_readChomping _) _) fun isKept => ?_
    obtain ⟨chomping, firstAfter, secondAfter, isFirst, isSecond, after⟩ :=
      readChomping_twins twins isKept
    rw [isFirst, isSecond]
    exact .pure (fun _ => after) _

/-- Reading a header goes on in the text. -/
theorem leadsOn_readHeader? (source : Source) : LeadsOn source (readHeader? source) := by
  rw [readHeader?_eq]
  exact (leadsOn_readSigns? source).bind fun _ after => .finishLine after _

/-- A header is read before both ends, since the end of its line comes after it. -/
theorem readHeader?_follows
    (ends : WordEnds firstEnd secondEnd)
    (twins : Source.Twins firstEnd secondEnd first second) :
    Follows firstEnd firstEnd secondEnd (readHeader? first) (readHeader? second) := by
  rw [readHeader?_eq, readHeader?_eq]
  exact .finishLine ends (fun _ => readSigns?_follows twins) id

section

variable {indent widest : Nat}

/-- A character that does not belong to a pair is passed over for itself, or not at all. -/
theorem readEmptyLines_cons
    {mark : Mark}
    {char : Char}
    {rest : List Char}
    (isSingle : ∀ tail, char = '\r' → rest = '\n' :: tail → False) :
    readEmptyLines indent widest mark (char :: rest) =
      if (indent == 0 || mark.column < indent) && isSpace char then
        readEmptyLines indent widest (mark.pass char) rest
      else if (indent == 0 || mark.column < indent) && char == '\t' then
        none
      else if isBreak char then
        (readEmptyLines indent (max widest mark.column) (mark.down char.utf8Size) rest).map
          fun lines => { lines with breaks := normalBreak char :: lines.breaks }
      else
        some ⟨[], max widest mark.column, ⟨mark, char :: rest⟩⟩ := by
  rw [readEmptyLines]
  · simp only [Option.map_eq_bind]
    rfl
  · exact isSingle

/-- Reading empty lines goes on in the text. -/
theorem leads_of_readEmptyLines
    {mark : Mark}
    {chars : List Char}
    {lines : EmptyLines}
    (isRead : readEmptyLines indent widest mark chars = some lines) :
    Source.Leads ⟨mark, chars⟩ lines.after := by
  fun_induction readEmptyLines indent widest mark chars generalizing lines with
  | case1 widest mark rest inductionHypothesis =>
      obtain ⟨others, isOthers, isLast⟩ := Option.bind_eq_some_iff.mp isRead
      have leads := inductionHypothesis isOthers
      cases isLast
      exact (Source.leads_down_pair mark rest).trans leads
  | case2 widest mark char rest =>
      rename_i inductionHypothesis
      exact (Source.leads_pass mark char rest).trans (inductionHypothesis isRead)
  | case3 =>
      cases isRead
  | case4 widest mark char rest =>
      rename_i inductionHypothesis
      obtain ⟨others, isOthers, isLast⟩ := Option.bind_eq_some_iff.mp isRead
      have leads := inductionHypothesis isOthers
      cases isLast
      exact (Source.leads_down mark char rest).trans leads
  | case5 | case6 =>
      cases isRead
      exact .refl _

/-- There are no empty lines where a word starts. -/
theorem readEmptyLines_of_startsWord
    {mark : Mark}
    {chars : List Char}
    (startsWord : StartsWord chars) :
    readEmptyLines indent widest mark chars =
      some ⟨[], max widest mark.column, ⟨mark, chars⟩⟩ := by
  obtain ⟨char, rest, rfl, isWordChar⟩ := startsWord
  rw [readEmptyLines_cons fun _ isReturn _ => ne_of_isAlphanum isWordChar rfl isReturn]
  simp [isSpace_of_isAlphanum isWordChar, isBreak_of_isAlphanum isWordChar,
    ne_of_isAlphanum isWordChar]

/-- Empty lines end at the latest where a word starts. -/
theorem readEmptyLines_eq
    (ends : WordEnds firstEnd secondEnd)
    {mark : Mark}
    {chars rest : List Char}
    {lines : EmptyLines}
    (isText : chars = rest ++ firstEnd)
    (isRead : readEmptyLines indent widest mark chars = some lines) :
    ∃ secondAfter,
      readEmptyLines indent widest mark (rest ++ secondEnd) =
          some { lines with after := secondAfter } ∧
        Source.Twins firstEnd secondEnd lines.after secondAfter := by
  fun_induction readEmptyLines indent widest mark chars generalizing rest lines with
  | case1 widest mark tail inductionHypothesis =>
      rcases ends.first.cons_cases isText with ⟨_, _, isWordChar⟩ | ⟨more, rfl, isTail⟩
      · cases isWordChar
      rcases ends.first.cons_cases isTail with ⟨_, _, isWordChar⟩ | ⟨more, rfl, rfl⟩
      · cases isWordChar
      obtain ⟨others, isOthers, isLast⟩ := Option.bind_eq_some_iff.mp isRead
      obtain ⟨secondAfter, isSecond, twins⟩ := inductionHypothesis rfl isOthers
      cases isLast
      refine ⟨secondAfter, ?_, twins⟩
      rw [List.cons_append, List.cons_append, readEmptyLines, isSecond]
      rfl
  | case2 widest mark char tail isSingle isShallow isIndent =>
      rename_i inductionHypothesis
      rcases ends.first.cons_cases isText with ⟨_, _, isWordChar⟩ | ⟨more, rfl, rfl⟩
      · rw [isSpace_of_isAlphanum isWordChar, Bool.and_false] at isIndent
        cases isIndent
      obtain ⟨secondAfter, isSecond, twins⟩ := inductionHypothesis rfl isRead
      refine ⟨secondAfter, (readEmptyLines_cons (ends.single isSingle)).trans ?_, twins⟩
      exact (if_pos isIndent).trans isSecond
  | case3 =>
      cases isRead
  | case4 widest mark char tail isSingle isShallow notIndent notTab isBreakChar =>
      rename_i inductionHypothesis
      rcases ends.first.cons_cases isText with ⟨_, _, isWordChar⟩ | ⟨more, rfl, rfl⟩
      · rw [isBreak_of_isAlphanum isWordChar] at isBreakChar
        cases isBreakChar
      obtain ⟨others, isOthers, isLast⟩ := Option.bind_eq_some_iff.mp isRead
      obtain ⟨secondAfter, isSecond, twins⟩ := inductionHypothesis rfl isOthers
      cases isLast
      refine ⟨secondAfter, (readEmptyLines_cons (ends.single isSingle)).trans ?_, twins⟩
      rw [if_pos isBreakChar, isSecond]
      exact (if_neg notIndent).trans (if_neg notTab)
  | case5 widest mark char tail isSingle isShallow notIndent notTab =>
      rename_i notBreak
      cases isRead
      rcases ends.first.cons_cases isText with ⟨rfl, isEnd, _⟩ | ⟨more, rfl, rfl⟩
      · rw [← isEnd]
        exact ⟨⟨mark, secondEnd⟩, readEmptyLines_of_startsWord ends.second, .intro mark []⟩
      refine ⟨_, (readEmptyLines_cons (ends.single isSingle)).trans ?_,
        .intro mark (char :: more)⟩
      exact (if_neg notIndent).trans ((if_neg notTab).trans (if_neg notBreak))
  | case6 =>
      obtain ⟨⟨char, firstRest, rfl, _⟩, _⟩ := ends
      cases rest <;> cases isText

/-- The empty lines in front of two words are the same. -/
theorem readEmptyLines_follows
    (ends : WordEnds firstEnd secondEnd)
    (twins : Source.Twins firstEnd secondEnd first second)
    {lines : EmptyLines}
    (isRead : readEmptyLines indent widest first.mark first.rest = some lines) :
    ∃ secondAfter,
      readEmptyLines indent widest second.mark second.rest =
          some { lines with after := secondAfter } ∧
        Source.Twins firstEnd secondEnd lines.after secondAfter := by
  obtain ⟨mark, rest⟩ := twins
  exact readEmptyLines_eq ends rfl isRead

end

section

variable {isFolded : Bool}
variable {chomping : Chomping}
variable {indent : Nat}

/-- Reading the lines of a block scalar goes on in the text. -/
theorem leadsOn_readLines
    (lineEnd breaks : List Char)
    (afterBlank : Bool)
    (source : Source) :
    LeadsOn source
      (readLines isFolded chomping indent fuel lineEnd breaks afterBlank source) := by
  induction fuel generalizing lineEnd breaks afterBlank source with
  | zero =>
      exact .fail
  | succ fuel inductionHypothesis =>
      rw [readLines]
      split
      · intro value last isLast
        obtain ⟨empty, isEmpty, isRest⟩ := Option.bind_eq_some_iff.mp isLast
        obtain ⟨⟨text, after⟩, isText, isSome⟩ := Option.bind_eq_some_iff.mp isRest
        cases isSome
        exact (((source.leads_skip _).trans (Source.leads_skipBreak _)).trans
          (leads_of_readEmptyLines isEmpty)).trans
            (inductionHypothesis _ _ _ _ text last isText)
      · exact .pure (.refl source) _

/-- The lines of a block scalar are read before both ends. -/
theorem readLines_follows
    (ends : WordEnds firstEnd secondEnd)
    (twins : Source.Twins firstEnd secondEnd first second)
    (lineEnd breaks : List Char)
    (afterBlank : Bool) :
    Follows firstEnd firstEnd secondEnd
      (readLines isFolded chomping indent fuel lineEnd breaks afterBlank first)
      (readLines isFolded chomping indent fuel lineEnd breaks afterBlank second) := by
  induction fuel generalizing first second lineEnd breaks afterBlank with
  | zero =>
      exact .fail
  | succ fuel inductionHypothesis =>
      have isLine : first.mark.column = indent ∧ first.rest ≠ [] ↔
          second.mark.column = indent ∧ second.rest ≠ [] := by
        obtain ⟨mark, rest⟩ := twins
        obtain ⟨⟨char, firstRest, rfl, _⟩, ⟨other, secondRest, rfl, _⟩⟩ := ends
        simp
      rw [readLines, readLines]
      refine .ite isLine (fun _ => ?_) fun _ => .pure (fun _ => twins) _
      intro value last isLast isKept
      obtain ⟨empty, isEmpty, isRest⟩ := Option.bind_eq_some_iff.mp isLast
      obtain ⟨⟨text, after⟩, isText, isSome⟩ := Option.bind_eq_some_iff.mp isRest
      cases isSome
      have keptEmpty := isKept.trans (leadsOn_readLines _ _ _ _ text last isText).suffix
      have keptNext := keptEmpty.trans (leads_of_readEmptyLines isEmpty).suffix
      have keptLine := keptNext.trans (Source.leads_skipBreak _).suffix
      have alike : ∀ char other : Char, char.isAlphanum = true → other.isAlphanum = true →
          (!isBreak char) = !isBreak other := by
        intro char other isFirst isSecond
        rw [isBreak_of_isAlphanum isFirst, isBreak_of_isAlphanum isSecond]
      have sameLine := twins.takeWhile_eq ends alike keptLine
      have ended := twins.skip ends keptLine
      have sameBlank := twins.head?_eq ends (Option.any isBlank)
        fun char other isFirst isSecond => by
          simp [isBlank_of_isAlphanum isFirst, isBlank_of_isAlphanum isSecond]
      have sameEnd := ended.head?_eq ends (Option.map normalBreak)
        fun char other isFirst isSecond => by
          simp [normalBreak, ne_of_isAlphanum isFirst, ne_of_isAlphanum isSecond]
      obtain ⟨secondAfter, isSecondEmpty, emptyTwins⟩ :=
        readEmptyLines_follows ends (ended.skipBreak ends) isEmpty
      obtain ⟨secondLast, isSecondText, lastTwins⟩ :=
        inductionHypothesis emptyTwins _ _ _ text last isText isKept
      refine ⟨secondLast, ?_, lastTwins⟩
      dsimp only
      rw [← sameLine, ← sameBlank, isSecondEmpty, ← sameEnd]
      dsimp only [Option.bind_eq_bind, Option.bind_some]
      rw [isSecondText]
      rfl

end

/-- The lines after a header lead on from the start of the first one. -/
theorem leadsOn_afterHeader
    (isFolded : Bool)
    (outer : Int)
    (header : BlockHeader)
    (given : Nat)
    (start : Source) :
    LeadsOn start
      (readEmptyLines given 0 start.mark start.rest >>= fun empty =>
        readLines isFolded header.chomping (lineIndent outer header empty.widest) fuel []
          empty.breaks false empty.after) := by
  intro value last isLast
  obtain ⟨empty, isEmpty, isRest⟩ := Option.bind_eq_some_iff.mp isLast
  exact (leads_of_readEmptyLines isEmpty).trans
    (leadsOn_readLines _ _ _ _ value last isRest)

/-- Reading a block scalar goes on in the text. -/
theorem leadsOn_readBlock
    (isFolded : Bool)
    (outer : Int)
    (source : Source) :
    LeadsOn source (readBlock isFolded outer fuel source) :=
  (leadsOn_readHeader? source).bind fun header start =>
    leadsOn_afterHeader isFolded outer header _ start

/-- A block scalar is read before both ends. -/
theorem readBlock_follows
    (ends : WordEnds firstEnd secondEnd)
    (twins : Source.Twins firstEnd secondEnd first second)
    (isFolded : Bool)
    (outer : Int) :
    Follows firstEnd firstEnd secondEnd
      (readBlock isFolded outer fuel first) (readBlock isFolded outer fuel second) := by
  refine (readHeader?_follows ends twins).bind
    (fun header start => leadsOn_afterHeader isFolded outer header _ start)
    fun header firstStart secondStart start => ?_
  intro value last isLast isKept
  obtain ⟨empty, isEmpty, isRest⟩ := Option.bind_eq_some_iff.mp isLast
  obtain ⟨secondAfter, isSecondEmpty, emptyTwins⟩ :=
    readEmptyLines_follows ends start isEmpty
  obtain ⟨secondLast, isSecond, lastTwins⟩ :=
    readLines_follows ends emptyTwins [] empty.breaks false value last isRest isKept
  refine ⟨secondLast, ?_, lastTwins⟩
  dsimp only
  rw [isSecondEmpty]
  exact isSecond

end Block

end AlertReceivers.Yaml
