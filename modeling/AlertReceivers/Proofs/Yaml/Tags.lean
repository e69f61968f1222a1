import AlertReceivers.Proofs.ListFacts
import AlertReceivers.Proofs.Yaml.Source
import AlertReceivers.Yaml.Directive

namespace AlertReceivers.Yaml

/-!
# Tags and directives before two ends

A tag ends before white space and a directive before the end of its line, so neither
goes into a word after it.  Letters and digits may stand in both, so this needs another
character between them and the word.
-/

open ListFacts (exists_shared)

variable {firstEnd secondEnd : List Char}
variable {last : Char}
variable {allowed : Char → Bool}

/-- Reading the characters of a tag goes on in the text. -/
theorem leads_of_readTagBytes
    {due : Nat}
    {mark : Mark}
    {chars : List Char}
    {bytes : List UInt8}
    {next : Source}
    (isRead : readTagBytes allowed due mark chars = some (bytes, next)) :
    Source.Leads ⟨mark, chars⟩ next := by
  fun_induction readTagBytes allowed due mark chars generalizing bytes with
  | case1 due mark high low rest inductionHypothesis =>
      obtain ⟨byte, _, isDue⟩ := Option.bind_eq_some_iff.mp isRead
      obtain ⟨due, _, isRest⟩ := Option.bind_eq_some_iff.mp isDue
      obtain ⟨⟨others, after⟩, isOthers, isLast⟩ := Option.bind_eq_some_iff.mp isRest
      cases isLast
      refine Source.Leads.trans ?_ (inductionHypothesis due isOthers)
      exact ⟨['%', high, low], rfl, Mark.offset_passAll _ _⟩
  | case2 | case4 =>
      cases isRead
  | case3 | case6 =>
      cases isRead
      exact .refl _
  | case5 due mark _ char rest =>
      rename_i inductionHypothesis
      obtain ⟨⟨others, after⟩, isOthers, isLast⟩ := Option.bind_eq_some_iff.mp isRead
      cases isLast
      exact (Source.leads_pass mark char rest).trans (inductionHypothesis isOthers)

/-- A character that starts no escape stands for its own bytes, or ends the tag. -/
theorem readTagBytes_cons
    {mark : Mark}
    {char : Char}
    {rest : List Char}
    (notEscape : char ≠ '%') :
    readTagBytes allowed 0 mark (char :: rest) =
      if allowed char then
        readTagBytes allowed 0 (mark.pass char) rest >>= fun result =>
          some (String.utf8EncodeChar char ++ result.1, result.2)
      else
        some ([], ⟨mark, char :: rest⟩) := by
  rw [readTagBytes.eq_3 _ _ _ _ _
    fun _ _ _ isEscape => notEscape (List.cons.inj isEscape).1]
  exact if_neg notEscape

/-- Characters of a tag that leave another one before the end are the same before both
ends. -/
theorem readTagBytes_eq
    {due : Nat}
    {mark : Mark}
    {chars rest : List Char}
    {bytes : List UInt8}
    {next : Source}
    (isText : chars = rest ++ firstEnd)
    (isRead : readTagBytes allowed due mark chars = some (bytes, next))
    (isKept : last :: firstEnd <:+ next.rest) :
    ∃ secondNext,
      readTagBytes allowed due mark (rest ++ secondEnd) = some (bytes, secondNext) ∧
        Source.Twins firstEnd secondEnd next secondNext := by
  have isEnd : firstEnd <:+ next.rest := (List.suffix_cons last firstEnd).trans isKept
  fun_induction readTagBytes allowed due mark chars generalizing rest bytes with
  | case1 due mark high low tail inductionHypothesis =>
      obtain ⟨byte, isByte, isDue⟩ := Option.bind_eq_some_iff.mp isRead
      obtain ⟨due, isNextDue, isRest⟩ := Option.bind_eq_some_iff.mp isDue
      obtain ⟨⟨others, after⟩, isOthers, isLast⟩ := Option.bind_eq_some_iff.mp isRest
      cases isLast
      obtain ⟨more, rfl, rfl⟩ := exists_shared ['%', high, low] isText
        (isEnd.trans (leads_of_readTagBytes isOthers).suffix)
      obtain ⟨secondNext, isSecond, twins⟩ := inductionHypothesis due rfl isOthers
      refine ⟨secondNext, ?_, twins⟩
      simp only [List.cons_append, List.nil_append, readTagBytes, isByte, isNextDue,
        Option.bind_eq_bind, Option.bind_some, isSecond]
  | case2 | case4 =>
      cases isRead
  | case3 =>
      cases isRead
      cases List.eq_nil_of_suffix_nil isKept
  | case5 due mark notDue char tail notEscape isAllowed =>
      rename_i inductionHypothesis
      obtain ⟨⟨others, after⟩, isOthers, isLast⟩ := Option.bind_eq_some_iff.mp isRead
      cases isLast
      obtain ⟨more, rfl, rfl⟩ := exists_shared [char] isText
        (isEnd.trans (leads_of_readTagBytes isOthers).suffix)
      obtain ⟨secondNext, isSecond, twins⟩ := inductionHypothesis rfl isOthers
      refine ⟨secondNext, ?_, twins⟩
      rw [not_not] at notDue
      rw [List.cons_append, List.nil_append, List.cons_append, notDue,
        readTagBytes_cons notEscape, if_pos isAllowed, isSecond]
      rfl
  | case6 due mark notDue char tail notEscape notAllowed =>
      cases isRead
      have isShared : firstEnd <:+ tail := by
        rcases List.suffix_cons_iff.mp isKept with isWhole | isInner
        · exact (List.cons.inj isWhole).2 ▸ List.suffix_refl _
        · exact (List.suffix_cons last firstEnd).trans isInner
      obtain ⟨more, rfl, rfl⟩ := exists_shared [char] isText isShared
      rw [not_not] at notDue
      refine ⟨⟨mark, char :: (more ++ secondEnd)⟩, ?_, .intro mark (char :: more)⟩
      rw [List.cons_append, List.nil_append, List.cons_append, notDue,
        readTagBytes_cons notEscape, if_neg notAllowed]

/-- A reader that leaves another character before the end reads the same before both
ends. -/
structure Local
    (firstEnd secondEnd : List Char)
    (reader : Source → Option (α × Source)) :
    Prop where
  leadsOn : ∀ source, LeadsOn source (reader source)
  follows :
    ∀ {first second : Source} (last : Char),
      Source.Twins firstEnd secondEnd first second →
        Follows (last :: firstEnd) firstEnd secondEnd (reader first) (reader second)

namespace Local

variable {reader other : Source → Option (α × Source)}

/-- A reader that reads nothing is local. -/
theorem pure (value : α) :
    Local firstEnd secondEnd fun source => some (value, source) where
  leadsOn source := .pure (.refl source) value
  follows _ twins := .pure (fun _ => twins) value

/-- A reader that always fails is local. -/
theorem fail : Local firstEnd secondEnd fun _ => (none : Option (α × Source)) where
  leadsOn _ := .fail
  follows _ _ := .fail

/-- A reader that reads nothing is local, also if it has no value. -/
theorem ofOption (value? : Option α) :
    Local firstEnd secondEnd fun source => value?.map fun value => (value, source) := by
  cases value? with
  | none =>
      exact .fail
  | some value =>
      exact .pure value

/-- Readers one after the other are local if each of them is. -/
theorem bind
    {next : α → Source → Option (β × Source)}
    (isLocal : Local firstEnd secondEnd reader)
    (isNextLocal : ∀ value, Local firstEnd secondEnd (next value)) :
    Local firstEnd secondEnd fun source =>
      reader source >>= fun result => next result.1 result.2 where
  leadsOn source :=
    (isLocal.leadsOn source).bind fun value after => (isNextLocal value).leadsOn after
  follows last twins :=
    (isLocal.follows last twins).bind (fun value after => (isNextLocal value).leadsOn after)
      fun value _ _ twins => (isNextLocal value).follows last twins

/-- A local reader is local after characters that are passed over. -/
theorem skip
    (isLocal : Local firstEnd secondEnd reader)
    (count : Nat) :
    Local firstEnd secondEnd fun source => reader (source.skip count) where
  leadsOn source := .of_leads (source.leads_skip count) (isLocal.leadsOn _)
  follows last twins :=
    .of_kept (isLocal.leadsOn _) fun isKept =>
      isLocal.follows last (twins.skip_of_more isKept)

/-- A local reader is local after a run of characters that is passed over. -/
theorem skipWhile
    (isLocal : Local firstEnd secondEnd reader)
    (matching : Char → Bool) :
    Local firstEnd secondEnd fun source => reader (source.skipWhile matching) where
  leadsOn source := .of_leads (source.leads_skip _) (isLocal.leadsOn _)
  follows last twins :=
    .of_kept (isLocal.leadsOn _) fun isKept =>
      isLocal.follows last (twins.skipWhile_of_more isKept)

/-- What comes after a run of characters may depend on the run. -/
theorem run
    {reader : List Char → Source → Option (α × Source)}
    (isLocal : ∀ name, Local firstEnd secondEnd (reader name))
    (matching : Char → Bool) :
    Local firstEnd secondEnd fun source =>
      reader (source.rest.takeWhile matching) (source.skipWhile matching) where
  leadsOn source := .of_leads (source.leads_skip _) ((isLocal _).leadsOn _)
  follows last twins :=
    .of_kept ((isLocal _).leadsOn _) fun isKept => by
      rw [← twins.takeWhile_of_more isKept]
      exact (isLocal _).follows last (twins.skipWhile_of_more isKept)

/-- A case may depend on the next character. -/
theorem ite_head
    (test : Option Char → Prop)
    [DecidablePred test]
    (isLocal : Local firstEnd secondEnd reader)
    (isOtherLocal : Local firstEnd secondEnd other) :
    Local firstEnd secondEnd fun source =>
      if test source.rest.head? then reader source else other source := by
  have leads : ∀ source,
      LeadsOn source (if test source.rest.head? then reader source else other source) := by
    intro source
    split
    · exact isLocal.leadsOn source
    · exact isOtherLocal.leadsOn source
  refine ⟨leads, fun {first second} last twins => .of_kept (leads first) fun isKept => ?_⟩
  obtain ⟨mark, head, rest, rfl, rfl⟩ := twins.exists_cons isKept
  exact .ite Iff.rfl (fun _ => isLocal.follows last twins)
    fun _ => isOtherLocal.follows last twins

/-- A case may depend on anything but the source. -/
theorem ite
    (test : Prop)
    [Decidable test]
    (isLocal : Local firstEnd secondEnd reader)
    (isOtherLocal : Local firstEnd secondEnd other) :
    Local firstEnd secondEnd fun source =>
      if test then reader source else other source := by
  split
  · exact isLocal
  · exact isOtherLocal

end Local

/-- The characters of a tag are read by a local reader. -/
theorem local_readTagBytes (allowed : Char → Bool) :
    Local firstEnd secondEnd fun source =>
      readTagBytes allowed 0 source.mark source.rest where
  leadsOn _ _ _ isRead := leads_of_readTagBytes isRead
  follows _ twins := by
    obtain ⟨mark, rest⟩ := twins
    exact fun _ _ isRead isKept => readTagBytes_eq rfl isRead isKept

/-- The suffix of a tag is read by a local reader. -/
theorem local_readSuffix? (allowed : Char → Bool) :
    Local firstEnd secondEnd (readSuffix? allowed) :=
  (local_readTagBytes allowed).bind fun bytes =>
    .ite (bytes.isEmpty = true) .fail (.pure (upToZero bytes))

/-- The name of a handle is a run of characters after its mark. -/
theorem readHandle?_mark
    (mark : Mark)
    (rest : List Char) :
    readHandle? ⟨mark, '!' :: rest⟩ =
      if (Source.skipWhile ⟨mark.pass '!', rest⟩ isNameChar).rest.head? = some '!' then
        some
          ('!' :: rest.takeWhile isNameChar ++ ['!'],
            (Source.skipWhile ⟨mark.pass '!', rest⟩ isNameChar).skip 1)
      else
        some
          ('!' :: rest.takeWhile isNameChar,
            Source.skipWhile ⟨mark.pass '!', rest⟩ isNameChar) :=
  rfl

/-- Without a mark there is no handle. -/
theorem readHandle?_of_ne
    {mark : Mark}
    {head : Char}
    {rest : List Char}
    (notMark : head ≠ '!') :
    readHandle? ⟨mark, head :: rest⟩ = none := by
  unfold readHandle?
  split
  case h_1 isMark =>
    exact (notMark (List.cons.inj isMark).1).elim
  case h_2 =>
    rfl

/-- The second mark of a handle, if there is one. -/
theorem local_secondMark (name : List Char) :
    Local firstEnd secondEnd fun source =>
      if source.rest.head? = some '!' then
        some ('!' :: name ++ ['!'], source.skip 1)
      else
        some ('!' :: name, source) :=
  .ite_head (· = some '!') ((Local.pure _).skip 1) (.pure _)

/-- The handle of a tag is read by a local reader. -/
theorem local_readHandle? : Local firstEnd secondEnd readHandle? := by
  have afterMark : Local firstEnd secondEnd _ := .run local_secondMark isNameChar
  have leads : ∀ source, LeadsOn source (readHandle? source) := by
    rintro ⟨mark, chars⟩
    cases chars with
    | nil =>
        exact .fail
    | cons head rest =>
        by_cases notMark : head ≠ '!'
        · rw [readHandle?_of_ne notMark]
          exact .fail
        · rw [not_not.mp notMark, readHandle?_mark]
          exact .of_leads (Source.leads_pass mark '!' rest) (afterMark.leadsOn _)
  refine ⟨leads, fun {first second} last twins => .of_kept (leads first) fun isKept => ?_⟩
  obtain ⟨mark, head, rest, rfl, rfl⟩ := twins.exists_cons isKept
  by_cases notMark : head ≠ '!'
  · rw [readHandle?_of_ne notMark]
    exact .fail
  rw [not_not.mp notMark, readHandle?_mark, readHandle?_mark]
  exact afterMark.follows last (.intro (mark.pass '!') rest)

/-- A tag in angle brackets is read by a local reader. -/
theorem local_readVerbatimTag? : Local firstEnd secondEnd readVerbatimTag? :=
  ((local_readSuffix? isWideTagChar).bind fun suffix =>
    .ite_head (· = some '>') ((Local.pure (TokenKind.tag "" suffix)).skip 1) .fail).skip 2

/-- A tag with a handle is read by a local reader. -/
theorem local_readShorthandTag? : Local firstEnd secondEnd readShorthandTag? :=
  local_readHandle?.bind fun handle =>
    .ite (isClosed handle = true)
      ((local_readSuffix? isTagChar).bind fun suffix =>
        .pure (TokenKind.tag (String.ofList handle) suffix))
      ((local_readTagBytes isTagChar).bind fun bytes =>
        .pure
          (if (upToZero (textBytes handle.tail ++ bytes)).isEmpty then
            TokenKind.tag "" (textBytes ['!'])
          else
            .tag "!" (upToZero (textBytes handle.tail ++ bytes))))

/-- Read a tag without looking at what comes after it. -/
def readOpenTag? (source : Source) : Option (TokenKind × Source) :=
  if (source.rest.drop 1).head? = some '<' then
    readVerbatimTag? source
  else
    readShorthandTag? source

/-- A tag is one that is read without its end, with an end after it. -/
theorem readTag?_eq
    (inFlow : Bool)
    (source : Source) :
    readTag? inFlow source =
      readOpenTag? source >>= fun result =>
        if endsTag inFlow result.2 then some result else none := by
  unfold readTag? readOpenTag?
  split <;> rfl

/-- Reading a tag goes on in the text. -/
theorem leadsOn_readTag?
    (inFlow : Bool)
    (source : Source) :
    LeadsOn source (readTag? inFlow source) := by
  rw [readTag?_eq]
  refine LeadsOn.bind ?_ fun kind after => ?_
  · have verbatim : Local [] [] readVerbatimTag? := local_readVerbatimTag?
    have shorthand : Local [] [] readShorthandTag? := local_readShorthandTag?
    unfold readOpenTag?
    split
    · exact verbatim.leadsOn source
    · exact shorthand.leadsOn source
  · split
    · exact .pure (.refl after) _
    · exact .fail

/-- A tag is read before both ends, since white space or a comma comes after it. -/
theorem readTag?_follows
    (ends : WordEnds firstEnd secondEnd)
    (inFlow : Bool)
    (mark : Mark)
    (head : Char)
    (rest : List Char) :
    Follows firstEnd firstEnd secondEnd
      (readTag? inFlow ⟨mark, head :: rest ++ firstEnd⟩)
      (readTag? inFlow ⟨mark, head :: rest ++ secondEnd⟩) := by
  have twins : Source.Twins firstEnd secondEnd _ _ := .intro mark (head :: rest)
  have sameBracket := ends.head?_eq (· = some '<')
    (fun char other isFirst isSecond => by
      simp [ne_of_isAlphanum isFirst, ne_of_isAlphanum isSecond])
    rest
  have openTag : ∀ last,
      Follows (last :: firstEnd) firstEnd secondEnd
        (readOpenTag? ⟨mark, head :: rest ++ firstEnd⟩)
        (readOpenTag? ⟨mark, head :: rest ++ secondEnd⟩) :=
    fun last => .ite (Iff.of_eq sameBracket)
      (fun _ => local_readVerbatimTag?.follows last twins)
      fun _ => local_readShorthandTag?.follows last twins
  have stops : ∀ char : Char, char.isAlphanum = true →
      ((some char).all isWhite || (inFlow && some char == some ',')) = false := by
    intro char isWordChar
    simp [isWhite_of_isAlphanum isWordChar, ne_of_isAlphanum isWordChar]
  rw [readTag?_eq, readTag?_eq]
  intro kind next isNext isKept
  obtain ⟨⟨_, after⟩, isTag, isEnd⟩ := Option.bind_eq_some_iff.mp isNext
  simp only [Option.ite_none_right_eq_some, Option.some.injEq, Prod.mk.injEq] at isEnd
  obtain ⟨atEnd, rfl, rfl⟩ := isEnd
  obtain ⟨last, isKeptLast⟩ :=
    (Source.Twins.of_suffix isKept).exists_char_of_head ⟨ends.first, ends.first⟩
      (fun head => head.all isWhite || (inFlow && head == some ',')) stops atEnd
  obtain ⟨secondAfter, isSecond, afterTwins⟩ := openTag last _ after isTag isKeptLast
  refine ⟨secondAfter, ?_, afterTwins⟩
  have sameEnd : endsTag inFlow after = endsTag inFlow secondAfter :=
    afterTwins.head?_eq ends (fun head => head.all isWhite || (inFlow && head == some ','))
      fun char other isFirst isSecond => (stops char isFirst).trans (stops other isSecond).symm
  rw [isSecond]
  exact if_pos (sameEnd ▸ atEnd)

section Directives

/-- A part of a version number is read by a local reader. -/
theorem local_readVersionNumber? : Local firstEnd secondEnd readVersionNumber? := by
  have afterDigits : Local firstEnd secondEnd _ :=
    .run (fun digits => .ite (9 < digits.length) .fail (.ofOption (Decimal.read? 10 digits)))
      Char.isDigit
  exact afterDigits

/-- A version is read by a local reader. -/
theorem local_readVersion? : Local firstEnd secondEnd readVersion? :=
  (local_readVersionNumber?.bind fun major =>
    .ite_head (· = some '.')
      ((local_readVersionNumber?.bind fun minor =>
        .pure (TokenKind.version major minor)).skip 1)
      .fail).skipWhile isBlank

/-- A handle and what it stands for are read by a local reader. -/
theorem local_readTagHandle? : Local firstEnd secondEnd readTagHandle? :=
  (local_readHandle?.bind fun handle =>
    .ite_head (fun head => ((isClosed handle || handle == ['!']) && head.any isBlank) = true)
      (((local_readSuffix? isWideTagChar).bind fun meaning =>
        .ite_head (fun head => head.all isWhite = true)
          (.pure (TokenKind.tagHandle (String.ofList handle) meaning)) .fail).skipWhile isBlank)
      .fail).skipWhile isBlank

/-- Read a directive without the end of its line. -/
def readContent? (source : Source) : Option (TokenKind × Source) :=
  let start := source.skip 1
  let name := start.rest.takeWhile isNameChar
  let afterName := start.skip name.length
  if !afterName.rest.head?.all isWhite then
    none
  else if name = "YAML".toList then
    readVersion? afterName
  else if name = "TAG".toList then
    readTagHandle? afterName
  else
    none

/-- A directive is its content and the end of its line. -/
theorem readDirective?_eq (source : Source) :
    readDirective? source =
      readContent? source >>= fun result =>
        result.2.finishLine? >>= fun next => some (result.1, next) := by
  unfold readDirective? readContent?
  dsimp only
  split
  · rfl
  split
  · rfl
  split <;> rfl

/-- The content of a directive is read by a local reader. -/
theorem local_readContent? : Local firstEnd secondEnd readContent? := by
  have named : ∀ name : List Char,
      Local firstEnd secondEnd fun source =>
        if (!source.rest.head?.all isWhite) = true then
          none
        else if name = "YAML".toList then
          readVersion? source
        else if name = "TAG".toList then
          readTagHandle? source
        else
          none :=
    fun name =>
      .ite_head (fun head => (!head.all isWhite) = true) .fail
        (.ite (name = "YAML".toList) local_readVersion?
          (.ite (name = "TAG".toList) local_readTagHandle? .fail))
  exact (Local.run named isNameChar).skip 1

/-- Reading a directive goes on in the text. -/
theorem leadsOn_readDirective? (source : Source) :
    LeadsOn source (readDirective? source) := by
  have content : Local [] [] readContent? := local_readContent?
  rw [readDirective?_eq]
  exact (content.leadsOn source).bind fun _ after => .finishLine after _

/-- A directive is read before both ends, since the end of its line comes after it. -/
theorem readDirective?_follows
    {first second : Source}
    (ends : WordEnds firstEnd secondEnd)
    (twins : Source.Twins firstEnd secondEnd first second) :
    Follows firstEnd firstEnd secondEnd (readDirective? first) (readDirective? second) := by
  rw [readDirective?_eq, readDirective?_eq]
  exact .finishLine ends (fun last => local_readContent?.follows last twins) id

end Directives

end AlertReceivers.Yaml
