import AlertReceivers.Proofs.Yaml.Difference
import AlertReceivers.Proofs.Yaml.Scalars
import AlertReceivers.Proofs.Yaml.Tags
import AlertReceivers.Proofs.Yaml.Words
import AlertReceivers.Yaml.Lexer

namespace AlertReceivers.Yaml

/-!
# Cutting texts with two ends into tokens

Each step of the lexer adds tokens that start where the step does, or that are no plain
scalars.
-/

namespace Token

/-- Whether a token is a plain scalar. -/
def IsPlain (token : Token) : Prop :=
  ∃ text, token.kind = .scalar true text

end Token

namespace Lexer

/-- A step stays at its place and adds no plain scalar. -/
structure Stays (lexer next : Lexer) : Prop where
  source : next.source = lexer.source
  tokens : ∀ token ∈ next.tokens, token ∈ lexer.tokens ∨ ¬ token.IsPlain

/-- A step goes on in the text, and the plain scalars that it adds start where it
does. -/
structure Steps (lexer next : Lexer) : Prop where
  source : lexer.source.Leads next.source
  tokens :
    ∀ token ∈ next.tokens,
      token ∈ lexer.tokens ∨ (token.IsPlain → token.start = lexer.source.mark)

section Steps

variable {lexer between next : Lexer}

/-- Taking no step stays at the place. -/
theorem Stays.refl (lexer : Lexer) : lexer.Stays lexer :=
  ⟨rfl, fun _ => .inl⟩

/-- A step that changes neither the place nor the tokens stays. -/
theorem Stays.of_eq
    (sameSource : next.source = lexer.source)
    (sameTokens : next.tokens = lexer.tokens) :
    lexer.Stays next :=
  ⟨sameSource, fun _ member => .inl (sameTokens ▸ member)⟩

/-- Two steps that stay are one that stays. -/
theorem Stays.trans
    (stays : lexer.Stays between)
    (staysOn : between.Stays next) :
    lexer.Stays next := by
  refine ⟨staysOn.source.trans stays.source, fun token member => ?_⟩
  rcases staysOn.tokens token member with earlier | notPlain
  · exact stays.tokens token earlier
  · exact .inr notPlain

/-- A step after one that stays starts where that one did. -/
theorem Stays.steps
    (stays : lexer.Stays between)
    (steps : between.Steps next) :
    lexer.Steps next := by
  refine ⟨stays.source ▸ steps.source, fun token member => ?_⟩
  rcases steps.tokens token member with earlier | starts
  · exact (stays.tokens token earlier).imp_right fun notPlain isPlain =>
      (notPlain isPlain).elim
  · exact .inr (stays.source ▸ starts)

/-- Forgetting keys that can no longer be keys adds no tokens. -/
theorem stays_of_dropStaleKeys
    (isNext : lexer.dropStaleKeys = some next) :
    lexer.Stays next := by
  obtain ⟨key, _, isRest⟩ := Option.bind_eq_some_iff.mp isNext
  obtain ⟨outerKeys, _, isSome⟩ := Option.bind_eq_some_iff.mp isRest
  cases isSome
  exact .of_eq rfl rfl

/-- Forgetting the key of the innermost level adds no tokens. -/
theorem stays_of_removeKey
    (isNext : lexer.removeKey = some next) :
    lexer.Stays next := by
  unfold removeKey at isNext
  split at isNext
  · split at isNext
    · cases isNext
    · cases isNext
      exact .of_eq rfl rfl
  · cases isNext
    exact .refl lexer

/-- Remembering where a key may start adds no tokens. -/
theorem stays_of_saveKey
    (isNext : lexer.saveKey = some next) :
    lexer.Stays next := by
  unfold saveKey at isNext
  split at isNext
  · obtain ⟨cleared, isCleared, isSome⟩ := Option.bind_eq_some_iff.mp isNext
    cases isSome
    exact (stays_of_removeKey isCleared).trans (.of_eq rfl rfl)
  · cases isNext
    exact .refl lexer

/-- Closing blocks adds nothing but their ends. -/
theorem stays_closeBlocks
    (lexer : Lexer)
    (column : Int) :
    lexer.Stays (lexer.closeBlocks column) := by
  unfold closeBlocks
  split
  · exact .refl lexer
  · refine ⟨rfl, fun token member => ?_⟩
    rcases List.mem_append.mp member with added | earlier
    · right
      rintro ⟨text, isScalar⟩
      cases (List.mem_replicate.mp added).2
      cases isScalar
    · exact .inl earlier

/-- A token that is put before others is the only one added. -/
theorem stays_emitAt
    (lexer : Lexer)
    (number : Nat)
    (token : Token)
    (notPlain : ¬ token.IsPlain) :
    lexer.Stays (lexer.emitAt number token) := by
  refine ⟨rfl, fun other member => ?_⟩
  rcases List.mem_append.mp member with earlier | later
  · exact .inl (List.mem_of_mem_take earlier)
  · rcases List.mem_cons.mp later with rfl | earlier
    · exact .inr notPlain
    · exact .inl (List.mem_of_mem_drop earlier)

/-- Opening a block adds its start at most. -/
theorem stays_openBlock
    (lexer : Lexer)
    (column number : Nat)
    (kind : TokenKind)
    (mark : Mark)
    (notPlain : ∀ text, kind ≠ .scalar true text) :
    lexer.Stays (lexer.openBlock column number kind mark) := by
  unfold openBlock
  split
  · exact (lexer.stays_emitAt number ⟨kind, mark, mark⟩
      fun ⟨text, isScalar⟩ => notPlain text isScalar).trans (.of_eq rfl rfl)
  · exact .refl lexer

/-- Leaving all blocks adds nothing but their ends. -/
theorem stays_of_leaveBlocks
    (isNext : lexer.leaveBlocks = some next) :
    lexer.Stays next := by
  obtain ⟨left, isLeft, isSome⟩ := Option.bind_eq_some_iff.mp isNext
  cases isSome
  exact ((lexer.stays_closeBlocks (-1)).trans (stays_of_removeKey isLeft)).trans
    (.of_eq rfl rfl)

/-- A step adds a single token at its end. -/
theorem Stays.add
    {kind : TokenKind}
    {stop : Mark}
    (stays : lexer.Stays between)
    (leads : between.source.Leads next.source)
    (added : next.tokens = ⟨kind, between.source.mark, stop⟩ :: between.tokens) :
    lexer.Steps next := by
  refine stays.steps ⟨leads, fun token member => ?_⟩
  rw [added] at member
  rcases List.mem_cons.mp member with rfl | earlier
  · exact .inr fun _ => rfl
  · exact .inl earlier

/-- A directive is a single token. -/
theorem steps_of_addDirective
    (isNext : lexer.addDirective = some next) :
    lexer.Steps next := by
  obtain ⟨left, isLeft, isRest⟩ := Option.bind_eq_some_iff.mp isNext
  obtain ⟨⟨kind, source⟩, isRead, isSome⟩ := Option.bind_eq_some_iff.mp isRest
  cases isSome
  exact (stays_of_leaveBlocks isLeft).add (leadsOn_readDirective? _ kind source isRead) rfl

/-- The start or the end of a document is a single token. -/
theorem steps_of_addBoundary
    {kind : TokenKind}
    (isNext : lexer.addBoundary kind = some next) :
    lexer.Steps next := by
  obtain ⟨left, isLeft, isSome⟩ := Option.bind_eq_some_iff.mp isNext
  cases isSome
  exact (stays_of_leaveBlocks isLeft).add (Source.leads_skip _ 3) rfl

/-- An opening bracket is a single token. -/
theorem steps_of_openFlow
    {kind : TokenKind}
    (isNext : lexer.openFlow kind = some next) :
    lexer.Steps next := by
  obtain ⟨saved, isSaved, isSome⟩ := Option.bind_eq_some_iff.mp isNext
  cases isSome
  exact (stays_of_saveKey isSaved).add (Source.leads_skip _ 1) rfl

/-- A closing bracket is a single token. -/
theorem steps_of_closeFlow
    {kind : TokenKind}
    (isNext : lexer.closeFlow kind = some next) :
    lexer.Steps next := by
  obtain ⟨cleared, isCleared, isSome⟩ := Option.bind_eq_some_iff.mp isNext
  cases isSome
  split
  all_goals exact (stays_of_removeKey isCleared).add (Source.leads_skip _ 1) rfl

/-- A comma between brackets is a single token. -/
theorem steps_of_addFlowEntry
    (isNext : lexer.addFlowEntry = some next) :
    lexer.Steps next := by
  obtain ⟨cleared, isCleared, isSome⟩ := Option.bind_eq_some_iff.mp isNext
  cases isSome
  exact (stays_of_removeKey isCleared).add (Source.leads_skip _ 1) rfl

/-- The dash of an item is a single token, behind the start of a block at most. -/
theorem steps_of_addBlockEntry
    (isNext : lexer.addBlockEntry = some next) :
    lexer.Steps next := by
  obtain ⟨_, isOpened⟩ := Option.ite_none_right_eq_some.mp isNext
  obtain ⟨cleared, isCleared, isSome⟩ := Option.bind_eq_some_iff.mp isOpened
  cases isSome
  exact ((lexer.stays_openBlock _ _ .blockSequenceStart _ nofun).trans
    (stays_of_removeKey isCleared)).add (Source.leads_skip _ 1) rfl

/-- The mark of a key is a single token, behind the start of a block at most. -/
theorem steps_of_addKey
    (isNext : lexer.addKey = some next) :
    lexer.Steps next := by
  obtain ⟨_, isOpened⟩ := Option.ite_none_right_eq_some.mp isNext
  obtain ⟨cleared, isCleared, isSome⟩ := Option.bind_eq_some_iff.mp isOpened
  cases isSome
  exact ((lexer.stays_openBlock _ _ .blockMappingStart _ nofun).trans
    (stays_of_removeKey isCleared)).add (Source.leads_skip _ 1) rfl

/-- The mark of a value is a single token; what is put before it is no plain scalar. -/
theorem steps_of_addValue
    (isNext : lexer.addValue = some next) :
    lexer.Steps next := by
  unfold addValue at isNext
  split at isNext
  case h_1 key _ =>
    cases isNext
    have keyed := lexer.stays_emitAt key.number ⟨.key, key.mark, key.mark⟩ nofun
    exact (keyed.trans (stays_openBlock _ _ _ .blockMappingStart _ nofun)).add
      (Source.leads_skip _ 1) rfl
  case h_2 =>
    obtain ⟨_, isOpened⟩ := Option.ite_none_right_eq_some.mp isNext
    cases isOpened
    exact (lexer.stays_openBlock _ _ .blockMappingStart _ nofun).add (Source.leads_skip _ 1) rfl

/-- An anchor or a reference is a single token. -/
theorem steps_of_addAnchor
    {kind : String → TokenKind}
    (isNext : lexer.addAnchor kind = some next) :
    lexer.Steps next := by
  obtain ⟨saved, isSaved, isRest⟩ := Option.bind_eq_some_iff.mp isNext
  obtain ⟨_, isEnded⟩ := Option.ite_none_right_eq_some.mp isRest
  cases isEnded
  exact (stays_of_saveKey isSaved).add (Source.leads_skip _ _) rfl

/-- A tag is a single token. -/
theorem steps_of_addTag
    (isNext : lexer.addTag = some next) :
    lexer.Steps next := by
  obtain ⟨saved, isSaved, isRest⟩ := Option.bind_eq_some_iff.mp isNext
  obtain ⟨⟨kind, source⟩, isRead, isSome⟩ := Option.bind_eq_some_iff.mp isRest
  cases isSome
  exact (stays_of_saveKey isSaved).add (leadsOn_readTag? _ _ kind source isRead) rfl

/-- A block scalar is a single token. -/
theorem steps_of_addBlockScalar
    {fuel : Nat}
    {isFolded : Bool}
    (isNext : lexer.addBlockScalar fuel isFolded = some next) :
    lexer.Steps next := by
  obtain ⟨cleared, isCleared, isRest⟩ := Option.bind_eq_some_iff.mp isNext
  obtain ⟨⟨text, source⟩, isRead, isSome⟩ := Option.bind_eq_some_iff.mp isRest
  cases isSome
  exact (stays_of_removeKey isCleared).add
    ((Source.leads_skip _ 1).trans (leadsOn_readBlock isFolded _ _ text source isRead)) rfl

/-- A quoted scalar is a single token. -/
theorem steps_of_addQuoted
    {fuel : Nat}
    {quote : Char}
    (isNext : lexer.addQuoted fuel quote = some next) :
    lexer.Steps next := by
  obtain ⟨saved, isSaved, isRest⟩ := Option.bind_eq_some_iff.mp isNext
  obtain ⟨⟨text, source⟩, isRead, isSome⟩ := Option.bind_eq_some_iff.mp isRest
  cases isSome
  exact (stays_of_saveKey isSaved).add
    ((Source.leads_skip _ 1).trans (leadsOn_readQuoted false _ text source isRead)) rfl

/-- A plain scalar is a single token, which starts where the step does. -/
theorem steps_of_addWords
    {fuel : Nat}
    (isNext : lexer.addWords fuel = some next) :
    lexer.Steps next := by
  obtain ⟨saved, isSaved, isRest⟩ := Option.bind_eq_some_iff.mp isNext
  obtain ⟨words, isRead, isSome⟩ := Option.bind_eq_some_iff.mp isRest
  cases isSome
  exact (stays_of_saveKey isSaved).add (leads_of_readWords isRead) rfl

/-- A step is one in either case. -/
theorem steps_of_ite
    {test : Prop}
    [Decidable test]
    {thenNext elseNext : Option Lexer}
    (isThen : thenNext = some next → lexer.Steps next)
    (isElse : elseNext = some next → lexer.Steps next)
    (isNext : (if test then thenNext else elseNext) = some next) :
    lexer.Steps next := by
  split at isNext
  · exact isThen isNext
  · exact isElse isNext

/-- Whatever token comes next, it starts where the step does. -/
theorem steps_of_add
    {fuel : Nat}
    {char : Char}
    {rest : List Char} :
    lexer.add fuel char rest = some next → lexer.Steps next :=
  steps_of_ite steps_of_addDirective <|
  steps_of_ite steps_of_addBoundary <|
  steps_of_ite steps_of_openFlow <|
  steps_of_ite steps_of_openFlow <|
  steps_of_ite steps_of_closeFlow <|
  steps_of_ite steps_of_closeFlow <|
  steps_of_ite steps_of_addFlowEntry <|
  steps_of_ite steps_of_addBlockEntry <|
  steps_of_ite steps_of_addKey <|
  steps_of_ite steps_of_addValue <|
  steps_of_ite steps_of_addAnchor <|
  steps_of_ite steps_of_addAnchor <|
  steps_of_ite steps_of_addTag <|
  steps_of_ite steps_of_addBlockScalar <|
  steps_of_ite steps_of_addQuoted <|
  steps_of_ite steps_of_addWords nofun

/-- A character that does not belong to a pair is passed over for itself, or not at all. -/
theorem passWhite_cons
    {inFlow keyAllowed inComment : Bool}
    {mark : Mark}
    {char : Char}
    {rest : List Char}
    (isSingle : ∀ tail, char = '\r' → rest = '\n' :: tail → False) :
    passWhite inFlow keyAllowed inComment mark (char :: rest) =
      if isBreak char then
        passWhite inFlow (keyAllowed || !inFlow) false (mark.down char.utf8Size) rest
      else if inComment || isSpace char || (char == '\t' && (inFlow || !keyAllowed)) ||
          (mark.column == 0 && char == byteOrderMark) then
        passWhite inFlow keyAllowed inComment (mark.pass char) rest
      else if char = '#' then
        passWhite inFlow keyAllowed true (mark.pass char) rest
      else
        (keyAllowed, ⟨mark, char :: rest⟩) := by
  rw [passWhite]
  exact isSingle

/-- Passing over white space and comments goes on in the text. -/
theorem leads_passWhite
    (inFlow keyAllowed inComment : Bool)
    (mark : Mark)
    (chars : List Char) :
    Source.Leads ⟨mark, chars⟩ (passWhite inFlow keyAllowed inComment mark chars).2 := by
  fun_induction passWhite inFlow keyAllowed inComment mark chars with
  | case1 _ _ mark rest inductionHypothesis =>
      exact (Source.leads_down_pair mark rest).trans inductionHypothesis
  | case2 _ _ mark char rest _ _ inductionHypothesis =>
      exact (Source.leads_down mark char rest).trans inductionHypothesis
  | case3 _ _ mark char rest _ _ _ inductionHypothesis =>
      exact (Source.leads_pass mark char rest).trans inductionHypothesis
  | case4 _ _ mark rest _ _ _ inductionHypothesis =>
      exact (Source.leads_pass mark '#' rest).trans inductionHypothesis
  | case5 | case6 =>
      exact .refl _

/-- Nothing but the ends of blocks is found on the way to the next token. -/
theorem approach_eq_some
    (isReady : lexer.approach = some next) :
    lexer.source.Leads next.source ∧
      ∀ token ∈ next.tokens, token ∈ lexer.tokens ∨ ¬ token.IsPlain := by
  obtain ⟨ready, isDropped, isSome⟩ := Option.bind_eq_some_iff.mp isReady
  have stays := (stays_of_dropStaleKeys isDropped).trans (ready.stays_closeBlocks
    (passWhite lexer.inFlow lexer.keyAllowed false lexer.source.mark
      lexer.source.rest).2.mark.column)
  cases isSome
  exact ⟨stays.source ▸ leads_passWhite _ _ _ _ _, stays.tokens⟩

/-- At the end of a text no plain scalars are added. -/
theorem plain_of_finish
    (isEnded : lexer.finish = some next)
    {token : Token}
    (member : token ∈ next.tokens)
    (isPlain : token.IsPlain) :
    token ∈ lexer.tokens := by
  obtain ⟨ended, isRemoved, isSome⟩ := Option.bind_eq_some_iff.mp isEnded
  cases isSome
  have stays := (stays_closeBlocks _ (-1)).trans (stays_of_removeKey isRemoved)
  rcases List.mem_cons.mp member with rfl | earlier
  · obtain ⟨_, isScalar⟩ := isPlain
    cases isScalar
  · exact (stays.tokens token earlier).resolve_right (not_not.mpr isPlain)

/-- A run that gives tokens finds its way to the next one. -/
theorem exists_approach_of_run
    {fuel : Nat}
    {tokens : List Token}
    (isRun : lexer.run fuel = some tokens) :
    ∃ ready, lexer.approach = some ready := by
  cases fuel with
  | zero =>
      cases isRun
  | succ fuel =>
      obtain ⟨ready, isReady, _⟩ := Option.bind_eq_some_iff.mp isRun
      exact ⟨ready, isReady⟩

/-- The plain scalars of a text after a place are found before it or start no earlier
than the next token. -/
theorem plain_of_run
    {fuel : Nat}
    {ready : Lexer}
    {tokens : List Token}
    (isReady : lexer.approach = some ready)
    (isRun : lexer.run fuel = some tokens)
    {token : Token}
    (member : token ∈ tokens)
    (isPlain : token.IsPlain) :
    token ∈ lexer.tokens ∨ ready.source.mark.offset ≤ token.start.offset := by
  induction fuel generalizing lexer ready with
  | zero =>
      cases isRun
  | succ fuel inductionHypothesis =>
      have earlier := (approach_eq_some isReady).2 token
      rw [run, isReady, Option.bind_eq_bind, Option.bind_some] at isRun
      split at isRun
      case h_1 =>
        obtain ⟨ended, isEnded, isSome⟩ := Option.bind_eq_some_iff.mp isRun
        cases isSome
        have isReadyToken := plain_of_finish isEnded (List.mem_reverse.mp member) isPlain
        exact .inl ((earlier isReadyToken).resolve_right (not_not.mpr isPlain))
      case h_2 =>
        obtain ⟨next, isNext, isLast⟩ := Option.bind_eq_some_iff.mp isRun
        have steps := steps_of_add isNext
        obtain ⟨nextReady, isNextReady⟩ := exists_approach_of_run isLast
        rcases inductionHypothesis isNextReady isLast with isNextToken | isLater
        · rcases steps.tokens token isNextToken with isReadyToken | starts
          · exact .inl ((earlier isReadyToken).resolve_right (not_not.mpr isPlain))
          · exact .inr (Nat.le_of_eq (congrArg Mark.offset (starts isPlain)).symm)
        · exact .inr ((steps.source.trans (approach_eq_some isNextReady).1).offset_le.trans
            isLater)

end Steps

end Lexer

end AlertReceivers.Yaml
