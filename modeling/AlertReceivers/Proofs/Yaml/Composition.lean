import AlertReceivers.Proofs.Yaml.Difference
import AlertReceivers.Yaml.Composition

namespace AlertReceivers.Yaml

/-!
# Composing tokens that differ in a plain word

No step of the composition looks at the text of a scalar, so tokens that differ in a
single plain word are composed to trees that differ in this word at most.
-/

variable {first second : String}

/-- What is left of two texts differs in a single plain word. -/
inductive Remaining.Differ (first second : String) : Remaining → Remaining → Prop where
  | intro {firstTokens secondTokens : List Token} {anchors : List (String × Nat)} :
      ListDiffer (Token.Differ first second) firstTokens secondTokens →
        Remaining.Differ first second ⟨firstTokens, anchors⟩ ⟨secondTokens, anchors⟩

/-- No scalar is among some kinds of tokens. -/
def ScalarFree (kinds : List TokenKind) : Prop :=
  ∀ isPlain text, kinds.contains (.scalar isPlain text) = false

/-- That kinds of tokens are free of scalars can be computed. -/
theorem ScalarFree.of_all
    {kinds : List TokenKind}
    (others :
      (kinds.all fun kind => match kind with
        | .scalar _ _ => false
        | _ => true) = true) :
    ScalarFree kinds := by
  intro isPlain text
  rw [Bool.eq_false_iff]
  intro member
  have := List.all_eq_true.mp others _ (List.contains_iff_mem.mp member)
  cases this

namespace Remaining.Differ

variable {firstLeft secondLeft : Remaining}

/-- The next tokens are the two words, or one token in front of the difference. -/
theorem next_cases
    (left : Remaining.Differ first second firstLeft secondLeft) :
    (firstLeft.next? = some (.scalar true first) ∧
        secondLeft.next? = some (.scalar true second) ∧
        firstLeft.advance = secondLeft.advance) ∨
      (∃ kind, firstLeft.next? = some kind ∧ secondLeft.next? = some kind) ∧
        Remaining.Differ first second firstLeft.advance secondLeft.advance := by
  cases left with
  | intro tokens =>
      cases tokens with
      | here isHere =>
          cases isHere
          exact .inl ⟨rfl, rfl, rfl⟩
      | later tokens =>
          exact .inr ⟨⟨_, rfl, rfl⟩, .intro tokens⟩

/-- A reference comes next in both texts or in neither. -/
theorem reference_or
    (left : Remaining.Differ first second firstLeft secondLeft) :
    (∃ name,
        firstLeft.next? = some (.reference name) ∧
          secondLeft.next? = some (.reference name) ∧
          Remaining.Differ first second firstLeft.advance secondLeft.advance) ∨
      (∀ name, firstLeft.next? ≠ some (.reference name)) ∧
        ∀ name, secondLeft.next? ≠ some (.reference name) := by
  rcases left.next_cases with ⟨isFirst, isSecond, _⟩ |
    ⟨⟨kind, isFirst, isSecond⟩, advanced⟩
  · exact .inr ⟨by simp [isFirst], by simp [isSecond]⟩
  · by_cases refers : ∃ name, kind = .reference name
    · obtain ⟨name, rfl⟩ := refers
      exact .inl ⟨name, isFirst, isSecond, advanced⟩
    · exact .inr (by simp_all)

/-- What is left starts at the same place. -/
theorem mark_eq
    (left : Remaining.Differ first second firstLeft secondLeft) :
    firstLeft.mark = secondLeft.mark := by
  obtain ⟨tokens⟩ := left
  cases tokens with
  | here isHere =>
      cases isHere
      rfl
  | later _ =>
      rfl

/-- The next tokens stop at the same place. -/
theorem stop_eq
    (left : Remaining.Differ first second firstLeft secondLeft) :
    firstLeft.stop = secondLeft.stop := by
  obtain ⟨tokens⟩ := left
  cases tokens with
  | here isHere =>
      cases isHere
      rfl
  | later _ =>
      rfl

/-- The same anchors were set before. -/
theorem anchors_eq
    (left : Remaining.Differ first second firstLeft secondLeft) :
    firstLeft.anchors = secondLeft.anchors := by
  obtain ⟨_⟩ := left
  rfl

/-- What is left differs in one token. -/
theorem tokens_differ
    (left : Remaining.Differ first second firstLeft secondLeft) :
    ListDiffer (Token.Differ first second) firstLeft.tokens secondLeft.tokens := by
  obtain ⟨tokens⟩ := left
  exact tokens

/-- With other tokens that differ, what is left still differs. -/
theorem replace
    {firstTokens secondTokens : List Token}
    (left : Remaining.Differ first second firstLeft secondLeft)
    (tokens : ListDiffer (Token.Differ first second) firstTokens secondTokens) :
    Remaining.Differ first second
      { firstLeft with tokens := firstTokens }
      { secondLeft with tokens := secondTokens } := by
  obtain ⟨_⟩ := left
  exact .intro tokens

/-- Whether the next token is of kinds without scalars is the same. -/
theorem nextIs_eq
    {kinds : List TokenKind}
    (left : Remaining.Differ first second firstLeft secondLeft)
    (scalarFree : ScalarFree kinds) :
    firstLeft.nextIs kinds = secondLeft.nextIs kinds := by
  unfold Remaining.nextIs
  rcases left.next_cases with ⟨isFirst, isSecond, _⟩ | ⟨⟨kind, isFirst, isSecond⟩, _⟩
  · rw [isFirst, isSecond, Option.any_some, Option.any_some, scalarFree, scalarFree]
  · rw [isFirst, isSecond]

/-- After a token that is no scalar, the difference is still ahead. -/
theorem advance
    {kinds : List TokenKind}
    (left : Remaining.Differ first second firstLeft secondLeft)
    (scalarFree : ScalarFree kinds)
    (nextIs : firstLeft.nextIs kinds = true) :
    Remaining.Differ first second firstLeft.advance secondLeft.advance := by
  rcases left.next_cases with ⟨isFirst, _⟩ | ⟨_, advanced⟩
  · rw [Remaining.nextIs, isFirst, Option.any_some, scalarFree] at nextIs
    cases nextIs
  · exact advanced

/-- After the comma in front of every item but the first, the difference is still
ahead. -/
theorem item
    (left : Remaining.Differ first second firstLeft secondLeft)
    (isFirst : Bool)
    (isEntry : ¬ (!isFirst && !secondLeft.nextIs [.flowEntry]) = true) :
    Remaining.Differ first second
      (if isFirst then firstLeft else firstLeft.advance)
      (if isFirst then secondLeft else secondLeft.advance) := by
  have entryFree : ScalarFree [.flowEntry] := .of_all rfl
  cases isFirst with
  | true =>
      exact left
  | false =>
      have atEntry : secondLeft.nextIs [.flowEntry] = true := by simpa using isEntry
      exact left.advance entryFree ((left.nextIs_eq entryFree).trans atEntry)

/-- The properties in front of a value are the same. -/
theorem read
    (left : Remaining.Differ first second firstLeft secondLeft) :
    ∃ properties firstAfter secondAfter,
      Properties.read firstLeft = (properties, firstAfter) ∧
        Properties.read secondLeft = (properties, secondAfter) ∧
        Remaining.Differ first second firstAfter secondAfter := by
  obtain ⟨tokens⟩ := left
  cases tokens with
  | here isHere =>
      cases isHere
      exact ⟨_, _, _, rfl, rfl, .intro (.here .scalar)⟩
  | @later element firstRest secondRest rest =>
      obtain ⟨kind, start, stop⟩ := element
      cases kind with
      | anchor =>
          cases rest with
          | here isHere =>
              cases isHere
              exact ⟨_, _, _, rfl, rfl, .intro (.here .scalar)⟩
          | @later next _ _ rest =>
              obtain ⟨kind, start, stop⟩ := next
              cases kind with
              | tag =>
                  exact ⟨_, _, _, rfl, rfl, .intro rest⟩
              | _ =>
                  exact ⟨_, _, _, rfl, rfl, .intro (.later rest)⟩
      | tag =>
          cases rest with
          | here isHere =>
              cases isHere
              exact ⟨_, _, _, rfl, rfl, .intro (.here .scalar)⟩
          | @later next _ _ rest =>
              obtain ⟨kind, start, stop⟩ := next
              cases kind with
              | anchor =>
                  exact ⟨_, _, _, rfl, rfl, .intro rest⟩
              | _ =>
                  exact ⟨_, _, _, rfl, rfl, .intro (.later rest)⟩
      | _ =>
          exact ⟨_, _, _, rfl, rfl, .intro (.later rest)⟩

end Remaining.Differ

/-- What is composed from tokens that differ in a plain word: nothing in both cases, the
same thing while the difference is still ahead, or things that differ in the word after
it was passed. -/
inductive Composed (first second : String) (differ : α → α → Prop) :
    Option (α × Remaining) → Option (α × Remaining) → Prop where
  | none :
      Composed first second differ none none
  | ahead {value : α} {firstLeft secondLeft : Remaining} :
      Remaining.Differ first second firstLeft secondLeft →
        Composed first second differ (some (value, firstLeft)) (some (value, secondLeft))
  | passed {firstValue secondValue : α} {left : Remaining} :
      differ firstValue secondValue →
        Composed first second differ (some (firstValue, left)) (some (secondValue, left))

namespace Composed

variable {differ : α → α → Prop}
variable {differNext : β → β → Prop}
variable {firstReading secondReading : Option (α × Remaining)}

/-- One composition after another. -/
theorem bind
    {firstNext secondNext : α × Remaining → Option (β × Remaining)}
    (composed : Composed first second differ firstReading secondReading)
    (ahead :
      ∀ value firstLeft secondLeft,
        Remaining.Differ first second firstLeft secondLeft →
          Composed first second differNext
            (firstNext (value, firstLeft)) (secondNext (value, secondLeft)))
    (passed :
      ∀ firstValue secondValue left, differ firstValue secondValue →
        Composed first second differNext
          (firstNext (firstValue, left)) (secondNext (secondValue, left))) :
    Composed first second differNext
      (firstReading >>= firstNext) (secondReading >>= secondNext) := by
  cases composed with
  | none =>
      exact .none
  | ahead left =>
      exact ahead _ _ _ left
  | passed values =>
      exact passed _ _ _ values

/-- What is built from values that differ, differs. -/
theorem map
    {build : α → β}
    (composed : Composed first second differ firstReading secondReading)
    (built :
      ∀ firstValue secondValue, differ firstValue secondValue →
        differNext (build firstValue) (build secondValue)) :
    Composed first second differNext
      (firstReading >>= fun result => some (build result.1, result.2))
      (secondReading >>= fun result => some (build result.1, result.2)) :=
  composed.bind (fun _ _ _ left => .ahead left)
    (fun _ _ _ values => .passed (built _ _ values))

/-- One thing is composed first. -/
theorem next
    {firstNext secondNext : α × Remaining → Option (β × Remaining)}
    (reading : Option (α × Remaining))
    (composed :
      ∀ result, Composed first second differNext (firstNext result) (secondNext result)) :
    Composed first second differNext (reading >>= firstNext) (reading >>= secondNext) := by
  cases reading with
  | none =>
      exact .none
  | some result =>
      exact composed result

end Composed

/-- Properties are given to a value in front of the difference. -/
theorem Remaining.Differ.apply
    {firstLeft secondLeft : Remaining}
    (left : Remaining.Differ first second firstLeft secondLeft)
    (properties : Properties)
    (handles : TagHandles)
    (mark : Mark) :
    Composed first second (fun _ _ => False)
      (properties.apply handles mark firstLeft)
      (properties.apply handles mark secondLeft) := by
  obtain ⟨tokens⟩ := left
  obtain ⟨anchor?, tag?⟩ := properties
  cases tag? with
  | none =>
      cases anchor? <;> exact .ahead (.intro tokens)
  | some tag =>
      unfold Properties.apply
      dsimp only
      cases Properties.fullTag? handles tag.1 tag.2 with
      | none =>
          exact .none
      | some tag =>
          cases anchor? <;> exact .ahead (.intro tokens)

/-- With some fuel, tokens that differ in a plain word are composed to things that
differ in it at most. -/
structure ComposesAlike
    (first second : String)
    (handles : TagHandles)
    (fuel : Nat) :
    Prop where
  node :
    ∀ {firstLeft secondLeft} inBlock underKey,
      Remaining.Differ first second firstLeft secondLeft →
        Composed first second (Tree.Differ first second)
          (composeNode handles inBlock underKey fuel firstLeft)
          (composeNode handles inBlock underKey fuel secondLeft)
  optional :
    ∀ {firstLeft secondLeft ends} inBlock underKey mark,
      ScalarFree ends →
        Remaining.Differ first second firstLeft secondLeft →
          Composed first second (Tree.Differ first second)
            (composeUnless handles inBlock underKey ends mark fuel firstLeft)
            (composeUnless handles inBlock underKey ends mark fuel secondLeft)
  blockItems :
    ∀ {firstLeft secondLeft},
      Remaining.Differ first second firstLeft secondLeft →
        Composed first second (ListDiffer (Tree.Differ first second))
          (composeBlockItems handles fuel firstLeft)
          (composeBlockItems handles fuel secondLeft)
  indentless :
    ∀ {firstLeft secondLeft},
      Remaining.Differ first second firstLeft secondLeft →
        Composed first second (ListDiffer (Tree.Differ first second))
          (composeIndentless handles fuel firstLeft)
          (composeIndentless handles fuel secondLeft)
  blockEntries :
    ∀ {firstLeft secondLeft},
      Remaining.Differ first second firstLeft secondLeft →
        Composed first second (ListDiffer (EntryDiffer (Tree.Differ first second)))
          (composeBlockEntries handles fuel firstLeft)
          (composeBlockEntries handles fuel secondLeft)
  blockValue :
    ∀ {firstLeft secondLeft},
      Remaining.Differ first second firstLeft secondLeft →
        Composed first second (Tree.Differ first second)
          (composeBlockValue handles fuel firstLeft)
          (composeBlockValue handles fuel secondLeft)
  flowItems :
    ∀ {firstLeft secondLeft} isFirst,
      Remaining.Differ first second firstLeft secondLeft →
        Composed first second (ListDiffer (Tree.Differ first second))
          (composeFlowItems handles isFirst fuel firstLeft)
          (composeFlowItems handles isFirst fuel secondLeft)
  flowPair :
    ∀ {firstLeft secondLeft},
      Remaining.Differ first second firstLeft secondLeft →
        firstLeft.nextIs [.key] = true →
          Composed first second (Tree.Differ first second)
            (composeFlowPair handles fuel firstLeft)
            (composeFlowPair handles fuel secondLeft)
  flowValue :
    ∀ {firstLeft secondLeft ends},
      ScalarFree ends →
        Remaining.Differ first second firstLeft secondLeft →
          Composed first second (Tree.Differ first second)
            (composeFlowValue handles ends fuel firstLeft)
            (composeFlowValue handles ends fuel secondLeft)
  flowEntries :
    ∀ {firstLeft secondLeft} isFirst,
      Remaining.Differ first second firstLeft secondLeft →
        Composed first second (ListDiffer (EntryDiffer (Tree.Differ first second)))
          (composeFlowEntries handles isFirst fuel firstLeft)
          (composeFlowEntries handles isFirst fuel secondLeft)
  flowEntry :
    ∀ {firstLeft secondLeft},
      Remaining.Differ first second firstLeft secondLeft →
        Composed first second (EntryDiffer (Tree.Differ first second))
          (composeFlowEntry handles fuel firstLeft)
          (composeFlowEntry handles fuel secondLeft)

namespace ComposesAlike

variable {handles : TagHandles}
variable {fuel : Nat}
variable {firstLeft secondLeft : Remaining}

/-- Without fuel, nothing is composed. -/
theorem zero : ComposesAlike first second handles 0 where
  node _ _ _ := .none
  optional _ _ _ _ _ := .none
  blockItems _ := .none
  indentless _ := .none
  blockEntries _ := .none
  blockValue _ := .none
  flowItems _ _ := .none
  flowPair _ _ := .none
  flowValue _ _ := .none
  flowEntries _ _ := .none
  flowEntry _ := .none

section

variable (alike : ComposesAlike first second handles fuel)
variable (left : Remaining.Differ first second firstLeft secondLeft)
include alike left

/-- With more fuel, values are composed alike. -/
theorem composeNode_succ
    (inBlock underKey : Bool) :
    Composed first second (Tree.Differ first second)
      (composeNode handles inBlock underKey (fuel + 1) firstLeft)
      (composeNode handles inBlock underKey (fuel + 1) secondLeft) := by
  generalize isSecondNode :
    composeNode handles inBlock underKey (fuel + 1) secondLeft = secondNode
  rw [composeNode] at isSecondNode ⊢
  rcases left.reference_or with ⟨name, isFirst, isSecond, advanced⟩ |
    ⟨notFirst, notSecond⟩
  · rw [isSecond] at isSecondNode
    subst isSecondNode
    rw [isFirst, left.anchors_eq, left.mark_eq]
    dsimp only
    cases List.lookup name secondLeft.anchors with
    | none =>
        exact .none
    | some number =>
        exact .ahead advanced
  · split
    · exact (notFirst _ ‹_›).elim
    split at isSecondNode
    · exact (notSecond _ ‹_›).elim
    subst isSecondNode
    obtain ⟨properties, firstContent, secondContent, isFirst, isSecond, content⟩ :=
      left.read
    rw [isFirst, isSecond, left.mark_eq]
    dsimp only
    refine (content.apply properties handles _).bind ?_ fun _ _ _ => False.elim
    intro origin firstContent secondContent content
    dsimp only
    rcases content.next_cases with ⟨isFirst, isSecond, sameAfter⟩ |
      ⟨⟨kind, isFirst, isSecond⟩, advanced⟩
    · rw [isFirst, isSecond, sameAfter]
      exact .passed .scalar
    · rw [isFirst, isSecond]
      split
      · split
        · exact (alike.indentless content).map fun _ _ => .sequence
        · split
          · exact .none
          · exact .ahead content
      · exact .ahead advanced
      · exact (alike.flowItems true advanced).map fun _ _ => .sequence
      · exact (alike.flowEntries true advanced).map fun _ _ => .mapping
      · exact (alike.blockItems advanced).map fun _ _ => .sequence
      · exact (alike.blockEntries advanced).map fun _ _ => .mapping
      · split
        · exact .none
        · exact .ahead content

/-- With more fuel, values that may be left out are composed alike. -/
theorem composeUnless_succ
    {ends : List TokenKind}
    (inBlock underKey : Bool)
    (mark : Mark)
    (scalarFree : ScalarFree ends) :
    Composed first second (Tree.Differ first second)
      (composeUnless handles inBlock underKey ends mark (fuel + 1) firstLeft)
      (composeUnless handles inBlock underKey ends mark (fuel + 1) secondLeft) := by
  rw [composeUnless, composeUnless, left.nextIs_eq scalarFree]
  split
  · exact .ahead left
  · exact alike.node inBlock underKey left

/-- With more fuel, the items of a block are composed alike. -/
theorem composeBlockItems_succ :
    Composed first second (ListDiffer (Tree.Differ first second))
      (composeBlockItems handles (fuel + 1) firstLeft)
      (composeBlockItems handles (fuel + 1) secondLeft) := by
  rw [composeBlockItems, composeBlockItems]
  rcases left.next_cases with ⟨isFirst, isSecond, _⟩ |
    ⟨⟨kind, isFirst, isSecond⟩, advanced⟩
  · rw [isFirst, isSecond]
    exact .none
  · rw [isFirst, isSecond, left.stop_eq]
    split
    · refine (alike.optional true false _ (.of_all rfl) advanced).bind ?_ ?_
      · intro item firstAfter secondAfter after
        exact (alike.blockItems after).map fun _ _ => .later
      · intro firstItem secondItem after items
        exact .next _ fun _ => .passed (.here items)
    · exact .ahead advanced
    · exact .none

/-- With more fuel, items that are not indented are composed alike. -/
theorem composeIndentless_succ :
    Composed first second (ListDiffer (Tree.Differ first second))
      (composeIndentless handles (fuel + 1) firstLeft)
      (composeIndentless handles (fuel + 1) secondLeft) := by
  rw [composeIndentless, composeIndentless]
  rcases left.next_cases with ⟨isFirst, isSecond, _⟩ |
    ⟨⟨kind, isFirst, isSecond⟩, advanced⟩
  · rw [isFirst, isSecond]
    exact .ahead left
  · rw [isFirst, isSecond, left.stop_eq]
    split
    · refine (alike.optional true false _ (.of_all rfl) advanced).bind ?_ ?_
      · intro item firstAfter secondAfter after
        exact (alike.indentless after).map fun _ _ => .later
      · intro firstItem secondItem after items
        exact .next _ fun _ => .passed (.here items)
    · exact .ahead left

/-- With more fuel, the entries of a block are composed alike. -/
theorem composeBlockEntries_succ :
    Composed first second (ListDiffer (EntryDiffer (Tree.Differ first second)))
      (composeBlockEntries handles (fuel + 1) firstLeft)
      (composeBlockEntries handles (fuel + 1) secondLeft) := by
  rw [composeBlockEntries, composeBlockEntries]
  rcases left.next_cases with ⟨isFirst, isSecond, _⟩ |
    ⟨⟨kind, isFirst, isSecond⟩, advanced⟩
  · rw [isFirst, isSecond]
    exact .none
  · rw [isFirst, isSecond, left.stop_eq]
    split
    · refine (alike.optional true true _ (.of_all rfl) advanced).bind ?_ ?_
      · intro key firstAfterKey secondAfterKey afterKey
        refine (alike.blockValue afterKey).bind ?_ ?_
        · intro value firstAfter secondAfter after
          exact (alike.blockEntries after).map fun _ _ => .later
        · intro firstValue secondValue after values
          exact .next _ fun _ => .passed (.here (.value values))
      · intro firstKey secondKey afterKey keys
        exact .next _ fun _ => .next _ fun _ => .passed (.here (.key keys))
    · exact .ahead advanced
    · exact .none

/-- With more fuel, the values of entries in a block are composed alike. -/
theorem composeBlockValue_succ :
    Composed first second (Tree.Differ first second)
      (composeBlockValue handles (fuel + 1) firstLeft)
      (composeBlockValue handles (fuel + 1) secondLeft) := by
  have scalarFree : ScalarFree [.value] := .of_all rfl
  rw [composeBlockValue, composeBlockValue, left.nextIs_eq scalarFree, left.stop_eq,
    left.mark_eq]
  split
  case isTrue isValue =>
    have advanced := left.advance scalarFree ((left.nextIs_eq scalarFree).trans isValue)
    exact alike.optional true true _ (.of_all rfl) advanced
  case isFalse =>
    exact .ahead left

/-- With more fuel, the items between brackets are composed alike. -/
theorem composeFlowItems_succ
    (isFirst : Bool) :
    Composed first second (ListDiffer (Tree.Differ first second))
      (composeFlowItems handles isFirst (fuel + 1) firstLeft)
      (composeFlowItems handles isFirst (fuel + 1) secondLeft) := by
  have endFree : ScalarFree [.flowSequenceEnd] := .of_all rfl
  have entryFree : ScalarFree [.flowEntry] := .of_all rfl
  have keyFree : ScalarFree [.key] := .of_all rfl
  rw [composeFlowItems, composeFlowItems, left.nextIs_eq endFree, left.nextIs_eq entryFree]
  split
  case isTrue atEnd =>
    exact .ahead (left.advance endFree ((left.nextIs_eq endFree).trans atEnd))
  case isFalse =>
  split
  case isTrue =>
    exact .none
  case isFalse atEntry =>
  have item := left.item isFirst atEntry
  dsimp only
  generalize (if isFirst then firstLeft else firstLeft.advance) = firstItem at item
  generalize (if isFirst then secondLeft else secondLeft.advance) = secondItem at item
  rw [item.nextIs_eq endFree, item.nextIs_eq keyFree]
  split
  case isTrue atEnd =>
    exact .ahead (item.advance endFree ((item.nextIs_eq endFree).trans atEnd))
  case isFalse =>
  have following : ∀ {firstReading secondReading},
      Composed first second (Tree.Differ first second) firstReading secondReading →
        Composed first second (ListDiffer (Tree.Differ first second))
          (firstReading >>= fun item =>
            composeFlowItems handles false fuel item.2 >>= fun items =>
              some (item.1 :: items.1, items.2))
          (secondReading >>= fun item =>
            composeFlowItems handles false fuel item.2 >>= fun items =>
              some (item.1 :: items.1, items.2)) := by
    intro firstReading secondReading composed
    refine composed.bind ?_ ?_
    · intro tree firstAfter secondAfter after
      exact (alike.flowItems false after).map fun _ _ => .later
    · intro firstTree secondTree after trees
      exact .next _ fun _ => .passed (.here trees)
  split
  case isTrue atKey =>
    exact following (alike.flowPair item ((item.nextIs_eq keyFree).trans atKey))
  case isFalse =>
    exact following (alike.node false false item)

/-- With more fuel, entries that are items between brackets are composed alike. -/
theorem composeFlowPair_succ
    (isKey : firstLeft.nextIs [.key] = true) :
    Composed first second (Tree.Differ first second)
      (composeFlowPair handles (fuel + 1) firstLeft)
      (composeFlowPair handles (fuel + 1) secondLeft) := by
  have endsFree : ScalarFree [.value, .flowEntry, .flowSequenceEnd] := .of_all rfl
  have start := left.advance (.of_all rfl) isKey
  rw [composeFlowPair, composeFlowPair, left.mark_eq]
  dsimp only
  rw [start.nextIs_eq endsFree, start.stop_eq]
  split
  case isTrue atEnd =>
    have advanced := start.advance endsFree ((start.nextIs_eq endsFree).trans atEnd)
    exact (alike.flowValue (.of_all rfl) advanced).map
      fun _ _ values => Tree.Differ.mapping (.here (.value values))
  case isFalse =>
    refine (alike.node false false start).bind ?_ ?_
    · intro key firstAfter secondAfter after
      exact (alike.flowValue (.of_all rfl) after).map
        fun _ _ values => Tree.Differ.mapping (.here (.value values))
    · intro firstKey secondKey after keys
      exact .next _ fun _ => .passed (.mapping (.here (.key keys)))

/-- With more fuel, the values of entries between brackets are composed alike. -/
theorem composeFlowValue_succ
    {ends : List TokenKind}
    (endsScalarFree : ScalarFree ends) :
    Composed first second (Tree.Differ first second)
      (composeFlowValue handles ends (fuel + 1) firstLeft)
      (composeFlowValue handles ends (fuel + 1) secondLeft) := by
  have scalarFree : ScalarFree [.value] := .of_all rfl
  rw [composeFlowValue, composeFlowValue, left.nextIs_eq scalarFree, left.mark_eq]
  split
  case isTrue isValue =>
    have advanced := left.advance scalarFree ((left.nextIs_eq scalarFree).trans isValue)
    rw [advanced.mark_eq]
    exact alike.optional false false _ endsScalarFree advanced
  case isFalse =>
    exact .ahead left

/-- With more fuel, the entries between brackets are composed alike. -/
theorem composeFlowEntries_succ
    (isFirst : Bool) :
    Composed first second (ListDiffer (EntryDiffer (Tree.Differ first second)))
      (composeFlowEntries handles isFirst (fuel + 1) firstLeft)
      (composeFlowEntries handles isFirst (fuel + 1) secondLeft) := by
  have endFree : ScalarFree [.flowMappingEnd] := .of_all rfl
  have entryFree : ScalarFree [.flowEntry] := .of_all rfl
  rw [composeFlowEntries, composeFlowEntries, left.nextIs_eq endFree,
    left.nextIs_eq entryFree]
  split
  case isTrue atEnd =>
    exact .ahead (left.advance endFree ((left.nextIs_eq endFree).trans atEnd))
  case isFalse =>
  split
  case isTrue =>
    exact .none
  case isFalse atEntry =>
  have item := left.item isFirst atEntry
  dsimp only
  generalize (if isFirst then firstLeft else firstLeft.advance) = firstItem at item
  generalize (if isFirst then secondLeft else secondLeft.advance) = secondItem at item
  rw [item.nextIs_eq endFree]
  split
  case isTrue atEnd =>
    exact .ahead (item.advance endFree ((item.nextIs_eq endFree).trans atEnd))
  case isFalse =>
    refine (alike.flowEntry item).bind ?_ ?_
    · intro entry firstAfter secondAfter after
      exact (alike.flowEntries false after).map fun _ _ => .later
    · intro firstEntry secondEntry after entries
      exact .next _ fun _ => .passed (.here entries)

/-- With more fuel, an entry between brackets is composed alike. -/
theorem composeFlowEntry_succ :
    Composed first second (EntryDiffer (Tree.Differ first second))
      (composeFlowEntry handles (fuel + 1) firstLeft)
      (composeFlowEntry handles (fuel + 1) secondLeft) := by
  have keyFree : ScalarFree [.key] := .of_all rfl
  rw [composeFlowEntry, composeFlowEntry, left.nextIs_eq keyFree]
  split
  case isTrue atKey =>
    have advanced := left.advance keyFree ((left.nextIs_eq keyFree).trans atKey)
    rw [advanced.mark_eq]
    refine (alike.optional false false _ (.of_all rfl) advanced).bind ?_ ?_
    · intro key firstAfter secondAfter after
      exact (alike.flowValue (.of_all rfl) after).map fun _ _ => .value
    · intro firstKey secondKey after keys
      exact .next _ fun _ => .passed (.key keys)
  case isFalse =>
    refine (alike.node false false left).bind ?_ ?_
    · intro key firstAfter secondAfter after
      dsimp only
      rw [after.mark_eq]
      exact .ahead after
    · intro firstKey secondKey after keys
      exact .passed (.key keys)

end

/-- With more fuel, trees are composed alike. -/
theorem succ (alike : ComposesAlike first second handles fuel) :
    ComposesAlike first second handles (fuel + 1) where
  node inBlock underKey left := alike.composeNode_succ left inBlock underKey
  optional inBlock underKey mark scalarFree left :=
    alike.composeUnless_succ left inBlock underKey mark scalarFree
  blockItems left := alike.composeBlockItems_succ left
  indentless left := alike.composeIndentless_succ left
  blockEntries left := alike.composeBlockEntries_succ left
  blockValue left := alike.composeBlockValue_succ left
  flowItems isFirst left := alike.composeFlowItems_succ left isFirst
  flowPair left isKey := alike.composeFlowPair_succ left isKey
  flowValue scalarFree left := alike.composeFlowValue_succ left scalarFree
  flowEntries isFirst left := alike.composeFlowEntries_succ left isFirst
  flowEntry left := alike.composeFlowEntry_succ left

/-- Tokens that differ in a plain word are composed alike with any fuel. -/
theorem of_fuel
    (handles : TagHandles)
    (fuel : Nat) :
    ComposesAlike first second handles fuel := by
  induction fuel with
  | zero =>
      exact .zero
  | succ _ inductionHypothesis =>
      exact inductionHypothesis.succ

end ComposesAlike

/-- The directives in front of a document are the same. -/
theorem readDirectives_differ
    {firstTokens secondTokens : List Token}
    (tokens : ListDiffer (Token.Differ first second) firstTokens secondTokens)
    (versioned : Bool)
    (handles : TagHandles) :
    (readDirectives versioned handles firstTokens = none ∧
        readDirectives versioned handles secondTokens = none) ∨
      ∃ known firstRest secondRest,
        readDirectives versioned handles firstTokens = some (known, firstRest) ∧
          readDirectives versioned handles secondTokens = some (known, secondRest) ∧
          ListDiffer (Token.Differ first second) firstRest secondRest := by
  induction tokens generalizing versioned handles with
  | here isHere =>
      cases isHere
      exact .inr ⟨_, _, _, rfl, rfl, .here .scalar⟩
  | @later element _ _ rest inductionHypothesis =>
      obtain ⟨kind, start, stop⟩ := element
      cases kind with
      | version major minor =>
          rw [readDirectives, readDirectives]
          split
          · exact .inl ⟨rfl, rfl⟩
          · exact inductionHypothesis true handles
      | tagHandle handle meaning =>
          rw [readDirectives, readDirectives]
          split
          · exact .inl ⟨rfl, rfl⟩
          · exact inductionHypothesis versioned _
      | _ =>
          exact .inr ⟨_, _, _, rfl, rfl, .later rest⟩

section

variable {firstLeft secondLeft : Remaining}
variable (left : Remaining.Differ first second firstLeft secondLeft)
include left

/-- The content of a document is composed to trees that differ in one scalar. -/
theorem composeContent_differ
    (handles : TagHandles)
    (fuel : Nat) :
    Composed first second (Tree.Differ first second)
      (composeContent handles fuel firstLeft)
      (composeContent handles fuel secondLeft) := by
  have node := (ComposesAlike.of_fuel handles fuel).node true false left
  unfold composeContent
  rcases left.next_cases with ⟨isFirst, isSecond, _⟩ | ⟨⟨kind, isFirst, isSecond⟩, _⟩
  · rw [isFirst, isSecond]
    exact node
  · rw [isFirst, isSecond, left.mark_eq]
    split
    · exact .ahead left
    · exact node

/-- A document is composed to trees that differ in one scalar. -/
theorem composeDocument_differ
    (fuel : Nat) :
    Composed first second (Tree.Differ first second)
      (composeDocument fuel firstLeft)
      (composeDocument fuel secondLeft) := by
  have node :=
    (ComposesAlike.of_fuel defaultHandles fuel).node true false left
  unfold composeDocument
  rcases left.next_cases with ⟨isFirst, isSecond, _⟩ | ⟨⟨kind, isFirst, isSecond⟩, _⟩
  · rw [isFirst, isSecond]
    exact node
  · rw [isFirst, isSecond]
    split
    case isFalse =>
      exact node
    case isTrue =>
    rcases readDirectives_differ left.tokens_differ false [] with ⟨isFirst, isSecond⟩ |
      ⟨handles, firstRest, secondRest, isFirst, isSecond, rest⟩
    · rw [isFirst, isSecond]
      exact .none
    · rw [isFirst, isSecond]
      have startFree : ScalarFree [.documentStart] := .of_all rfl
      have boundary := left.replace rest
      dsimp only [Option.bind_eq_bind, Option.bind_some]
      rw [boundary.nextIs_eq startFree]
      split
      case isTrue atStart =>
        exact composeContent_differ
          (boundary.advance startFree ((boundary.nextIs_eq startFree).trans atStart))
          handles fuel
      case isFalse =>
        exact .none

end

/-- After the ends of documents, the difference is still ahead. -/
theorem dropEnds_differ
    {firstTokens secondTokens : List Token}
    (tokens : ListDiffer (Token.Differ first second) firstTokens secondTokens) :
    ListDiffer (Token.Differ first second)
      (firstTokens.dropWhile fun token => token.kind == .documentEnd)
      (secondTokens.dropWhile fun token => token.kind == .documentEnd) := by
  induction tokens with
  | here isHere =>
      cases isHere
      exact .here .scalar
  | @later element _ _ rest inductionHypothesis =>
      rw [List.dropWhile_cons, List.dropWhile_cons]
      split
      · exact inductionHypothesis
      · exact .later rest

/-- Tokens that differ in a plain word hold trees that differ in this word at most. -/
theorem composeOnly_differ
    {firstTokens secondTokens : List Token}
    {firstTree : Tree}
    (tokens : ListDiffer (Token.Differ first second) firstTokens secondTokens)
    (composed : composeOnly firstTokens = some (some firstTree)) :
    ∃ secondTree,
      composeOnly secondTokens = some (some secondTree) ∧
        (firstTree = secondTree ∨ Tree.Differ first second firstTree secondTree) := by
  have endFree : ScalarFree [.streamEnd] := .of_all rfl
  have all : Remaining.Differ first second ⟨firstTokens, []⟩ ⟨secondTokens, []⟩ :=
    .intro tokens
  have document := composeDocument_differ all (4 * firstTokens.length + 4)
  unfold composeOnly at composed ⊢
  dsimp only at composed ⊢
  rw [all.nextIs_eq endFree] at composed
  rw [← tokens.length_eq]
  split at composed
  · cases composed
  rw [if_neg ‹_›]
  generalize composeDocument (4 * firstTokens.length + 4) ⟨firstTokens, []⟩ = firstResult
    at document composed
  generalize composeDocument (4 * firstTokens.length + 4) ⟨secondTokens, []⟩ = secondResult
    at document ⊢
  cases document with
  | none =>
      cases composed
  | ahead left =>
      have rest := left.replace (dropEnds_differ left.tokens_differ)
      dsimp only [Option.bind_eq_bind, Option.bind_some] at composed ⊢
      rw [rest.nextIs_eq endFree] at composed
      split at composed
      case isTrue atEnd =>
        cases composed
        exact ⟨_, if_pos atEnd, .inl rfl⟩
      case isFalse =>
        cases composed
  | passed trees =>
      dsimp only [Option.bind_eq_bind, Option.bind_some] at composed ⊢
      split at composed
      case isTrue atEnd =>
        cases composed
        exact ⟨_, if_pos atEnd, .inr trees⟩
      case isFalse =>
        cases composed

end AlertReceivers.Yaml
