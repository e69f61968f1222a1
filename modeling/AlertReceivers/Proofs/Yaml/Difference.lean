import AlertReceivers.Yaml.Tree

namespace AlertReceivers.Yaml

/-!
# Single differences

Lists of tokens and trees that differ in a single plain word.
-/

/-- Two lists differ in a single element, and there in a certain way. -/
inductive ListDiffer (differ : α → α → Prop) : List α → List α → Prop where
  | here {first second : α} {rest : List α} :
      differ first second →
        ListDiffer differ (first :: rest) (second :: rest)
  | later {element : α} {first second : List α} :
      ListDiffer differ first second →
        ListDiffer differ (element :: first) (element :: second)

namespace ListDiffer

variable {differ : α → α → Prop}
variable {first second : List α}

/-- More elements before two lists are no further difference. -/
theorem append_left
    (lists : ListDiffer differ first second)
    (before : List α) :
    ListDiffer differ (before ++ first) (before ++ second) := by
  induction before with
  | nil =>
      exact lists
  | cons _ _ inductionHypothesis =>
      exact .later inductionHypothesis

/-- More elements after two lists are no further difference. -/
theorem append_right
    (lists : ListDiffer differ first second)
    (after : List α) :
    ListDiffer differ (first ++ after) (second ++ after) := by
  induction lists with
  | here isHere =>
      exact .here isHere
  | later _ inductionHypothesis =>
      exact .later inductionHypothesis

/-- Lists that differ in one element do so when they are reversed. -/
theorem reverse
    (lists : ListDiffer differ first second) :
    ListDiffer differ first.reverse second.reverse := by
  induction lists with
  | here isHere =>
      rw [List.reverse_cons, List.reverse_cons]
      exact (here isHere).append_left _
  | later _ inductionHypothesis =>
      rw [List.reverse_cons, List.reverse_cons]
      exact inductionHypothesis.append_right _

/-- The same element at the same place of both lists is no further difference. -/
theorem insert
    (lists : ListDiffer differ first second)
    (number : Nat)
    (element : α) :
    ListDiffer differ
      (first.take number ++ element :: first.drop number)
      (second.take number ++ element :: second.drop number) := by
  induction lists generalizing number with
  | here isHere =>
      cases number with
      | zero =>
          exact .later (.here isHere)
      | succ number =>
          exact .here isHere
  | later lists inductionHypothesis =>
      cases number with
      | zero =>
          exact .later (.later lists)
      | succ number =>
          exact .later (inductionHypothesis number)

/-- Lists that differ in one element are equally long. -/
theorem length_eq
    (lists : ListDiffer differ first second) :
    first.length = second.length := by
  induction lists with
  | here _ =>
      rfl
  | later _ inductionHypothesis =>
      exact congrArg (· + 1) inductionHypothesis

/-- The elements before the one in which two lists differ are the same, and so are those
after it. -/
theorem exists_split
    (lists : ListDiffer differ first second) :
    ∃ before after firstElement secondElement,
      first = before ++ firstElement :: after ∧
        second = before ++ secondElement :: after ∧
        differ firstElement secondElement := by
  induction lists with
  | @here firstElement secondElement rest isHere =>
      exact ⟨[], rest, firstElement, secondElement, rfl, rfl, isHere⟩
  | @later element _ _ _ inductionHypothesis =>
      obtain ⟨before, after, firstElement, secondElement, rfl, rfl, isThere⟩ :=
        inductionHypothesis
      exact ⟨element :: before, after, firstElement, secondElement, rfl, rfl, isThere⟩

end ListDiffer

/-- Two tokens at the same place are two plain words. -/
inductive Token.Differ (first second : String) : Token → Token → Prop where
  | scalar {start stop : Mark} :
      Token.Differ first second
        ⟨.scalar true first, start, stop⟩ ⟨.scalar true second, start, stop⟩

/-- Two entries differ in the key or in the value, and there in a certain way. -/
inductive EntryDiffer (differ : Tree → Tree → Prop) : Tree × Tree → Tree × Tree → Prop where
  | key {firstKey secondKey value : Tree} :
      differ firstKey secondKey →
        EntryDiffer differ (firstKey, value) (secondKey, value)
  | value {key firstValue secondValue : Tree} :
      differ firstValue secondValue →
        EntryDiffer differ (key, firstValue) (key, secondValue)

namespace Tree

/-- In a tree, one plain scalar has another text. -/
inductive Replaced (origin : Origin) (first second : String) : Tree → Tree → Prop where
  | here :
      Replaced origin first second (.scalar origin true first) (.scalar origin true second)
  | item {whole : Origin} {before after : List Tree} {firstItem secondItem : Tree} :
      Replaced origin first second firstItem secondItem →
        Replaced origin first second
          (.sequence whole (before ++ firstItem :: after))
          (.sequence whole (before ++ secondItem :: after))
  | key {whole : Origin} {before after : List (Tree × Tree)}
      {firstKey secondKey value : Tree} :
      Replaced origin first second firstKey secondKey →
        Replaced origin first second
          (.mapping whole (before ++ (firstKey, value) :: after))
          (.mapping whole (before ++ (secondKey, value) :: after))
  | value {whole : Origin} {before after : List (Tree × Tree)}
      {key firstValue secondValue : Tree} :
      Replaced origin first second firstValue secondValue →
        Replaced origin first second
          (.mapping whole (before ++ (key, firstValue) :: after))
          (.mapping whole (before ++ (key, secondValue) :: after))

/-- Two trees differ in the text of a single plain scalar. -/
def Differ (first second : String) (firstTree secondTree : Tree) : Prop :=
  ∃ origin, Replaced origin first second firstTree secondTree

namespace Differ

variable {first second : String}
variable {whole : Origin}

/-- Plain scalars with two texts differ in this one scalar. -/
theorem scalar :
    Differ first second (.scalar whole true first) (.scalar whole true second) :=
  ⟨whole, .here⟩

/-- Sequences differ in one scalar if one of their items does. -/
theorem sequence
    {firstItems secondItems : List Tree}
    (items : ListDiffer (Differ first second) firstItems secondItems) :
    Differ first second (.sequence whole firstItems) (.sequence whole secondItems) := by
  obtain ⟨before, after, _, _, rfl, rfl, origin, replaced⟩ := items.exists_split
  exact ⟨origin, .item replaced⟩

/-- Mappings differ in one scalar if a key or a value of one entry does. -/
theorem mapping
    {firstEntries secondEntries : List (Tree × Tree)}
    (entries : ListDiffer (EntryDiffer (Differ first second)) firstEntries secondEntries) :
    Differ first second (.mapping whole firstEntries) (.mapping whole secondEntries) := by
  obtain ⟨before, after, _, _, rfl, rfl, entry⟩ := entries.exists_split
  cases entry with
  | key keys =>
      obtain ⟨origin, replaced⟩ := keys
      exact ⟨origin, .key replaced⟩
  | value values =>
      obtain ⟨origin, replaced⟩ := values
      exact ⟨origin, .value replaced⟩

end Differ

end Tree

end AlertReceivers.Yaml
