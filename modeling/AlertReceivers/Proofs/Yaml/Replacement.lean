import AlertReceivers.Proofs.Yaml.Difference
import AlertReceivers.Proofs.Yaml.Reading
import Mathlib.Data.List.Forall2

namespace AlertReceivers.Yaml.Tree

/-!
# Documents with another word

In two documents that differ in the text of one plain scalar, whatever does not give this
scalar, not even through a reference, is read in the same way.
-/

/-- In a document, a tree gives another one: this is the tree, stands in it, or is given
by what a reference in it stands for. -/
inductive Gives (root given : Tree) : Tree → Prop where
  | here :
      Gives root given given
  | item {origin : Origin} {items : List Tree} {item : Tree} :
      item ∈ items →
        Gives root given item →
          Gives root given (.sequence origin items)
  | key {origin : Origin} {entries : List (Tree × Tree)} {entry : Tree × Tree} :
      entry ∈ entries →
        Gives root given entry.1 →
          Gives root given (.mapping origin entries)
  | value {origin : Origin} {entries : List (Tree × Tree)} {entry : Tree × Tree} :
      entry ∈ entries →
        Gives root given entry.2 →
          Gives root given (.mapping origin entries)
  | target {mark : Mark} {number : Nat} {tree : Tree} :
      root.anchored? number = some tree →
        Gives root given tree →
          Gives root given (.reference mark number)

/-- What is given by a tree that is given, is given. -/
theorem Gives.trans
    {root given between tree : Tree}
    (gives : root.Gives given between)
    (givesBetween : root.Gives between tree) :
    root.Gives given tree := by
  induction givesBetween with
  | here =>
      exact gives
  | item member _ inductionHypothesis =>
      exact .item member inductionHypothesis
  | key member _ inductionHypothesis =>
      exact .key member inductionHypothesis
  | value member _ inductionHypothesis =>
      exact .value member inductionHypothesis
  | target found _ inductionHypothesis =>
      exact .target found inductionHypothesis

/-- A scalar gives nothing but itself. -/
theorem gives_scalar_iff
    {root given : Tree}
    {origin : Origin}
    {isPlain : Bool}
    {text : String} :
    root.Gives given (.scalar origin isPlain text) ↔ given = .scalar origin isPlain text := by
  constructor
  · rintro ⟨⟩
    rfl
  · rintro rfl
    exact .here

/-- A mapping gives itself and what its keys and values give. -/
theorem gives_mapping_iff
    {root given : Tree}
    {origin : Origin}
    {entries : List (Tree × Tree)} :
    root.Gives given (.mapping origin entries) ↔
      given = .mapping origin entries ∨
        ∃ entry ∈ entries, root.Gives given entry.1 ∨ root.Gives given entry.2 := by
  constructor
  · intro gives
    cases gives with
    | here =>
        exact .inl rfl
    | key member inKey =>
        exact .inr ⟨_, member, .inl inKey⟩
    | value member inValue =>
        exact .inr ⟨_, member, .inr inValue⟩
  · rintro (rfl | ⟨entry, member, inKey | inValue⟩)
    · exact .here
    · exact .key member inKey
    · exact .value member inValue

/-- In the entries of a mapping, a tree is given by no key, and only by values that stand in
entries of a kind. -/
def GivenOnlyIn
    (root given : Tree)
    (allowed : Tree × Tree → Prop)
    (entries : List (Tree × Tree)) :
    Prop :=
  ∀ entry ∈ entries,
    ¬ root.Gives given entry.1 ∧ (root.Gives given entry.2 → allowed entry)

/-- What a mapping does not give, is given nowhere in its entries. -/
theorem givenOnlyIn_of_not_gives
    {root given : Tree}
    {allowed : Tree × Tree → Prop}
    {origin : Origin}
    {entries : List (Tree × Tree)}
    (notGiven : ¬ root.Gives given (.mapping origin entries)) :
    root.GivenOnlyIn given allowed entries :=
  fun _ member =>
    ⟨fun inKey => notGiven (.key member inKey),
      fun inValue => (notGiven (.value member inValue)).elim⟩

/-- A tree gives what it stands for. -/
theorem gives_resolve
    (root tree : Tree) :
    root.Gives (root.resolve tree) tree := by
  unfold resolve
  split
  case h_1 number =>
    cases found : root.anchored? number with
    | none =>
        exact .here
    | some target =>
        exact .target found .here
  case h_2 =>
    exact .here

variable {origin : Origin}
variable {first second : String}
variable {firstTree secondTree : Tree}

/-- Two trees are the same, or one plain scalar has another text. -/
def MayDiffer
    (origin : Origin)
    (first second : String)
    (firstTree secondTree : Tree) :
    Prop :=
  firstTree = secondTree ∨ Replaced origin first second firstTree secondTree

/-- Two lists of entries have keys and values that are the same or differ in a scalar. -/
def EntriesMayDiffer
    (origin : Origin)
    (first second : String) :
    List (Tree × Tree) → List (Tree × Tree) → Prop :=
  List.Forall₂ fun firstEntry secondEntry =>
    MayDiffer origin first second firstEntry.1 secondEntry.1 ∧
      MayDiffer origin first second firstEntry.2 secondEntry.2

theorem rel_refl
    {relation : α → α → Prop}
    (reflexive : ∀ value, relation value value)
    (value? : Option α) :
    Option.Rel relation value? value? := by
  cases value? with
  | none =>
      exact .none
  | some value =>
      exact .some (reflexive value)

theorem rel_later?
    {relation : α → α → Prop}
    {firstOne secondOne firstLast secondLast : Option α}
    (one : Option.Rel relation firstOne secondOne)
    (last : Option.Rel relation firstLast secondLast) :
    Option.Rel relation (later? firstOne firstLast) (later? secondOne secondLast) := by
  cases last with
  | none =>
      exact one
  | some isRelated =>
      exact .some isRelated

theorem rel_ifAnchored
    {relation : Tree → Tree → Prop}
    (isRelated : relation firstTree secondTree)
    (whole : Origin)
    (number : Nat) :
    Option.Rel relation
      (firstTree.ifAnchored whole number) (secondTree.ifAnchored whole number) := by
  unfold ifAnchored
  split
  · exact .some isRelated
  · exact .none

namespace MayDiffer

/-- A tree may differ from itself. -/
theorem refl (tree : Tree) : MayDiffer origin first second tree tree :=
  .inl rfl

theorem entries_refl (entries : List (Tree × Tree)) :
    EntriesMayDiffer origin first second entries entries :=
  List.forall₂_same.mpr fun _ _ => ⟨.inl rfl, .inl rfl⟩

/-- Items that may differ have the same targets of anchors. -/
theorem anchoredInItems?
    {number : Nat}
    {before after : List Tree}
    (item :
      Option.Rel (MayDiffer origin first second)
        (firstTree.anchored? number) (secondTree.anchored? number)) :
    Option.Rel (MayDiffer origin first second)
      (Tree.anchoredInItems? number (before ++ firstTree :: after))
      (Tree.anchoredInItems? number (before ++ secondTree :: after)) := by
  induction before with
  | nil =>
      exact rel_later? item (rel_refl refl _)
  | cons head _ inductionHypothesis =>
      exact rel_later? (rel_refl refl _) inductionHypothesis

/-- Entries that may differ have the same targets of anchors. -/
theorem anchoredInEntries?
    {number : Nat}
    {before after : List (Tree × Tree)}
    {firstKey secondKey firstValue secondValue : Tree}
    (key :
      Option.Rel (MayDiffer origin first second)
        (firstKey.anchored? number) (secondKey.anchored? number))
    (value :
      Option.Rel (MayDiffer origin first second)
        (firstValue.anchored? number) (secondValue.anchored? number)) :
    Option.Rel (MayDiffer origin first second)
      (Tree.anchoredInEntries? number (before ++ (firstKey, firstValue) :: after))
      (Tree.anchoredInEntries? number (before ++ (secondKey, secondValue) :: after)) := by
  induction before with
  | nil =>
      exact rel_later? (rel_later? key value) (rel_refl refl _)
  | cons head _ inductionHypothesis =>
      exact rel_later? (rel_refl refl _) inductionHypothesis

end MayDiffer

namespace Replaced

variable (replaced : Replaced origin first second firstTree secondTree)
include replaced

/-- The replaced scalar stands in the tree. -/
theorem gives (root : Tree) : root.Gives (.scalar origin true first) firstTree := by
  induction replaced with
  | here =>
      exact .here
  | item _ inductionHypothesis =>
      exact .item (List.mem_append_right _ List.mem_cons_self) inductionHypothesis
  | @key _ before after firstKey _ value _ inductionHypothesis =>
      have member : (firstKey, value) ∈ before ++ (firstKey, value) :: after :=
        List.mem_append_right _ List.mem_cons_self
      exact .key member inductionHypothesis
  | @value _ before after key firstValue _ _ inductionHypothesis =>
      have member : (key, firstValue) ∈ before ++ (key, firstValue) :: after :=
        List.mem_append_right _ List.mem_cons_self
      exact .value member inductionHypothesis

/-- An anchor stands for the same in both trees, but for the replaced scalar. -/
theorem anchored? (number : Nat) :
    Option.Rel (MayDiffer origin first second)
      (firstTree.anchored? number) (secondTree.anchored? number) := by
  induction replaced with
  | here =>
      exact rel_ifAnchored (.inr .here) _ _
  | item isItem inductionHypothesis =>
      exact rel_later? (rel_ifAnchored (.inr (.item isItem)) _ _)
        (MayDiffer.anchoredInItems? inductionHypothesis)
  | key isKey inductionHypothesis =>
      exact rel_later? (rel_ifAnchored (.inr (.key isKey)) _ _)
        (MayDiffer.anchoredInEntries? inductionHypothesis (rel_refl .refl _))
  | value isValue inductionHypothesis =>
      exact rel_later? (rel_ifAnchored (.inr (.value isValue)) _ _)
        (MayDiffer.anchoredInEntries? (rel_refl .refl _) inductionHypothesis)

theorem size_eq : firstTree.size = secondTree.size := by
  have items : ∀ {before after : List Tree} {firstItem secondItem : Tree},
      firstItem.size = secondItem.size →
        sizeItems (before ++ firstItem :: after) = sizeItems (before ++ secondItem :: after) := by
    intro before after firstItem secondItem same
    induction before with
    | nil =>
        simp only [List.nil_append, sizeItems, same]
    | cons head _ inductionHypothesis =>
        simp only [List.cons_append, sizeItems, inductionHypothesis]
  have entries : ∀ {before after : List (Tree × Tree)} {firstEntry secondEntry : Tree × Tree},
      firstEntry.1.size + firstEntry.2.size = secondEntry.1.size + secondEntry.2.size →
        sizeEntries (before ++ firstEntry :: after) =
          sizeEntries (before ++ secondEntry :: after) := by
    intro before after firstEntry secondEntry same
    induction before with
    | nil =>
        simp only [List.nil_append, sizeEntries, same]
    | cons head _ inductionHypothesis =>
        simp only [List.cons_append, sizeEntries, inductionHypothesis]
  induction replaced with
  | here =>
      rfl
  | item _ inductionHypothesis =>
      simp only [size, items inductionHypothesis]
  | @key _ _ _ firstKey secondKey value _ inductionHypothesis =>
      have same : firstKey.size + value.size = secondKey.size + value.size :=
        congrArg (· + value.size) inductionHypothesis
      exact congrArg (· + 2) (entries same)
  | @value _ _ _ key firstValue secondValue _ inductionHypothesis =>
      have same : key.size + firstValue.size = key.size + secondValue.size :=
        congrArg (key.size + ·) inductionHypothesis
      exact congrArg (· + 2) (entries same)

end Replaced

namespace MayDiffer

/-- What does not give the scalar is the same. -/
theorem eq_of_not_gives
    {root : Tree}
    (trees : MayDiffer origin first second firstTree secondTree)
    (notGiven : ¬ root.Gives (.scalar origin true first) firstTree) :
    firstTree = secondTree :=
  trees.resolve_right fun replaced => notGiven (replaced.gives root)

/-- A scalar stays as it is, or is the one whose text differs. -/
theorem scalar_cases
    {whole : Origin}
    {isPlain : Bool}
    {text : String}
    (trees : MayDiffer origin first second (.scalar whole isPlain text) secondTree) :
    secondTree = .scalar whole isPlain text ∨
      whole = origin ∧ isPlain = true ∧ text = first ∧ secondTree = .scalar origin true second := by
  rcases trees with rfl | replaced
  · exact .inl rfl
  · cases replaced
    exact .inr ⟨rfl, rfl, rfl, rfl⟩

/-- References stay as they are. -/
theorem reference_eq
    {mark : Mark}
    {number : Nat}
    (trees : MayDiffer origin first second (.reference mark number) secondTree) :
    secondTree = .reference mark number := by
  rcases trees with rfl | replaced
  · rfl
  · cases replaced

/-- A sequence stays one, and its items may differ. -/
theorem exists_items
    {whole : Origin}
    {items : List Tree}
    (trees : MayDiffer origin first second (.sequence whole items) secondTree) :
    ∃ secondItems,
      secondTree = .sequence whole secondItems ∧
        List.Forall₂ (MayDiffer origin first second) items secondItems := by
  rcases trees with rfl | replaced
  · exact ⟨items, rfl, List.forall₂_same.mpr fun item _ => refl item⟩
  · cases replaced with
    | item isItem =>
        refine ⟨_, rfl, List.rel_append ?_ (.cons (.inr isItem) ?_)⟩
        all_goals exact List.forall₂_same.mpr fun item _ => refl item

/-- A mapping stays one, and its entries may differ. -/
theorem exists_entries
    {whole : Origin}
    {entries : List (Tree × Tree)}
    (trees : MayDiffer origin first second (.mapping whole entries) secondTree) :
    ∃ secondEntries,
      secondTree = .mapping whole secondEntries ∧
        EntriesMayDiffer origin first second entries secondEntries := by
  rcases trees with rfl | replaced
  · exact ⟨entries, rfl, entries_refl entries⟩
  · cases replaced with
    | key isKey =>
        exact ⟨_, rfl, List.rel_append (entries_refl _)
          (.cons ⟨.inr isKey, refl _⟩ (entries_refl _))⟩
    | value isValue =>
        exact ⟨_, rfl, List.rel_append (entries_refl _)
          (.cons ⟨refl _, .inr isValue⟩ (entries_refl _))⟩

/-- Documents that may differ give anchors the same targets, but for the scalar. -/
theorem rel_anchored?
    (trees : MayDiffer origin first second firstTree secondTree)
    (number : Nat) :
    Option.Rel (MayDiffer origin first second)
      (firstTree.anchored? number) (secondTree.anchored? number) := by
  rcases trees with rfl | replaced
  · exact rel_refl refl _
  · exact replaced.anchored? number

/-- Trees that differ in the text of a scalar have the same size. -/
theorem size_eq
    (trees : MayDiffer origin first second firstTree secondTree) :
    firstTree.size = secondTree.size := by
  rcases trees with rfl | replaced
  · rfl
  · exact replaced.size_eq

end MayDiffer

end AlertReceivers.Yaml.Tree
