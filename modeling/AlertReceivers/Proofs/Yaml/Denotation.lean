import AlertReceivers.Proofs.ListFacts
import AlertReceivers.Proofs.Yaml.Naming

namespace AlertReceivers.Yaml

/-!
# What trees denote

A tree denotes a node entry by entry: nothing that is written is left out, and the keys
of each mapping differ.  Trees are read as the nodes that they denote.
-/

/-- No two entries have the same key. -/
def KeysDiffer (entries : List (Node × Node)) : Prop :=
  entries.Pairwise fun first second => first.1.same second.1 = false

/-- A tree of a document denotes a node. -/
inductive Tree.Denotes (root : Tree) : Tree → Node → Prop where
  | scalar
      {tree : Tree}
      {origin : Origin}
      {isPlain : Bool}
      {text : String}
      {node : Node} :
      root.resolve tree = .scalar origin isPlain text →
      readScalarNode origin.tag? isPlain text = .ok node →
      Denotes root tree node
  | sequence
      {tree : Tree}
      {origin : Origin}
      {items : List Tree}
      {nodes : List Node} :
      root.resolve tree = .sequence origin items →
      items.length = nodes.length →
      (∀ {item node}, (item, node) ∈ items.zip nodes → Denotes root item node) →
      Denotes root tree (withLocalTag origin.tag? (.sequence nodes))
  | mapping
      {tree : Tree}
      {origin : Origin}
      {entries : List (Tree × Tree)}
      {nodes : List (Node × Node)} :
      root.resolve tree = .mapping origin entries →
      entries.length = nodes.length →
      (∀ {entry node}, (entry, node) ∈ entries.zip nodes → Denotes root entry.1 node.1) →
      (∀ {entry node}, (entry, node) ∈ entries.zip nodes → Denotes root entry.2 node.2) →
      KeysDiffer nodes →
      Denotes root tree (withLocalTag origin.tag? (.mapping nodes))

/-- A tree is read as a node that it denotes, whatever the path to it. -/
def Tree.ReadsDenoted
    (root : Tree)
    (read : Path → Tree → Reading Node) :
    Prop :=
  ∀ {path tree count node left},
    read path tree count = .ok (node, left) → root.Denotes tree node

section Reading

variable {root : Tree}
variable {read : Path → Tree → Reading Node}
variable (readsDenoted : root.ReadsDenoted read)
variable {path : Path}
variable {count left : Nat}
include readsDenoted

/-- Each item is read as a node that it denotes. -/
theorem denotes_of_readItems
    {items : List Tree}
    {nodes : List Node}
    {index : Nat}
    (given : readItems read path index items count = .ok (nodes, left)) :
    List.Forall₂ root.Denotes items nodes := by
  induction items generalizing index count nodes with
  | nil =>
      cases given
      exact .nil
  | cons item rest inductionHypothesis =>
      obtain ⟨node, _, isNode, given⟩ := Reading.bind_eq_ok_iff.mp given
      obtain ⟨others, _, areOthers, given⟩ := Reading.bind_eq_ok_iff.mp given
      cases given
      exact .cons (readsDenoted isNode) (inductionHypothesis areOthers)

/-- Each entry is read as one whose key and value it denotes, and no key is one that
was read before. -/
theorem denotes_of_readEntries
    {entries : List (Tree × Tree)}
    {done nodes : List (Node × Node)}
    (differ : KeysDiffer done)
    (given : readEntries read path done entries count = .ok (nodes, left)) :
    ∃ others,
      nodes = done ++ others ∧
        KeysDiffer nodes ∧
        List.Forall₂
          (fun entry node => root.Denotes entry.1 node.1 ∧ root.Denotes entry.2 node.2)
          entries others := by
  induction entries generalizing done count with
  | nil =>
      cases given
      exact ⟨[], by simp, differ, .nil⟩
  | cons entry rest inductionHypothesis =>
      obtain ⟨keyNode, _, isKey, given⟩ := Reading.bind_eq_ok_iff.mp given
      split at given
      · cases given
      · rename_i isNew
        obtain ⟨node, _, isNode, given⟩ := Reading.bind_eq_ok_iff.mp given
        have stillDiffer : KeysDiffer (done ++ [(keyNode, node)]) := by
          simpa [KeysDiffer, List.pairwise_append] using ⟨differ, by simpa using isNew⟩
        obtain ⟨others, rfl, allDiffer, denoted⟩ := inductionHypothesis stillDiffer given
        exact ⟨(keyNode, node) :: others, by simp, allDiffer,
          .cons ⟨readsDenoted isKey, readsDenoted isNode⟩ denoted⟩

end Reading

/-- A tree is read as what it denotes if the parts of collections are. -/
theorem denotes_of_readFollowed
    {root tree : Tree}
    {inner? : Option (Path → Tree → Reading Node)}
    {path : Path}
    {count left : Nat}
    {node : Node}
    (readsDenoted : ∀ inner ∈ inner?, root.ReadsDenoted inner)
    (given : readFollowed inner? path (root.resolve tree) count = .ok (node, left)) :
    root.Denotes tree node := by
  cases stands : root.resolve tree with
  | scalar origin isPlain text =>
      rw [stands] at given
      simp only [readFollowed] at given
      cases isNode : readScalarNode origin.tag? isPlain text with
      | error cause =>
          rw [isNode] at given
          cases given
      | ok scalarNode =>
          rw [isNode] at given
          cases given
          exact .scalar stands isNode
  | sequence origin items =>
      rw [stands] at given
      cases inner? with
      | none =>
          cases given
      | some inner =>
          obtain ⟨nodes, _, areNodes, isNode⟩ := Reading.bind_eq_ok_iff.mp given
          cases isNode
          obtain ⟨sameLength, each⟩ :=
            List.forall₂_iff_zip.mp (denotes_of_readItems (readsDenoted inner rfl) areNodes)
          exact .sequence stands sameLength each
  | mapping origin entries =>
      rw [stands] at given
      cases inner? with
      | none =>
          cases given
      | some inner =>
          obtain ⟨nodes, _, areNodes, isNode⟩ := Reading.bind_eq_ok_iff.mp given
          cases isNode
          obtain ⟨others, rfl, differ, denoted⟩ :=
            denotes_of_readEntries (readsDenoted inner rfl) .nil areNodes
          obtain ⟨sameLength, each⟩ := List.forall₂_iff_zip.mp denoted
          exact .mapping stands sameLength (fun member => (each member).1)
            (fun member => (each member).2) differ
  | reference mark target =>
      rw [stands] at given
      cases inner? <;> cases given

namespace Tree

variable {root tree : Tree}

/-- Trees are read as the nodes that they denote. -/
theorem readsDenoted_read (depth : Nat) : root.ReadsDenoted (root.read depth) := by
  induction depth with
  | zero =>
      intro path tree count node left given
      obtain ⟨between, isRead⟩ := exists_readFollowed given
      exact denotes_of_readFollowed (by simp [readInside?]) isRead
  | succ depth inductionHypothesis =>
      intro path tree count node left given
      obtain ⟨between, isRead⟩ := exists_readFollowed given
      refine denotes_of_readFollowed ?_ isRead
      rintro inner ⟨⟩
      exact @inductionHypothesis

/-- A tree denotes one node at most. -/
theorem Denotes.unique
    {first second : Node}
    (denotesFirst : root.Denotes tree first)
    (denotesSecond : root.Denotes tree second) :
    first = second := by
  induction denotesFirst generalizing second with
  | scalar stands isNode =>
      cases denotesSecond with
      | scalar standsSecond isSecond =>
          cases stands.symm.trans standsSecond
          exact Except.ok.inj (isNode.symm.trans isSecond)
      | sequence standsSecond _ _ | mapping standsSecond _ _ _ _ =>
          cases stands.symm.trans standsSecond
  | sequence stands sameLength _ inductionHypothesis =>
      cases denotesSecond with
      | sequence standsSecond secondLength each =>
          cases stands.symm.trans standsSecond
          rw [ListFacts.eq_of_forall₂ inductionHypothesis sameLength
            (List.forall₂_iff_zip.mpr ⟨secondLength, each⟩)]
      | scalar standsSecond _ | mapping standsSecond _ _ _ _ =>
          cases stands.symm.trans standsSecond
  | mapping stands sameLength _ _ _ uniqueKey uniqueValue =>
      cases denotesSecond with
      | mapping standsSecond secondLength keys values _ =>
          cases stands.symm.trans standsSecond
          have denoted := List.forall₂_iff_zip.mpr
            ⟨secondLength, fun member => And.intro (keys member) (values member)⟩
          rw [ListFacts.eq_of_forall₂ (fun member _ both =>
            Prod.ext (uniqueKey member both.1) (uniqueValue member both.2)) sameLength denoted]
      | scalar standsSecond _ | sequence standsSecond _ _ =>
          cases stands.symm.trans standsSecond

/-- A scalar that can only be a text denotes one. -/
theorem Denotes.asText?_eq
    {node : Node}
    {name : String}
    (denotes : root.Denotes tree node)
    (standsForItself : Plain.StandsForItself name)
    (isText : root.textOf? tree = some name) :
    node.asText? = some name := by
  unfold textOf? at isText
  cases denotes with
  | scalar stands isNode =>
      rw [stands] at isText
      cases isText
      exact asText?_readScalarNode standsForItself isNode
  | sequence stands _ _ | mapping stands _ _ _ _ =>
      rw [stands] at isText
      cases isText

/-- A tree that denotes a text is a scalar with this text. -/
theorem Denotes.textOf?_eq
    {node : Node}
    {name : String}
    (denotes : root.Denotes tree node)
    (named : node.asText? = some name) :
    root.textOf? tree = some name := by
  unfold textOf?
  cases denotes with
  | scalar stands isNode =>
      rw [stands, eq_of_asText?_readScalarNode isNode named]
  | sequence _ _ _ | mapping _ _ _ _ _ =>
      rw [asText?_withLocalTag] at named
      cases named

/-- The entries of a mapping denote those of a node. -/
def DenoteEntries
    (root : Tree) :
    List (Tree × Tree) → List (Node × Node) → Prop :=
  List.Forall₂ fun entry node => root.Denotes entry.1 node.1 ∧ root.Denotes entry.2 node.2

/-- What a mapping denotes has the entries that it denotes. -/
theorem Denotes.exists_entries
    {node : Node}
    {origin : Origin}
    {entries : List (Tree × Tree)}
    (denotes : root.Denotes tree node)
    (isMapping : root.resolve tree = .mapping origin entries) :
    ∃ nodes, node = withLocalTag origin.tag? (.mapping nodes) ∧ root.DenoteEntries entries nodes := by
  cases denotes with
  | mapping stands sameLength keys values _ =>
      cases stands.symm.trans isMapping
      exact ⟨_, rfl, List.forall₂_iff_zip.mpr
        ⟨sameLength, fun member => ⟨keys member, values member⟩⟩⟩
  | scalar stands _ | sequence stands _ _ =>
      cases stands.symm.trans isMapping

end Tree

end AlertReceivers.Yaml
