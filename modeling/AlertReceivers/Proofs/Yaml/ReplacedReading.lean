import AlertReceivers.Proofs.ListFacts
import AlertReceivers.Proofs.Yaml.Replacement

namespace AlertReceivers.Yaml

/-!
# Reading documents with another word

In two documents that differ in the text of one plain scalar, what does not give this scalar
is read to the same node, and references are followed alike.
-/

open AlertReceivers.Yaml.Tree (EntriesMayDiffer GivenOnlyIn MayDiffer)

namespace Tree

variable {origin : Origin}
variable {first second : String}
variable {firstRoot secondRoot : Tree}
variable (roots : MayDiffer origin first second firstRoot secondRoot)
include roots

/-- References are followed alike in both documents. -/
theorem follow_alike
    {firstTree secondTree : Tree}
    (trees : MayDiffer origin first second firstTree secondTree) :
    Reading.Alike
      (fun firstFollowed secondFollowed =>
        firstFollowed = firstRoot.resolve firstTree ∧
          MayDiffer origin first second firstFollowed secondFollowed)
      (firstRoot.follow firstTree) (secondRoot.follow secondTree) := by
  cases firstTree with
  | scalar whole isPlain text =>
      have isSecond : secondRoot.follow secondTree = pure secondTree := by
        rcases trees.scalar_cases with rfl | ⟨_, _, _, rfl⟩ <;> rfl
      rw [isSecond]
      exact .pure ⟨rfl, trees⟩
  | sequence whole items =>
      obtain ⟨secondItems, rfl, _⟩ := trees.exists_items
      exact .pure ⟨rfl, trees⟩
  | mapping whole entries =>
      obtain ⟨secondEntries, rfl, _⟩ := trees.exists_entries
      exact .pure ⟨rfl, trees⟩
  | reference mark number =>
      obtain rfl := trees.reference_eq
      have target := roots.rel_anchored? number
      intro count
      unfold follow resolve
      rw [← roots.size_eq]
      dsimp only
      split
      · exact .error
      · generalize firstRoot.anchored? number = firstTarget at target ⊢
        generalize secondRoot.anchored? number = secondTarget at target ⊢
        cases target with
        | none =>
            exact .ok ⟨⟨rfl, .refl _⟩, rfl⟩
        | some targets =>
            exact .ok ⟨⟨rfl, targets⟩, rfl⟩

/-- What does not give the replaced scalar stands for the same in both documents. -/
theorem follow_eq_of_not_gives
    {tree : Tree}
    (notGiven : ¬ firstRoot.Gives (.scalar origin true first) tree) :
    firstRoot.follow tree = secondRoot.follow tree := by
  cases tree with
  | scalar | sequence | mapping =>
      rfl
  | reference mark number =>
      have sameTarget : firstRoot.anchored? number = secondRoot.anchored? number := by
        have target := roots.rel_anchored? number
        generalize found : firstRoot.anchored? number = firstTarget at target ⊢
        generalize secondRoot.anchored? number = secondTarget at target ⊢
        cases target with
        | none =>
            rfl
        | some targets =>
            rw [targets.eq_of_not_gives fun gives => notGiven (.target found gives)]
      funext count
      simp only [follow, roots.size_eq, sameTarget]

/-- What does not give the replaced scalar is read to the same node in both documents. -/
theorem read_eq_of_not_gives
    (depth : Nat)
    (path : Path)
    {tree : Tree}
    (notGiven : ¬ firstRoot.Gives (.scalar origin true first) tree) :
    firstRoot.read depth path tree = secondRoot.read depth path tree := by
  induction depth generalizing path tree with
  | zero =>
      rw [read, read, ← follow_eq_of_not_gives roots notGiven]
  | succ depth inductionHypothesis =>
      rw [read, read, ← follow_eq_of_not_gives roots notGiven]
      refine Reading.bind_congr fun count followed left given => ?_
      have notFollowed : ¬ firstRoot.Gives (.scalar origin true first) followed :=
        fun gives => notGiven
          (gives.trans (firstRoot.follow_eq tree given ▸ gives_resolve firstRoot tree))
      congr 1
      cases followed with
      | scalar | reference =>
          rfl
      | sequence whole items =>
          have sameItems : ∀ item ∈ items, ∀ path, _ :=
            fun item member path =>
              inductionHypothesis path fun gives => notFollowed (.item member gives)
          simp only [readFollowed, readItems_congr sameItems]
      | mapping whole entries =>
          have sameEntries : ∀ entry ∈ entries, ∀ path, _ ∧ _ :=
            fun entry member path =>
              ⟨inductionHypothesis path fun gives => notFollowed (.key member gives),
                inductionHypothesis path fun gives => notFollowed (.value member gives)⟩
          simp only [readFollowed, readEntries_congr sameEntries]

/-- Where the replaced scalar is given, both words are read alike if both stand for a
node. -/
theorem read_alike_of_resolve
    {firstNode secondNode : Node}
    (isFirst : readScalarNode origin.tag? true first = .ok firstNode)
    (isSecond : readScalarNode origin.tag? true second = .ok secondNode)
    {firstTree secondTree : Tree}
    (trees : MayDiffer origin first second firstTree secondTree)
    (isWord : firstRoot.resolve firstTree = .scalar origin true first)
    (depth : Nat)
    (path : Path) :
    Reading.Alike
      (fun firstRead secondRead =>
        firstRead = firstNode ∧ (secondRead = firstNode ∨ secondRead = secondNode))
      (firstRoot.read depth path firstTree) (secondRoot.read depth path secondTree) := by
  rw [read_eq, read_eq]
  refine (follow_alike roots trees).bind fun firstFollowed secondFollowed isFollowed => ?_
  obtain ⟨rfl, followed⟩ := isFollowed
  rw [isWord] at followed ⊢
  rcases followed.scalar_cases with rfl | ⟨_, _, _, rfl⟩
  · simp only [readFollowed, isFirst]
    exact .pure ⟨rfl, .inl rfl⟩
  · simp only [readFollowed, isFirst, isSecond]
    exact .pure ⟨rfl, .inr rfl⟩

/-- A value is read alike in both documents if it is wherever it gives the word. -/
theorem read_alike
    {related : Node → Node → Prop}
    (reflexive : ∀ node, related node node)
    {firstTree secondTree : Tree}
    (trees : MayDiffer origin first second firstTree secondTree)
    {depth : Nat}
    {path : Path}
    (given :
      firstRoot.Gives (.scalar origin true first) firstTree →
        Reading.Alike related
          (firstRoot.read depth path firstTree) (secondRoot.read depth path secondTree)) :
    Reading.Alike related
      (firstRoot.read depth path firstTree) (secondRoot.read depth path secondTree) := by
  by_cases gives : firstRoot.Gives (.scalar origin true first) firstTree
  · exact given gives
  · rw [← trees.eq_of_not_gives gives, read_eq_of_not_gives roots depth path gives]
    exact .refl reflexive _

/-- Entries whose keys do not give the word are read alike if the values that do are. -/
theorem readEntries_alike
    {related : Node × Node → Node × Node → Prop}
    (reflexive : ∀ entry, related entry entry)
    (sameKeys : ∀ firstEntry secondEntry, related firstEntry secondEntry →
      firstEntry.1 = secondEntry.1)
    {allowed : Tree × Tree → Prop}
    {depth : Nat}
    (values :
      ∀ key firstValue secondValue,
        allowed (key, firstValue) →
          MayDiffer origin first second firstValue secondValue →
          ∀ keyPath keyNode count left,
            firstRoot.read depth keyPath key count = .ok (keyNode, left) →
            ∀ path,
              Reading.Alike
                (fun firstNode secondNode =>
                  related (keyNode, firstNode) (keyNode, secondNode))
                (firstRoot.read depth path firstValue)
                (secondRoot.read depth path secondValue))
    {firstEntries secondEntries : List (Tree × Tree)}
    (entries : EntriesMayDiffer origin first second firstEntries secondEntries)
    (given : firstRoot.GivenOnlyIn (.scalar origin true first) allowed firstEntries)
    (path : Path)
    {firstDone secondDone : List (Node × Node)}
    (done : List.Forall₂ related firstDone secondDone) :
    Reading.Alike (List.Forall₂ related)
      (readEntries (firstRoot.read depth) path firstDone firstEntries)
      (readEntries (secondRoot.read depth) path secondDone secondEntries) := by
  induction entries generalizing firstDone secondDone with
  | nil =>
      exact .pure done
  | @cons firstEntry secondEntry _ _ entry _ inductionHypothesis =>
      obtain ⟨key, firstValue⟩ := firstEntry
      obtain ⟨secondKey, secondValue⟩ := secondEntry
      obtain ⟨givenHere, givenLater⟩ := List.forall_mem_cons.mp given
      obtain ⟨notInKey, allowedValue⟩ := givenHere
      obtain rfl : key = secondKey := entry.1.eq_of_not_gives notInKey
      have keyReading :
          Reading.Alike
            (fun firstNode secondNode =>
              (∃ count left, firstRoot.read depth path key count = .ok (firstNode, left)) ∧
                firstNode = secondNode)
            (firstRoot.read depth path key) (firstRoot.read depth path key) :=
        (Reading.Alike.refl (fun _ => rfl) _).and_left
          fun count node left isKey => ⟨count, left, isKey⟩
      rw [readEntries, readEntries, ← read_eq_of_not_gives roots depth path notInKey]
      refine keyReading.bind fun keyNode _ isKey => ?_
      obtain ⟨⟨count, left, isKey⟩, rfl⟩ := isKey
      rw [ListFacts.any_eq_of_forall₂
        (fun _ _ isRelated => congrArg (·.same keyNode) (sameKeys _ _ isRelated)) done]
      split
      · exact .fail _
      · have value :
            Reading.Alike
              (fun firstNode secondNode => related (keyNode, firstNode) (keyNode, secondNode))
              (firstRoot.read depth (key.pathStep :: path) firstValue)
              (secondRoot.read depth (key.pathStep :: path) secondValue) :=
          read_alike roots (fun node => reflexive (keyNode, node)) entry.2 fun gives =>
            values key firstValue secondValue (allowedValue gives) entry.2
              path keyNode count left isKey _
        refine value.bind fun firstNode secondNode isRelated => ?_
        exact inductionHypothesis givenLater (List.rel_append done (.cons isRelated .nil))

end Tree

end AlertReceivers.Yaml
