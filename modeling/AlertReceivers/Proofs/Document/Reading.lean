import AlertReceivers.Document.Reading
import AlertReceivers.Proofs.Yaml.ReplacedReading

namespace AlertReceivers.Document

/-!
# Reading two documents

Two documents that differ in the text of one plain scalar are read alike, if the nodes that
give this scalar are.
-/

open Yaml (Path Reading Tree)
open Yaml.Tree (EntriesMayDiffer MayDiffer)

/-- Two dictionaries give the same names to related nodes. -/
def DictsMatch
    (related : Node → Node → Prop)
    (first second : Dict Node) :
    Prop :=
  List.Forall₂
    (fun firstEntry secondEntry =>
      firstEntry.1 = secondEntry.1 ∧ related firstEntry.2 secondEntry.2)
    first.entries second.entries

section

variable {related : Node → Node → Prop}

/-- A dictionary matches itself if each node is related to itself. -/
theorem DictsMatch.refl
    (reflexive : ∀ node, related node node)
    (dict : Dict Node) :
    DictsMatch related dict dict :=
  List.forall₂_same.mpr fun entry _ => ⟨rfl, reflexive entry.2⟩

/-- Dictionaries that match still do with related nodes for one more name. -/
theorem DictsMatch.insert
    {first second : Dict Node}
    {firstNode secondNode : Node}
    (isMatch : DictsMatch related first second)
    (name : String)
    (isRelated : related firstNode secondNode) :
    DictsMatch related (first.insert name firstNode) (second.insert name secondNode) := by
  unfold DictsMatch Dict.insert at *
  simp only
  generalize first.entries = firstEntries at isMatch ⊢
  generalize second.entries = secondEntries at isMatch ⊢
  induction isMatch with
  | nil =>
      exact .cons ⟨rfl, isRelated⟩ .nil
  | @cons firstHead secondHead _ _ head rest inductionHypothesis =>
      unfold Dict.insertEntry
      rw [← head.1]
      split
      · exact .cons ⟨rfl, isRelated⟩ (.cons ⟨rfl, head.2⟩ rest)
      · split
        · exact .cons ⟨rfl, head.2⟩ inductionHypothesis
        · exact .cons ⟨rfl, isRelated⟩ rest

end

/-- In the receivers of a document, a tree is given only by the values of some names. -/
def GivenInReceivers
    (root given : Tree)
    (allowed : Tree × Tree → Prop)
    (receivers : Tree) :
    Prop :=
  ∃ origin entries,
    root.resolve receivers = .mapping origin entries ∧
      root.GivenOnlyIn given allowed entries

/-- In a document, a tree is given only by the values of some names. -/
def GivenInDocument
    (root given : Tree)
    (allowed : Tree × Tree → Prop) :
    Prop :=
  ∃ origin fields,
    root = .mapping origin fields ∧
      root.GivenOnlyIn given (fun field => GivenInReceivers root given allowed field.2) fields

variable {origin : Yaml.Origin}
variable {first second : String}
variable {firstRoot secondRoot : Tree}
variable (roots : MayDiffer origin first second firstRoot secondRoot)
include roots

/-- A key that does not give the word is read alike in both documents. -/
theorem readKey_eq_of_not_gives
    {tree : Tree}
    (notGiven : ¬ firstRoot.Gives (.scalar origin true first) tree)
    (path : Path)
    (wanted : Wanted) :
    readKey firstRoot path wanted tree = readKey secondRoot path wanted tree := by
  rw [readKey, readKey, Tree.follow_eq_of_not_gives roots notGiven]

/-- A field that does not give the word is named alike in both documents. -/
theorem readFieldName_eq_of_not_gives
    {tree : Tree}
    (notGiven : ¬ firstRoot.Gives (.scalar origin true first) tree) :
    readFieldName firstRoot tree = readFieldName secondRoot tree := by
  rw [readFieldName, readFieldName, ← Tree.follow_eq_of_not_gives roots notGiven]
  refine Reading.bind_congr fun count followed left given => ?_
  obtain rfl := firstRoot.follow_eq tree given
  rw [readKey_eq_of_not_gives roots fun gives =>
    notGiven (gives.trans (firstRoot.gives_resolve tree))]

variable {related : Node → Node → Prop}
variable (reflexive : ∀ node, related node node)
include reflexive

variable {allowed : Tree × Tree → Prop}
variable {depth : Nat}
variable
  (values :
    ∀ key firstValue secondValue,
      allowed (key, firstValue) →
        MayDiffer origin first second firstValue secondValue →
        ∀ path,
          Reading.Alike related
            (firstRoot.read depth path firstValue) (secondRoot.read depth path secondValue))
include values

/-- Named nodes are read alike onto dictionaries that match. -/
theorem readNamed_alike
    {firstEntries secondEntries : List (Tree × Tree)}
    (entries : EntriesMayDiffer origin first second firstEntries secondEntries)
    (given : firstRoot.GivenOnlyIn (.scalar origin true first) allowed firstEntries)
    (path : Path)
    {firstDone secondDone : Dict Node}
    (isMatch : DictsMatch related firstDone secondDone) :
    Reading.Alike (DictsMatch related)
      (readNamed firstRoot depth path firstDone firstEntries)
      (readNamed secondRoot depth path secondDone secondEntries) := by
  induction entries generalizing firstDone secondDone with
  | nil =>
      exact .pure isMatch
  | @cons firstEntry secondEntry _ _ entry _ inductionHypothesis =>
      obtain ⟨key, firstValue⟩ := firstEntry
      obtain ⟨secondKey, secondValue⟩ := secondEntry
      obtain ⟨givenHere, givenLater⟩ := List.forall_mem_cons.mp given
      obtain ⟨notInKey, allowedValue⟩ := givenHere
      obtain rfl : key = secondKey := entry.1.eq_of_not_gives notInKey
      rw [readNamed, readNamed, ← readKey_eq_of_not_gives roots notInKey]
      refine (Reading.Alike.refl (fun _ => rfl) _).bind fun name _ sameName => ?_
      subst sameName
      have value := Tree.read_alike roots reflexive entry.2 fun gives =>
        values key firstValue secondValue (allowedValue gives) entry.2 (key.pathStep :: path)
      refine value.bind fun firstNode secondNode isRelated => ?_
      exact inductionHypothesis givenLater (isMatch.insert name isRelated)

/-- Receivers are read alike from trees that may differ. -/
theorem readReceivers_alike
    {firstTree secondTree : Tree}
    (trees : MayDiffer origin first second firstTree secondTree)
    (given :
      firstRoot.Gives (.scalar origin true first) firstTree →
        GivenInReceivers firstRoot (.scalar origin true first) allowed firstTree)
    (path : Path) :
    Reading.Alike (DictsMatch related)
      (readReceivers firstRoot depth path firstTree)
      (readReceivers secondRoot depth path secondTree) := by
  unfold readReceivers
  refine (Tree.follow_alike roots trees).bind fun firstFollowed secondFollowed isFollowed => ?_
  obtain ⟨rfl, followed⟩ := isFollowed
  have givenFollowed :
      firstRoot.Gives (.scalar origin true first) (firstRoot.resolve firstTree) →
        GivenInReceivers firstRoot (.scalar origin true first) allowed firstTree :=
    fun inside => given (inside.trans (firstRoot.gives_resolve firstTree))
  unfold GivenInReceivers at givenFollowed
  generalize firstRoot.resolve firstTree = firstFollowed at followed givenFollowed ⊢
  cases firstFollowed with
  | mapping whole entries =>
      have givenIn : firstRoot.GivenOnlyIn (.scalar origin true first) allowed entries := by
        by_cases gives : firstRoot.Gives (.scalar origin true first) (.mapping whole entries)
        · obtain ⟨_, _, sameMapping, givenIn⟩ := givenFollowed gives
          cases sameMapping
          exact givenIn
        · exact Tree.givenOnlyIn_of_not_gives gives
      obtain ⟨secondEntries, rfl, entriesDiffer⟩ := followed.exists_entries
      exact (readNamed_alike roots reflexive values entriesDiffer givenIn path
        (.refl reflexive .empty)).placed whole.mark path
  | scalar | sequence | reference =>
      obtain rfl := followed.eq_of_not_gives fun gives => by
        obtain ⟨_, _, isMapping, _⟩ := givenFollowed gives
        cases isMapping
      refine Reading.Alike.placed ?_ _ path
      -- Only the reader of a mapping depends on the document.
      split
      · contradiction
      · exact .refl (DictsMatch.refl reflexive) _
      · exact .refl (DictsMatch.refl reflexive) _

/-- Fields are read alike after fields whose receivers match. -/
theorem readFields_alike
    {firstFields secondFields : List (Tree × Tree)}
    (fields : EntriesMayDiffer origin first second firstFields secondFields)
    (given :
      firstRoot.GivenOnlyIn (.scalar origin true first)
        (fun field =>
          GivenInReceivers firstRoot (.scalar origin true first) allowed field.2)
        firstFields)
    {firstGiven secondGiven : Option (Dict Node)}
    (isMatch : Option.Rel (DictsMatch related) firstGiven secondGiven) :
    Reading.Alike (Option.Rel (DictsMatch related))
      (readFields firstRoot depth firstGiven firstFields)
      (readFields secondRoot depth secondGiven secondFields) := by
  induction fields generalizing firstGiven secondGiven with
  | nil =>
      exact .pure isMatch
  | @cons firstField secondField _ _ field _ inductionHypothesis =>
      obtain ⟨key, firstValue⟩ := firstField
      obtain ⟨secondKey, secondValue⟩ := secondField
      obtain ⟨givenHere, givenLater⟩ := List.forall_mem_cons.mp given
      obtain ⟨notInKey, givenValue⟩ := givenHere
      obtain rfl : key = secondKey := field.1.eq_of_not_gives notInKey
      rw [readFields, readFields, ← readFieldName_eq_of_not_gives roots notInKey]
      refine (Reading.Alike.refl (fun _ => rfl) _).bind fun name _ sameName => ?_
      subst sameName
      cases isMatch with
      | some _ =>
          exact .fail _
      | none =>
          have value := readReceivers_alike roots reflexive values field.2 givenValue
            [key.pathStep]
          exact value.bind fun _ _ receivers =>
            inductionHypothesis givenLater (.some receivers)

omit values in
/-- Documents are read alike if the nodes that give the word are. -/
theorem readRoot_alike
    (given : GivenInDocument firstRoot (.scalar origin true first) allowed)
    (values :
      ∀ key firstValue secondValue,
        allowed (key, firstValue) →
          MayDiffer origin first second firstValue secondValue →
          ∀ depth path,
            Reading.Alike related
              (firstRoot.read depth path firstValue)
              (secondRoot.read depth path secondValue)) :
    Reading.Alike
      (fun firstDocument secondDocument =>
        DictsMatch related firstDocument.receivers secondDocument.receivers)
      (readRoot firstRoot) (readRoot secondRoot) := by
  obtain ⟨whole, fields, isMapping, givenIn⟩ := given
  have rootsDiffer := roots
  rw [isMapping] at rootsDiffer
  obtain ⟨secondFields, isSecond, fieldsDiffer⟩ := rootsDiffer.exists_entries
  have alike := readFields_alike roots reflexive
    (fun key firstValue secondValue isAllowed differ =>
      values key firstValue secondValue isAllowed differ (Yaml.depthLimit - 2))
    fieldsDiffer givenIn .none
  rw [isMapping, isSecond] at alike ⊢
  refine (alike.placed whole.mark []).bind fun firstGiven secondGiven isMatch => ?_
  cases isMatch with
  | none =>
      exact .pure (.refl reflexive .empty)
  | some receivers =>
      exact .pure receivers

end AlertReceivers.Document
