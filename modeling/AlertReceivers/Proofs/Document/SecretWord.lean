import AlertReceivers.Proofs.Document.Reading
import AlertReceivers.Proofs.Document.Secrecy
import AlertReceivers.Proofs.Yaml.Denotation

namespace AlertReceivers

/-!
# Words for secrets

Documents that differ only in a plain word that is given for secrets are read alike: they are
refused with the same error, or their receivers are decoded alike.
-/

open Yaml (Origin Path Plain Reading Tree)
open Yaml.Tree (MayDiffer)

namespace Receiver

/-- The kind that the entries of a receiver in a document name: the last entry that
reads as the one for the kind counts. -/
def writtenKind?
    (root : Tree)
    (entries : List (Tree × Tree)) :
    Option Kind :=
  ((entries.filter fun entry => root.textOf? entry.1 == some kindKey).getLast?).bind
    fun entry => (root.textOf? entry.2).bind Kind.ofName?

/-- The words of documents that name kinds and fields are no numbers or the like. -/
theorem standsForItself_kindKey : Plain.StandsForItself kindKey := by
  decide +kernel

/-- Without quotes, the name of a kind stands for itself. -/
theorem standsForItself_kindName
    {name : String}
    {kind : Kind}
    (named : Kind.ofName? name = some kind) :
    Plain.StandsForItself name := by
  have sameName : kind.name = name := by
    simpa using List.find?_some named
  subst name
  cases kind <;> decide +kernel

/-- Entries of a tree in a document are read to entries of a node. -/
def EntriesRead
    (root : Tree) :
    List (Tree × Tree) → List (Node × Node) → Prop :=
  List.Forall₂ fun entry nodes =>
    (∃ depth path count left,
      root.read depth path entry.1 count = .ok (nodes.1, left)) ∧
      ∃ depth path count left,
        root.read depth path entry.2 count = .ok (nodes.2, left)

/-- The entries of a mapping are read to those of the node. -/
theorem entriesRead_of_readEntries
    {root : Tree}
    {depth : Nat}
    {path : Path}
    {entries : List (Tree × Tree)}
    {done nodes : List (Node × Node)}
    {count left : Nat}
    (given :
      Yaml.readEntries (root.read depth) path done entries count = .ok (nodes, left)) :
    ∃ added, nodes = done ++ added ∧ EntriesRead root entries added := by
  induction entries generalizing done count with
  | nil =>
      cases given
      exact ⟨[], by simp, .nil⟩
  | cons entry rest inductionHypothesis =>
      rw [Yaml.readEntries, Reading.bind_eq_ok_iff] at given
      obtain ⟨keyNode, between, isKey, afterKey⟩ := given
      split at afterKey
      · cases afterKey
      · obtain ⟨node, afterValue, isValue, isRest⟩ :=
          Reading.bind_eq_ok_iff.mp afterKey
        obtain ⟨added, rfl, restRead⟩ := inductionHypothesis isRest
        refine ⟨(keyNode, node) :: added, by simp, .cons ⟨?_, ?_⟩ restRead⟩
        · exact ⟨depth, _, _, _, isKey⟩
        · exact ⟨depth, _, _, _, isValue⟩

/-- The node of a receiver names the kind that is written in the document. -/
theorem namedKind?_of_denoteEntries
    {root : Tree}
    {entries : List (Tree × Tree)}
    {nodes : List (Node × Node)}
    {kind : Kind}
    (denoted : root.DenoteEntries entries nodes)
    (written : writtenKind? root entries = some kind) :
    namedKind? nodes = some kind := by
  obtain ⟨entry, isLast, namesKind⟩ := Option.bind_eq_some_iff.mp written
  obtain ⟨name, isName, named⟩ := Option.bind_eq_some_iff.mp namesKind
  have kindEntries :
      root.DenoteEntries
        (entries.filter fun entry => root.textOf? entry.1 == some kindKey)
        (nodes.filter fun node => isKindKey node.1) := by
    refine List.rel_filter ?_ denoted
    rintro entry node ⟨isKey, _⟩
    simp only [isKindKey, beq_iff_eq]
    exact ⟨isKey.asText?_eq standsForItself_kindKey, isKey.textOf?_eq⟩
  obtain ⟨node, isLastNode, _, isValue⟩ :=
    ListFacts.exists_getLast?_of_forall₂ kindEntries isLast
  have isText := isValue.asText?_eq (standsForItself_kindName named) isName
  simp only [namedKind?, kindNode?, isLastNode, Option.map_some, Option.bind_some,
    readKind, isText, named, Except.toOption]

/-- The kind that entries name is the one that they are written with. -/
theorem namedKind?_of_entriesRead
    {root : Tree}
    {entries : List (Tree × Tree)}
    {nodes : List (Node × Node)}
    {kind : Kind}
    (read : EntriesRead root entries nodes)
    (written : writtenKind? root entries = some kind) :
    namedKind? nodes = some kind := by
  refine namedKind?_of_denoteEntries (read.imp ?_) written
  rintro entry node ⟨⟨_, _, _, _, isKey⟩, _, _, _, _, isValue⟩
  exact ⟨Tree.readsDenoted_read _ isKey, Tree.readsDenoted_read _ isValue⟩

end Receiver

theorem Decimal.integer_ne_nil (value : Int) : Decimal.integer value ≠ [] := by
  unfold Decimal.integer Decimal.digits
  split
  · exact List.cons_ne_nil _ _
  · exact Nat.toDigits_ne_nil

theorem Decimal.Binary64.text_ne_nil (value : Decimal.Binary64) : value.text ≠ [] := by
  have layoutNonempty : ∀ decimal : Decimal.Scaled,
      (if Decimal.isPositional decimal then Decimal.positional decimal
        else Decimal.scientific decimal) ≠ [] := by
    intro decimal
    split
    · unfold Decimal.positional
      dsimp only
      split_ifs <;> simp
    · simp [Decimal.scientific]
  cases value with
  | nan =>
      decide
  | infinite negative =>
      cases negative <;> decide
  | finite negative mantissa exponent =>
      rw [text, Decimal.finiteText]
      split
      · simp
      · exact fun empty => layoutNonempty _ (List.append_eq_nil_iff.mp empty).2

/-- Numbers are written with at least one character. -/
theorem Number.text_ne_empty (number : Number) : number.text ≠ "" := by
  cases number with
  | integer value =>
      simp [text, Decimal.integer_ne_nil]
  | real value =>
      simp [text, Decimal.Binary64.text_ne_nil]

/-- A plain word that stands for a scalar with text, which a node can hold. -/
def IsSecretWord (word : String) : Prop :=
  Plain.read word.toList ≠ .null ∧
    ∀ value, Plain.read word.toList ≠ .wideInteger value

/-- A word for a secret becomes a scalar with text. -/
theorem IsSecretWord.exists_node
    {word : String}
    (isSecretWord : IsSecretWord word) :
    ∃ node text,
      (Plain.read word.toList).toNode word = .ok node ∧
        node.scalarText? = some text ∧ text ≠ "" := by
  obtain ⟨notNull, notWide⟩ := isSecretWord
  cases isPlain : Plain.read word.toList with
  | null =>
      exact (notNull isPlain).elim
  | wideInteger value =>
      exact (notWide value isPlain).elim
  | boolean value =>
      refine ⟨_, _, rfl, rfl, ?_⟩
      cases value <;> decide
  | integer value =>
      exact ⟨_, _, rfl, rfl, Number.text_ne_empty _⟩
  | real value =>
      exact ⟨_, _, rfl, rfl, Number.text_ne_empty _⟩
  | text =>
      refine ⟨_, _, rfl, rfl, ?_⟩
      rintro rfl
      exact notNull rfl

/-- Two nodes are decoded alike as receivers that name their own kind. -/
def NodesMatch (first second : Node) : Prop :=
  Outcome.Matches Receiver.Alike
    (Receiver.decodeTagged first) (Receiver.decodeTagged second)

/-- Each node is decoded like itself. -/
theorem NodesMatch.refl (node : Node) : NodesMatch node node :=
  Receiver.decodeTagged_of_alike .same

/-- With the same tag, mappings that conceal a difference are decoded alike. -/
theorem nodesMatch_withLocalTag
    {first second : List (Node × Node)}
    (conceal : List.Forall₂ (Conceals (namedKind? first)) first second)
    (tag? : Option (List UInt8)) :
    NodesMatch
      (Yaml.withLocalTag tag? (.mapping first))
      (Yaml.withLocalTag tag? (.mapping second)) := by
  unfold Yaml.withLocalTag
  split
  · exact .error
  · exact Receiver.decodeTagged_of_alike (.mapping conceal)

namespace Document

/-- An entry of a receiver gives a word for a secret of the kind, or for a field that the kind
does not declare. -/
def IsForSecret
    (root word : Tree)
    (kind : Kind)
    (entry : Tree × Tree) :
    Prop :=
  root.resolve entry.2 = word ∧
    root.textOf? entry.1 ≠ some kindKey ∧
    ∀ field ∈ kind.schema,
      root.textOf? entry.1 = some field.name → field.sort = .secret

/-- A receiver of a known kind gives a word only for secrets. -/
def IsSecretOf
    (root word receiver : Tree) :
    Prop :=
  ∃ origin entries kind,
    root.resolve receiver = .mapping origin entries ∧
      Receiver.writtenKind? root entries = some kind ∧
      root.GivenOnlyIn word (IsForSecret root word kind) entries

/-- In a document, a word is given only for secrets of receivers of known kinds, be it written
there or through references. -/
def GivenForSecrets (root word : Tree) : Prop :=
  GivenInDocument root word fun entry => IsSecretOf root word entry.2

section

variable {origin : Origin}
variable {first second : String}
variable {firstRoot secondRoot : Tree}
variable (roots : MayDiffer origin first second firstRoot secondRoot)
include roots

/-- Receivers are read alike if the entries that give the word are, and if the nodes of a
kind are related whose entries are. -/
theorem read_receiver_alike_of_entries
    {allowed : Kind → Tree × Tree → Prop}
    {related : Node → Node → Prop}
    (entriesRelated : Kind → Node × Node → Node × Node → Prop)
    (reflexive : ∀ kind entry, entriesRelated kind entry entry)
    (sameKeys : ∀ kind firstEntry secondEntry,
      entriesRelated kind firstEntry secondEntry → firstEntry.1 = secondEntry.1)
    (values :
      ∀ kind depth key firstValue secondValue,
        allowed kind (key, firstValue) →
          MayDiffer origin first second firstValue secondValue →
          ∀ keyPath keyNode count left,
            firstRoot.read depth keyPath key count = .ok (keyNode, left) →
            ∀ path,
              Reading.Alike
                (fun firstNode secondNode =>
                  entriesRelated kind (keyNode, firstNode) (keyNode, secondNode))
                (firstRoot.read depth path firstValue)
                (secondRoot.read depth path secondValue))
    (nodes :
      ∀ kind tag? firstNodes secondNodes,
        namedKind? firstNodes = some kind →
          List.Forall₂ (entriesRelated kind) firstNodes secondNodes →
          related
            (Yaml.withLocalTag tag? (.mapping firstNodes))
            (Yaml.withLocalTag tag? (.mapping secondNodes)))
    {firstTree secondTree : Tree}
    (given :
      ∃ whole entries kind,
        firstRoot.resolve firstTree = .mapping whole entries ∧
          Receiver.writtenKind? firstRoot entries = some kind ∧
          firstRoot.GivenOnlyIn (.scalar origin true first) (allowed kind) entries)
    (trees : MayDiffer origin first second firstTree secondTree)
    (depth : Nat)
    (path : Path) :
    Reading.Alike related
      (firstRoot.read depth path firstTree) (secondRoot.read depth path secondTree) := by
  obtain ⟨whole, entries, kind, isMapping, isKind, givenIn⟩ := given
  rw [Tree.read_eq, Tree.read_eq]
  refine (Tree.follow_alike roots trees).bind fun firstFollowed secondFollowed isFollowed => ?_
  obtain ⟨rfl, followed⟩ := isFollowed
  rw [isMapping] at followed ⊢
  obtain ⟨secondEntries, rfl, entriesDiffer⟩ := followed.exists_entries
  cases depth with
  | zero =>
      exact fun _ => .error
  | succ depth =>
      have entriesAlike :=
        Tree.readEntries_alike roots (reflexive kind) (sameKeys kind) (values kind depth)
          entriesDiffer givenIn path .nil
      have namesKind : ∀ count nodes left,
          Yaml.readEntries (firstRoot.read depth) path [] entries count = .ok (nodes, left) →
          namedKind? nodes = some kind := by
        intro count nodes left isRead
        obtain ⟨added, rfl, read⟩ := Receiver.entriesRead_of_readEntries isRead
        exact Receiver.namedKind?_of_entriesRead read isKind
      refine ((entriesAlike.and_left namesKind).bind
        fun firstNodes secondNodes matching => ?_).placed whole.mark path
      exact .pure (nodes kind _ firstNodes secondNodes matching.1 matching.2)

variable (untagged : origin.tag? = none)
variable (firstIsSecretWord : IsSecretWord first)
variable (secondIsSecretWord : IsSecretWord second)
include untagged firstIsSecretWord secondIsSecretWord

/-- Values of an entry for a secret are read to nodes that the kind of the receiver
conceals. -/
theorem read_secret_alike
    {kind : Kind}
    {key firstValue secondValue : Tree}
    (isForSecret :
      IsForSecret firstRoot (.scalar origin true first) kind (key, firstValue))
    (values : MayDiffer origin first second firstValue secondValue)
    {depth : Nat}
    {keyPath : Path}
    {keyNode : Node}
    {count left : Nat}
    (isKey : firstRoot.read depth keyPath key count = .ok (keyNode, left))
    (path : Path) :
    Reading.Alike
      (fun firstNode secondNode =>
        Conceals (some kind) (keyNode, firstNode) (keyNode, secondNode))
      (firstRoot.read depth path firstValue) (secondRoot.read depth path secondValue) := by
  obtain ⟨isWord, notKindKey, onlySecrets⟩ := isForSecret
  obtain ⟨firstNode, firstText, isFirst, firstScalar, firstNotEmpty⟩ :=
    firstIsSecretWord.exists_node
  obtain ⟨secondNode, secondText, isSecond, secondScalar, secondNotEmpty⟩ :=
    secondIsSecretWord.exists_node
  rw [← Yaml.readScalarNode_of_untagged untagged] at isFirst isSecond
  refine (Tree.read_alike_of_resolve roots isFirst isSecond values isWord depth path).imp ?_
  rintro _ _ ⟨rfl, rfl | rfl⟩
  · exact .same
  have denotesKey := Tree.readsDenoted_read depth isKey
  by_cases declared : ∃ field, kind.Names field keyNode
  · obtain ⟨field, member, hasName⟩ := declared
    have isSecret : field.sort = .secret :=
      onlySecrets field member (denotesKey.textOf?_eq hasName)
    exact .secret rfl ⟨member, hasName⟩ isSecret
      ⟨firstText, secondText, firstScalar, secondScalar,
        iff_of_false firstNotEmpty secondNotEmpty⟩
  · refine .undeclared ?_ ?_
    · refine Bool.eq_false_iff.mpr fun isKindKey => ?_
      exact notKindKey (denotesKey.textOf?_eq (eq_of_beq isKindKey))
    · rintro _ field ⟨⟩ names
      exact declared ⟨field, names⟩

/-- Receivers that give the word for secrets are read to nodes that are decoded alike. -/
theorem read_receiver_alike
    {firstTree secondTree : Tree}
    (isSecretOf : IsSecretOf firstRoot (.scalar origin true first) firstTree)
    (trees : MayDiffer origin first second firstTree secondTree)
    (depth : Nat)
    (path : Path) :
    Reading.Alike NodesMatch
      (firstRoot.read depth path firstTree) (secondRoot.read depth path secondTree) := by
  refine read_receiver_alike_of_entries roots (fun kind => Conceals (some kind))
    (fun _ _ => .same) (fun _ _ _ conceals => conceals.key_eq) ?_ ?_ isSecretOf trees depth path
  · intro kind depth _ _ _ isForSecret values _ _ _ _ isKey path
    exact read_secret_alike roots untagged firstIsSecretWord secondIsSecretWord isForSecret
      values isKey path
  · intro kind tag? firstNodes secondNodes named conceal
    rw [← named] at conceal
    exact nodesMatch_withLocalTag conceal tag?

/-- Documents that give the word only for secrets are read alike. -/
theorem readRoot_alike_of_givenForSecrets
    (given : GivenForSecrets firstRoot (.scalar origin true first)) :
    Reading.Alike
      (fun firstDocument secondDocument =>
        DictsMatch NodesMatch firstDocument.receivers secondDocument.receivers)
      (readRoot firstRoot) (readRoot secondRoot) :=
  readRoot_alike roots NodesMatch.refl given fun _ _ _ isSecretOf values depth path =>
    read_receiver_alike roots untagged firstIsSecretWord secondIsSecretWord isSecretOf values
      depth path

end

/-- Documents that give the same names to nodes that are decoded alike are answered
alike. -/
theorem answeredAlike_of_dictsMatch
    {first second : Document}
    (isMatch : DictsMatch NodesMatch first.receivers second.receivers) :
    first.AnsweredAlike second := by
  refine answeredAlike_of_verdicts ?_
  rw [entries_verdicts, entries_verdicts]
  refine List.forall₂_map_left_iff.mpr (List.forall₂_map_right_iff.mpr ?_)
  exact isMatch

end Document

end AlertReceivers
