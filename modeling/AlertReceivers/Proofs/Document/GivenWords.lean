import AlertReceivers.Proofs.Document.Decoding
import AlertReceivers.Proofs.Document.SecretWord
import AlertReceivers.Proofs.Document.WrittenReceivers
import AlertReceivers.Proofs.Receiver.GivenTexts

namespace AlertReceivers

/-!
# Words for texts

A document that is accepted with one plain word for texts and secrets is accepted with
every other word that stands for a scalar with text.  Then its receivers hold this text.
-/

open ListFacts (exists_of_mem_of_forall₂)
open Yaml (Origin Path Plain Reading Tree)
open Yaml.Tree (MayDiffer)

/-- Without quotes, the name of a field stands for itself. -/
theorem Kind.standsForItself_fieldName
    {kind : Kind}
    {field : Field}
    (member : field ∈ kind.schema) :
    Plain.StandsForItself field.name := by
  have everyName : ∀ field ∈ kind.schema, Plain.StandsForItself field.name := by
    cases kind <;> decide +kernel
  exact everyName field member

namespace Document

/-- An entry of a receiver gives a word for a text or a secret of the kind. -/
def IsForText
    (root word : Tree)
    (kind : Kind)
    (entry : Tree × Tree) :
    Prop :=
  root.resolve entry.2 = word ∧
    ∃ field ∈ kind.schema,
      root.textOf? entry.1 = some field.name ∧ field.sort.IsTextual

/-- A receiver of a known kind gives a word only for texts and secrets. -/
def IsTextOf
    (root word receiver : Tree) :
    Prop :=
  ∃ origin entries kind,
    root.resolve receiver = .mapping origin entries ∧
      Receiver.writtenKind? root entries = some kind ∧
      root.GivenOnlyIn word (IsForText root word kind) entries

/-- In a document, a word is given only for texts and secrets of receivers of known kinds,
be it written there or through references. -/
def GivenForTexts (root word : Tree) : Prop :=
  GivenInDocument root word fun entry => IsTextOf root word entry.2

/-- A node is a receiver if another one is. -/
def DecodesWith (node other : Node) : Prop :=
  (∃ receiver, Receiver.decodeTagged other = .ok receiver) →
    ∃ receiver, Receiver.decodeTagged node = .ok receiver

/-- With the same tag, a mapping that supplies texts is a receiver if the other one is. -/
theorem decodesWith_withLocalTag
    {kind : Kind}
    {nodes others : List (Node × Node)}
    (named : namedKind? nodes = some kind)
    (stand : List.Forall₂ kind.Stands nodes others)
    (tag? : Option (List UInt8)) :
    DecodesWith
      (Yaml.withLocalTag tag? (.mapping nodes))
      (Yaml.withLocalTag tag? (.mapping others)) := by
  unfold Yaml.withLocalTag
  split
  · rintro ⟨_, ⟨⟩⟩
  · exact Receiver.decodeTagged_of_stands stand named

section

variable {origin : Origin}
variable {word other : String}
variable {root otherRoot : Tree}
variable (roots : MayDiffer origin word other root otherRoot)
variable {node otherNode : Node}
variable {shown : String}
variable (isNode : Yaml.readScalarNode origin.tag? true word = .ok node)
variable (isOtherNode : Yaml.readScalarNode origin.tag? true other = .ok otherNode)
variable (isText : node.scalarText? = some shown)
variable (notEmpty : shown ≠ "")
include roots isNode isOtherNode isText notEmpty

/-- Values of an entry for a text are read to nodes of which the first supplies it. -/
theorem read_text_alike
    {kind : Kind}
    {depth : Nat}
    {key value otherValue : Tree}
    (isForText : IsForText root (.scalar origin true word) kind (key, value))
    (values : MayDiffer origin word other value otherValue)
    {keyPath : Path}
    {keyNode : Node}
    {count left : Nat}
    (isKey : root.read depth keyPath key count = .ok (keyNode, left))
    (path : Path) :
    Reading.Alike
      (fun read otherRead => kind.Stands (keyNode, read) (keyNode, otherRead))
      (root.read depth path value) (otherRoot.read depth path otherValue) := by
  obtain ⟨isWord, field, member, isName, textual⟩ := isForText
  refine (Tree.read_alike_of_resolve roots isNode isOtherNode values isWord depth path).imp ?_
  rintro _ _ ⟨rfl, rfl | rfl⟩
  · exact .same
  · have named :=
      (Tree.readsDenoted_read depth isKey).asText?_eq (Kind.standsForItself_fieldName member)
        isName
    exact .supplied ⟨⟨field, ⟨member, named⟩, textual⟩, shown, isText, notEmpty⟩

/-- Receivers that give the word for texts still are receivers. -/
theorem read_textReceiver_alike
    {tree otherTree : Tree}
    (isTextOf : IsTextOf root (.scalar origin true word) tree)
    (trees : MayDiffer origin word other tree otherTree)
    (depth : Nat)
    (path : Path) :
    Reading.Alike DecodesWith
      (root.read depth path tree) (otherRoot.read depth path otherTree) := by
  refine read_receiver_alike_of_entries roots Kind.Stands
    (fun _ _ => .same) (fun _ _ _ stands => by cases stands <;> rfl) ?_ ?_ isTextOf trees
    depth path
  · intro kind depth key value otherValue isForText values _ _ _ _ isKey path
    exact read_text_alike roots isNode isOtherNode isText notEmpty isForText values isKey path
  · intro kind tag? nodes others named stand
    exact decodesWith_withLocalTag named stand tag?

/-- Documents that give the word for texts are read alike. -/
theorem readRoot_alike_of_givenForTexts
    (given : GivenForTexts root (.scalar origin true word)) :
    Reading.Alike
      (fun document otherDocument =>
        DictsMatch DecodesWith document.receivers otherDocument.receivers)
      (readRoot root) (readRoot otherRoot) :=
  readRoot_alike roots (fun _ => id) given fun _ _ _ isTextOf values depth path =>
    read_textReceiver_alike roots isNode isOtherNode isText notEmpty isTextOf values depth path

end

/-- A document decodes if one does whose nodes are receivers only if its own are. -/
theorem exists_receivers_of_dictsMatch
    {document other : Document}
    (isMatch : DictsMatch DecodesWith document.receivers other.receivers)
    (decoded : ∃ receivers, other.decode = .ok receivers) :
    ∃ receivers, document.decode = .ok receivers := by
  obtain ⟨others, areOthers⟩ := decoded
  refine ⟨_, decode_eq_ok_iff.mpr (decodesTo_of_each fun name node found => ?_)⟩
  obtain ⟨entry, member, sameName, decodes⟩ :=
    exists_of_mem_of_forall₂ isMatch (Dict.get?_eq_some_iff.mp found)
  obtain ⟨receiver, isReceiver, _⟩ :=
    (decode_eq_ok_iff.mp areOthers).each entry.1 entry.2 (Dict.get?_eq_some_iff.mpr member)
  exact decodes ⟨receiver, isReceiver⟩

/-- A text gives a plain word without a tag for texts and secrets only, and with another
plain word in its place it is accepted. -/
structure TakesWord
    (text word : String)
    (root : Tree)
    (origin : Origin) :
    Prop where
  parsed :
    Yaml.parse? text = some (some root)
  untagged :
    origin.tag? = none
  given :
    GivenForTexts root (.scalar origin true word)
  accepted :
    ∃ other otherText otherRoot otherNode document receivers,
      Yaml.parse? otherText = some (some otherRoot) ∧
        Tree.Replaced origin word other root otherRoot ∧
        (Plain.read other.toList).toNode other = .ok otherNode ∧
        read otherText = .ok document ∧
        document.decode = .ok receivers

/-- A written receiver of a kind gives a word for a field, which holds a text or a
secret. -/
structure WrittenReceiver.GivesWord
    (receiver : WrittenReceiver)
    (word : Tree)
    (kind : Kind)
    (field : Field) :
    Prop where
  declared :
    field ∈ kind.schema
  textual :
    field.sort.IsTextual
  written :
    ∃ origin entries entry,
      receiver.root.resolve receiver.value = .mapping origin entries ∧
        Receiver.writtenKind? receiver.root entries = some kind ∧
        entry ∈ entries ∧
        receiver.root.textOf? entry.1 = some field.name ∧
        receiver.root.resolve entry.2 = word

/-- A text is accepted, and the receiver with a name is of a kind and holds a text in a
field. -/
def HoldsText
    (text name : String)
    (kind : Kind)
    (field : Field)
    (shown : String) :
    Prop :=
  ∃ document receivers receiver,
    read text = .ok document ∧
      document.decode = .ok receivers ∧
      receivers.get? name = some receiver ∧
      receiver.kind = kind ∧
      (receiver.setting? field.name).bind Setting.exposed? = some shown

/-- A text is accepted if its word stands for a scalar with text. -/
theorem TakesWord.exists_receivers
    {text word shown : String}
    {root : Tree}
    {origin : Origin}
    {node : Node}
    (takes : TakesWord text word root origin)
    (isNode : (Plain.read word.toList).toNode word = .ok node)
    (isText : node.scalarText? = some shown)
    (notEmpty : shown ≠ "") :
    ∃ document receivers, read text = .ok document ∧ document.decode = .ok receivers := by
  obtain ⟨parsed, untagged, given, other, otherText, otherRoot, otherNode, otherDocument,
    otherReceivers, otherParsed, replaced, isOtherNode, otherRead, otherDecoded⟩ := takes
  rw [← Yaml.readScalarNode_of_untagged untagged] at isNode isOtherNode
  have alike := readRoot_alike_of_givenForTexts (.inr replaced) isNode isOtherNode isText
    notEmpty given 0
  unfold read at otherRead ⊢
  rw [otherParsed] at otherRead
  rw [parsed]
  dsimp only at otherRead ⊢
  generalize readRoot root 0 = result at alike ⊢
  generalize readRoot otherRoot 0 = otherResult at alike otherRead
  cases alike with
  | error =>
      cases otherRead
  | ok isMatch =>
      cases otherRead
      obtain ⟨receivers, decoded⟩ :=
        exists_receivers_of_dictsMatch isMatch.1 ⟨_, otherDecoded⟩
      exact ⟨_, receivers, rfl, decoded⟩

namespace WrittenReceiver

variable {receiver : WrittenReceiver}
variable {origin : Origin}
variable {word shown : String}
variable {kind : Kind}
variable {field : Field}

/-- What a receiver is written as names its kind, and has the word that is given for a
field under the name of this field. -/
theorem GivesWord.exists_entry
    {node : Node}
    {tree : Tree}
    (gives : receiver.GivesWord tree kind field)
    (denotes : receiver.Denotes node) :
    ∃ tag? nodes entry value,
      node = Yaml.withLocalTag tag? (.mapping nodes) ∧
        namedKind? nodes = some kind ∧
        entry ∈ nodes ∧
        kind.Names field entry.1 ∧
        receiver.root.resolve value = tree ∧
        receiver.root.Denotes value entry.2 := by
  obtain ⟨origin, entries, entry, isMapping, isKind, member, isName, isWord⟩ := gives.written
  obtain ⟨nodes, rfl, denoted⟩ := denotes.exists_entries isMapping
  obtain ⟨other, otherMember, isKey, isValue⟩ := exists_of_mem_of_forall₂ denoted member
  have named := isKey.asText?_eq (Kind.standsForItself_fieldName gives.declared) isName
  exact ⟨_, nodes, other, entry.2, rfl, Receiver.namedKind?_of_denoteEntries denoted isKind,
    otherMember, ⟨gives.declared, named⟩, isWord, isValue⟩

/-- A receiver holds the text of the word that it is written with. -/
theorem GivesWord.exposed?_eq
    {node wordNode : Node}
    {decoded : Receiver}
    (gives : receiver.GivesWord (.scalar origin true word) kind field)
    (denotes : receiver.Denotes node)
    (isReceiver : Receiver.decodeTagged node = .ok decoded)
    (isNode : Yaml.readScalarNode origin.tag? true word = .ok wordNode)
    (isText : wordNode.scalarText? = some shown) :
    decoded.kind = kind ∧
      (decoded.setting? field.name).bind Setting.exposed? = some shown := by
  obtain ⟨tag?, nodes, entry, value, rfl, named, member, names, isWord, isValue⟩ :=
    gives.exists_entry denotes
  have sameNode : entry.2 = wordNode := isValue.unique (.scalar isWord isNode)
  rw [← sameNode] at isText
  unfold Yaml.withLocalTag at isReceiver
  split at isReceiver
  · cases isReceiver
  · exact Receiver.exposed?_of_decodeTagged named isReceiver member names gives.textual isText

theorem IsLast.mem
    {name : String}
    {receivers : List WrittenReceiver}
    (isLast : receiver.IsLast name receivers) :
    receiver ∈ receivers := by
  induction isLast with
  | here _ _ =>
      exact List.mem_cons_self
  | later _ inductionHypothesis =>
      exact List.mem_cons_of_mem _ inductionHypothesis

end WrittenReceiver

section Answers

variable {text name word shown : String}
variable {root : Tree}
variable {origin : Origin}
variable {receiver : WrittenReceiver}
variable {kind : Kind}
variable {field : Field}
variable (takes : TakesWord text word root origin)
variable (isLast : receiver.IsLast name (written text))
variable (gives : receiver.GivesWord (.scalar origin true word) kind field)
include takes isLast gives

/-- A word that stands for a scalar with text leaves this text in the receiver. -/
theorem holdsText_of_toNode
    {node : Node}
    (isNode : (Plain.read word.toList).toNode word = .ok node)
    (isText : node.scalarText? = some shown)
    (notEmpty : shown ≠ "") :
    HoldsText text name kind field shown := by
  obtain ⟨document, receivers, accepted, decoded⟩ :=
    takes.exists_receivers isNode isText notEmpty
  obtain ⟨pairs, givesPairs, isDict⟩ := gives_of_read accepted
  obtain ⟨_, written, _, denotes⟩ := WrittenReceiver.exists_gives givesPairs isLast.mem
  have found : document.receivers.get? name = some written := by
    rw [isDict]
    exact (WrittenReceiver.get?_ofList_iff givesPairs).mpr ⟨receiver, isLast, denotes⟩
  obtain ⟨kept, isKept, inReceivers⟩ := (decode_eq_ok_iff.mp decoded).each name written found
  rw [← Yaml.readScalarNode_of_untagged takes.untagged] at isNode
  exact ⟨document, receivers, kept, accepted, decoded, inReceivers,
    gives.exposed?_eq denotes isKept isNode isText⟩

/-- With a word that stands for no node, a text is refused while it is read. -/
theorem exists_invalid_of_toNode
    {cause : Mismatch}
    (noNode : (Plain.read word.toList).toNode word = .error cause) :
    ∃ error, read text = .error (.invalid error) := by
  cases outcome : read text with
  | error error =>
      cases error with
      | invalid error =>
          exact ⟨error, rfl⟩
      | notYaml =>
          rw [read, takes.parsed] at outcome
          dsimp only at outcome
          split at outcome <;> cases outcome
  | ok document =>
      obtain ⟨pairs, givesPairs, _⟩ := gives_of_read outcome
      obtain ⟨_, _, _, denotes⟩ := WrittenReceiver.exists_gives givesPairs isLast.mem
      obtain ⟨_, _, entry, _, _, _, _, _, isWord, isValue⟩ := gives.exists_entry denotes
      generalize entry.2 = node at isValue
      cases isValue with
      | scalar stands isNode =>
          cases stands.symm.trans isWord
          rw [Yaml.readScalarNode_of_untagged takes.untagged] at isNode
          cases noNode.symm.trans isNode
      | sequence stands _ _ | mapping stands _ _ _ _ =>
          cases stands.symm.trans isWord

end Answers

end Document

end AlertReceivers
