import AlertReceivers.Document.Reading
import AlertReceivers.Proofs.Dict
import AlertReceivers.Proofs.Yaml.Denotation

namespace AlertReceivers.Document

/-!
# Receivers as they are written

The text of a document writes its receivers as the entries of one mapping.  Each of
them has a name and denotes a node, but a name is kept only once: of receivers with one
name, the last counts.
-/

open Yaml (Path Reading Tree)

/-- A receiver in the text of a document. -/
structure WrittenReceiver where
  root : Tree
  key : Tree
  value : Tree

namespace WrittenReceiver

/-- The name of a receiver. -/
def name? (receiver : WrittenReceiver) : Option String :=
  receiver.root.textOf? receiver.key

/-- A receiver is written as a node. -/
def Denotes (receiver : WrittenReceiver) (node : Node) : Prop :=
  receiver.root.Denotes receiver.value node

/-- A receiver is written as a node with a name. -/
def Gives (receiver : WrittenReceiver) (pair : String × Node) : Prop :=
  receiver.name? = some pair.1 ∧ receiver.Denotes pair.2

/-- Of the receivers with a name, one is the last. -/
inductive IsLast
    (receiver : WrittenReceiver)
    (name : String) :
    List WrittenReceiver → Prop where
  | here {later : List WrittenReceiver} :
      receiver.name? = some name →
      (∀ other ∈ later, other.name? ≠ some name) →
      IsLast receiver name (receiver :: later)
  | later {other : WrittenReceiver} {rest : List WrittenReceiver} :
      IsLast receiver name rest →
      IsLast receiver name (other :: rest)

/-- No two receivers have the same name. -/
def NamesDiffer (receivers : List WrittenReceiver) : Prop :=
  (receivers.map name?).Nodup

end WrittenReceiver

/-- The fields of a document. -/
def writtenFields : Tree → List (Tree × Tree)
  | .mapping _ fields =>
      fields
  | _ =>
      []

/-- The entries of the mapping that a tree of a document stands for. -/
def writtenEntries (root tree : Tree) : List (Tree × Tree) :=
  writtenFields (root.resolve tree)

/-- The receivers in a document, in their order. -/
def receiversIn (root : Tree) : List WrittenReceiver :=
  ((writtenFields root).filter fun field => root.textOf? field.1 == some receiversField).flatMap
    fun field => (writtenEntries root field.2).map fun entry => ⟨root, entry.1, entry.2⟩

/-- The receivers that a text writes, in their order. -/
def written (text : String) : List WrittenReceiver :=
  match Yaml.parse? text with
  | some (some root) =>
      receiversIn root
  | _ =>
      []

/-- A document holds the last of the receivers with each name. -/
structure Keeps
    (document : Document)
    (receivers : List WrittenReceiver) :
    Prop where
  each :
    ∀ receiver ∈ receivers, ∃ name node, receiver.name? = some name ∧ receiver.Denotes node
  last :
    ∀ name node,
      document.receivers.get? name = some node ↔
        ∃ receiver : WrittenReceiver, receiver.IsLast name receivers ∧ receiver.Denotes node

section Reading

variable {root tree : Tree}
variable {depth count left : Nat}
variable {path : Path}

/-- What is not wanted has no value. -/
theorem failUnwanted_ne_ok
    {wanted : Wanted}
    {result : α × Nat} :
    failUnwanted tree wanted count ≠ .ok result := by
  unfold failUnwanted
  cases foundOf tree <;> exact nofun

/-- A key is read as the text of the scalar that it stands for. -/
theorem textOf?_of_readKey
    {wanted : Wanted}
    {name : String}
    (given : readKey root path wanted tree count = .ok (name, left)) :
    root.textOf? tree = some name := by
  obtain ⟨key, _, isKey, given⟩ := Reading.bind_eq_ok_iff.mp given
  rw [root.follow_eq tree isKey] at given
  unfold Tree.textOf?
  generalize root.resolve tree = followed at given
  cases followed with
  | scalar =>
      cases given
      rfl
  | sequence | mapping | reference =>
      exact (failUnwanted_ne_ok (Yaml.Reading.placed_eq_ok_iff.mp given)).elim

/-- The only field is that of the receivers. -/
theorem textOf?_of_readFieldName
    {name : String}
    (given : readFieldName root tree count = .ok (name, left)) :
    root.textOf? tree = some receiversField := by
  obtain ⟨key, _, isKey, given⟩ := Reading.bind_eq_ok_iff.mp given
  obtain ⟨other, _, isName, given⟩ := Reading.bind_eq_ok_iff.mp given
  rw [root.follow_eq tree isKey] at isName
  have isText := textOf?_of_readKey isName
  split at given
  · rename_i isField
    rw [isField] at isText
    unfold Tree.textOf? at isText ⊢
    rwa [root.resolve_resolve] at isText
  · cases Yaml.Reading.placed_eq_ok_iff.mp given

/-- Each entry is read as a name with the node that its value denotes, and the last node
of a name counts. -/
theorem gives_of_readNamed
    {entries : List (Tree × Tree)}
    {done dict : Dict Node}
    (given : readNamed root depth path done entries count = .ok (dict, left)) :
    ∃ pairs,
      List.Forall₂ (fun entry pair => WrittenReceiver.Gives ⟨root, entry.1, entry.2⟩ pair)
          entries pairs ∧
        dict = pairs.foldl (fun dict pair => dict.insert pair.1 pair.2) done := by
  induction entries generalizing done count with
  | nil =>
      cases given
      exact ⟨[], .nil, rfl⟩
  | cons entry rest inductionHypothesis =>
      obtain ⟨name, _, isName, given⟩ := Reading.bind_eq_ok_iff.mp given
      obtain ⟨node, _, isNode, given⟩ := Reading.bind_eq_ok_iff.mp given
      obtain ⟨pairs, gives, isDict⟩ := inductionHypothesis given
      exact ⟨(name, node) :: pairs,
        .cons ⟨textOf?_of_readKey isName, Tree.readsDenoted_read depth isNode⟩ gives, isDict⟩

/-- Receivers are read as the dictionary of what the entries of their mapping give. -/
theorem gives_of_readReceivers
    {dict : Dict Node}
    (given : readReceivers root depth path tree count = .ok (dict, left)) :
    ∃ pairs,
      List.Forall₂ (fun entry pair => WrittenReceiver.Gives ⟨root, entry.1, entry.2⟩ pair)
          (writtenEntries root tree) pairs ∧
        dict = .ofList pairs := by
  obtain ⟨followed, _, isFollowed, given⟩ := Reading.bind_eq_ok_iff.mp given
  rw [Yaml.Reading.placed_eq_ok_iff] at given
  rw [writtenEntries, ← root.follow_eq tree isFollowed]
  split at given
  · exact gives_of_readNamed given
  · cases given
    exact ⟨[], .nil, rfl⟩
  · exact (failUnwanted_ne_ok given).elim

/-- There is one field at most, and it gives the receivers. -/
theorem exists_of_readFields
    {fields : List (Tree × Tree)}
    {given? : Option (Dict Node)}
    (given : readFields root depth none fields count = .ok (given?, left)) :
    (fields = [] ∧ given? = none) ∨
      ∃ key value dict before after,
        fields = [(key, value)] ∧
          root.textOf? key = some receiversField ∧
          readReceivers root depth [key.pathStep] value before = .ok (dict, after) ∧
          given? = some dict := by
  cases fields with
  | nil =>
      cases given
      exact .inl ⟨rfl, rfl⟩
  | cons field rest =>
      obtain ⟨key, value⟩ := field
      obtain ⟨_, _, isName, given⟩ := Reading.bind_eq_ok_iff.mp given
      obtain ⟨dict, _, isDict, given⟩ := Reading.bind_eq_ok_iff.mp given
      cases rest with
      | nil =>
          cases given
          exact .inr ⟨key, value, dict, _, _, rfl, textOf?_of_readFieldName isName, isDict, rfl⟩
      | cons other _ =>
          obtain ⟨_, _, _, given⟩ := Reading.bind_eq_ok_iff.mp given
          cases given

end Reading

/-- A document holds what its receivers are written as, the last one of each name. -/
theorem gives_of_readRoot
    {root : Tree}
    {count left : Nat}
    {document : Document}
    (given : readRoot root count = .ok (document, left)) :
    (writtenFields root).length ≤ 1 ∧
      ∃ pairs,
        List.Forall₂ WrittenReceiver.Gives (receiversIn root) pairs ∧
          document.receivers = .ofList pairs := by
  cases root with
  | scalar origin isPlain text =>
      obtain ⟨missing, _, _, given⟩ := Reading.bind_eq_ok_iff.mp given
      cases missing with
      | true =>
          cases given
          exact ⟨by simp [writtenFields], [], .nil, rfl⟩
      | false =>
          exact (failUnwanted_ne_ok (Yaml.Reading.placed_eq_ok_iff.mp given)).elim
  | mapping origin fields =>
      obtain ⟨given?, _, isGiven, given⟩ := Reading.bind_eq_ok_iff.mp given
      rw [Yaml.Reading.placed_eq_ok_iff] at isGiven
      cases given
      rcases exists_of_readFields isGiven with
        ⟨rfl, rfl⟩ | ⟨key, value, dict, _, _, rfl, isField, isDict, rfl⟩
      · exact ⟨by simp [writtenFields], [], .nil, rfl⟩
      · obtain ⟨pairs, gives, rfl⟩ := gives_of_readReceivers isDict
        refine ⟨by simp [writtenFields], pairs, ?_, rfl⟩
        simpa [receiversIn, writtenFields, isField, List.forall₂_map_left_iff] using gives
  | sequence | reference =>
      unfold readRoot at given
      exact (failUnwanted_ne_ok (Yaml.Reading.placed_eq_ok_iff.mp given)).elim

/-- A text that is accepted gives the receivers that it writes. -/
theorem gives_of_read
    {text : String}
    {document : Document}
    (accepted : read text = .ok document) :
    ∃ pairs,
      List.Forall₂ WrittenReceiver.Gives (written text) pairs ∧
        document.receivers = .ofList pairs := by
  unfold read at accepted
  unfold written
  split at accepted
  · cases accepted
  · rename_i isNothing
    cases accepted
    rw [isNothing]
    exact ⟨[], .nil, rfl⟩
  · rename_i root isRoot
    rw [isRoot]
    split at accepted
    · rename_i isRead
      cases accepted
      exact (gives_of_readRoot isRead).2
    · cases accepted

/-- A text whose receivers can be counted is accepted. -/
theorem exists_of_size
    (text : String)
    (size : Nat)
    (accepted : (read text).toOption.map (·.receivers.size) = some size) :
    ∃ document, read text = .ok document ∧ document.receivers.size = size := by
  obtain ⟨document, isRead, isSize⟩ := Option.map_eq_some_iff.mp accepted
  exact ⟨document, Outcome.toOption_eq_some_iff.mp isRead, isSize⟩

namespace WrittenReceiver

variable {receivers : List WrittenReceiver}
variable {pairs : List (String × Node)}
variable {name : String}

/-- The receivers have the names of the pairs. -/
theorem map_name?
    (gives : List.Forall₂ Gives receivers pairs) :
    receivers.map name? = (pairs.map (·.1)).map some := by
  induction gives with
  | nil =>
      rfl
  | cons head _ inductionHypothesis =>
      rw [List.map_cons, head.1, inductionHypothesis]
      rfl

/-- The names of the receivers differ exactly if those of the pairs do. -/
theorem namesDiffer_iff
    (gives : List.Forall₂ Gives receivers pairs) :
    NamesDiffer receivers ↔ (pairs.map (·.1)).Nodup := by
  rw [NamesDiffer, map_name? gives]
  exact List.nodup_map_iff (Option.some_injective String)

/-- A name is found among pairs exactly if a receiver has it. -/
theorem mem_names_iff
    (gives : List.Forall₂ Gives receivers pairs) :
    name ∈ pairs.map (·.1) ↔ ∃ receiver ∈ receivers, receiver.name? = some name := by
  rw [← List.mem_map, map_name? gives, List.mem_map_of_injective (Option.some_injective String)]

/-- Before a receiver with the name, none is the last one. -/
theorem isLast_cons_of_again
    {receiver head : WrittenReceiver}
    {rest : List WrittenReceiver}
    (again : ∃ other ∈ rest, other.name? = some name) :
    receiver.IsLast name (head :: rest) ↔ receiver.IsLast name rest := by
  refine ⟨fun isLast => ?_, .later⟩
  cases isLast with
  | here _ notAgain =>
      obtain ⟨other, member, isName⟩ := again
      exact (notAgain other member isName).elim
  | later isLast =>
      exact isLast

/-- The last receiver with a name is one with this name. -/
theorem IsLast.exists_name
    {receiver : WrittenReceiver}
    (isLast : receiver.IsLast name receivers) :
    ∃ other ∈ receivers, other.name? = some name := by
  induction isLast with
  | here isName _ =>
      exact ⟨receiver, List.mem_cons_self, isName⟩
  | later _ inductionHypothesis =>
      obtain ⟨other, member, isName⟩ := inductionHypothesis
      exact ⟨other, List.mem_cons_of_mem _ member, isName⟩

/-- Before receivers without the name, only one with it is the last. -/
theorem isLast_cons_of_new
    {receiver head : WrittenReceiver}
    {rest : List WrittenReceiver}
    (isNew : ¬ ∃ other ∈ rest, other.name? = some name) :
    receiver.IsLast name (head :: rest) ↔ receiver = head ∧ head.name? = some name := by
  constructor
  · intro isLast
    cases isLast with
    | here isName _ =>
        exact ⟨rfl, isName⟩
    | later isLast =>
        exact (isNew isLast.exists_name).elim
  · rintro ⟨rfl, isName⟩
    exact .here isName fun other member isOther => isNew ⟨other, member, isOther⟩

/-- A name has the node of the last receiver with this name. -/
theorem get?_ofList_iff
    {node : Node}
    (gives : List.Forall₂ Gives receivers pairs) :
    (Dict.ofList pairs).get? name = some node ↔
      ∃ receiver : WrittenReceiver, receiver.IsLast name receivers ∧ receiver.Denotes node := by
  induction gives with
  | nil =>
      constructor
      · exact nofun
      · rintro ⟨_, ⟨⟩, _⟩
  | @cons head pair rest others isHead givesRest inductionHypothesis =>
      obtain ⟨isName, denotes⟩ := isHead
      have inKeys : name ∈ (Dict.ofList others).keys ↔
          ∃ other ∈ rest, other.name? = some name := by
        rw [Dict.mem_keys_ofList, mem_names_iff givesRest]
      rw [Dict.get?_ofList_cons]
      by_cases again : ∃ other ∈ rest, other.name? = some name
      · obtain ⟨last, found⟩ := Dict.mem_keys_iff.mp (inKeys.mpr again)
        rw [found, Option.some_or, ← found, inductionHypothesis]
        simp only [isLast_cons_of_again again]
      · have absent : (Dict.ofList others).get? name = none :=
          Option.eq_none_iff_forall_ne_some.mpr fun value found =>
            again (inKeys.mp (Dict.mem_keys_iff.mpr ⟨value, found⟩))
        rw [absent, Option.none_or, Option.ite_none_right_eq_some]
        simp only [isLast_cons_of_new again, isName, Option.some.injEq]
        constructor
        · rintro ⟨rfl, rfl⟩
          exact ⟨head, ⟨rfl, rfl⟩, denotes⟩
        · rintro ⟨_, ⟨rfl, sameName⟩, denotesNode⟩
          exact ⟨sameName.symm, denotes.unique denotesNode⟩

/-- As many receivers are kept as are written exactly if their names differ. -/
theorem size_ofList_iff
    (gives : List.Forall₂ Gives receivers pairs) :
    (Dict.ofList pairs).size = receivers.length ↔ NamesDiffer receivers := by
  rw [namesDiffer_iff gives, gives.length_eq, ← List.length_map (·.1)]
  exact Dict.size_eq_length_iff fun _ => Dict.mem_keys_ofList

/-- A name that no other receiver has is that of the last receiver with it. -/
theorem NamesDiffer.isLast
    {receiver : WrittenReceiver}
    (differ : NamesDiffer receivers)
    (member : receiver ∈ receivers)
    (isName : receiver.name? = some name) :
    receiver.IsLast name receivers := by
  induction receivers with
  | nil =>
      cases member
  | cons head rest inductionHypothesis =>
      obtain ⟨isNew, restDiffer⟩ := List.nodup_cons.mp differ
      rcases List.mem_cons.mp member with rfl | inRest
      · refine .here isName fun other inRest sameName => isNew ?_
        exact List.mem_map.mpr ⟨other, inRest, sameName.trans isName.symm⟩
      · exact .later (inductionHypothesis restDiffer inRest)

/-- Each receiver has a name and a node. -/
theorem exists_gives
    {receiver : WrittenReceiver}
    (gives : List.Forall₂ Gives receivers pairs)
    (member : receiver ∈ receivers) :
    ∃ name node, receiver.name? = some name ∧ receiver.Denotes node := by
  induction gives with
  | nil =>
      cases member
  | @cons _ pair _ _ isHead _ inductionHypothesis =>
      rcases List.mem_cons.mp member with rfl | inRest
      · exact ⟨pair.1, pair.2, isHead⟩
      · exact inductionHypothesis inRest

end WrittenReceiver

/--
Every receiver that the text of a document writes has a name and denotes a node, whose
mappings have all of the entries that are written, no two of them with the same key.  No
field is given twice.  The document holds the node of the last receiver with each name.
So it holds every receiver, and as many as are written, exactly if no two have the same
name.
-/
theorem receivers_of_read
    {text : String}
    {document : Document}
    (accepted : read text = .ok document) :
    (document.receivers.size = (written text).length ↔
        WrittenReceiver.NamesDiffer (written text)) ∧
      (WrittenReceiver.NamesDiffer (written text) →
        ∀ receiver ∈ written text, ∃ name node,
          receiver.name? = some name ∧
            receiver.Denotes node ∧
            document.receivers.get? name = some node) ∧
      document.Keeps (written text) ∧
      ∀ root, Yaml.parse? text = some (some root) → (writtenFields root).length ≤ 1 := by
  obtain ⟨pairs, gives, isDict⟩ := gives_of_read accepted
  rw [isDict]
  refine ⟨WrittenReceiver.size_ofList_iff gives, fun differ receiver member => ?_, ⟨?_, ?_⟩, ?_⟩
  · obtain ⟨name, node, isName, denotes⟩ := WrittenReceiver.exists_gives gives member
    exact ⟨name, node, isName, denotes, (WrittenReceiver.get?_ofList_iff gives).mpr
      ⟨receiver, differ.isLast member isName, denotes⟩⟩
  · exact fun receiver => WrittenReceiver.exists_gives gives
  · intro name node
    rw [isDict]
    exact WrittenReceiver.get?_ofList_iff gives
  · intro root isRoot
    rw [read, isRoot] at accepted
    dsimp only at accepted
    split at accepted
    · rename_i isRead
      exact (gives_of_readRoot isRead).1
    · cases accepted

/-- A text with a receiver that has a word for its name and one that has a number. -/
def twoReceiversText : String :=
  "receivers:\n  a: &node\n    type: slack\n  1: *node\n"

/-- The document holds both receivers, though one refers to the node of the other. -/
theorem receivers_of_read_twoReceiversText :
    ∃ document,
      read twoReceiversText = .ok document ∧
        document.receivers.size = (written twoReceiversText).length ∧
        document.Keeps (written twoReceiversText) := by
  obtain ⟨document, accepted, _⟩ :=
    exists_of_size twoReceiversText 2 (by decide +kernel)
  have names :
      (written twoReceiversText).map WrittenReceiver.name? = [some "a", some "1"] := by
    decide +kernel
  have differ : WrittenReceiver.NamesDiffer (written twoReceiversText) := by
    rw [WrittenReceiver.NamesDiffer, names]
    decide
  obtain ⟨size, _, keeps, _⟩ := receivers_of_read accepted
  exact ⟨document, accepted, size.mpr differ, keeps⟩

/-- A text with two receivers of one name. -/
def repeatedNameText : String :=
  "receivers:\n  a:\n    type: slack\n  a:\n    type: slack\n"

/-- The text is accepted although it gives one name twice, and one receiver is dropped. -/
theorem repeatedNameText_drops_receiver :
    (written repeatedNameText).map WrittenReceiver.name? = [some "a", some "a"] ∧
      ∃ document,
        read repeatedNameText = .ok document ∧
          document.receivers.size ≠ (written repeatedNameText).length := by
  have names :
      (written repeatedNameText).map WrittenReceiver.name? = [some "a", some "a"] := by
    decide +kernel
  obtain ⟨document, accepted, isOne⟩ :=
    exists_of_size repeatedNameText 1 (by decide +kernel)
  refine ⟨names, document, accepted, ?_⟩
  have two : (written repeatedNameText).length = 2 := by
    simpa using congrArg List.length names
  rw [isOne, two]
  decide

end AlertReceivers.Document
