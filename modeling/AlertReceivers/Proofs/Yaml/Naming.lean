import AlertReceivers.Proofs.Yaml.Reading
import Mathlib.Tactic.SplitIfs

namespace AlertReceivers.Yaml

/-!
# Names in trees

A scalar that can only be a text is read as this text, whatever tags it has, and a
scalar that is read as a text is read as its own.  What is read is what a tree stands
for, a reference for the value that has the anchor.  So what the keys of a mapping name
is known before the mapping is read.
-/

/-- The text of a scalar in a document, or of the scalar that a reference stands
for. -/
def Tree.textOf? (root tree : Tree) : Option String :=
  match root.resolve tree with
  | .scalar _ _ text =>
      some text
  | _ =>
      none

namespace Plain

/-- Without quotes, a text stands for nothing but itself. -/
def StandsForItself (text : String) : Prop :=
  text ≠ "" ∧
    isNullWord text.toList = false ∧
    boolean? text.toList = none ∧
    readInteger? text.toList = none ∧
    real? text.toList = none

instance : DecidablePred StandsForItself :=
  fun _ => inferInstanceAs (Decidable (_ ∧ _))

/-- A word that stands for itself is read as text. -/
theorem StandsForItself.read_eq
    {text : String}
    (standsForItself : StandsForItself text) :
    read text.toList = .text := by
  obtain ⟨notEmpty, notNull, notBoolean, notInteger, notReal⟩ := standsForItself
  have hasChars : text.toList.isEmpty = false := by
    rw [List.isEmpty_eq_false_iff]
    simpa using notEmpty
  simp [read, hasChars, notNull, notBoolean, notInteger, notReal]

/-- A plain word names nothing but itself. -/
theorem asText?_of_toNode
    {plain : Plain}
    {text name : String}
    {node : Node}
    (isNode : plain.toNode text = .ok node)
    (named : node.asText? = some name) :
    name = text := by
  cases plain with
  | text =>
      cases isNode
      exact (Option.some.inj named).symm
  | null | boolean | integer | wideInteger | real =>
      cases isNode <;> cases named

end Plain

theorem readUntagged_eq_text
    {text : String}
    (standsForItself : Plain.StandsForItself text)
    (isPlain : Bool) :
    readUntagged isPlain text = .text := by
  cases isPlain with
  | false =>
      rfl
  | true =>
      exact standsForItself.read_eq

/-- A scalar that can only be a text is one, if it has the type that its tag asks
for. -/
theorem readScalar_eq_text
    {tag? : Option (List UInt8)}
    {isPlain : Bool}
    {text : String}
    {plain : Plain}
    (standsForItself : Plain.StandsForItself text)
    (typed : readScalar tag? isPlain text = .ok plain) :
    plain = .text := by
  have untagged := readUntagged_eq_text standsForItself isPlain
  obtain ⟨_, notNull, notBoolean, notInteger, notReal⟩ := standsForItself
  cases tag? with
  | none =>
      exact (Except.ok.inj typed).symm.trans untagged
  | some tag =>
      simp only [readScalar, readTagged, notNull, notBoolean, notInteger, notReal,
        untagged, Option.map_none, Bool.false_eq_true, if_false, expectPlain] at typed
      split_ifs at typed <;> exact (Except.ok.inj typed).symm

/-- A tag does not change what a node names. -/
theorem asText?_withLocalTag
    (tag? : Option (List UInt8))
    (node : Node) :
    (withLocalTag tag? node).asText? = node.asText? := by
  unfold withLocalTag
  split <;> rfl

/-- Without a tag, a plain scalar is the node of what its text stands for. -/
theorem readScalarNode_of_untagged
    {tag? : Option (List UInt8)}
    (untagged : tag? = none)
    (text : String) :
    readScalarNode tag? true text = (Plain.read text.toList).toNode text := by
  rw [untagged]
  rfl

/-- A scalar that is read as a text is read as its own text. -/
theorem eq_of_asText?_readScalarNode
    {tag? : Option (List UInt8)}
    {isPlain : Bool}
    {text name : String}
    {node : Node}
    (isNode : readScalarNode tag? isPlain text = .ok node)
    (named : node.asText? = some name) :
    name = text := by
  unfold readScalarNode at isNode
  split at isNode
  · obtain ⟨inner, isInner, rfl⟩ := Outcome.map_eq_ok_iff.mp isNode
    exact Plain.asText?_of_toNode isInner named
  · obtain ⟨plain, _, isPlainNode⟩ := Outcome.bind_eq_ok_iff.mp isNode
    exact Plain.asText?_of_toNode isPlainNode named

/-- A scalar that can only be a text is read as one. -/
theorem asText?_readScalarNode
    {tag? : Option (List UInt8)}
    {isPlain : Bool}
    {text : String}
    {node : Node}
    (standsForItself : Plain.StandsForItself text)
    (isNode : readScalarNode tag? isPlain text = .ok node) :
    node.asText? = some text := by
  unfold readScalarNode at isNode
  split at isNode
  · rw [readUntagged_eq_text standsForItself] at isNode
    cases isNode
    rfl
  · obtain ⟨plain, typed, isPlainNode⟩ := Outcome.bind_eq_ok_iff.mp isNode
    rw [readScalar_eq_text standsForItself typed] at isPlainNode
    cases isPlainNode
    rfl

/-- Placing errors changes no value. -/
theorem Reading.placed_eq_ok_iff
    {reading : Reading α}
    {mark : Mark}
    {path : Path}
    {count : Nat}
    {result : α × Nat} :
    reading.placed mark path count = .ok result ↔ reading count = .ok result := by
  unfold Reading.placed
  cases reading count <;> simp

/-- A chain of readings has a value exactly if both of its parts have one. -/
theorem Reading.bind_eq_ok_iff
    {reading : Reading α}
    {next : α → Reading β}
    {count : Nat}
    {result : β × Nat} :
    (reading >>= next) count = .ok result ↔
      ∃ value left, reading count = .ok (value, left) ∧ next value left = .ok result := by
  rw [Reading.bind_apply]
  cases reading count with
  | error error =>
      simp
  | ok given =>
      simp only [Except.ok.injEq]
      constructor
      · intro isResult
        exact ⟨given.1, given.2, rfl, isResult⟩
      · rintro ⟨value, left, rfl, isResult⟩
        exact isResult

namespace Tree

/-- Whether a tree is a value, and not the use of an anchor. -/
def isValue : Tree → Bool
  | .reference _ _ =>
      false
  | _ =>
      true

/-- The later one of two values is one of them. -/
theorem later?_eq_some
    {first second : Option α}
    {value : α}
    (isLater : later? first second = some value) :
    first = some value ∨ second = some value := by
  cases second with
  | none =>
      exact .inl isLater
  | some other =>
      exact .inr isLater

mutual

/-- Only values have anchors. -/
theorem isValue_of_anchored?
    {number : Nat}
    {tree found : Tree}
    (isFound : tree.anchored? number = some found) :
    found.isValue = true := by
  cases tree with
  | scalar origin isPlain text =>
      obtain ⟨_, isScalar⟩ := Option.ite_none_right_eq_some.mp isFound
      cases isScalar
      rfl
  | sequence origin items =>
      rcases later?_eq_some isFound with here | inItems
      · obtain ⟨_, isSequence⟩ := Option.ite_none_right_eq_some.mp here
        cases isSequence
        rfl
      · exact isValue_of_anchoredInItems? inItems
  | mapping origin entries =>
      rcases later?_eq_some isFound with here | inEntries
      · obtain ⟨_, isMapping⟩ := Option.ite_none_right_eq_some.mp here
        cases isMapping
        rfl
      · exact isValue_of_anchoredInEntries? inEntries
  | reference mark target =>
      cases isFound

theorem isValue_of_anchoredInItems?
    {number : Nat}
    {items : List Tree}
    {found : Tree}
    (isFound : anchoredInItems? number items = some found) :
    found.isValue = true := by
  cases items with
  | nil =>
      cases isFound
  | cons item rest =>
      rcases later?_eq_some isFound with inItem | inRest
      · exact isValue_of_anchored? inItem
      · exact isValue_of_anchoredInItems? inRest

theorem isValue_of_anchoredInEntries?
    {number : Nat}
    {entries : List (Tree × Tree)}
    {found : Tree}
    (isFound : anchoredInEntries? number entries = some found) :
    found.isValue = true := by
  cases entries with
  | nil =>
      cases isFound
  | cons entry rest =>
      obtain ⟨key, value⟩ := entry
      rcases later?_eq_some isFound with inEntry | inRest
      · rcases later?_eq_some inEntry with inKey | inValue
        · exact isValue_of_anchored? inKey
        · exact isValue_of_anchored? inValue
      · exact isValue_of_anchoredInEntries? inRest

end

/-- What a tree stands for stands for itself. -/
theorem resolve_resolve
    (root tree : Tree) :
    root.resolve (root.resolve tree) = root.resolve tree := by
  cases tree with
  | scalar | sequence | mapping =>
      rfl
  | reference mark number =>
      simp only [resolve]
      cases isFound : root.anchored? number with
      | none =>
          simp [isFound]
      | some found =>
          have isValue := isValue_of_anchored? isFound
          cases found with
          | reference =>
              cases isValue
          | scalar | sequence | mapping =>
              rfl

/-- What is read is what the tree stands for. -/
theorem exists_readFollowed
    {root tree : Tree}
    {depth count left : Nat}
    {path : Path}
    {node : Node}
    (given : root.read depth path tree count = .ok (node, left)) :
    ∃ between,
      readFollowed (root.readInside? depth) path (root.resolve tree) between =
        .ok (node, left) := by
  rw [root.read_eq, Reading.bind_eq_ok_iff] at given
  obtain ⟨followed, between, isFollowed, isRead⟩ := given
  rw [root.follow_eq tree isFollowed, Reading.placed_eq_ok_iff] at isRead
  exact ⟨between, isRead⟩

end Tree

end AlertReceivers.Yaml
