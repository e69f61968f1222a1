import AlertReceivers.Yaml.Token

namespace AlertReceivers.Yaml

/-!
# Trees

A tree is the content of a YAML document as it is written: its values are not given
a meaning yet, and the uses of anchors are not replaced by what they stand for.
-/

/-- Where a value stands, and its properties. -/
structure Origin where
  mark : Mark
  /-- The number of the value's anchor. -/
  anchor? : Option Nat
  tag? : Option (List UInt8)
  deriving Repr, DecidableEq

/-- The content of a document. -/
inductive Tree where
  | scalar (origin : Origin) (isPlain : Bool) (text : String)
  | sequence (origin : Origin) (items : List Tree)
  | mapping (origin : Origin) (entries : List (Tree × Tree))
  /-- The use of an anchor with a number. -/
  | reference (mark : Mark) (target : Nat)
  deriving Repr

namespace Tree

/-- The scalar that stands where a value is missing. -/
def missing (mark : Mark) : Tree :=
  .scalar ⟨mark, none, none⟩ true ""

/-- Where a tree stands. -/
def mark : Tree → Mark
  | .scalar origin _ _ =>
      origin.mark
  | .sequence origin _ =>
      origin.mark
  | .mapping origin _ =>
      origin.mark
  | .reference mark _ =>
      mark

/-- The later of two things, if there is one. -/
def later? : Option α → Option α → Option α
  | _, some second =>
      some second
  | first, none =>
      first

/-- A value if its anchor has a number. -/
def ifAnchored
    (tree : Tree)
    (origin : Origin)
    (number : Nat) :
    Option Tree :=
  if origin.anchor? = some number then some tree else none

mutual

/-- The last value whose anchor has a number.  A collection comes before what is in
it. -/
def anchored? (number : Nat) : Tree → Option Tree
  | .scalar origin isPlain text =>
      (Tree.scalar origin isPlain text).ifAnchored origin number
  | .sequence origin items =>
      later? ((Tree.sequence origin items).ifAnchored origin number)
        (anchoredInItems? number items)
  | .mapping origin entries =>
      later? ((Tree.mapping origin entries).ifAnchored origin number)
        (anchoredInEntries? number entries)
  | .reference _ _ =>
      none

/-- The last value in items whose anchor has a number. -/
def anchoredInItems? (number : Nat) : List Tree → Option Tree
  | [] =>
      none
  | item :: rest =>
      later? (item.anchored? number) (anchoredInItems? number rest)

/-- The last value in entries whose anchor has a number. -/
def anchoredInEntries? (number : Nat) : List (Tree × Tree) → Option Tree
  | [] =>
      none
  | (key, value) :: rest =>
      later? (later? (key.anchored? number) (value.anchored? number))
        (anchoredInEntries? number rest)

end

mutual

/-- The size of a tree: a collection counts twice. -/
def size : Tree → Nat
  | .scalar _ _ _ =>
      1
  | .sequence _ items =>
      sizeItems items + 2
  | .mapping _ entries =>
      sizeEntries entries + 2
  | .reference _ _ =>
      1

/-- The size of items. -/
def sizeItems : List Tree → Nat
  | [] =>
      0
  | item :: rest =>
      item.size + sizeItems rest

/-- The size of entries. -/
def sizeEntries : List (Tree × Tree) → Nat
  | [] =>
      0
  | (key, value) :: rest =>
      key.size + value.size + sizeEntries rest

end

end Tree

end AlertReceivers.Yaml
