import AlertReceivers.Yaml.Path
import AlertReceivers.Yaml.Resolution
import AlertReceivers.Yaml.Tree

namespace AlertReceivers.Yaml

/-!
# Reading trees

A tree becomes a node: its scalars are given a meaning and the uses of its anchors
are replaced by what they stand for.  Neither the depth of the node nor the number of
replacements may be too great.
-/

/-- Why a tree cannot be read. -/
inductive ReadCause where
  | mismatch (cause : Mismatch)
  | unknownField (field : String)
  | duplicateField (field : String)
  | duplicateKey (key : Node)
  | tooDeep
  | tooManyReferences
  deriving Repr

namespace ReadCause

/-- A key that is given twice, as messages describe it. -/
def describeDuplicate : Node → String
  | .null =>
      "with null key"
  | .boolean value =>
      "with key `" ++ (if value then "true" else "false") ++ "`"
  | .number value =>
      "with key " ++ value.text
  | .text value =>
      "with key " ++ Text.quoted value
  | _ =>
      "in YAML map"

/-- The message of a cause. -/
def message : ReadCause → String
  | .mismatch cause =>
      cause.message
  | .unknownField field =>
      "unknown field `" ++ field ++ "`, expected `receivers`"
  | .duplicateField field =>
      "duplicate field `" ++ field ++ "`"
  | .duplicateKey key =>
      "duplicate entry " ++ describeDuplicate key
  | .tooDeep =>
      "recursion limit exceeded"
  | .tooManyReferences =>
      "repetition limit exceeded"

end ReadCause

/-- Why and where a tree cannot be read. -/
structure ReadError where
  cause : ReadCause
  position? : Option Position
  deriving Repr

namespace ReadError

/-- The message of an error. -/
def message (error : ReadError) : String :=
  match error.position? with
  | some position =>
      position.lead ++ error.cause.message ++ position.trail
  | none =>
      error.cause.message

/-- Give an error a position, unless it has one already or needs none. -/
def placed
    (error : ReadError)
    (position : Position) :
    ReadError :=
  match error.cause, error.position? with
  | .tooManyReferences, _ =>
      error
  | _, some _ =>
      error
  | cause, none =>
      ⟨cause, some position⟩

end ReadError

/-- A reading counts the references that were replaced. -/
abbrev Reading (α : Type) :=
  Nat → Except ReadError (α × Nat)

namespace Reading

instance : Monad Reading where
  pure value count :=
    .ok (value, count)
  bind reading next count :=
    match reading count with
    | .ok (value, count) =>
        next value count
    | .error error =>
        .error error

/-- End a reading. -/
def fail (cause : ReadCause) : Reading α :=
  fun _ => .error ⟨cause, none⟩

/-- A reading that needs no tree. -/
def ofExcept : Except Mismatch α → Reading α
  | .ok value =>
      pure value
  | .error cause =>
      fail (.mismatch cause)

/-- Give the error of a reading a position. -/
def placed
    (reading : Reading α)
    (mark : Mark)
    (path : Path) :
    Reading α :=
  fun count =>
    match reading count with
    | .ok result =>
        .ok result
    | .error error =>
        .error (error.placed ⟨mark, path⟩)

end Reading

/-- The greatest depth of a node. -/
def depthLimit : Nat :=
  128

/-- The number of references that may be replaced for each part of a document. -/
def repetitionsPerPart : Nat :=
  100

/-- Replace the use of an anchor in a document by what it stands for. -/
def Tree.follow (root tree : Tree) : Reading Tree :=
  match tree with
  | .reference _ number =>
      fun count =>
        if root.size * repetitionsPerPart ≤ count then
          .error ⟨.tooManyReferences, none⟩
        else
          .ok ((root.anchored? number).getD tree, count + 1)
  | _ =>
      pure tree

/-- The step from a mapping to the value of a key. -/
def Tree.pathStep : Tree → PathStep
  | .scalar _ _ text =>
      .entry text
  | _ =>
      .unnamed

/-- Read items one after another. -/
def readItems
    (read : Path → Tree → Reading Node)
    (path : Path) :
    Nat → List Tree → Reading (List Node)
  | _, [] =>
      pure []
  | index, item :: rest => do
      let node ← read (.item index :: path) item
      let nodes ← readItems read path (index + 1) rest
      pure (node :: nodes)

/-- Read entries after those that were read already.  No key is given twice. -/
def readEntries
    (read : Path → Tree → Reading Node)
    (path : Path)
    (done : List (Node × Node)) :
    List (Tree × Tree) → Reading (List (Node × Node))
  | [] =>
      pure done
  | (key, value) :: rest => do
      let keyNode ← read path key
      if done.any fun entry => entry.1.same keyNode then
        Reading.fail (.duplicateKey keyNode)
      else do
        let node ← read (key.pathStep :: path) value
        readEntries read path (done ++ [(keyNode, node)]) rest

/-- Put a local tag in front of a node. -/
def withLocalTag
    (tag? : Option (List UInt8))
    (node : Node) :
    Node :=
  match localName? tag? with
  | some name =>
      .tagged name node
  | none =>
      node

/-- Read a scalar. -/
def readScalarNode
    (tag? : Option (List UInt8))
    (isPlain : Bool)
    (text : String) :
    Except Mismatch Node :=
  match localName? tag? with
  | some name =>
      ((readUntagged isPlain text).toNode text).map (.tagged name)
  | none =>
      (readScalar tag? isPlain text).bind (Plain.toNode text)

/-- Refuse a collection that is too deep. -/
def failTooDeep (mark : Mark) : Reading α :=
  fun _ => .error ⟨.tooDeep, some ⟨mark, []⟩⟩

/-- Read a tree that is no reference.  What is inside a collection is read by the
reader for one level less, if there is one. -/
def readFollowed
    (inner? : Option (Path → Tree → Reading Node))
    (path : Path)
    (tree : Tree) :
    Reading Node :=
  match tree, inner? with
  | .scalar origin isPlain text, _ =>
      Reading.ofExcept (readScalarNode origin.tag? isPlain text)
  | .sequence origin items, some inner => do
      let nodes ← readItems inner path 0 items
      pure (withLocalTag origin.tag? (.sequence nodes))
  | .mapping origin entries, some inner => do
      let nodes ← readEntries inner path [] entries
      pure (withLocalTag origin.tag? (.mapping nodes))
  | .reference _ _, _ =>
      Reading.fail .tooManyReferences
  | other, none =>
      failTooDeep other.mark

/-- Read a tree of a document as a node of at most some depth. -/
def Tree.read
    (root : Tree) :
    Nat → Path → Tree → Reading Node
  | 0, path, tree => do
      let followed ← root.follow tree
      (readFollowed none path followed).placed followed.mark path
  | depth + 1, path, tree => do
      let followed ← root.follow tree
      (readFollowed (some (root.read depth)) path followed).placed followed.mark path

/-- The node of a document. -/
def Tree.toNode (root : Tree) : Except ReadError Node :=
  match root.read depthLimit [] root 0 with
  | .ok (node, _) =>
      .ok node
  | .error error =>
      .error error

end AlertReceivers.Yaml
