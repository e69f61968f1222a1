import AlertReceivers.Document.Basic
import AlertReceivers.Yaml.Composition
import AlertReceivers.Yaml.Reading

namespace AlertReceivers

/-!
# Reading documents

A receivers document is a YAML mapping whose only field holds the named nodes.  A
text without content is the document without receivers.
-/

/-- Why a text is no receivers document. -/
inductive DocumentError where
  /-- The text is not YAML, or holds several documents. -/
  | notYaml
  | invalid (error : Yaml.ReadError)
  deriving Repr

namespace DocumentError

/-- The message of an error. -/
def message : DocumentError → String
  | .notYaml =>
      "failed to parse config file: not a YAML document"
  | .invalid error =>
      "failed to parse config file: " ++ error.message

end DocumentError

namespace Document

open Yaml (Tree Path Reading)

/-- The only field of a document. -/
def receiversField : String :=
  "receivers"

/-- What a tree is found to be where another value is wanted. -/
def foundOf : Tree → Except Mismatch Found
  | .scalar origin isPlain text =>
      (Yaml.readScalar origin.tag? isPlain text).map (Yaml.Plain.toFound text)
  | .sequence _ _ =>
      .ok .sequence
  | _ =>
      .ok .mapping

/-- Refuse a tree where another value is wanted. -/
def failUnwanted (tree : Tree) (wanted : Wanted) : Reading α :=
  match foundOf tree with
  | .ok found =>
      Reading.fail (.mismatch (.type found wanted))
  | .error cause =>
      Reading.fail (.mismatch cause)

/-- The text of a key, whatever its tag. -/
def readKey
    (root : Tree)
    (path : Path)
    (wanted : Wanted)
    (tree : Tree) :
    Reading String := do
  let key ← root.follow tree
  match key with
  | .scalar _ _ text =>
      pure text
  | other =>
      (failUnwanted other wanted).placed other.mark path

/-- Read named nodes onto those that were read already.  The last node of a name
counts. -/
def readNamed
    (root : Tree)
    (depth : Nat)
    (path : Path)
    (done : Dict Node) :
    List (Tree × Tree) → Reading (Dict Node)
  | [] =>
      pure done
  | (key, value) :: rest => do
      let name ← readKey root path .text key
      let node ← root.read depth (key.pathStep :: path) value
      readNamed root depth path (done.insert name node) rest

/-- Read the mapping of names to nodes.  A scalar without text is an empty one. -/
def readReceivers
    (root : Tree)
    (depth : Nat)
    (path : Path)
    (tree : Tree) :
    Reading (Dict Node) := do
  let followed ← root.follow tree
  let reading : Reading (Dict Node) :=
    match followed with
    | .mapping _ entries =>
        readNamed root depth path .empty entries
    | .scalar _ true "" =>
        pure .empty
    | other =>
        failUnwanted other .mapping
  reading.placed followed.mark path

/-- The name of a field.  There is no other field than that of the receivers. -/
def readFieldName (root tree : Tree) : Reading String := do
  let key ← root.follow tree
  let name ← readKey root [] .documentField key
  if name = receiversField then
    pure name
  else
    Reading.placed (Reading.fail (.unknownField name)) key.mark []

/-- Read the fields of a document after those that were read already. -/
def readFields
    (root : Tree)
    (depth : Nat)
    (given : Option (Dict Node)) :
    List (Tree × Tree) → Reading (Option (Dict Node))
  | [] =>
      pure given
  | (key, value) :: rest => do
      let name ← readFieldName root key
      if given.isSome then
        Reading.fail (.duplicateField name)
      else do
        let receivers ← readReceivers root depth [key.pathStep] value
        readFields root depth (some receivers) rest

/-- Whether a scalar stands for a document that is missing.  A tag for nothing on
another word is refused. -/
def isMissing
    (tag? : Option (List UInt8))
    (isPlain : Bool)
    (text : String) :
    Except Mismatch Bool :=
  match isPlain, tag? with
  | false, _ =>
      .ok false
  | true, none =>
      .ok (text.isEmpty || Yaml.Plain.isNullWord text.toList)
  | true, some tag =>
      if tag = Yaml.standardTag "null" then
        if Yaml.Plain.isNullWord text.toList then
          .ok true
        else
          .error (.content (.text text) .null)
      else
        .ok text.isEmpty

/-- Read a document at the root of a tree. -/
def readRoot (root : Tree) : Reading Document :=
  match root with
  | .scalar origin isPlain text => do
      let missing ← Reading.ofExcept (isMissing origin.tag? isPlain text)
      if missing then
        pure .empty
      else
        (failUnwanted root .document).placed origin.mark []
  | .mapping origin entries => do
      let given ← (readFields root (Yaml.depthLimit - 2) none entries).placed origin.mark []
      pure ⟨given.getD .empty⟩
  | other =>
      (failUnwanted other .document).placed other.mark []

/-- Read the text of a document. -/
def read (text : String) : Except DocumentError Document :=
  match Yaml.parse? text with
  | none =>
      .error .notYaml
  | some none =>
      .ok .empty
  | some (some root) =>
      match readRoot root 0 with
      | .ok (document, _) =>
          .ok document
      | .error error =>
          .error (.invalid error)

end Document

/-- Why a text is no receiver. -/
inductive ReceiverTextError where
  | notYaml
  | unreadable (error : Yaml.ReadError)
  | invalid (error : DecodeError)
  deriving Repr

/-- Read and decode the text of a receiver that names its own kind. -/
def Receiver.readText (text : String) : Outcome ReceiverTextError Receiver :=
  match Yaml.parse? text with
  | none =>
      .refuse .notYaml
  | some none =>
      (decodeTagged .null).mapRefusal .invalid
  | some (some root) =>
      match root.toNode with
      | .ok node =>
          (decodeTagged node).mapRefusal .invalid
      | .error error =>
          .refuse (.unreadable error)

end AlertReceivers
