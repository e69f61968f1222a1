import AlertReceivers.Decimal.Shortest

namespace AlertReceivers

/-!
# Nodes

A node is a value of a configuration document before it is given a meaning: a
scalar, a sequence, a mapping in the order it was written, or a value under a
tag.  Keys of a mapping may be nodes of any kind.
-/

/-- A number: an integer, or a double-precision number. -/
inductive Number where
  | integer (value : Int)
  | real (value : Decimal.Binary64)
  deriving Repr, DecidableEq

namespace Number

/-- The text of a number. -/
def text : Number → String
  | .integer value =>
      String.ofList (Decimal.integer value)
  | .real value =>
      String.ofList value.text

/-- Equality of numbers; an integer never equals a double-precision number. -/
def same : Number → Number → Bool
  | .integer first, .integer second =>
      first == second
  | .real first, .real second =>
      first.sameValue second
  | _, _ =>
      false

end Number

/-- A value of a configuration document.  The keys of a mapping are distinct, and
a tag is written without its leading `!` unless that is all of it. -/
inductive Node where
  | null
  | boolean (value : Bool)
  | number (value : Number)
  | text (value : String)
  | sequence (items : List Node)
  | mapping (entries : List (Node × Node))
  | tagged (tag : String) (value : Node)
  deriving Repr

/-- The kinds of nodes. -/
inductive Shape where
  | null
  | boolean
  | number
  | text
  | sequence
  | mapping
  | tagged
  deriving Repr, DecidableEq

namespace Shape

/-- A shape as messages name it. -/
def phrase : Shape → String
  | .null =>
      "null"
  | .boolean =>
      "a boolean"
  | .number =>
      "a number"
  | .text =>
      "a string"
  | .sequence =>
      "a sequence"
  | .mapping =>
      "a mapping"
  | .tagged =>
      "a tagged value"

end Shape

namespace Node

instance : Inhabited Node :=
  ⟨.null⟩

mutual

/-- Equality of nodes as keys: the entries of a mapping may stand in any order. -/
def same : Node → Node → Bool
  | .null, .null =>
      true
  | .boolean first, .boolean second =>
      first == second
  | .number first, .number second =>
      first.same second
  | .text first, .text second =>
      first == second
  | .sequence first, .sequence second =>
      sameItems first second
  | .mapping first, .mapping second =>
      first.length == second.length && entriesWithin first second
  | .tagged firstTag first, .tagged secondTag second =>
      firstTag == secondTag && first.same second
  | _, _ =>
      false

/-- Equality of sequences item by item. -/
def sameItems : List Node → List Node → Bool
  | [], [] =>
      true
  | first :: firstRest, second :: secondRest =>
      first.same second && sameItems firstRest secondRest
  | _, _ =>
      false

/-- Whether each entry of the first mapping is an entry of the second. -/
def entriesWithin : List (Node × Node) → List (Node × Node) → Bool
  | [], _ =>
      true
  | (key, value) :: rest, entries =>
      entries.any (fun entry => key.same entry.1 && value.same entry.2) &&
        entriesWithin rest entries

end

/-- The kind of a node. -/
def shape : Node → Shape
  | .null =>
      .null
  | .boolean _ =>
      .boolean
  | .number _ =>
      .number
  | .text _ =>
      .text
  | .sequence _ =>
      .sequence
  | .mapping _ =>
      .mapping
  | .tagged _ _ =>
      .tagged

/-- A node without the tags around it. -/
def untagged : Node → Node
  | .tagged _ value =>
      value.untagged
  | node =>
      node

/-- The text of a text node, whatever tags are around it. -/
def asText? (node : Node) : Option String :=
  match node.untagged with
  | .text value =>
      some value
  | _ =>
      none

/-- The text of a scalar without tags; null reads as the empty text. -/
def scalarText? : Node → Option String
  | .null =>
      some ""
  | .boolean value =>
      some (if value then "true" else "false")
  | .number value =>
      some value.text
  | .text value =>
      some value
  | _ =>
      none

/-- A key as messages name it. -/
def describeKey : Node → String
  | .text value =>
      value
  | .number value =>
      value.text
  | .boolean value =>
      if value then "true" else "false"
  | .null =>
      "~"
  | other =>
      "<" ++ other.shape.phrase ++ " key>"

/-- Put an entry at the end of a mapping, or replace the value of an equal key
where it stands. -/
def insertEntry
    (key value : Node) :
    List (Node × Node) → List (Node × Node)
  | [] =>
      [(key, value)]
  | (headKey, headValue) :: rest =>
      if headKey.same key then
        (headKey, value) :: rest
      else
        (headKey, headValue) :: insertEntry key value rest

/-- The mapping of pairs in order, in which the last value of a key wins. -/
def ofPairs (pairs : List (Node × Node)) : Node :=
  .mapping (pairs.foldl (fun entries pair => insertEntry pair.1 pair.2 entries) [])

/-- A tag without its leading `!`, unless that is all of it. -/
def tagName (tag : String) : String :=
  match tag.toList with
  | '!' :: first :: rest =>
      String.ofList (first :: rest)
  | _ =>
      tag

end Node

end AlertReceivers
