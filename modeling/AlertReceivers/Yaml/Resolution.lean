import AlertReceivers.Node.Mismatch
import AlertReceivers.Yaml.Plain
import AlertReceivers.Yaml.Tag

namespace AlertReceivers.Yaml

/-!
# Scalars and their tags

What a scalar stands for follows from its text, from whether it has quotes, and from
its tag.
-/

/-- The tag of a standard type. -/
def standardTag (name : String) : List UInt8 :=
  textBytes ("tag:yaml.org,2002:" ++ name).toList

/-- Whether a tag starts with an exclamation mark. -/
def isLocal (tag : List UInt8) : Bool :=
  tag.head? == some 0x21

/-- The name of a tag that belongs to the value it stands in front of. -/
def localName? : Option (List UInt8) → Option String
  | some tag =>
      if isLocal tag then
        (String.fromUTF8? ⟨tag.toArray⟩).map Node.tagName
      else
        none
  | none =>
      none

/-- What a scalar stands for if its tag asks for a type, or the mismatch. -/
def expectPlain
    (text : String)
    (wanted : Wanted)
    (found : Option Plain) :
    Except Mismatch Plain :=
  match found with
  | some plain =>
      .ok plain
  | none =>
      .error (.content (.text text) wanted)

/-- What a scalar stands for without regard to tags. -/
def readUntagged (isPlain : Bool) (text : String) : Plain :=
  if isPlain then .read text.toList else .text

/-- What a scalar with a tag stands for.  A local tag leaves the type open, and any
tag that is not known makes the scalar a text. -/
def readTagged
    (tag : List UInt8)
    (isPlain : Bool)
    (text : String) :
    Except Mismatch Plain :=
  if tag = standardTag "bool" then
    expectPlain text .boolean ((Plain.boolean? text.toList).map .boolean)
  else if tag = standardTag "int" then
    expectPlain text .integer (Plain.readInteger? text.toList)
  else if tag = standardTag "float" then
    expectPlain text .real ((Plain.real? text.toList).map .real)
  else if tag = standardTag "null" then
    expectPlain text .null (if Plain.isNullWord text.toList then some .null else none)
  else if isLocal tag then
    .ok (readUntagged isPlain text)
  else
    .ok .text

/-- What a scalar stands for. -/
def readScalar
    (tag? : Option (List UInt8))
    (isPlain : Bool)
    (text : String) :
    Except Mismatch Plain :=
  match tag? with
  | some tag =>
      readTagged tag isPlain text
  | none =>
      .ok (readUntagged isPlain text)

namespace Plain

/-- The node of a scalar with a text.  Integers of more than 64 bits are no
nodes. -/
def toNode (text : String) : Plain → Except Mismatch Node
  | .null =>
      .ok .null
  | .boolean value =>
      .ok (.boolean value)
  | .integer value =>
      .ok (.number (.integer value))
  | .wideInteger value =>
      .error (.type (.wideInteger value) .node)
  | .real value =>
      .ok (.number (.real value))
  | .text =>
      .ok (.text text)

/-- A scalar with a text as it is found where another value is wanted. -/
def toFound (text : String) : Plain → Found
  | .null =>
      .unit
  | .boolean value =>
      .boolean value
  | .integer value =>
      .integer value
  | .wideInteger value =>
      .wideInteger value
  | .real value =>
      .real value
  | .text =>
      .text text

end Plain

end AlertReceivers.Yaml
