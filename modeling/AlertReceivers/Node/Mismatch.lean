import AlertReceivers.Node.Basic
import AlertReceivers.Text.Quoted

namespace AlertReceivers

/-!
# Mismatches

A mismatch says what was found where something else was wanted.
-/

/-- What was found.  `number` and `taggedValue` are said of values that are
wanted as text, whose content is not shown. -/
inductive Found where
  | unit
  | boolean (value : Bool)
  | integer (value : Int)
  /-- An integer of more than 64 bits. -/
  | wideInteger (value : Int)
  | real (value : Decimal.Binary64)
  | text (value : String)
  | sequence
  | mapping
  | tagged
  | number
  | taggedValue
  deriving Repr, DecidableEq

namespace Found

/-- What was found, as messages say it. -/
def phrase : Found → String
  | .unit =>
      "unit value"
  | .boolean value =>
      "boolean `" ++ (if value then "true" else "false") ++ "`"
  | .integer value =>
      "integer `" ++ String.ofList (Decimal.integer value) ++ "`"
  | .wideInteger value =>
      "integer `" ++ String.ofList (Decimal.integer value) ++
        (if value < 0 then "` as i128" else "` as u128")
  | .real value =>
      "floating point `" ++ String.ofList value.positionalText ++ "`"
  | .text value =>
      "string " ++ Text.quoted value
  | .sequence =>
      "sequence"
  | .mapping =>
      "map"
  | .tagged =>
      "enum"
  | .number =>
      "number"
  | .taggedValue =>
      "tagged value"

/-- A node as it is found where a value of another kind is wanted. -/
def ofNode : Node → Found
  | .null =>
      .unit
  | .boolean value =>
      .boolean value
  | .number (.integer value) =>
      .integer value
  | .number (.real value) =>
      .real value
  | .text value =>
      .text value
  | .sequence _ =>
      .sequence
  | .mapping _ =>
      .mapping
  | .tagged _ _ =>
      .tagged

/-- A node as it is found where a text or a table of texts is wanted. -/
def ofTextNode : Node → Found
  | .number _ =>
      .number
  | .tagged _ _ =>
      .taggedValue
  | node =>
      ofNode node

end Found

/-- What was wanted. -/
inductive Wanted where
  | boolean
  | integer
  | real
  | null
  | scalar
  | table
  | text
  | mapping
  | unit
  | kind
  | node
  | document
  | documentField
  deriving Repr, DecidableEq

namespace Wanted

/-- What was wanted, as messages say it. -/
def phrase : Wanted → String
  | .boolean =>
      "a boolean"
  | .integer =>
      "an integer"
  | .real =>
      "a float"
  | .null =>
      "null"
  | .scalar =>
      "a scalar"
  | .table =>
      "a mapping"
  | .text =>
      "a string"
  | .mapping =>
      "a map"
  | .unit =>
      "unit"
  | .kind =>
      "a Value::Tagged enum"
  | .node =>
      "any YAML value"
  | .document =>
      "struct ReceiversDocument"
  | .documentField =>
      "field identifier"

end Wanted

/-- A value of the wrong type, or of the right type with the wrong content. -/
inductive Mismatch where
  | type (found : Found) (wanted : Wanted)
  | content (found : Found) (wanted : Wanted)
  deriving Repr, DecidableEq

namespace Mismatch

/-- The message of a mismatch. -/
def message : Mismatch → String
  | .type found wanted =>
      "invalid type: " ++ found.phrase ++ ", expected " ++ wanted.phrase
  | .content found wanted =>
      "invalid value: " ++ found.phrase ++ ", expected " ++ wanted.phrase

end Mismatch

end AlertReceivers
