import AlertReceivers.Receiver.Schema

namespace AlertReceivers

/-!
# Decode errors

Why a node is no receiver.
-/

/-- Where in a node a value does not fit. -/
inductive Place where
  | entry (key : String)
  | node
  deriving Repr, DecidableEq

namespace Place

/-- A place as messages name it. -/
def phrase : Place → String
  | .entry key =>
      key
  | .node =>
      "<node>"

end Place

/-- Why a node is no receiver. -/
inductive DecodeError where
  /-- The node is no mapping.  The kind is not known while it is looked for. -/
  | notAMapping (kind : Option Kind) (found : Shape)
  | malformed (kind : Kind) (place : Place) (cause : SettingError)
  | missingField (kind : Kind) (field : String)
  | unknownFields (kind : Kind) (keys : List String)
  | duplicateHeader (kind : Kind) (header : String)
  | missingKind
  | unknownKind (name : String)
  deriving Repr, DecidableEq

namespace DecodeError

/-- The message of an error. -/
def message : DecodeError → String
  | .notAMapping kind found =>
      (match kind with
        | some kind =>
            kind.label
        | none =>
            "receiver") ++ " must be a mapping, got " ++ found.phrase
  | .malformed kind place cause =>
      "invalid value for '" ++ place.phrase ++ "' in " ++ kind.label ++ ": " ++ cause.message
  | .missingField kind field =>
      "missing required field '" ++ field ++ "' in " ++ kind.label
  | .unknownFields kind keys =>
      "unknown fields in " ++ kind.label ++ ": " ++ ", ".intercalate keys
  | .duplicateHeader kind header =>
      "duplicate header \"" ++ header ++ "\" in " ++ kind.label
  | .missingKind =>
      "receiver node has no 'type' key"
  | .unknownKind name =>
      "unknown receiver type '" ++ name ++ "'"

end DecodeError

end AlertReceivers
