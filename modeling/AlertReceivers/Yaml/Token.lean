import AlertReceivers.Yaml.Source

namespace AlertReceivers.Yaml

/-!
# Tokens

The words and marks that a YAML document is made of.  Indented blocks start and end
with tokens of their own.
-/

/-- What a token is. -/
inductive TokenKind where
  | streamEnd
  | version (major minor : Nat)
  /-- A handle for tags, and what it stands for. -/
  | tagHandle (handle : String) (meaning : List UInt8)
  | documentStart
  | documentEnd
  | blockSequenceStart
  | blockMappingStart
  | blockEnd
  | flowSequenceStart
  | flowSequenceEnd
  | flowMappingStart
  | flowMappingEnd
  | blockEntry
  | flowEntry
  | key
  | value
  /-- The use of an anchor. -/
  | reference (name : String)
  | anchor (name : String)
  | tag (handle : String) (suffix : List UInt8)
  | scalar (isPlain : Bool) (text : String)
  deriving Repr, DecidableEq

/-- A token and where it stands. -/
structure Token where
  kind : TokenKind
  start : Mark
  stop : Mark
  deriving Repr, DecidableEq

end AlertReceivers.Yaml
