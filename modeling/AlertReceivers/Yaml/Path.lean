import AlertReceivers.Yaml.Source

namespace AlertReceivers.Yaml

/-!
# Paths

A path leads from the root of a document to a value in it.
-/

/-- A step from a value to one inside it. -/
inductive PathStep where
  | entry (key : String)
  | item (index : Nat)
  /-- To the value of a key that is not written as a scalar. -/
  | unnamed
  deriving Repr, DecidableEq

/-- The steps to a value, the last one first. -/
abbrev Path :=
  List PathStep

namespace Path

/-- A path as messages show it. -/
def text : Path → String
  | [] =>
      "."
  | .item index :: rest =>
      text rest ++ "[" ++ toString index ++ "]"
  | .entry key :: [] =>
      key
  | .entry key :: rest =>
      text rest ++ "." ++ key
  | .unnamed :: [] =>
      "?"
  | .unnamed :: rest =>
      text rest ++ ".?"

end Path

/-- Where an error was found. -/
structure Position where
  mark : Mark
  path : Path
  deriving Repr, DecidableEq

namespace Position

/-- What stands in front of the message of an error: the path, unless it is shown
as a single point. -/
def lead (position : Position) : String :=
  if position.path.text = "." then "" else position.path.text ++ ": "

/-- What stands behind the message of an error: the place, unless it is the start of
the text. -/
def trail (position : Position) : String :=
  if position.mark.line = 0 ∧ position.mark.column = 0 then
    ""
  else
    " at " ++ position.mark.phrase

end Position

end AlertReceivers.Yaml
