import AlertReceivers.Node.Basic

namespace AlertReceivers

/-!
# Exports

An export is what a program shows of its configuration: flags, texts and tables
of them in a fixed order.
-/

/-- A value that is shown. -/
inductive Export where
  | flag (on : Bool)
  | text (value : String)
  | table (entries : List (String × Export))
  deriving Repr

namespace Export

instance : Inhabited Export :=
  ⟨.table []⟩

mutual

/-- An export as a node of a document. -/
def toNode : Export → Node
  | .flag on =>
      .boolean on
  | .text value =>
      .text value
  | .table entries =>
      .mapping (toNodes entries)

/-- The entries of a table as those of a mapping. -/
def toNodes : List (String × Export) → List (Node × Node)
  | [] =>
      []
  | (key, value) :: rest =>
      (.text key, value.toNode) :: toNodes rest

end

end Export

end AlertReceivers
