import AlertReceivers.Node.Mismatch
import AlertReceivers.Receiver.Kind

namespace AlertReceivers.Kind

/-!
# Naming kinds

A node names a kind by its text, or by a tag on nothing.
-/

/-- Why a node names no kind. -/
inductive NamingError where
  | unknown (name : String)
  | mismatch (cause : Mismatch)
  deriving Repr, DecidableEq

namespace NamingError

/-- The message of a node that names no kind. -/
def message : NamingError → String
  | .unknown name =>
      "unknown variant `" ++ name ++ "`, expected one of " ++
        ", ".intercalate (Kind.all.map fun kind => "`" ++ kind.name ++ "`")
  | .mismatch cause =>
      cause.message

end NamingError

/-- The kind with a name. -/
def named (name : String) : Except NamingError Kind :=
  match ofName? name with
  | some kind =>
      .ok kind
  | none =>
      .error (.unknown name)

/-- The kind that a node names. -/
def ofNode : Node → Except NamingError Kind
  | .text name =>
      named name
  | .tagged name .null =>
      named name
  | .tagged name value => do
      let _ ← named name
      .error (.mismatch (.type (.ofNode value) .unit))
  | other =>
      .error (.mismatch (.type (.ofNode other) .kind))

end AlertReceivers.Kind
