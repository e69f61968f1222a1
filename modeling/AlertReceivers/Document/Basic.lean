import AlertReceivers.Receiver.Decode

namespace AlertReceivers

/-!
# Receivers documents

A document gives each receiver a name and a node.  Either every node decodes, or
the errors of all that do not are reported in the order of the names.
-/

/-- Named nodes. -/
structure Document where
  receivers : Dict Node

/-- A named node that is no receiver. -/
structure InvalidReceiver where
  name : String
  cause : DecodeError
  deriving Repr, DecidableEq

/-- The message of an invalid receiver. -/
def InvalidReceiver.message (invalid : InvalidReceiver) : String :=
  "invalid receiver '" ++ invalid.name ++ "': " ++ invalid.cause.message

namespace Document

/-- The document without receivers. -/
def empty : Document where
  receivers :=
    .empty

/-- What becomes of each node. -/
def verdicts (document : Document) : Dict (Outcome DecodeError Receiver) :=
  document.receivers.filterMap fun node => some (Receiver.decodeTagged node)

/-- The invalid receivers among verdicts. -/
def invalid (verdicts : Dict (Outcome DecodeError Receiver)) : List InvalidReceiver :=
  verdicts.entries.filterMap fun entry =>
    (Outcome.refusal? entry.2).map fun error => ⟨entry.1, error⟩

/-- Decode every receiver. -/
def decode (document : Document) : Outcome (List InvalidReceiver) (Dict Receiver) :=
  if document.verdicts.entries.any fun entry => Outcome.isAborted entry.2 then
    .abort
  else if (invalid document.verdicts).isEmpty then
    .ok (document.verdicts.filterMap Outcome.value?)
  else
    .refuse (invalid document.verdicts)

end Document

end AlertReceivers
