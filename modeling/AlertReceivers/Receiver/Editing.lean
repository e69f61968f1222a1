import AlertReceivers.Receiver.Decode

namespace AlertReceivers

/-!
# Editing mail receivers

A mail receiver is built up by edits.  Headers are put in as they are written and
become canonical when the receiver is normalised.
-/

/-- One edit of a mail receiver. -/
inductive Edit where
  | setHeader (name value : String)
  | removeHeader (name : String)
  | setTo (address : String)
  | normalize
  | checkRequired
  | decode (node : Node)
  | reset
  deriving Repr

/-- What an edit tells its caller. -/
inductive EditResult where
  | silent
  /-- The value that a header had before. -/
  | former (value : Option String)
  | passed
  | failed (error : DecodeError)
  deriving Repr, DecidableEq

namespace Receiver

/-- Apply an edit.  Normalising takes the headers out of the receiver first, so
headers that collide are lost; a node that does not decode changes nothing. -/
def apply
    (receiver : Receiver) :
    Edit → Outcome DecodeError (Receiver × EditResult)
  | .setHeader name value =>
      .ok (receiver.withHeaders (receiver.headers.insert name value),
        .former (receiver.headers.get? name))
  | .removeHeader name =>
      .ok (receiver.withHeaders (receiver.headers.erase name),
        .former (receiver.headers.get? name))
  | .setTo address =>
      .ok (receiver.withSetting "to" (.text address) fun _ => Kind.sort_of_to, .silent)
  | .normalize =>
      match receiver.normalize with
      | .ok normal =>
          .ok (normal, .passed)
      | .error error =>
          .ok (receiver.withHeaders .empty, .failed error)
  | .checkRequired =>
      match receiver.checkRequired with
      | .ok () =>
          .ok (receiver, .passed)
      | .error error =>
          .ok (receiver, .failed error)
  | .decode node =>
      match decode .email node with
      | .ok decoded =>
          .ok (decoded, .passed)
      | .error (.refused error) =>
          .ok (receiver, .failed error)
      | .error .aborted =>
          .abort
  | .reset =>
      .ok (Kind.email.initial, .silent)

/-- The address that mails are sent to; a receiver that sends none has none. -/
def recipient (receiver : Receiver) : String :=
  match receiver.setting? "to" with
  | some (.text address) =>
      address
  | _ =>
      ""

end Receiver

end AlertReceivers
