import AlertReceivers.Receiver.Basic
import AlertReceivers.Receiver.DecodeError

namespace AlertReceivers

/-!
# Mail headers

The headers of a mail receiver are kept under their canonical names.  Two
spellings of one name collide.
-/

/-- Put headers under their canonical names, in ascending order of the names as
written.  A canonical name that is taken already ends the work. -/
def rekeyHeaders
    (done : Dict String) :
    List (String × String) → Except String (Dict String)
  | [] =>
      .ok done
  | (name, value) :: rest =>
      if done.contains (Text.canonicalHeaderName name) then
        .error (Text.canonicalHeaderName name)
      else
        rekeyHeaders (done.insert (Text.canonicalHeaderName name) value) rest

namespace Receiver

/-- Put the headers of a mail receiver under their canonical names.  Receivers of
other kinds have no headers and stay as they are. -/
def normalize (receiver : Receiver) : Except DecodeError Receiver :=
  match receiver.kind with
  | .email =>
      match rekeyHeaders .empty receiver.headers.entries with
      | .ok headers =>
          .ok (receiver.withHeaders headers)
      | .error header =>
          .error (.duplicateHeader .email header)
  | _ =>
      .ok receiver

/-- Refuse a receiver that lacks a setting it must have. -/
def checkRequired (receiver : Receiver) : Except DecodeError Unit :=
  match receiver.missingField? with
  | some field =>
      .error (.missingField receiver.kind field)
  | none =>
      .ok ()

end Receiver

end AlertReceivers
