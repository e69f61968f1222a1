namespace AlertReceivers

/-!
# Kinds of receivers

The services that alerts can be delivered to.
-/

/-- A service that alerts are delivered to. -/
inductive Kind where
  | email
  | pagerduty
  | slack
  | hipchat
  | webhook
  | opsgenie
  | victorops
  | pushover
  deriving Repr, DecidableEq

namespace Kind

/-- Every kind, in the order in which summaries list them. -/
def all : List Kind :=
  [.email, .pagerduty, .slack, .hipchat, .webhook, .opsgenie, .victorops, .pushover]

/-- The place of a kind in the order of kinds. -/
def rank (kind : Kind) : Nat :=
  kind.ctorIdx

/-- The name of a kind in documents. -/
def name : Kind → String
  | .email =>
      "email"
  | .pagerduty =>
      "pagerduty"
  | .slack =>
      "slack"
  | .hipchat =>
      "hipchat"
  | .webhook =>
      "webhook"
  | .opsgenie =>
      "opsgenie"
  | .victorops =>
      "victorops"
  | .pushover =>
      "pushover"

/-- What messages call a receiver of a kind. -/
def label (kind : Kind) : String :=
  kind.name ++ " config"

/-- The kind with a name. -/
def ofName? (name : String) : Option Kind :=
  all.find? fun kind => kind.name == name

end Kind

end AlertReceivers
