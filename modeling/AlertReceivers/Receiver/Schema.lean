import AlertReceivers.Receiver.Kind
import AlertReceivers.Receiver.Setting

namespace AlertReceivers

/-!
# Schemas

The fields of each kind of receiver in their order, with the settings they have
when a document does not mention them.  Many of these are templates that are
filled in when an alert is sent.
-/

/-- A field of a receiver. -/
structure Field where
  /-- The field's name in documents. -/
  name : String
  /-- The setting when a document does not mention the field. -/
  initial : Setting
  /-- Whether the field must have a setting that is not empty. -/
  required : Bool := false
  /-- Whether an export leaves the field out while its setting is empty. -/
  elidable : Bool := false
  deriving Repr, DecidableEq

namespace Field

/-- The sort of a field is that of its initial setting. -/
def sort (field : Field) : SettingSort :=
  field.initial.sort

/-- A field with a text. -/
def text (name : String) (initial : String := "") : Field :=
  { name, initial := .text initial }

/-- A field with a text that must be given. -/
def requiredText (name : String) : Field :=
  { name, initial := .text "", required := true }

/-- A field with a secret. -/
def secret (name : String) : Field :=
  { name, initial := .secret .empty }

/-- A field with a secret that must be given. -/
def requiredSecret (name : String) : Field :=
  { name, initial := .secret .empty, required := true }

/-- Whether alerts that are over are reported too. -/
def sendResolved (on : Bool) : Field :=
  { name := "send_resolved", initial := .flag on }

end Field

/-- A reference to a template, with what follows the template's name. -/
def templateCall (name argument : String) : String :=
  "\x7b\x7b template \"" ++ name ++ "\"" ++ argument ++ "\x7d\x7d"

/-- A reference to a template that is given all that is known of the alerts. -/
def template (name : String) : String :=
  templateCall name " . "

/-- The subject of mails that have no `Subject` header. -/
def defaultSubject : String :=
  template "email.default.subject"

/-- What a PagerDuty incident tells of the alerts by default. -/
def defaultDetails : Dict String :=
  .ofList
    [("firing", templateCall "pagerduty.default.instances" " .Alerts.Firing "),
     ("resolved", templateCall "pagerduty.default.instances" " .Alerts.Resolved "),
     ("num_firing", "\x7b\x7b .Alerts.Firing | len \x7d\x7d"),
     ("num_resolved", "\x7b\x7b .Alerts.Resolved | len \x7d\x7d")]

/-- A text that is one thing while alerts are firing and another afterwards. -/
def whileFiring (firing resolved : String) : String :=
  "\x7b\x7b if eq .Status \"firing\" \x7d\x7d" ++ firing ++
    "\x7b\x7b else \x7d\x7d" ++ resolved ++ "\x7b\x7b end \x7d\x7d"

/-- One minute. -/
def oneMinute : Span where
  nanos :=
    60000000000
  inRange := by
    decide

/-- One hour. -/
def oneHour : Span where
  nanos :=
    3600000000000
  inRange := by
    decide

namespace Kind

/-- The fields of a kind. -/
def schema : Kind → List Field
  | .email =>
      [.sendResolved false,
       .requiredText "to",
       .text "from",
       { name := "smarthost", initial := .text "", elidable := true },
       .text "auth_username",
       .secret "auth_password",
       .secret "auth_secret",
       .text "auth_identity",
       { name := "headers", initial := .table .empty },
       .text "html" (template "email.default.html"),
       { name := "require_tls", initial := .optionalFlag none, elidable := true }]
  | .pagerduty =>
      [.sendResolved true,
       .requiredSecret "service_key",
       .text "url",
       .text "client" (template "pagerduty.default.client"),
       .text "client_url" (template "pagerduty.default.clientURL"),
       .text "description" (templateCall "pagerduty.default.description" " ."),
       { name := "details", initial := .table defaultDetails }]
  | .slack =>
      [.sendResolved false,
       .secret "api_url",
       .text "channel",
       .text "username" (template "slack.default.username"),
       .text "color" (templateCall "slack.default.color" " "),
       .text "title" (template "slack.default.title"),
       .text "title_link" (template "slack.default.titlelink"),
       .text "pretext" (template "slack.default.pretext"),
       .text "text" (template "slack.default.text"),
       .text "fallback" (template "slack.default.fallback"),
       .text "icon_emoji" (template "slack.default.iconemoji"),
       .text "icon_url" (template "slack.default.iconurl")]
  | .hipchat =>
      [.sendResolved false,
       .text "api_url",
       .secret "auth_token",
       .requiredText "room_id",
       .text "from" (template "hipchat.default.from"),
       { name := "notify", initial := .flag false },
       .text "message" (template "hipchat.default.message"),
       .text "message_format" "text",
       .text "color" (whileFiring "red" "green")]
  | .webhook =>
      [.sendResolved true,
       .requiredText "url"]
  | .opsgenie =>
      [.sendResolved true,
       .requiredSecret "api_key",
       .text "api_host",
       .text "message" (template "opsgenie.default.message"),
       .text "description" (template "opsgenie.default.description"),
       .text "source" (template "opsgenie.default.source"),
       { name := "details", initial := .table .empty },
       .text "teams",
       .text "tags",
       .text "note"]
  | .victorops =>
      [.sendResolved true,
       .requiredSecret "api_key",
       .text "api_url",
       .requiredText "routing_key",
       .text "message_type" "CRITICAL",
       .text "message" (template "victorops.default.message"),
       .text "from" (template "victorops.default.from")]
  | .pushover =>
      [.sendResolved true,
       .requiredSecret "user_key",
       .requiredSecret "token",
       .text "title" (template "pushover.default.title"),
       .text "message" (template "pushover.default.message"),
       .text "url" (template "pushover.default.url"),
       .text "priority" (whileFiring "2" "0"),
       { name := "retry", initial := .span oneMinute },
       { name := "expire", initial := .span oneHour }]

/-- Fields of one kind have different names. -/
theorem eq_of_name_eq
    {kind : Kind}
    {first second : Field}
    (firstMember : first ∈ kind.schema)
    (secondMember : second ∈ kind.schema)
    (same : first.name = second.name) :
    first = second := by
  have everyPair :
      ∀ first ∈ kind.schema, ∀ second ∈ kind.schema,
        first.name = second.name → first = second := by
    cases kind <;> decide
  exact everyPair first firstMember second secondMember same

/-- The headers of mails are a table. -/
theorem sort_of_headers
    {kind : Kind}
    {field : Field}
    (member : field ∈ kind.schema)
    (isHeaders : field.name = "headers") :
    field.sort = .table := by
  have everyTable :
      ∀ field ∈ kind.schema, field.name = "headers" → field.sort = .table := by
    cases kind <;> decide
  exact everyTable field member isHeaders

/-- The address of mails is a text. -/
theorem sort_of_to
    {kind : Kind}
    {field : Field}
    (member : field ∈ kind.schema)
    (isTo : field.name = "to") :
    field.sort = .text := by
  have everyText :
      ∀ field ∈ kind.schema, field.name = "to" → field.sort = .text := by
    cases kind <;> decide
  exact everyText field member isTo

/-- The field of a kind with a name. -/
def field?
    (kind : Kind)
    (name : String) :
    Option Field :=
  kind.schema.find? fun field => field.name == name

/-- The field that a key of a node names, whatever tags are around the key. -/
def fieldOf?
    (kind : Kind)
    (key : Node) :
    Option Field :=
  key.asText?.bind kind.field?

end Kind

end AlertReceivers
