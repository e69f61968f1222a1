import AlertReceivers.Receiver.Schema
import AlertReceivers.Text.HeaderName

namespace AlertReceivers

/-!
# Receivers

A receiver is a kind with a setting for each field of the kind's schema.  The names and
the sorts of the settings are those of the fields, so no receiver lacks a setting or
has one of another sort.
-/

/-- Where and how alerts are delivered. -/
structure Receiver where
  kind : Kind
  /-- The settings by field name, in the order of the schema. -/
  settings : List (String × Setting)
  followsSchema :
    settings.map (fun entry => (entry.1, entry.2.sort)) =
      kind.schema.map (fun field => (field.name, field.sort))
  deriving DecidableEq

/-- The receiver of a kind that a document says nothing about. -/
def Kind.initial (kind : Kind) : Receiver where
  kind :=
    kind
  settings :=
    kind.schema.map fun field => (field.name, field.initial)
  followsSchema := by
    rw [List.map_map]
    rfl

namespace Receiver

instance : Repr Receiver where
  reprPrec receiver prec :=
    reprPrec (receiver.kind, receiver.settings) prec

/-- The setting of a field. -/
def setting?
    (receiver : Receiver)
    (name : String) :
    Option Setting :=
  receiver.settings.lookup name

/-- Every setting of a receiver is that of a field of its schema. -/
theorem exists_field_of_mem
    {receiver : Receiver}
    {entry : String × Setting}
    (member : entry ∈ receiver.settings) :
    ∃ field ∈ receiver.kind.schema, field.name = entry.1 ∧ field.sort = entry.2.sort := by
  have inShape :
      (entry.1, entry.2.sort) ∈
        receiver.kind.schema.map fun field => (field.name, field.sort) :=
    receiver.followsSchema ▸ List.mem_map.mpr ⟨entry, member, rfl⟩
  obtain ⟨field, fieldMember, same⟩ := List.mem_map.mp inShape
  exact ⟨field, fieldMember, (Prod.mk.inj same).1, (Prod.mk.inj same).2⟩

/-- Change the setting of a field to one of the same sort. -/
def withSetting
    (receiver : Receiver)
    (name : String)
    (setting : Setting)
    (sameSort :
      ∀ field ∈ receiver.kind.schema, field.name = name → field.sort = setting.sort) :
    Receiver where
  kind :=
    receiver.kind
  settings :=
    receiver.settings.map fun entry =>
      if entry.1 = name then (name, setting) else entry
  followsSchema := by
    rw [← receiver.followsSchema, List.map_map]
    refine List.map_congr_left fun entry member => ?_
    rw [Function.comp_apply]
    split
    · rename_i isName
      obtain ⟨field, fieldMember, hasName, hasSort⟩ := exists_field_of_mem member
      rw [isName, ← hasSort, sameSort field fieldMember (hasName.trans isName)]
    · rfl

/-- Whether alerts that are over are reported too. -/
def sendsResolved (receiver : Receiver) : Bool :=
  receiver.setting? "send_resolved" == some (.flag true)

/-- The secrets by field name. -/
def secrets (receiver : Receiver) : List (String × Secret) :=
  receiver.settings.filterMap fun entry =>
    match entry.2 with
    | .secret value =>
        some (entry.1, value)
    | _ =>
        none

/-- The spans by field name. -/
def spans (receiver : Receiver) : List (String × Span) :=
  receiver.settings.filterMap fun entry =>
    match entry.2 with
    | .span value =>
        some (entry.1, value)
    | _ =>
        none

/-- The first field of the schema that must have a setting and whose setting is
empty. -/
def missingField? (receiver : Receiver) : Option String :=
  (receiver.kind.schema.find? fun field =>
    field.required && (receiver.setting? field.name).all Setting.isEmpty).map (·.name)

/-- The mail headers of a receiver; one that sends no mails has none. -/
def headers (receiver : Receiver) : Dict String :=
  match receiver.setting? "headers" with
  | some (.table entries) =>
      entries
  | _ =>
      .empty

/-- Change the mail headers. -/
def withHeaders
    (receiver : Receiver)
    (headers : Dict String) :
    Receiver :=
  receiver.withSetting "headers" (.table headers) fun _ => Kind.sort_of_headers

/-- The subject of mails: the `Subject` header, or the default template. -/
def subject (receiver : Receiver) : String :=
  (receiver.headers.get? "Subject").getD defaultSubject

end Receiver

end AlertReceivers
