import AlertReceivers.Export.Basic
import AlertReceivers.Receiver.Basic

namespace AlertReceivers

/-!
# Exported receivers

A receiver is exported as its kind, under the key that names kinds, followed by
its settings in the order of the schema.  Secrets are exported as the placeholder
that stands for any secret, and some settings are left out while they are empty.
-/

/-- The key whose value names the kind of a receiver. -/
def kindKey : String :=
  "type"

/-- The export of a setting, unless it is a flag that was left open. -/
def Setting.export? : Setting → Option Export
  | .flag on =>
      some (.flag on)
  | .optionalFlag on =>
      on.map .flag
  | .text value =>
      some (.text value)
  | .secret value =>
      some (.text value.shown)
  | .span value =>
      some (.text value.text)
  | .table entries =>
      some (.table (entries.entries.map fun entry => (entry.1, .text entry.2)))

/-- Whether an export leaves out the setting of a field. -/
def Kind.elides
    (kind : Kind)
    (name : String)
    (setting : Setting) :
    Bool :=
  setting.isEmpty && ((kind.field? name).map (·.elidable)).getD false

namespace Receiver

/-- The entries of an export. -/
def exportEntries (receiver : Receiver) : List (String × Export) :=
  (kindKey, .text receiver.kind.name) ::
    receiver.settings.filterMap fun entry =>
      if receiver.kind.elides entry.1 entry.2 then
        none
      else
        entry.2.export?.map fun value => (entry.1, value)

/-- A receiver as it is shown to the world. -/
def toExport (receiver : Receiver) : Export :=
  .table receiver.exportEntries

/-- The export of named receivers in ascending order of the names. -/
def exportAll (receivers : Dict Receiver) : Export :=
  .table
    [("receivers",
      .table (receivers.entries.map fun entry => (entry.1, entry.2.toExport)))]

end Receiver

end AlertReceivers
