import AlertReceivers.Proofs.Receiver.Overlay
import AlertReceivers.Proofs.Span.RoundTrip
import AlertReceivers.Receiver.Export

namespace AlertReceivers

/-!
# Exported receivers as nodes

An exported receiver is a node with one entry for its kind and one for each of
its settings, unless the setting is left out.  Every value in it converts back to
the setting that it was exported from, with the placeholder for a secret.
-/

/-- A setting with the placeholder in place of a secret. -/
def Setting.redact : Setting → Setting
  | .secret _ =>
      .secret ⟨Secret.placeholder⟩
  | setting =>
      setting

/-- A span, if the setting is one, whose opposite is a span too. -/
def Setting.HasOpposite : Setting → Prop
  | .span value =>
      value.nanos.natAbs < 9223372036854775808
  | _ =>
      True

/-- The entries of a table are shown one by one. -/
theorem Export.toNodes_eq_map (entries : List (String × Export)) :
    toNodes entries = entries.map fun entry => (.text entry.1, entry.2.toNode) := by
  induction entries with
  | nil =>
      rfl
  | cons entry rest inductionHypothesis =>
      rw [toNodes, inductionHypothesis, List.map_cons]

namespace Setting

/-- An exported table is read back. -/
theorem readTable_export (table : Dict String) :
    readTable
        (Export.table
          (table.entries.map fun entry => (entry.1, .text entry.2))).toNode =
      .ok table := by
  have readsPairs : ∀ pairs : List (String × String),
      readPairs
          (Export.toNodes (pairs.map fun entry => (entry.1, .text entry.2))) =
        .ok pairs := by
    intro pairs
    induction pairs with
    | nil =>
        rfl
    | cons pair rest inductionHypothesis =>
        rw [List.map_cons, Export.toNodes, readPairs, inductionHypothesis]
        rfl
  rw [Export.toNode, readTable, readsPairs]
  exact congrArg Except.ok table.ofList_entries

/-- An exported value converts back to the setting, but for the text of a secret. -/
theorem converts_export
    {setting : Setting}
    {value : Export}
    (hasOpposite : setting.HasOpposite)
    (exported : setting.export? = some value) :
    Converts setting.sort value.toNode setting.redact := by
  cases setting with
  | flag on =>
      cases exported
      exact .flag rfl
  | optionalFlag on =>
      obtain ⟨on, rfl, rfl⟩ := Option.map_eq_some_iff.mp exported
      exact .givenFlag rfl
  | text text =>
      cases exported
      exact .text rfl
  | secret secret =>
      cases exported
      exact .secret rfl
  | span span =>
      cases exported
      exact .span rfl (Span.read_text hasOpposite)
  | table table =>
      cases exported
      exact readTable_eq_ok_iff.mp (readTable_export table)

/-- Settings of one sort that say nothing are the same. -/
theorem eq_of_isEmpty
    {first second : Setting}
    (sameSort : first.sort = second.sort)
    (firstEmpty : first.isEmpty = true)
    (secondEmpty : second.isEmpty = true) :
    first = second := by
  cases first with
  | text firstValue =>
      cases second with
      | text secondValue =>
          rw [String.isEmpty_iff.mp firstEmpty, String.isEmpty_iff.mp secondEmpty]
      | flag | optionalFlag | secret | span | table =>
          cases sameSort
  | secret firstValue =>
      cases second with
      | secret secondValue =>
          obtain ⟨firstText⟩ := firstValue
          obtain ⟨secondText⟩ := secondValue
          have firstNil : firstText = "" := String.isEmpty_iff.mp firstEmpty
          have secondNil : secondText = "" := String.isEmpty_iff.mp secondEmpty
          rw [firstNil, secondNil]
      | flag | optionalFlag | text | span | table =>
          cases sameSort
  | optionalFlag firstValue =>
      cases second with
      | optionalFlag secondValue =>
          rw [Option.isNone_iff_eq_none.mp firstEmpty,
            Option.isNone_iff_eq_none.mp secondEmpty]
      | flag | text | secret | span | table =>
          cases sameSort
  | flag | span | table =>
      cases firstEmpty

/-- A redacted setting keeps its sort. -/
@[simp] theorem sort_redact (setting : Setting) :
    setting.redact.sort = setting.sort := by
  cases setting <;> rfl

/-- Only secrets are redacted. -/
theorem redact_of_ne_secret
    {setting : Setting}
    (notSecret : setting.sort ≠ .secret) :
    setting.redact = setting := by
  cases setting with
  | secret value =>
      exact (notSecret rfl).elim
  | flag | optionalFlag | text | span | table =>
      rfl

/-- A redacted setting is exported like before. -/
theorem export?_redact (setting : Setting) :
    setting.redact.export? = setting.export? := by
  cases setting <;> rfl

/-- What is empty when it is redacted was empty before. -/
theorem isEmpty_of_redact
    {setting : Setting}
    (isEmpty : setting.redact.isEmpty = true) :
    setting.isEmpty = true := by
  cases setting with
  | secret value =>
      cases isEmpty
  | flag | optionalFlag | text | span | table =>
      exact isEmpty

end Setting

namespace Receiver

/-- The entry of a node that a setting is exported as, unless it is left out. -/
def exportedPair?
    (receiver : Receiver)
    (entry : String × Setting) :
    Option (Node × Node) :=
  if receiver.kind.elides entry.1 entry.2 then
    none
  else
    entry.2.export?.map fun value => (.text entry.1, value.toNode)

/-- The entries of an exported receiver other than the one that names its kind. -/
def exportedSettings (receiver : Receiver) : List (Node × Node) :=
  receiver.settings.filterMap receiver.exportedPair?

/-- An exported receiver is a mapping of its kind and its settings. -/
theorem toNode_toExport (receiver : Receiver) :
    receiver.toExport.toNode =
      .mapping
        ((.text kindKey, .text receiver.kind.name) :: receiver.exportedSettings) := by
  have eachEntry : ∀ entry : String × Setting,
      receiver.exportedPair? entry =
        (if receiver.kind.elides entry.1 entry.2 then
            none
          else
            entry.2.export?.map fun value => (entry.1, value)).map
          fun exported => (.text exported.1, exported.2.toNode) := by
    intro entry
    unfold exportedPair?
    split
    · rfl
    · rw [Option.map_map]
      rfl
  rw [toExport, Export.toNode, exportEntries, Export.toNodes_eq_map,
    List.map_cons, List.map_filterMap, exportedSettings]
  simp only [← eachEntry]
  rfl

/-- Each exported entry shows a setting under its name. -/
theorem exists_of_mem_exportedSettings
    {receiver : Receiver}
    {entry : Node × Node}
    (member : entry ∈ receiver.exportedSettings) :
    ∃ name setting value,
      (name, setting) ∈ receiver.settings ∧
        setting.export? = some value ∧
        entry = (.text name, value.toNode) := by
  obtain ⟨⟨name, setting⟩, inSettings, exported⟩ := List.mem_filterMap.mp member
  unfold exportedPair? at exported
  split at exported
  · cases exported
  · obtain ⟨value, isValue, isEntry⟩ := Option.map_eq_some_iff.mp exported
    exact ⟨name, setting, value, inSettings, isValue, isEntry.symm⟩

/-- A setting that is shown and not left out is exported under its name. -/
theorem mem_exportedSettings
    {receiver : Receiver}
    {name : String}
    {setting : Setting}
    {value : Export}
    (member : (name, setting) ∈ receiver.settings)
    (notElided : receiver.kind.elides name setting = false)
    (exported : setting.export? = some value) :
    (.text name, value.toNode) ∈ receiver.exportedSettings := by
  refine List.mem_filterMap.mpr ⟨(name, setting), member, ?_⟩
  simp [exportedPair?, notElided, exported]

end Receiver

end AlertReceivers
