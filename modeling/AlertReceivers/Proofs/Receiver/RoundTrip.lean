import AlertReceivers.Proofs.Receiver.Exported
import AlertReceivers.Proofs.Receiver.Tagged
import AlertReceivers.Proofs.Text.HeaderName

namespace AlertReceivers

/-!
# Decoding exported receivers

An exported receiver decodes to the receiver with the placeholder in place of its
secrets.  What makes this work holds of every decoded receiver: its spans have
opposites, its headers are canonical, and no required setting is empty.
-/

/-- The names of all headers that entries give are ASCII texts. -/
def AsciiHeaders (entries : List (Node × Node)) : Prop :=
  ∀ entry ∈ entries, entry.1.asText? = some "headers" →
    ∀ headers, entry.2 = .mapping headers →
      ∀ header ∈ headers, ∀ name, header.1.scalarText? = some name →
        Text.IsAscii name

namespace Kind

/-- Settings that an export can leave out say nothing at first and are no secrets. -/
theorem initial_of_elidable
    {kind : Kind}
    {field : Field}
    (member : field ∈ kind.schema)
    (canBeLeftOut : field.elidable = true ∨ field.sort = .optionalFlag) :
    field.initial.isEmpty = true ∧ field.sort ≠ .secret := by
  have everyField :
      ∀ field ∈ kind.schema,
        field.elidable = true ∨ field.sort = .optionalFlag →
          field.initial.isEmpty = true ∧ field.sort ≠ .secret := by
    cases kind <;> decide
  exact everyField field member canBeLeftOut

/-- The initial spans have opposites. -/
theorem hasOpposite_initial
    {kind : Kind}
    {field : Field}
    (member : field ∈ kind.schema) :
    field.initial.HasOpposite := by
  have everySpan :
      ∀ field ∈ kind.schema,
        field.sort ≠ .span ∨
          field.initial = .span oneMinute ∨
          field.initial = .span oneHour := by
    cases kind <;> decide
  rcases everySpan field member with notSpan | isMinute | isHour
  · unfold Setting.HasOpposite
    split
    · rename_i span isSpan
      exact (notSpan (by rw [Field.sort, isSpan]; rfl)).elim
    · trivial
  · rw [isMinute]
    change oneMinute.nanos.natAbs < 9223372036854775808
    decide
  · rw [isHour]
    change oneHour.nanos.natAbs < 9223372036854775808
    decide

/-- Given spans have opposites. -/
theorem Gives.hasOpposite
    {kind : Kind}
    {entries : List (Node × Node)}
    {field : Field}
    {setting : Setting}
    (member : field ∈ kind.schema)
    (gives : kind.Gives entries field setting) :
    setting.HasOpposite := by
  rcases gives.source member with ⟨entry, _, _, converts⟩ | ⟨_, rfl⟩
  · generalize field.sort = sort at converts
    generalize entry.2 = value at converts
    cases converts with
    | emptySpan =>
        change Span.zero.nanos.natAbs < 9223372036854775808
        decide
    | span _ reads =>
        exact Span.natAbs_of_read reads
    | flag | openFlag | givenFlag | text | secret | emptyTable | table =>
        trivial
  · exact hasOpposite_initial member

/-- Given names of headers are those that the entries write. -/
theorem Gives.isAscii
    {entries : List (Node × Node)}
    {written : Dict String}
    {name : String}
    (gives : Kind.email.Gives entries headersField (.table written))
    (ascii : AsciiHeaders entries)
    (isName : name ∈ written.keys) :
    Text.IsAscii name := by
  obtain ⟨entry, entryMember, names, headers, isValue, header, headerMember, hasText⟩ :=
    gives.namesHeader isName
  exact ascii entry entryMember names.2 headers isValue header headerMember name hasText

end Kind

namespace Receiver

/-- A receiver that an export says everything about, but for its secrets. -/
structure Exportable (receiver : Receiver) : Prop where
  hasOpposites :
    ∀ field ∈ receiver.kind.schema, ∀ setting,
      receiver.setting? field.name = some setting → setting.HasOpposite
  canonicalHeaders :
    receiver.kind = .email →
      ∀ name ∈ receiver.headers.keys, Text.canonicalHeaderName name = name
  complete :
    receiver.missingField? = none

/-- A decoded receiver is exportable if its headers are written in ASCII. -/
theorem exportable_of_ofEntries
    {kind : Kind}
    {entries : List (Node × Node)}
    {receiver : Receiver}
    (decoded : ofEntries kind entries = .ok receiver)
    (ascii : kind = .email → AsciiHeaders entries) :
    receiver.Exportable := by
  have overlays := overlays_of_ofEntries decoded
  obtain ⟨_, _, _, complete, _⟩ := ofEntries_eq_ok_iff.mp decoded
  obtain rfl := overlays.sameKind
  refine ⟨fun field member setting found => ?_, fun isMail name isName => ?_, complete⟩
  · obtain ⟨given, gives, keeps⟩ := overlays.exists_given member found
    cases keeps with
    | headers =>
        trivial
    | other =>
        exact gives.hasOpposite member
  · rw [isMail] at overlays
    obtain ⟨written, gives, rekeys⟩ := overlays.rekeys_headers
    obtain ⟨value, hasValue⟩ := Dict.mem_keys_iff.mp isName
    obtain ⟨original, rfl, hasOriginal⟩ := (rekeys name value).mp hasValue
    exact Text.canonicalHeaderName_idempotent
      (gives.isAscii (ascii isMail) (Dict.mem_keys_iff.mpr ⟨value, hasOriginal⟩))

/-- A receiver with the placeholder in place of its secrets. -/
def redacted (receiver : Receiver) : Receiver where
  kind :=
    receiver.kind
  settings :=
    receiver.settings.map fun entry => (entry.1, entry.2.redact)
  followsSchema := by
    rw [← receiver.followsSchema, List.map_map]
    simp [Function.comp_def]

theorem setting?_redacted
    (receiver : Receiver)
    (name : String) :
    receiver.redacted.setting? name =
      (receiver.setting? name).map Setting.redact :=
  Lookup.lookup_map_value (fun _ => Setting.redact) receiver.settings name

/-- Headers are no secrets. -/
theorem headers_redacted
    {receiver : Receiver}
    (isMail : receiver.kind = .email) :
    receiver.redacted.headers = receiver.headers := by
  apply headers_of_setting?
  rw [setting?_redacted, setting?_headers isMail]
  rfl

section Entries

variable {receiver : Receiver}

/-- Every exported entry is declared, and none is taken for the kind. -/
theorem declares_of_mem
    {entry : Node × Node}
    (member : entry ∈ receiver.exportedSettings) :
    ∃ field, receiver.kind.Names field entry.1 := by
  obtain ⟨name, setting, value, inSettings, _, rfl⟩ :=
    exists_of_mem_exportedSettings member
  obtain ⟨field, fieldMember, hasName, _⟩ := exists_field_of_mem inSettings
  exact ⟨field, fieldMember, congrArg some hasName.symm⟩

/-- No field is exported twice. -/
theorem timesNamed_le_one
    (receiver : Receiver)
    (name : String) :
    Kind.timesNamed receiver.exportedSettings name ≤ 1 := by
  have countedOnce := List.nodup_iff_count_le_one.mp receiver.nodup_names name
  refine Nat.le_trans ?_ countedOnce
  rw [List.count, List.countP_map, Kind.timesNamed, exportedSettings,
    List.countP_filterMap]
  refine List.countP_mono_left fun entry _ isNamed => ?_
  unfold exportedPair? at isNamed
  split at isNamed
  · cases isNamed
  · cases exported : entry.2.export? with
    | none =>
        simp [exported] at isNamed
    | some value =>
        simpa [exported, Node.asText?, Node.untagged] using isNamed

/-- A setting that an export leaves out is the initial one. -/
theorem eq_initial_of_left_out
    {field : Field}
    {setting : Setting}
    (member : field ∈ receiver.kind.schema)
    (found : receiver.setting? field.name = some setting)
    (leftOut :
      receiver.kind.elides field.name setting = true ∨ setting.export? = none) :
    setting.redact = field.initial := by
  have sameSort := sort_of_setting? member found
  have isField : receiver.kind.field? field.name = some field :=
    Kind.field?_eq_some_iff.mpr ⟨member, rfl⟩
  have isEmpty :
      setting.isEmpty = true ∧
        (field.elidable = true ∨ field.sort = .optionalFlag) := by
    rcases leftOut with elided | notExported
    · have both : setting.isEmpty = true ∧ field.elidable = true := by
        simpa [Kind.elides, isField] using elided
      exact ⟨both.1, .inl both.2⟩
    · cases setting with
      | optionalFlag on =>
          have isOpen : on = none := Option.map_eq_none_iff.mp notExported
          subst on
          exact ⟨rfl, .inr sameSort.symm⟩
      | flag | text | secret | span | table =>
          cases notExported
  obtain ⟨initialEmpty, notSecret⟩ := Kind.initial_of_elidable member isEmpty.2
  rw [Setting.redact_of_ne_secret (sameSort ▸ notSecret)]
  exact Setting.eq_of_isEmpty sameSort isEmpty.1 initialEmpty

/-- Redaction does not change what an export leaves out. -/
theorem elides_redact
    {name : String}
    {setting : Setting}
    (member : (name, setting) ∈ receiver.settings) :
    receiver.kind.elides name setting.redact = receiver.kind.elides name setting := by
  obtain ⟨field, fieldMember, rfl, sameSort⟩ := exists_field_of_mem member
  by_cases isSecret : field.sort = .secret
  · have notElidable : field.elidable = false := by
      by_contra elidable
      have isElidable := Bool.eq_true_of_not_eq_false elidable
      exact (Kind.initial_of_elidable fieldMember (.inl isElidable)).2 isSecret
    have isField : receiver.kind.field? field.name = some field :=
      Kind.field?_eq_some_iff.mpr ⟨fieldMember, rfl⟩
    simp [Kind.elides, isField, notElidable]
  · rw [Setting.redact_of_ne_secret (sameSort ▸ isSecret)]

/-- A redacted receiver is exported like the receiver itself. -/
theorem toExport_redacted (receiver : Receiver) :
    receiver.redacted.toExport = receiver.toExport := by
  unfold toExport exportEntries redacted
  rw [List.filterMap_map]
  congr 2
  refine List.filterMap_congr fun entry member => ?_
  simp only [Function.comp_apply, elides_redact member, Setting.export?_redact]

end Entries

namespace Exportable

variable {receiver : Receiver}

/-- An exported entry converts to the redacted setting of the field it names. -/
theorem converts_of_mem
    (exportable : receiver.Exportable)
    {entry : Node × Node}
    {field : Field}
    (member : entry ∈ receiver.exportedSettings)
    (names : receiver.kind.Names field entry.1) :
    ∃ setting,
      receiver.setting? field.name = some setting ∧
        Converts field.sort entry.2 setting.redact := by
  obtain ⟨name, setting, value, inSettings, exported, rfl⟩ :=
    exists_of_mem_exportedSettings member
  cases names.2
  have found := setting?_eq_some_iff.mpr inSettings
  refine ⟨setting, found, ?_⟩
  rw [← sort_of_setting? names.1 found]
  exact Setting.converts_export
    (exportable.hasOpposites field names.1 setting found) exported

/-- The exported entries can all be read. -/
theorem exists_readGiven
    (exportable : receiver.Exportable) :
    ∃ given, receiver.kind.readGiven receiver.exportedSettings = .ok given := by
  refine Kind.readGiven_ok_iff.mpr ⟨fun entry member field names => ?_, ?_⟩
  · obtain ⟨setting, _, converts⟩ := exportable.converts_of_mem member names
    exact ⟨setting.redact, converts⟩
  · rintro ⟨field, _, twice⟩
    have once := receiver.timesNamed_le_one field.name
    omega

/-- The exported entries give every field its redacted setting. -/
theorem gives
    (exportable : receiver.Exportable)
    {field : Field}
    {setting : Setting}
    (member : field ∈ receiver.kind.schema)
    (found : receiver.setting? field.name = some setting) :
    receiver.kind.Gives receiver.exportedSettings field setting.redact := by
  constructor
  · intro entry entryMember names
    obtain ⟨other, foundOther, converts⟩ :=
      exportable.converts_of_mem entryMember names
    cases found.symm.trans foundOther
    exact converts
  · intro notNamed
    rw [Kind.setting?_initial member, Option.some.injEq, eq_comm]
    refine eq_initial_of_left_out member found ?_
    by_contra notLeftOut
    obtain ⟨notElided, hasValue⟩ := not_or.mp notLeftOut
    obtain ⟨value, exported⟩ := Option.ne_none_iff_exists'.mp hasValue
    have inSettings := setting?_eq_some_iff.mp found
    exact notNamed _
      (mem_exportedSettings inSettings (Bool.eq_false_iff.mpr notElided) exported)
      ⟨member, rfl⟩

/-- The exported entries are overlaid to the redacted receiver. -/
theorem overlay_eq_redacted
    (exportable : receiver.Exportable)
    {given : receiver.kind.Given}
    (ended : receiver.kind.readGiven receiver.exportedSettings = .ok given) :
    receiver.kind.overlay given = receiver.redacted := by
  refine ext_setting? rfl fun field member => ?_
  change field ∈ receiver.kind.schema at member
  obtain ⟨setting, found⟩ := exists_setting member
  obtain ⟨overlaid, givesOverlaid, foundOverlaid⟩ :=
    Kind.gives_of_overlay ended member
  rw [foundOverlaid, setting?_redacted, found, Option.map_some,
    (exportable.gives member found).unique member givesOverlaid]

/-- Normalising a redacted receiver changes nothing. -/
theorem normalize_redacted
    (exportable : receiver.Exportable) :
    receiver.redacted.normalize = .ok receiver.redacted := by
  by_cases isMail : receiver.kind = .email
  · refine normalize_of_canonical isMail ?_
    rw [headers_redacted isMail]
    exact exportable.canonicalHeaders isMail
  · exact normalize_of_ne_email isMail

/-- No required field of a redacted receiver is missing. -/
theorem missingField?_redacted
    (exportable : receiver.Exportable) :
    receiver.redacted.missingField? = none := by
  have complete := exportable.complete
  unfold missingField? at complete ⊢
  rw [Option.map_eq_none_iff, List.find?_eq_none] at complete ⊢
  intro field member isMissing
  change field ∈ receiver.kind.schema at member
  refine complete field member ?_
  rw [Bool.and_eq_true] at isMissing ⊢
  refine ⟨isMissing.1, ?_⟩
  have isEmpty := isMissing.2
  obtain ⟨setting, found⟩ := exists_setting member
  rw [setting?_redacted, found] at isEmpty
  rw [found]
  exact Setting.isEmpty_of_redact isEmpty

/-- The exported entries decode to the redacted receiver. -/
theorem ofEntries_exportedSettings
    (exportable : receiver.Exportable) :
    ofEntries receiver.kind receiver.exportedSettings = .ok receiver.redacted := by
  obtain ⟨given, ended⟩ := exportable.exists_readGiven
  refine ofEntries_eq_ok_iff.mpr ⟨given, ended, ?_,
    exportable.missingField?_redacted, fun entry member => ?_⟩
  · rw [exportable.overlay_eq_redacted ended]
    exact exportable.normalize_redacted
  · exact Kind.declares_iff.mpr (declares_of_mem member)

end Exportable

/-- The node of an exported receiver names its kind and leaves the other entries
to it. -/
theorem decodeTagged_toNode (receiver : Receiver) :
    decodeTagged receiver.toExport.toNode =
      ofEntries receiver.kind receiver.exportedSettings := by
  have notKindKey : ∀ entry ∈ receiver.exportedSettings,
      isKindKey entry.1 = false := by
    intro entry member
    obtain ⟨field, names⟩ := declares_of_mem member
    exact names.not_isKindKey
  rw [toNode_toExport]
  exact decodeTagged_of_only [] receiver.exportedSettings rfl rfl notKindKey

/--
An exported receiver decodes to a receiver of the same kind with the same
settings, but for the placeholder that stands for every secret, given or not.
Exporting that receiver again gives the same node.  The names of a mail's headers
have to be ASCII texts: beyond ASCII, canonical names need not stay as they are.
-/
theorem decodeTagged_toExport
    {node : Node}
    {receiver : Receiver}
    (decoded : decodeTagged node = .ok receiver)
    (ascii :
      receiver.kind = .email →
        ∀ entries, node = .mapping entries → AsciiHeaders entries) :
    ∃ again,
      decodeTagged receiver.toExport.toNode = .ok again ∧
        again.kind = receiver.kind ∧
        again.settings =
          receiver.settings.map (fun entry => (entry.1, entry.2.redact)) ∧
        again.toExport.toNode = receiver.toExport.toNode := by
  have exportable : receiver.Exportable := by
    unfold decodeTagged at decoded
    split at decoded
    · rename_i entries
      split at decoded
      · cases decoded
      · obtain ⟨kind, _, isReceiver⟩ := Outcome.bind_eq_ok_iff.mp decoded
        refine exportable_of_ofEntries isReceiver fun isMail => ?_
        have sameKind := (overlays_of_ofEntries isReceiver).sameKind
        intro entry member
        exact ascii (sameKind.trans isMail) entries rfl entry
          (List.mem_of_mem_filter member)
    · cases decoded
    · cases decoded
  refine ⟨receiver.redacted, ?_, rfl, rfl,
    congrArg Export.toNode receiver.toExport_redacted⟩
  rw [decodeTagged_toNode]
  exact exportable.ofEntries_exportedSettings

/-- A node for a mail receiver with a secret and a header in lower case. -/
def secretMailNode : Node :=
  .mapping
    [(.text "type", .text "email"),
     (.text "to", .text "ops"),
     (.text "auth_secret", .text "s"),
     (.text "headers", .mapping [(.text "x-foo", .boolean true)])]

/-- The receiver comes back with a redacted secret and the canonical header. -/
theorem decodeTagged_toExport_secretMailNode :
    ∃ receiver,
      decodeTagged secretMailNode = .ok receiver ∧
        ∃ again,
          decodeTagged receiver.toExport.toNode = .ok again ∧
            again.kind = receiver.kind ∧
            again.settings =
              receiver.settings.map (fun entry => (entry.1, entry.2.redact)) ∧
            again.toExport.toNode = receiver.toExport.toNode := by
  obtain ⟨receiver, decoded⟩ :
      ∃ receiver, decodeTagged secretMailNode = .ok receiver :=
    ⟨_, rfl⟩
  refine ⟨receiver, decoded, decodeTagged_toExport decoded fun _ entries isNode => ?_⟩
  cases isNode
  intro entry member isHeaders headers isTable header headerMember name hasText
  simp only [List.mem_cons, List.not_mem_nil, or_false] at member
  rcases member with rfl | rfl | rfl | rfl
  · cases isTable
  · cases isTable
  · cases isTable
  · cases isTable
    simp only [List.mem_cons, List.not_mem_nil, or_false] at headerMember
    subst header
    cases hasText
    decide

end Receiver

end AlertReceivers
