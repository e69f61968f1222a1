import AlertReceivers.Proofs.Receiver.Given
import AlertReceivers.Proofs.Receiver.Headers

namespace AlertReceivers

/-!
# Settings of decoded receivers

A decoded receiver has a setting for every field of its kind: the conversion of
the entry that names the field, or else the initial setting.  The headers of
mails are then put under their canonical names.
-/

/-- A node lists entries: a mapping its own, and null none. -/
inductive Node.Lists : Node → List (Node × Node) → Prop where
  | null :
      Lists .null []
  | mapping {entries : List (Node × Node)} :
      Lists (.mapping entries) entries

/-- The entries of a node are those that it lists. -/
theorem Node.entries?_eq_some_iff
    {node : Node}
    {entries : List (Node × Node)} :
    node.entries? = some entries ↔ node.Lists entries := by
  constructor
  · intro listed
    unfold entries? at listed
    split at listed
    · cases listed
      exact .null
    · cases listed
      exact .mapping
    · cases listed
  · intro lists
    cases lists <;> rfl

/-- A node without entries lists none. -/
theorem Node.entries?_eq_none_iff
    {node : Node} :
    node.entries? = none ↔ ∀ entries, ¬ node.Lists entries := by
  simp [Option.eq_none_iff_forall_ne_some, entries?_eq_some_iff]

/-- A node is decoded as the entries that it lists. -/
theorem Receiver.decode_eq_ofEntries
    {kind : Kind}
    {node : Node}
    {entries : List (Node × Node)}
    (lists : node.Lists entries) :
    decode kind node = ofEntries kind entries := by
  cases lists <;> rfl

namespace Kind

/-- The setting that entries give to a field. -/
structure Gives
    (kind : Kind)
    (entries : List (Node × Node))
    (field : Field)
    (setting : Setting) :
    Prop where
  /-- Every entry that names the field converts to the setting. -/
  named :
    ∀ entry ∈ entries, kind.Names field entry.1 →
      Converts field.sort entry.2 setting
  /-- Without such an entry, the setting is that of the initial receiver. -/
  initial :
    (∀ entry ∈ entries, ¬ kind.Names field entry.1) →
      kind.initial.setting? field.name = some setting

/-- What becomes of the setting that a field is given.  Only the headers of mails
change: they are put under their canonical names. -/
inductive Keeps
    (kind : Kind)
    (name : String) :
    Setting → Setting → Prop where
  | headers {written canonical : Dict String} :
      kind = .email →
      name = "headers" →
      Rekeys canonical written →
      Keeps kind name (.table written) (.table canonical)
  | other {setting : Setting} :
      kind ≠ .email ∨ name ≠ "headers" →
      Keeps kind name setting setting

/-- A receiver of a kind has what entries give on top of the initial settings. -/
structure Overlays
    (kind : Kind)
    (entries : List (Node × Node))
    (receiver : Receiver) :
    Prop where
  sameKind :
    receiver.kind = kind
  sameNames :
    receiver.settings.map (·.1) = kind.schema.map (·.name)
  settings :
    ∀ field ∈ kind.schema, ∃ given kept,
      kind.Gives entries field given ∧
        Keeps kind field.name given kept ∧
        receiver.setting? field.name = some kept

/-- A setting of an overlaid receiver is what becomes of a given one. -/
theorem Overlays.exists_given
    {kind : Kind}
    {entries : List (Node × Node)}
    {receiver : Receiver}
    {field : Field}
    {setting : Setting}
    (overlays : kind.Overlays entries receiver)
    (member : field ∈ kind.schema)
    (found : receiver.setting? field.name = some setting) :
    ∃ given, kind.Gives entries field given ∧ Keeps kind field.name given setting := by
  obtain ⟨given, kept, gives, keeps, foundKept⟩ := overlays.settings field member
  cases found.symm.trans foundKept
  exact ⟨given, gives, keeps⟩

/-- The headers of an overlaid mail are the given ones under canonical names. -/
theorem Overlays.rekeys_headers
    {entries : List (Node × Node)}
    {receiver : Receiver}
    (overlays : email.Overlays entries receiver) :
    ∃ written,
      email.Gives entries headersField (.table written) ∧
        Rekeys receiver.headers written := by
  obtain ⟨given, gives, keeps⟩ :=
    overlays.exists_given headersField_mem_schema
      (Receiver.setting?_headers overlays.sameKind)
  cases keeps with
  | @headers written _ _ _ rekeys =>
      exact ⟨written, gives, rekeys⟩
  | other notHeaders =>
      simp [headersField] at notHeaders

/-- An overlaid receiver has the given settings, and initial ones otherwise. -/
theorem setting?_overlay
    {kind : Kind}
    {field : Field}
    (given : kind.Given)
    (member : field ∈ kind.schema) :
    (kind.overlay given).setting? field.name =
      some ((given.settings.lookup field.name).getD field.initial) :=
  kind.lookup_map_schema
    (fun field => (given.settings.lookup field.name).getD field.initial) member

/-- The settings of an overlaid receiver are those that the entries give. -/
theorem gives_of_overlay
    {kind : Kind}
    {entries : List (Node × Node)}
    {given : kind.Given}
    {field : Field}
    (ended : kind.readGiven entries = .ok given)
    (member : field ∈ kind.schema) :
    ∃ setting,
      kind.Gives entries field setting ∧
        (kind.overlay given).setting? field.name = some setting := by
  have reads := reads_of_readEntries (by simp [AtMostOnce]) (readGiven_eq_ok_iff.mp ended)
  refine ⟨(given.settings.lookup field.name).getD field.initial, ?_,
    setting?_overlay given member⟩
  constructor
  · intro entry entryMember names
    obtain ⟨setting, converts, found⟩ :=
      reads.converted entry entryMember field names
    rw [found]
    exact converts
  · intro notNamed
    have absent : timesNamed entries field.name = 0 :=
      timesNamed_eq_zero_iff.mpr fun entry entryMember named =>
        notNamed entry entryMember ⟨member, named⟩
    rw [reads.untouched field.name absent]
    exact setting?_initial member

/-- A node converts to one setting of a sort only. -/
theorem converts_unique
    {sort : SettingSort}
    {value : Node}
    {first second : Setting}
    (convertsFirst : Converts sort value first)
    (convertsSecond : Converts sort value second) :
    first = second :=
  Except.ok.inj <|
    (SettingSort.read_eq_ok_iff.mpr convertsFirst).symm.trans
      (SettingSort.read_eq_ok_iff.mpr convertsSecond)

/-- A given setting is converted from an entry, or is the initial one. -/
theorem Gives.source
    {kind : Kind}
    {entries : List (Node × Node)}
    {field : Field}
    {setting : Setting}
    (member : field ∈ kind.schema)
    (gives : kind.Gives entries field setting) :
    (∃ entry ∈ entries,
      kind.Names field entry.1 ∧ Converts field.sort entry.2 setting) ∨
      (∀ entry ∈ entries, ¬ kind.Names field entry.1) ∧
        setting = field.initial := by
  by_cases named : ∃ entry ∈ entries, kind.Names field entry.1
  · obtain ⟨entry, entryMember, names⟩ := named
    exact .inl ⟨entry, entryMember, names, gives.named entry entryMember names⟩
  · have notNamed : ∀ entry ∈ entries, ¬ kind.Names field entry.1 :=
      fun entry entryMember names => named ⟨entry, entryMember, names⟩
    have isInitial := gives.initial notNamed
    rw [setting?_initial member] at isInitial
    exact .inr ⟨notNamed, (Option.some.inj isInitial).symm⟩

/-- Entries give a field at most one setting. -/
theorem Gives.unique
    {kind : Kind}
    {entries : List (Node × Node)}
    {field : Field}
    {first second : Setting}
    (member : field ∈ kind.schema)
    (givesFirst : kind.Gives entries field first)
    (givesSecond : kind.Gives entries field second) :
    first = second := by
  rcases givesFirst.source member with
    ⟨entry, entryMember, names, converts⟩ | ⟨notNamed, rfl⟩
  · exact converts_unique converts (givesSecond.named entry entryMember names)
  · have isInitial := givesSecond.initial notNamed
    rw [setting?_initial member] at isInitial
    exact Option.some.inj isInitial

/-- What is given for a field has its sort. -/
theorem Gives.sort_eq
    {kind : Kind}
    {entries : List (Node × Node)}
    {field : Field}
    {setting : Setting}
    (member : field ∈ kind.schema)
    (gives : kind.Gives entries field setting) :
    setting.sort = field.sort := by
  rcases gives.source member with ⟨_, _, _, converts⟩ | ⟨_, rfl⟩
  · exact converts.sort_eq
  · rfl

/-- Entries name a header, in a mapping that they give to the headers of a mail. -/
def NamesHeader
    (entries : List (Node × Node))
    (name : String) :
    Prop :=
  ∃ entry ∈ entries, email.Names headersField entry.1 ∧
    ∃ headers, entry.2 = .mapping headers ∧
      ∃ header ∈ headers, header.1.scalarText? = some name

/-- The names of given headers are those that the entries name. -/
theorem Gives.namesHeader
    {entries : List (Node × Node)}
    {written : Dict String}
    {name : String}
    (gives : email.Gives entries headersField (.table written))
    (isName : name ∈ written.keys) :
    NamesHeader entries name := by
  obtain ⟨value, found⟩ := Dict.mem_keys_iff.mp isName
  rcases gives.source headersField_mem_schema with
    ⟨entry, entryMember, names, converts⟩ | ⟨_, isInitial⟩
  · generalize isValue : entry.2 = node at converts
    cases converts with
    | emptyTable =>
        cases found
    | @table headers _ _ texts =>
        rw [texts, lastText?] at found
        obtain ⟨header, isHeader, _⟩ := Option.bind_eq_some_iff.mp found
        have headerMember := List.mem_reverse.mp (List.mem_of_find?_eq_some isHeader)
        have hasText : header.1.scalarText? = some name := by
          simpa using List.find?_some isHeader
        exact ⟨entry, entryMember, names, headers, isValue, header, headerMember, hasText⟩
  · cases isInitial
    cases found

/-- Normalising keeps the settings, up to the names of the headers of mails. -/
theorem keeps_of_normalize
    {receiver result : Receiver}
    {name : String}
    {setting : Setting}
    (normalized : receiver.normalize = .ok result)
    (found : receiver.setting? name = some setting) :
    ∃ kept,
      Keeps receiver.kind name setting kept ∧
        result.setting? name = some kept := by
  by_cases isHeaders : receiver.kind = .email ∧ name = "headers"
  · obtain ⟨isMail, rfl⟩ := isHeaders
    cases (Receiver.setting?_headers isMail).symm.trans found
    rw [Receiver.normalize_of_eq_email isMail] at normalized
    split at normalized
    · rename_i canonical rekeyed
      cases normalized
      refine ⟨.table canonical,
        .headers isMail rfl (rekeys_of_rekeyHeaders rekeyed), ?_⟩
      simp [Receiver.setting?_withHeaders, found]
    · cases normalized
  · have otherwise : receiver.kind ≠ .email ∨ name ≠ "headers" :=
      not_and_or.mp isHeaders
    refine ⟨setting, .other otherwise, ?_⟩
    rw [(Receiver.frame_of_normalize normalized).2 name otherwise, found]

end Kind

namespace Receiver

/-- The check for required fields passes if no field is missing. -/
theorem checkRequired_eq_ok_iff
    {receiver : Receiver} :
    receiver.checkRequired = .ok () ↔ receiver.missingField? = none := by
  unfold checkRequired
  cases receiver.missingField? <;> simp

/-- The check for unknown keys passes if the kind declares every key. -/
theorem checkKnown_eq_ok_iff
    {kind : Kind}
    {entries : List (Node × Node)} :
    checkKnown kind (kind.unknownKeys entries) = .ok () ↔
      ∀ entry ∈ entries, kind.declares entry.1 = true := by
  have noneUnknown :
      (kind.unknownKeys entries).isEmpty = true ↔
        ∀ entry ∈ entries, kind.declares entry.1 = true := by
    simp [Kind.unknownKeys]
  unfold checkKnown
  split
  · rename_i isEmpty
    exact iff_of_true rfl (noneUnknown.mp isEmpty)
  · rename_i notEmpty
    exact iff_of_false (by simp) (fun known => notEmpty (noneUnknown.mpr known))

/-- The entries of a node decode to a receiver exactly if every step of decoding
succeeds. -/
theorem ofEntries_eq_ok_iff
    {kind : Kind}
    {entries : List (Node × Node)}
    {receiver : Receiver} :
    ofEntries kind entries = .ok receiver ↔
      ∃ given,
        kind.readGiven entries = .ok given ∧
          (kind.overlay given).normalize = .ok receiver ∧
          receiver.missingField? = none ∧
          ∀ entry ∈ entries, kind.declares entry.1 = true := by
  unfold ofEntries
  rw [Kind.readGiven_filter fun _ => id]
  simp only [Outcome.bind_eq_ok_iff, Outcome.ofExcept_eq_ok_iff]
  constructor
  · rintro ⟨given, ended, result, normalized, _, required, _, known, same⟩
    cases same
    exact ⟨given, ended, normalized, checkRequired_eq_ok_iff.mp required,
      checkKnown_eq_ok_iff.mp known⟩
  · rintro ⟨given, ended, normalized, required, known⟩
    exact ⟨given, ended, receiver, normalized,
      (), checkRequired_eq_ok_iff.mpr required,
      (), checkKnown_eq_ok_iff.mpr known, rfl⟩

/-- A receiver that is overlaid and normalised has the settings that the entries
give. -/
theorem overlays_of_normalize
    {kind : Kind}
    {entries : List (Node × Node)}
    {given : kind.Given}
    {receiver : Receiver}
    (ended : kind.readGiven entries = .ok given)
    (normalized : (kind.overlay given).normalize = .ok receiver) :
    kind.Overlays entries receiver := by
  obtain ⟨sameKind, _⟩ := frame_of_normalize normalized
  change receiver.kind = kind at sameKind
  refine ⟨sameKind, sameKind ▸ receiver.names_settings, fun field member => ?_⟩
  obtain ⟨setting, gives, found⟩ := Kind.gives_of_overlay ended member
  obtain ⟨kept, keeps, foundKept⟩ := Kind.keeps_of_normalize normalized found
  exact ⟨setting, kept, gives, keeps, foundKept⟩

/-- A receiver that is decoded from entries has the settings that they give. -/
theorem overlays_of_ofEntries
    {kind : Kind}
    {entries : List (Node × Node)}
    {receiver : Receiver}
    (decoded : ofEntries kind entries = .ok receiver) :
    kind.Overlays entries receiver := by
  obtain ⟨given, ended, normalized, _, _⟩ := ofEntries_eq_ok_iff.mp decoded
  exact overlays_of_normalize ended normalized

/--
Every setting of a decoded receiver is the one that the node's entries give to its
field: the conversion of the entry that names the field, whatever tags are around
its key, and otherwise the initial setting of the kind.  Headers of mails are kept
under their canonical names.
-/
theorem overlays_of_decode
    {kind : Kind}
    {node : Node}
    {receiver : Receiver}
    (decoded : decode kind node = .ok receiver) :
    ∃ entries, node.Lists entries ∧ kind.Overlays entries receiver := by
  unfold decode at decoded
  split at decoded
  · rename_i entries listed
    exact ⟨entries, Node.entries?_eq_some_iff.mp listed,
      overlays_of_ofEntries decoded⟩
  · cases decoded

/-- A node for a mail receiver, with a tag around a key and a header in lower
case. -/
def mailNode : Node :=
  .mapping
    [(.tagged "key" (.text "to"), .text "ops"),
     (.text "headers", .mapping [(.text "x-foo", .boolean true)])]

/-- A tag around the key of a field hides no entry of it. -/
theorem overlays_of_decode_mailNode :
    ∃ receiver,
      decode .email mailNode = .ok receiver ∧
        receiver.setting? "headers" =
          some (.table (.ofList [("X-Foo", "true")])) ∧
        ∃ entries,
          mailNode.Lists entries ∧ Kind.email.Overlays entries receiver :=
  ⟨_, rfl, rfl, overlays_of_decode rfl⟩

/-- The entries of a node for a mail with headers. -/
def headersEntries (pairs : List (Node × Node)) : List (Node × Node) :=
  [(.text "to", .text "ops"), (.text "headers", .mapping pairs)]

end Receiver

end AlertReceivers
