import AlertReceivers.Proofs.Receiver.Conversion
import AlertReceivers.Proofs.Receiver.Schema

namespace AlertReceivers

/-!
# Reading the entries of a node

The entries of a node are read in order onto the settings given so far.  Reading
succeeds exactly if every declared entry converts and no field is named twice.
Otherwise the first entry that does not convert decides how reading ends.
-/

namespace Kind

/-- An entry fits a kind unless its key is declared and its value does not convert. -/
def Fits
    (kind : Kind)
    (entry : Node × Node) :
    Prop :=
  ∀ field, kind.Names field entry.1 →
    ∃ setting, Converts field.sort entry.2 setting

/-- How many of the entries have a key of a name. -/
def timesNamed
    (entries : List (Node × Node))
    (name : String) :
    Nat :=
  entries.countP fun entry => entry.1.asText? == some name

/-- Two entries name the same field. -/
def Repeats
    (kind : Kind)
    (entries : List (Node × Node)) :
    Prop :=
  ∃ field ∈ kind.schema, 2 ≤ timesNamed entries field.name

/--
The first entry that does not fit holds a span whose text cannot be read to the
end.
-/
inductive GivesUp (kind : Kind) : List (Node × Node) → Prop where
  | here
      {key value : Node}
      {rest : List (Node × Node)}
      {field : Field}
      {written : String} :
      kind.Names field key →
      field.sort = .span →
      value.scalarText? = some written →
      Span.read written = .error .aborted →
      GivesUp kind ((key, value) :: rest)
  | later
      {entry : Node × Node}
      {rest : List (Node × Node)} :
      kind.Fits entry →
      GivesUp kind rest →
      GivesUp kind (entry :: rest)

/-- An entry that no field has fits the kind. -/
theorem fits_of_fieldOf?_eq_none
    {kind : Kind}
    {entry : Node × Node}
    (unknown : kind.fieldOf? entry.1 = none) :
    kind.Fits entry :=
  fun field names => (fieldOf?_eq_none_iff.mp unknown field names).elim

/-- A declared entry fits exactly if its value can be read. -/
theorem fits_iff_read_ok
    {kind : Kind}
    {entry : Node × Node}
    {field : Field}
    (names : kind.Names field entry.1) :
    kind.Fits entry ↔ ∃ setting, field.sort.read entry.2 = .ok setting := by
  simp only [SettingSort.read_eq_ok_iff]
  constructor
  · intro fits
    exact fits field names
  · intro converts other namesOther
    rw [namesOther.unique names]
    exact converts

/-- An entry that no field has is not read. -/
theorem readEntries_cons_of_none
    {kind : Kind}
    {given : List (String × Setting)}
    {entry : Node × Node}
    {rest : List (Node × Node)}
    (unknown : kind.fieldOf? entry.1 = none) :
    kind.readEntries given (entry :: rest) = kind.readEntries given rest := by
  simp only [readEntries, unknown]

/-- An entry of a field is read for it, if the field was not given before. -/
theorem readEntries_cons_of_some
    {kind : Kind}
    {given : List (String × Setting)}
    {entry : Node × Node}
    {rest : List (Node × Node)}
    {field : Field}
    (named : kind.fieldOf? entry.1 = some field) :
    kind.readEntries given (entry :: rest) =
      if (given.lookup field.name).isSome then
        .refuse (.duplicateField field.name)
      else
        field.sort.read entry.2 >>= fun setting =>
          kind.readEntries ((field.name, setting) :: given) rest := by
  simp only [readEntries, named]

/-- Leaving out entries that the kind does not declare changes nothing. -/
theorem readEntries_filter
    {kind : Kind}
    {keep : Node × Node → Bool}
    (keepsDeclared : ∀ entry, kind.declares entry.1 = true → keep entry = true)
    (given : List (String × Setting))
    (entries : List (Node × Node)) :
    kind.readEntries given (entries.filter keep) =
      kind.readEntries given entries := by
  induction entries generalizing given with
  | nil =>
      rfl
  | cons entry rest inductionHypothesis =>
      cases named : kind.fieldOf? entry.1 with
      | none =>
          rw [readEntries_cons_of_none named, List.filter_cons]
          split
          · rw [readEntries_cons_of_none named, inductionHypothesis]
          · exact inductionHypothesis given
      | some field =>
          have kept : keep entry = true :=
            keepsDeclared entry (by simp [declares, named])
          rw [List.filter_cons, if_pos kept,
            readEntries_cons_of_some named, readEntries_cons_of_some named]
          simp only [inductionHypothesis]

/-- An entry that no field has is no place of a failure. -/
theorem locate_cons_of_none
    {kind : Kind}
    {whole : SettingError}
    {entry : Node × Node}
    {rest : List (Node × Node)}
    (unknown : kind.fieldOf? entry.1 = none) :
    kind.locate whole (entry :: rest) = kind.locate whole rest := by
  rw [locate, readEntries_cons_of_none unknown]
  rfl

/-- An entry of a field is the place of a failure if it cannot be read alone. -/
theorem locate_cons_of_some
    {kind : Kind}
    {whole : SettingError}
    {entry : Node × Node}
    {rest : List (Node × Node)}
    {field : Field}
    (named : kind.fieldOf? entry.1 = some field) :
    kind.locate whole (entry :: rest) =
      match field.sort.read entry.2 with
      | .ok _ =>
          kind.locate whole rest
      | .error failure =>
          failure.map (.malformed kind (.entry entry.1.describeKey)) := by
  rw [locate, readEntries_cons_of_some named]
  cases field.sort.read entry.2 <;> rfl

/-- Leaving out entries that the kind does not declare keeps the first one that
cannot be read. -/
theorem locate_filter
    {kind : Kind}
    {keep : Node × Node → Bool}
    (keepsDeclared : ∀ entry, kind.declares entry.1 = true → keep entry = true)
    (whole : SettingError)
    (entries : List (Node × Node)) :
    kind.locate whole (entries.filter keep) = kind.locate whole entries := by
  induction entries with
  | nil =>
      rfl
  | cons entry rest inductionHypothesis =>
      cases named : kind.fieldOf? entry.1 with
      | none =>
          rw [locate_cons_of_none named, List.filter_cons]
          split
          · rw [locate_cons_of_none named, inductionHypothesis]
          · exact inductionHypothesis
      | some field =>
          have kept : keep entry = true :=
            keepsDeclared entry (by simp [declares, named])
          rw [List.filter_cons, if_pos kept,
            locate_cons_of_some named, locate_cons_of_some named,
            inductionHypothesis]

/-- A run over all entries ends with what reading them onto nothing gives. -/
theorem readAll_eq_ok_iff
    {kind : Kind}
    {entries : List (Node × Node)}
    {given : kind.Given} :
    kind.readAll entries = .ok given ↔
      kind.readEntries [] entries = .ok given.settings := by
  obtain ⟨settings, wellSorted⟩ := given
  unfold readAll
  split
  · rename_i result ended
    simp [ended]
  · rename_i failure ended
    simp [ended]

/-- What reading entries onto nothing gives is what a run over all of them ends with. -/
theorem exists_readAll
    {kind : Kind}
    {entries : List (Node × Node)}
    {settings : List (String × Setting)}
    (ended : kind.readEntries [] entries = .ok settings) :
    ∃ given : kind.Given, given.settings = settings ∧ kind.readAll entries = .ok given :=
  ⟨⟨settings, wellSorted_of_readEntries (fun _ _ _ found => by cases found) ended⟩, rfl,
    readAll_eq_ok_iff.mpr ended⟩

/-- A run over all entries fails as reading them onto nothing does. -/
theorem readAll_eq_error_iff
    {kind : Kind}
    {entries : List (Node × Node)}
    {failure : Failure SettingError} :
    kind.readAll entries = .error failure ↔
      kind.readEntries [] entries = .error failure := by
  unfold readAll
  split
  · rename_i result ended
    simp [ended]
  · rename_i other ended
    simp [ended]

/-- Leaving out entries that the kind does not declare does not change a run over all. -/
theorem readAll_filter
    {kind : Kind}
    {keep : Node × Node → Bool}
    (keepsDeclared : ∀ entry, kind.declares entry.1 = true → keep entry = true)
    (entries : List (Node × Node)) :
    kind.readAll (entries.filter keep) = kind.readAll entries := by
  have sameRun := readEntries_filter keepsDeclared [] entries
  cases ended : kind.readAll entries with
  | ok given =>
      exact readAll_eq_ok_iff.mpr (sameRun.trans (readAll_eq_ok_iff.mp ended))
  | error failure =>
      exact readAll_eq_error_iff.mpr (sameRun.trans (readAll_eq_error_iff.mp ended))

/-- Only the entries that the kind declares matter for what a node gives. -/
theorem readGiven_filter
    {kind : Kind}
    {keep : Node × Node → Bool}
    (keepsDeclared : ∀ entry, kind.declares entry.1 = true → keep entry = true)
    (entries : List (Node × Node)) :
    kind.readGiven (entries.filter keep) = kind.readGiven entries := by
  simp only [readGiven, readAll_filter keepsDeclared, locate_filter keepsDeclared]

end Kind

end AlertReceivers
