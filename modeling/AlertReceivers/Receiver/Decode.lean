import AlertReceivers.Receiver.Export
import AlertReceivers.Receiver.Headers

namespace AlertReceivers

/-!
# Decoding

A node becomes a receiver in steps.  The entries that the kind declares are read
one after another; fields they do not mention keep their initial settings.  Then
headers are normalised and required fields are checked.  Undeclared keys are
refused last, so that a bad or missing value is reported before a misspelt key.
-/

/-- The entries of a node.  Null counts as a mapping without entries. -/
def Node.entries? : Node → Option (List (Node × Node))
  | .null =>
      some []
  | .mapping entries =>
      some entries
  | _ =>
      none

namespace Kind

/-- Whether a key names a field of the kind. -/
def declares
    (kind : Kind)
    (key : Node) :
    Bool :=
  (kind.fieldOf? key).isSome

/-- Read entries onto the settings given so far.  A field is given at most once,
and undeclared keys are passed over. -/
def readEntries
    (kind : Kind)
    (given : List (String × Setting)) :
    List (Node × Node) → Outcome SettingError (List (String × Setting))
  | [] =>
      .ok given
  | (key, value) :: rest =>
      match kind.fieldOf? key with
      | none =>
          kind.readEntries given rest
      | some field =>
          if (given.lookup field.name).isSome then
            .refuse (.duplicateField field.name)
          else do
            let setting ← field.sort.read value
            kind.readEntries ((field.name, setting) :: given) rest

/-- Every setting that a list gives to a field has the field's sort. -/
def WellSorted
    (kind : Kind)
    (given : List (String × Setting)) :
    Prop :=
  ∀ field ∈ kind.schema, ∀ setting,
    given.lookup field.name = some setting → setting.sort = field.sort

/-- Reading entries keeps the settings well sorted. -/
theorem wellSorted_of_readEntries
    {kind : Kind}
    {given result : List (String × Setting)}
    {entries : List (Node × Node)}
    (wellSorted : kind.WellSorted given)
    (reads : kind.readEntries given entries = .ok result) :
    kind.WellSorted result := by
  induction entries generalizing given with
  | nil =>
      cases reads
      exact wellSorted
  | cons entry rest inductionHypothesis =>
      unfold readEntries at reads
      split at reads
      · exact inductionHypothesis wellSorted reads
      · rename_i field named
        split at reads
        · cases reads
        · cases read : field.sort.read entry.2 with
          | error failure =>
              rw [read] at reads
              cases reads
          | ok setting =>
              rw [read] at reads
              refine inductionHypothesis (fun other member found isFound => ?_) reads
              rw [List.lookup_cons] at isFound
              split at isFound
              · rename_i sameName
                cases isFound
                have isField : field ∈ kind.schema := by
                  obtain ⟨name, _, isNamed⟩ := Option.bind_eq_some_iff.mp named
                  exact List.mem_of_find?_eq_some isNamed
                rw [eq_of_name_eq member isField (eq_of_beq sameName)]
                exact SettingSort.sort_of_read read
              · exact wellSorted other member found isFound

/-- The settings that entries gave to fields of a kind. -/
structure Given (kind : Kind) where
  /-- The settings by field name. -/
  settings : List (String × Setting)
  wellSorted : kind.WellSorted settings

/-- Find the first entry that cannot be read alone.  If there is none, the error
of the whole node stands. -/
def locate
    (kind : Kind)
    (whole : SettingError) :
    List (Node × Node) → Failure DecodeError
  | [] =>
      .refused (.malformed kind .node whole)
  | entry :: rest =>
      match kind.readEntries [] [entry] with
      | .ok _ =>
          kind.locate whole rest
      | .error failure =>
          failure.map (.malformed kind (.entry entry.1.describeKey))

/-- The settings that a run over all entries ends with. -/
def readAll
    (kind : Kind)
    (entries : List (Node × Node)) :
    Outcome SettingError kind.Given :=
  match ended : kind.readEntries [] entries with
  | .ok settings =>
      .ok ⟨settings, wellSorted_of_readEntries (fun _ _ _ found => by cases found) ended⟩
  | .error failure =>
      .error failure

/-- The settings that entries give. -/
def readGiven
    (kind : Kind)
    (entries : List (Node × Node)) :
    Outcome DecodeError kind.Given :=
  match kind.readAll entries with
  | .ok given =>
      .ok given
  | .error (.refused error) =>
      .error (kind.locate error entries)
  | .error .aborted =>
      .error .aborted

/-- The receiver with the given settings and the initial ones for other fields. -/
def overlay
    (kind : Kind)
    (given : kind.Given) :
    Receiver where
  kind :=
    kind
  settings :=
    kind.schema.map fun field =>
      (field.name, (given.settings.lookup field.name).getD field.initial)
  followsSchema := by
    rw [List.map_map]
    refine List.map_congr_left fun field member => ?_
    cases found : given.settings.lookup field.name with
    | none =>
        simp only [Function.comp_apply, found, Option.getD_none]
        rfl
    | some setting =>
        simp only [Function.comp_apply, found, Option.getD_some,
          given.wellSorted field member setting found]

/-- The keys that name no field, as messages describe them. -/
def unknownKeys
    (kind : Kind)
    (entries : List (Node × Node)) :
    List String :=
  (entries.filter fun entry => !kind.declares entry.1).map fun entry => entry.1.describeKey

end Kind

namespace Receiver

/-- Refuse keys that name no field. -/
def checkKnown
    (kind : Kind)
    (keys : List String) :
    Except DecodeError Unit :=
  if keys.isEmpty then
    .ok ()
  else
    .error (.unknownFields kind keys)

/-- Decode the entries of a node as a receiver of a kind. -/
def ofEntries
    (kind : Kind)
    (entries : List (Node × Node)) :
    Outcome DecodeError Receiver := do
  let given ← kind.readGiven (entries.filter fun entry => kind.declares entry.1)
  let receiver ← Outcome.ofExcept (kind.overlay given).normalize
  Outcome.ofExcept receiver.checkRequired
  Outcome.ofExcept (checkKnown kind (kind.unknownKeys entries))
  .ok receiver

/-- Decode a node as a receiver of a kind. -/
def decode
    (kind : Kind)
    (node : Node) :
    Outcome DecodeError Receiver :=
  match node.entries? with
  | some entries =>
      ofEntries kind entries
  | none =>
      .refuse (.notAMapping (some kind) node.shape)

/-- Whether a key reads as the one that names the kind. -/
def isKindKey (key : Node) : Bool :=
  key.asText? == some kindKey

/-- The value under the last key that reads as the one that names the kind. -/
def kindNode? (entries : List (Node × Node)) : Option Node :=
  ((entries.filter fun entry => isKindKey entry.1).getLast?).map (·.2)

/-- The kind that a node names. -/
def readKind (node : Node) : Except DecodeError Kind :=
  match node.asText? with
  | none =>
      .error (.unknownKind node.describeKey)
  | some name =>
      match Kind.ofName? name with
      | some kind =>
          .ok kind
      | none =>
          .error (.unknownKind name)

/-- Decode a node that names its own kind.  All other entries are decoded as they
are. -/
def decodeTagged (node : Node) : Outcome DecodeError Receiver :=
  match node with
  | .mapping entries =>
      match kindNode? entries with
      | none =>
          .refuse .missingKind
      | some value => do
          let kind ← Outcome.ofExcept (readKind value)
          ofEntries kind (entries.filter fun entry => !isKindKey entry.1)
  | .null =>
      .refuse .missingKind
  | other =>
      .refuse (.notAMapping none other.shape)

end Receiver

end AlertReceivers
