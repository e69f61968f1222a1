import AlertReceivers.Proofs.Receiver.Verdict

namespace AlertReceivers

/-!
# Where values are malformed

Entries that cannot be read together are read once more, each of them alone.  The error
is about the first one that cannot be read alone, whatever went wrong with all of them.
If each can be read alone, two of them name the same field.
-/

namespace Kind

/-- An entry is the first one that does not fit. -/
def FirstMisfit
    (kind : Kind)
    (entries : List (Node × Node))
    (entry : Node × Node) :
    Prop :=
  ∃ earlier later,
    entries = earlier ++ entry :: later ∧
      (∀ other ∈ earlier, kind.Fits other) ∧
      ¬ kind.Fits entry

/-- A field is the first one that is named again. -/
def FirstRepeated
    (kind : Kind)
    (entries : List (Node × Node))
    (field : Field) :
    Prop :=
  ∃ earlier entry later,
    entries = earlier ++ entry :: later ∧
      kind.Names field entry.1 ∧
      timesNamed earlier field.name = 1 ∧
      ¬ kind.Repeats earlier

/-- A place and a cause are those of what is wrong with entries. -/
structure Locates
    (kind : Kind)
    (entries : List (Node × Node))
    (place : Place)
    (cause : SettingError) :
    Prop where
  /-- The first entry that does not fit is named as its key, and the cause is that of its
  value alone. -/
  misfit :
    (∃ entry ∈ entries, ¬ kind.Fits entry) →
      ∃ entry field,
        kind.FirstMisfit entries entry ∧
          kind.Names field entry.1 ∧
          place.phrase = entry.1.describeKey ∧
          field.sort.read entry.2 = .refuse cause ∧
          Receiver.decode kind (.mapping [entry]) = .refuse (.malformed kind place cause)
  /-- The whole node is named only if every entry fits. -/
  wholeNode :
    place.phrase = "<node>" ↔ ∀ entry ∈ entries, kind.Fits entry
  /-- If every entry fits, a field is named again. -/
  repeated :
    (∀ entry ∈ entries, kind.Fits entry) →
      ∃ field, kind.FirstRepeated entries field ∧ cause = .duplicateField field.name

/-- A place tells which field is malformed, or that no single one is. -/
def Attributes
    (kind : Kind)
    (place : Place) :
    Prop :=
  (∃ field ∈ kind.schema, place.phrase = field.name) ∨ place.phrase = "<node>"

/-- The first entry that does not fit has a tag around its key. -/
def TagsMisfit
    (kind : Kind)
    (entries : List (Node × Node)) :
    Prop :=
  ∃ entry, kind.FirstMisfit entries entry ∧ entry.1.shape = .tagged

section Keys

variable {kind : Kind}
variable {field : Field}
variable {key : Node}

/-- A key that names a field is the field's name, or has tags around it. -/
theorem Names.eq_text_or_tagged
    (names : kind.Names field key) :
    key = .text field.name ∨ key.shape = .tagged := by
  obtain ⟨_, isText⟩ := names
  cases key with
  | text name =>
      exact .inl (congrArg Node.text (Option.some.inj isText))
  | tagged _ _ =>
      exact .inr rfl
  | null | boolean | number | sequence | mapping =>
      cases isText

theorem describeKey_of_tagged
    (isTagged : key.shape = .tagged) :
    key.describeKey = "<a tagged value key>" := by
  cases key with
  | tagged _ _ =>
      rfl
  | text | null | boolean | number | sequence | mapping =>
      cases isTagged

/-- No field is named like what stands for a tagged key, or for the whole node. -/
theorem name_ne_phrase
    (member : field ∈ kind.schema) :
    field.name ≠ "<a tagged value key>" ∧ field.name ≠ "<node>" := by
  have everyName :
      ∀ field ∈ kind.schema,
        field.name ≠ "<a tagged value key>" ∧ field.name ≠ "<node>" := by
    cases kind <;> decide
  exact everyName field member

theorem Names.describeKey_ne_node
    (names : kind.Names field key) :
    key.describeKey ≠ "<node>" := by
  rcases names.eq_text_or_tagged with rfl | isTagged
  · exact (name_ne_phrase names.1).2
  · rw [describeKey_of_tagged isTagged]
    decide

end Keys

section Misfits

variable {kind : Kind}
variable {entries earlier later : List (Node × Node)}
variable {entry : Node × Node}

/-- The first entry that does not fit is what a search for it finds. -/
theorem firstMisfit_iff
    [DecidablePred kind.Fits] :
    kind.FirstMisfit entries entry ↔
      (entries.find? fun entry => !decide (kind.Fits entry)) = some entry := by
  rw [List.find?_eq_some_iff_append]
  constructor
  · rintro ⟨earlier, later, shape, fits, misfit⟩
    exact ⟨by simpa using misfit, earlier, later, shape, by simpa using fits⟩
  · rintro ⟨misfit, earlier, later, shape, fits⟩
    exact ⟨earlier, later, shape, by simpa using fits, by simpa using misfit⟩

theorem FirstMisfit.unique
    {other : Node × Node}
    (first : kind.FirstMisfit entries entry)
    (second : kind.FirstMisfit entries other) :
    entry = other := by
  classical
  rw [firstMisfit_iff] at first second
  exact Option.some.inj (first.symm.trans second)

theorem exists_firstMisfit
    (someMisfit : ∃ entry ∈ entries, ¬ kind.Fits entry) :
    ∃ entry, kind.FirstMisfit entries entry := by
  classical
  simp only [firstMisfit_iff]
  refine Option.isSome_iff_exists.mp (List.find?_isSome.mpr ?_)
  simpa using someMisfit

theorem FirstMisfit.exists_not_fits
    (first : kind.FirstMisfit entries entry) :
    ∃ other ∈ entries, ¬ kind.Fits other := by
  obtain ⟨earlier, later, rfl, _, misfit⟩ := first
  exact ⟨entry, by simp, misfit⟩

/-- An entry that does not fit has a field, and its value cannot be read. -/
theorem exists_read_error
    (misfit : ¬ kind.Fits entry) :
    ∃ field failure,
      kind.Names field entry.1 ∧ field.sort.read entry.2 = .error failure := by
  cases named : kind.fieldOf? entry.1 with
  | none =>
      exact (misfit (fits_of_fieldOf?_eq_none named)).elim
  | some field =>
      have names := fieldOf?_eq_some_iff.mp named
      cases read : field.sort.read entry.2 with
      | ok setting =>
          exact (misfit ((fits_iff_read_ok names).mpr ⟨setting, read⟩)).elim
      | error failure =>
          exact ⟨field, failure, names, read⟩

/-- Entries that fit are passed over in the search for one that cannot be read. -/
theorem locate_append
    (fits : ∀ entry ∈ earlier, kind.Fits entry)
    (whole : SettingError)
    (later : List (Node × Node)) :
    kind.locate whole (earlier ++ later) = kind.locate whole later := by
  induction earlier with
  | nil =>
      rfl
  | cons entry rest inductionHypothesis =>
      obtain ⟨entryFits, restFits⟩ := List.forall_mem_cons.mp fits
      rw [List.cons_append, ← inductionHypothesis restFits]
      cases named : kind.fieldOf? entry.1 with
      | none =>
          exact locate_cons_of_none named
      | some field =>
          obtain ⟨setting, read⟩ :=
            (fits_iff_read_ok (fieldOf?_eq_some_iff.mp named)).mp entryFits
          rw [locate_cons_of_some named, read]

theorem locate_of_fits
    (fits : ∀ entry ∈ entries, kind.Fits entry)
    (whole : SettingError) :
    kind.locate whole entries = .refused (.malformed kind .node whole) := by
  have passed := locate_append fits whole []
  rwa [List.append_nil] at passed

/-- The search ends at the first entry that does not fit. -/
theorem FirstMisfit.locate_eq
    {field : Field}
    {failure : Failure SettingError}
    (first : kind.FirstMisfit entries entry)
    (names : kind.Names field entry.1)
    (read : field.sort.read entry.2 = .error failure)
    (whole : SettingError) :
    kind.locate whole entries =
      failure.map (.malformed kind (.entry entry.1.describeKey)) := by
  obtain ⟨earlier, later, rfl, fits, _⟩ := first
  rw [locate_append fits, locate_cons_of_some (fieldOf?_eq_some_iff.mpr names), read]

/-- An entry whose value is refused is refused alone for the same reason. -/
theorem readGiven_singleton
    {field : Field}
    {cause : SettingError}
    (names : kind.Names field entry.1)
    (read : field.sort.read entry.2 = .refuse cause) :
    kind.readGiven [entry] =
      .refuse (.malformed kind (.entry entry.1.describeKey) cause) := by
  have named := fieldOf?_eq_some_iff.mpr names
  have ended : kind.readAll [entry] = .error (.refused cause) := by
    rw [readAll_eq_error_iff, readEntries_cons_of_some named, read]
    rfl
  simp only [readGiven, ended, locate_cons_of_some named, read]
  rfl

end Misfits

section Repetitions

/-- After settings that were given and entries that were read, an entry is the first one
whose field is given again. -/
structure RepeatsAt
    (kind : Kind)
    (given : List (String × Setting))
    (earlier : List (Node × Node))
    (entry : Node × Node)
    (field : Field) :
    Prop where
  names :
    kind.Names field entry.1
  once :
    given.countP (·.1 == field.name) + timesNamed earlier field.name = 1
  atMostOnce :
    ∀ other ∈ kind.schema,
      given.countP (·.1 == other.name) + timesNamed earlier other.name ≤ 1

variable {kind : Kind}
variable {given : List (String × Setting)}
variable {entries earlier : List (Node × Node)}
variable {head entry : Node × Node}
variable {field : Field}

/-- The step that passes over an undeclared entry. -/
theorem RepeatsAt.pass
    (unknown : kind.fieldOf? head.1 = none)
    (repeatsAt : kind.RepeatsAt given earlier entry field) :
    kind.RepeatsAt given (head :: earlier) entry field := by
  have notCounted : ∀ other ∈ kind.schema,
      timesNamed (head :: earlier) other.name = timesNamed earlier other.name := by
    intro other member
    have notNamed : head.1.asText? ≠ some other.name := fun isName =>
      fieldOf?_eq_none_iff.mp unknown other ⟨member, isName⟩
    rw [timesNamed_cons, if_neg notNamed, Nat.add_zero]
  constructor
  · exact repeatsAt.names
  · rw [notCounted field repeatsAt.names.1]
    exact repeatsAt.once
  · intro other member
    rw [notCounted other member]
    exact repeatsAt.atMostOnce other member

/-- The step that gives the setting of an entry. -/
theorem RepeatsAt.read
    {other : Field}
    {setting : Setting}
    (names : kind.Names other head.1)
    (repeatsAt : kind.RepeatsAt ((other.name, setting) :: given) earlier entry field) :
    kind.RepeatsAt given (head :: earlier) entry field := by
  -- A field counts as given from now on instead of as named by an entry to come.
  have sameSum : ∀ name,
      given.countP (·.1 == name) + timesNamed (head :: earlier) name =
        ((other.name, setting) :: given).countP (·.1 == name) + timesNamed earlier name := by
    intro name
    rw [List.countP_cons, timesNamed_cons, names.2]
    by_cases same : other.name = name
    · simp [same]
      omega
    · simp [same]
  constructor
  · exact repeatsAt.names
  · rw [sameSum]
    exact repeatsAt.once
  · intro another member
    rw [sameSum]
    exact repeatsAt.atMostOnce another member

/-- Of entries that fit, a run is refused at the first one whose field is given again. -/
theorem exists_repeatsAt_of_readEntries
    {failure : Failure SettingError}
    (fits : ∀ entry ∈ entries, kind.Fits entry)
    (fresh : kind.AtMostOnce given)
    (ended : kind.readEntries given entries = .error failure) :
    ∃ earlier entry later field,
      entries = earlier ++ entry :: later ∧
        kind.RepeatsAt given earlier entry field ∧
        failure = .refused (.duplicateField field.name) := by
  induction entries generalizing given with
  | nil =>
      cases ended
  | cons head rest inductionHypothesis =>
      obtain ⟨headFits, restFits⟩ := List.forall_mem_cons.mp fits
      cases named : kind.fieldOf? head.1 with
      | none =>
          rw [readEntries_cons_of_none named] at ended
          obtain ⟨earlier, entry, later, field, rfl, repeatsAt, isFailure⟩ :=
            inductionHypothesis restFits fresh ended
          exact ⟨head :: earlier, entry, later, field, rfl, repeatsAt.pass named, isFailure⟩
      | some field =>
          have names := fieldOf?_eq_some_iff.mp named
          rw [readEntries_cons_of_some named] at ended
          split at ended
          · rename_i isGiven
            cases ended
            have notAbsent : given.countP (·.1 == field.name) ≠ 0 := fun absent => by
              rw [countP_eq_zero_iff.mp absent] at isGiven
              cases isGiven
            have atMostOnce := fresh field names.1
            have once : given.countP (·.1 == field.name) = 1 := by
              omega
            exact ⟨[], head, rest, field, rfl, ⟨names, once, fresh⟩, rfl⟩
          · rename_i notGiven
            have absent := Option.not_isSome_iff_eq_none.mp notGiven
            obtain ⟨setting, isRead⟩ := (fits_iff_read_ok names).mp headFits
            rw [isRead, Outcome.ok_bind] at ended
            obtain ⟨earlier, entry, later, other, rfl, repeatsAt, isFailure⟩ :=
              inductionHypothesis restFits (fresh.cons absent) ended
            exact ⟨head :: earlier, entry, later, other, rfl, repeatsAt.read names, isFailure⟩

/-- Entries that fit are refused together only for the first field that is named again. -/
theorem exists_firstRepeated
    {cause : SettingError}
    (fits : ∀ entry ∈ entries, kind.Fits entry)
    (ended : kind.readEntries [] entries = .error (.refused cause)) :
    ∃ field, kind.FirstRepeated entries field ∧ cause = .duplicateField field.name := by
  have nothingGiven : kind.AtMostOnce [] := by
    simp [AtMostOnce]
  obtain ⟨earlier, entry, later, field, rfl, repeatsAt, isCause⟩ :=
    exists_repeatsAt_of_readEntries fits nothingGiven ended
  obtain ⟨names, once, atMostOnce⟩ := repeatsAt
  simp only [List.countP_nil, Nat.zero_add] at once atMostOnce
  have notRepeated : ¬ kind.Repeats earlier := by
    rintro ⟨other, member, twice⟩
    have atMost := atMostOnce other member
    omega
  cases isCause
  exact ⟨field, ⟨earlier, entry, later, rfl, names, once, notRepeated⟩, rfl⟩

end Repetitions

section Locating

variable {kind reported : Kind}
variable {entries : List (Node × Node)}
variable {place : Place}
variable {cause : SettingError}

theorem ofEntries_of_readGiven
    {failure : Failure DecodeError}
    (ended : kind.readGiven entries = .error failure) :
    Receiver.ofEntries kind entries = .error failure := by
  rw [Receiver.ofEntries, readGiven_filter fun _ => id, ended]
  rfl

/-- Only reading the entries ends with a malformed value. -/
theorem readGiven_of_malformed
    (refused :
      Receiver.ofEntries kind entries = .refuse (.malformed reported place cause)) :
    kind.readGiven entries = .refuse (.malformed reported place cause) := by
  have judged := Receiver.judged_of_ofEntries kind entries
  rw [refused] at judged
  cases judged with
  | malformed _ notReadable =>
      cases ended : kind.readGiven entries with
      | ok given =>
          have readable := readGiven_ok_iff.mp ⟨given, ended⟩
          exact (notReadable readable).elim
      | error failure =>
          have sameFailure := (ofEntries_of_readGiven ended).symm.trans refused
          cases sameFailure
          rfl

/-- Reading entries alone finds what is wrong with them. -/
theorem locates_of_readGiven
    (refused : kind.readGiven entries = .refuse (.malformed reported place cause)) :
    reported = kind ∧ kind.Locates entries place cause := by
  unfold readGiven at refused
  split at refused
  · cases refused
  · rename_i whole ended
    have located := Except.error.inj refused
    by_cases fits : ∀ entry ∈ entries, kind.Fits entry
    · rw [locate_of_fits fits] at located
      cases located
      refine ⟨rfl, ?_, iff_of_true rfl fits, fun _ =>
        exists_firstRepeated fits (readAll_eq_error_iff.mp ended)⟩
      rintro ⟨entry, member, misfit⟩
      exact (misfit (fits entry member)).elim
    · have someMisfit : ∃ entry ∈ entries, ¬ kind.Fits entry := by
        simpa using fits
      obtain ⟨entry, first⟩ := exists_firstMisfit someMisfit
      obtain ⟨_, _, _, _, misfit⟩ := id first
      obtain ⟨field, failure, names, read⟩ := exists_read_error misfit
      rw [first.locate_eq names read] at located
      cases failure with
      | aborted =>
          cases located
      | refused reason =>
          cases located
          refine ⟨rfl, fun _ => ?_, iff_of_false names.describeKey_ne_node fits,
            fun allFit => (fits allFit).elim⟩
          exact ⟨entry, field, first, names, rfl, read,
            ofEntries_of_readGiven (readGiven_singleton names read)⟩
  · cases refused

/-- Only the entries that the kind declares matter for a malformed value. -/
theorem ofEntries_of_sameDeclared
    {others : List (Node × Node)}
    (sameDeclared :
      (others.filter fun entry => kind.declares entry.1) =
        entries.filter fun entry => kind.declares entry.1)
    (refused : kind.readGiven entries = .refuse (.malformed reported place cause)) :
    Receiver.ofEntries kind others = .refuse (.malformed reported place cause) := by
  rw [← readGiven_filter fun _ => id, ← sameDeclared, readGiven_filter fun _ => id] at refused
  exact ofEntries_of_readGiven refused

/-- A malformed value is attributed to its field unless a tag hides the field's name. -/
theorem Locates.attributes_iff
    (locates : kind.Locates entries place cause) :
    kind.Attributes place ↔ ¬ kind.TagsMisfit entries := by
  by_cases fits : ∀ entry ∈ entries, kind.Fits entry
  · refine iff_of_true (.inr (locates.wholeNode.mpr fits)) ?_
    rintro ⟨entry, first, _⟩
    obtain ⟨other, member, misfit⟩ := first.exists_not_fits
    exact misfit (fits other member)
  · have someMisfit : ∃ entry ∈ entries, ¬ kind.Fits entry := by
      simpa using fits
    obtain ⟨entry, field, first, names, isKey, _⟩ := locates.misfit someMisfit
    rcases names.eq_text_or_tagged with isName | isTagged
    · refine iff_of_true (.inl ⟨field, names.1, ?_⟩) ?_
      · rw [isKey, isName]
        rfl
      · rintro ⟨other, otherFirst, isTagged⟩
        rw [← first.unique otherFirst, isName] at isTagged
        cases isTagged
    · refine iff_of_false ?_ (not_not_intro ⟨entry, first, isTagged⟩)
      rw [describeKey_of_tagged isTagged] at isKey
      rintro (⟨other, member, isName⟩ | isNode)
      · exact (name_ne_phrase member).1 (isName.symm.trans isKey)
      · rw [isKey] at isNode
        exact absurd isNode (by decide)

/-- Without a tag around its key, an entry that does not fit is named as its field. -/
theorem Locates.exists_named
    (locates : kind.Locates entries place cause)
    (notTagged : ¬ kind.TagsMisfit entries)
    (someMisfit : ∃ entry ∈ entries, ¬ kind.Fits entry) :
    ∃ entry ∈ entries, ∃ field,
      ¬ kind.Fits entry ∧
        kind.Names field entry.1 ∧
        place.phrase = field.name := by
  obtain ⟨entry, field, first, names, isKey, _⟩ := locates.misfit someMisfit
  have isName : entry.1 = .text field.name :=
    names.eq_text_or_tagged.resolve_right fun isTagged => notTagged ⟨entry, first, isTagged⟩
  obtain ⟨earlier, later, rfl, _, misfit⟩ := first
  refine ⟨entry, by simp, field, misfit, names, ?_⟩
  rw [isKey, isName]
  rfl

end Locating

end Kind

namespace Receiver

/-- A node is refused for a malformed value where its entries are read. -/
theorem exists_readGiven_of_malformed
    {kind reported : Kind}
    {node : Node}
    {place : Place}
    {cause : SettingError}
    (refused : decode kind node = .refuse (.malformed reported place cause)) :
    ∃ entries,
      node.Lists entries ∧
        kind.readGiven entries = .refuse (.malformed reported place cause) := by
  cases listed : node.entries? with
  | none =>
      simp only [decode, listed] at refused
      cases refused
  | some entries =>
      have lists := Node.entries?_eq_some_iff.mp listed
      rw [decode_eq_ofEntries lists] at refused
      exact ⟨entries, lists, Kind.readGiven_of_malformed refused⟩

/--
A malformed value is located by reading entries alone, whatever made reading all of them
fail.  If an entry does not convert, the first such entry is named as its key is described,
with the error of its value alone.  The whole node is named exactly if every entry converts
alone; then a field is named twice, and the error is that of the first field named again.
Nodes with the same declared entries have the same error, so undeclared keys cause none.
-/
theorem locates_of_decode
    {kind reported : Kind}
    {node : Node}
    {place : Place}
    {cause : SettingError}
    (refused : decode kind node = .refuse (.malformed reported place cause)) :
    ∃ entries,
      node.Lists entries ∧
        reported = kind ∧
        kind.Locates entries place cause ∧
        ∀ others : List (Node × Node),
          ((others.filter fun entry => kind.declares entry.1) =
              entries.filter fun entry => kind.declares entry.1) →
            decode kind (.mapping others) = .refuse (.malformed kind place cause) := by
  obtain ⟨entries, lists, located⟩ := exists_readGiven_of_malformed refused
  obtain ⟨rfl, locates⟩ := Kind.locates_of_readGiven located
  exact ⟨entries, lists, rfl, locates,
    fun others sameDeclared => Kind.ofEntries_of_sameDeclared sameDeclared located⟩

/-- The entries of a node for a pushover receiver that names one field twice and has two
values that do not convert, besides a key that names no field. -/
def twiceRetriedEntries : List (Node × Node) :=
  [(.text "bogus", .sequence []),
   (.tagged "x" (.text "retry"), .text "1s"),
   (.text "retry", .text "sometimes"),
   (.text "expire", .text "later")]

/-- Reading ends at the field that is named again, but its value is what is reported, with
or without the key that names no field. -/
theorem locates_of_decode_twiceRetried :
    Kind.pushover.readEntries [] twiceRetriedEntries = .refuse (.duplicateField "retry") ∧
      decode .pushover (.mapping twiceRetriedEntries) =
        .refuse
          (.malformed .pushover (.entry "retry") (.badSpan ⟨"sometimes", .numberExpected 0⟩)) ∧
      Kind.pushover.Locates twiceRetriedEntries (.entry "retry")
        (.badSpan ⟨"sometimes", .numberExpected 0⟩) ∧
      decode .pushover (.mapping twiceRetriedEntries.tail) =
        decode .pushover (.mapping twiceRetriedEntries) := by
  have refused :
      decode .pushover (.mapping twiceRetriedEntries) =
        .refuse
          (.malformed .pushover (.entry "retry")
            (.badSpan ⟨"sometimes", .numberExpected 0⟩)) :=
    rfl
  obtain ⟨entries, ⟨⟩, _, locates, sameError⟩ := locates_of_decode refused
  have unchanged := sameError twiceRetriedEntries.tail rfl
  exact ⟨rfl, refused, locates, unchanged.trans refused.symm⟩

/--
A malformed value is attributed to a field by its name, or to the whole node, unless the
first entry that does not convert has a tag around its key: the key then stands for the
field when entries are sorted out, but it is described as a tagged one.  Without the tag,
an entry that does not convert makes the error name a field whose value does not.
-/
theorem attributes_of_decode_unless_tagged
    {kind reported : Kind}
    {node : Node}
    {place : Place}
    {cause : SettingError}
    (refused : decode kind node = .refuse (.malformed reported place cause)) :
    ∃ entries,
      node.Lists entries ∧
        (kind.Attributes place ↔ ¬ kind.TagsMisfit entries) ∧
        (¬ kind.TagsMisfit entries →
          (∃ entry ∈ entries, ¬ kind.Fits entry) →
          ∃ entry ∈ entries, ∃ field,
            ¬ kind.Fits entry ∧
              kind.Names field entry.1 ∧
              place.phrase = field.name) := by
  obtain ⟨entries, lists, located⟩ := exists_readGiven_of_malformed refused
  obtain ⟨_, locates⟩ := Kind.locates_of_readGiven located
  exact ⟨entries, lists, locates.attributes_iff, locates.exists_named⟩

/-- An entry with a tag around its value, not its key, is named. -/
theorem attributes_of_decode_taggedValue :
    decode .hipchat (.mapping [(.text "room_id", .tagged "x" (.text "ops"))]) =
        .refuse
          (.malformed .hipchat (.entry "room_id") (.mismatch (.type .taggedValue .scalar))) ∧
      Kind.hipchat.Attributes (.entry "room_id") := by
  have refused :
      decode .hipchat (.mapping [(.text "room_id", .tagged "x" (.text "ops"))]) =
        .refuse
          (.malformed .hipchat (.entry "room_id")
            (.mismatch (.type .taggedValue .scalar))) :=
    rfl
  obtain ⟨entries, ⟨⟩, attributes, _⟩ := attributes_of_decode_unless_tagged refused
  refine ⟨refused, attributes.mpr ?_⟩
  rintro ⟨entry, ⟨earlier, later, shape, _, _⟩, isTagged⟩
  have member : entry ∈ [(Node.text "room_id", Node.tagged "x" (.text "ops"))] := by
    simp [shape]
  rw [List.mem_singleton.mp member] at isTagged
  cases isTagged

/-- A node for a pushover receiver with a tag around the key of a malformed value. -/
def taggedRetryNode : Node :=
  .mapping
    [(.text "user_key", .text "u"),
     (.text "token", .text "t"),
     (.tagged "x" (.text "retry"), .text "sometimes")]

/-- The value of a declared field does not convert, but the error names neither a field nor
the whole node. -/
theorem taggedRetryNode_not_attributed :
    ∃ place cause,
      decode .pushover taggedRetryNode = .refuse (.malformed .pushover place cause) ∧
        ¬ Kind.pushover.Attributes place := by
  refine ⟨.entry "<a tagged value key>", .badSpan ⟨"sometimes", .numberExpected 0⟩, rfl, ?_⟩
  unfold Kind.Attributes
  decide

end Receiver

end AlertReceivers
