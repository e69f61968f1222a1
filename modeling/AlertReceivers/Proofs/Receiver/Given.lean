import AlertReceivers.Proofs.Receiver.Entries

namespace AlertReceivers

/-!
# What entries give

A run over the entries of a node that ends with settings has converted every
declared entry, named no field twice and left unmentioned fields alone.  A run
that ends without settings met an entry that does not fit, or a repeated field.
-/

namespace Kind

/-- A list of settings holds at most one of each field. -/
def AtMostOnce
    (kind : Kind)
    (given : List (String × Setting)) :
    Prop :=
  ∀ field ∈ kind.schema, given.countP (·.1 == field.name) ≤ 1

/-- What a run over entries that ends with settings has done. -/
structure Reads
    (kind : Kind)
    (entries : List (Node × Node))
    (given result : List (String × Setting)) :
    Prop where
  once :
    ∀ field ∈ kind.schema,
      given.countP (·.1 == field.name) + timesNamed entries field.name ≤ 1
  untouched :
    ∀ name, timesNamed entries name = 0 →
      result.lookup name = given.lookup name
  converted :
    ∀ entry ∈ entries, ∀ field, kind.Names field entry.1 →
      ∃ setting,
        Converts field.sort entry.2 setting ∧
          result.lookup field.name = some setting

theorem timesNamed_cons
    (entry : Node × Node)
    (rest : List (Node × Node))
    (name : String) :
    timesNamed (entry :: rest) name =
      timesNamed rest name +
        if entry.1.asText? = some name then 1 else 0 := by
  simp [timesNamed, List.countP_cons]

theorem timesNamed_eq_zero_iff
    {entries : List (Node × Node)}
    {name : String} :
    timesNamed entries name = 0 ↔
      ∀ entry ∈ entries, entry.1.asText? ≠ some name := by
  simp [timesNamed, List.countP_eq_zero]

theorem countP_eq_zero_iff
    {given : List (String × Setting)}
    {name : String} :
    given.countP (·.1 == name) = 0 ↔ given.lookup name = none := by
  rw [List.countP_eq_zero, List.lookup_eq_none_iff]
  refine forall₂_congr fun entry _ => ?_
  have symmetric : entry.1 ≠ name ↔ name ≠ entry.1 := ne_comm
  simpa using symmetric

/-- A field that is not given yet can be given once. -/
theorem AtMostOnce.cons
    {kind : Kind}
    {given : List (String × Setting)}
    {name : String}
    {setting : Setting}
    (fresh : kind.AtMostOnce given)
    (absent : given.lookup name = none) :
    kind.AtMostOnce ((name, setting) :: given) := by
  intro other member
  have otherFresh := fresh other member
  have nameAbsent := countP_eq_zero_iff.mpr absent
  rw [List.countP_cons]
  by_cases same : name = other.name
  · simp [← same, nameAbsent]
  · simpa [same] using otherFresh

/-- The step of a run that passes over an undeclared entry. -/
theorem Reads.pass
    {kind : Kind}
    {entry : Node × Node}
    {rest : List (Node × Node)}
    {given result : List (String × Setting)}
    (unknown : kind.fieldOf? entry.1 = none)
    (reads : kind.Reads rest given result) :
    kind.Reads (entry :: rest) given result where
  once := by
    intro field member
    have notNamed : entry.1.asText? ≠ some field.name := fun named =>
      fieldOf?_eq_none_iff.mp unknown field ⟨member, named⟩
    rw [timesNamed_cons, if_neg notNamed]
    exact reads.once field member
  untouched := by
    intro name absent
    rw [timesNamed_cons] at absent
    exact reads.untouched name (by omega)
  converted := by
    intro other member field names
    rcases List.mem_cons.mp member with isHead | inRest
    · subst other
      exact (fieldOf?_eq_none_iff.mp unknown field names).elim
    · exact reads.converted other inRest field names

/-- The step of a run that reads the setting of a field. -/
theorem Reads.read
    {kind : Kind}
    {entry : Node × Node}
    {rest : List (Node × Node)}
    {given result : List (String × Setting)}
    {field : Field}
    {setting : Setting}
    (names : kind.Names field entry.1)
    (converts : Converts field.sort entry.2 setting)
    (reads : kind.Reads rest ((field.name, setting) :: given) result) :
    kind.Reads (entry :: rest) given result where
  once := by
    intro other member
    have restOnce := reads.once other member
    rw [List.countP_cons] at restOnce
    rw [timesNamed_cons, names.2]
    by_cases same : field.name = other.name <;>
      simp [same] at restOnce ⊢ <;> omega
  untouched := by
    intro name absent
    rw [timesNamed_cons, names.2] at absent
    by_cases same : field.name = name
    · simp [same] at absent
    · rw [reads.untouched name (by omega), Lookup.lookup_cons_eq_ite,
        if_neg (Ne.symm same)]
  converted := by
    intro other member otherField otherNames
    rcases List.mem_cons.mp member with isHead | inRest
    · subst other
      rw [otherNames.unique names]
      refine ⟨setting, converts, ?_⟩
      have restOnce := reads.once field names.1
      rw [List.countP_cons] at restOnce
      simp only [beq_self_eq_true, if_true] at restOnce
      rw [reads.untouched field.name (by omega), List.lookup_cons_self]
    · exact reads.converted other inRest otherField otherNames

/-- A run that ends with settings has done what it should. -/
theorem reads_of_readEntries
    {kind : Kind}
    {entries : List (Node × Node)}
    {given result : List (String × Setting)}
    (fresh : kind.AtMostOnce given)
    (ended : kind.readEntries given entries = .ok result) :
    kind.Reads entries given result := by
  induction entries generalizing given with
  | nil =>
      cases ended
      exact {
        once := fresh
        untouched := fun _ _ => rfl
        converted := by simp }
  | cons entry rest inductionHypothesis =>
      cases named : kind.fieldOf? entry.1 with
      | none =>
          rw [readEntries_cons_of_none named] at ended
          exact (inductionHypothesis fresh ended).pass named
      | some field =>
          have names := fieldOf?_eq_some_iff.mp named
          rw [readEntries_cons_of_some named] at ended
          split at ended
          · cases ended
          · rename_i notGiven
            obtain ⟨setting, read, restEnded⟩ :=
              Outcome.bind_eq_ok_iff.mp ended
            have absent := Option.not_isSome_iff_eq_none.mp notGiven
            exact
              (inductionHypothesis (fresh.cons absent) restEnded).read names
                (SettingSort.read_eq_ok_iff.mp read)

/-- A run ends with settings if every entry fits and no field is named twice. -/
theorem exists_readEntries
    {kind : Kind}
    {entries : List (Node × Node)}
    {given : List (String × Setting)}
    (fits : ∀ entry ∈ entries, kind.Fits entry)
    (once :
      ∀ field ∈ kind.schema,
        given.countP (·.1 == field.name) + timesNamed entries field.name ≤ 1) :
    ∃ result, kind.readEntries given entries = .ok result := by
  induction entries generalizing given with
  | nil =>
      exact ⟨given, rfl⟩
  | cons entry rest inductionHypothesis =>
      have restFits : ∀ later ∈ rest, kind.Fits later :=
        fun later member => fits later (List.mem_cons_of_mem entry member)
      cases named : kind.fieldOf? entry.1 with
      | none =>
          rw [readEntries_cons_of_none named]
          refine inductionHypothesis restFits fun field member => ?_
          have total := once field member
          rw [timesNamed_cons] at total
          omega
      | some field =>
          have names := fieldOf?_eq_some_iff.mp named
          obtain ⟨setting, read⟩ :=
            (fits_iff_read_ok names).mp (fits entry List.mem_cons_self)
          have fieldOnce := once field names.1
          rw [timesNamed_cons, if_pos names.2] at fieldOnce
          have notGiven : given.lookup field.name = none :=
            countP_eq_zero_iff.mp (by omega)
          rw [readEntries_cons_of_some named, read, notGiven]
          refine inductionHypothesis restFits fun other member => ?_
          have total := once other member
          rw [timesNamed_cons, names.2] at total
          rw [List.countP_cons]
          by_cases same : field.name = other.name <;>
            simp [same] at total ⊢ <;> omega

/-- An entry that makes reading give up does not fit. -/
theorem GivesUp.exists_not_fits
    {kind : Kind}
    {entries : List (Node × Node)}
    (givesUp : kind.GivesUp entries) :
    ∃ entry ∈ entries, ¬ kind.Fits entry := by
  induction givesUp with
  | @here key value rest field written names isSpan scalar aborts =>
      refine ⟨(key, value), List.mem_cons_self, fun fits => ?_⟩
      obtain ⟨setting, read⟩ := (fits_iff_read_ok names).mp fits
      rw [SettingSort.read_eq_aborted_iff.mpr ⟨isSpan, written, scalar, aborts⟩]
        at read
      cases read
  | later _ _ inductionHypothesis =>
      obtain ⟨entry, member, notFits⟩ := inductionHypothesis
      exact ⟨entry, List.mem_cons_of_mem _ member, notFits⟩

/-- A declared entry makes reading give up exactly if its own value aborts, or if
it fits and a later entry does so. -/
theorem givesUp_cons_iff
    {kind : Kind}
    {entry : Node × Node}
    {rest : List (Node × Node)}
    {field : Field}
    (names : kind.Names field entry.1) :
    kind.GivesUp (entry :: rest) ↔
      field.sort.read entry.2 = .error .aborted ∨
        (kind.Fits entry ∧ kind.GivesUp rest) := by
  constructor
  · intro givesUp
    cases givesUp with
    | here namesOther isSpan scalar aborts =>
        rw [namesOther.unique names] at isSpan
        exact .inl
          (SettingSort.read_eq_aborted_iff.mpr ⟨isSpan, _, scalar, aborts⟩)
    | later fits restGivesUp =>
        exact .inr ⟨fits, restGivesUp⟩
  · rintro (aborts | ⟨fits, restGivesUp⟩)
    · obtain ⟨isSpan, written, scalar, spanAborts⟩ :=
        SettingSort.read_eq_aborted_iff.mp aborts
      exact .here names isSpan scalar spanAborts
    · exact .later fits restGivesUp

theorem givesUp_cons_iff_of_none
    {kind : Kind}
    {entry : Node × Node}
    {rest : List (Node × Node)}
    (unknown : kind.fieldOf? entry.1 = none) :
    kind.GivesUp (entry :: rest) ↔ kind.GivesUp rest := by
  constructor
  · intro givesUp
    cases givesUp with
    | here names _ _ _ =>
        exact (fieldOf?_eq_none_iff.mp unknown _ names).elim
    | later _ restGivesUp =>
        exact restGivesUp
  · exact .later (fits_of_fieldOf?_eq_none unknown)

/-- The search for the first entry that cannot be read aborts exactly if reading
gives up. -/
theorem locate_eq_aborted_iff
    {kind : Kind}
    {whole : SettingError}
    {entries : List (Node × Node)} :
    kind.locate whole entries = .aborted ↔ kind.GivesUp entries := by
  induction entries with
  | nil =>
      constructor <;> intro impossible <;> cases impossible
  | cons entry rest inductionHypothesis =>
      cases named : kind.fieldOf? entry.1 with
      | none =>
          rw [locate_cons_of_none named, givesUp_cons_iff_of_none named,
            inductionHypothesis]
      | some field =>
          have names := fieldOf?_eq_some_iff.mp named
          rw [locate_cons_of_some named, givesUp_cons_iff names,
            fits_iff_read_ok names]
          cases read : field.sort.read entry.2 with
          | ok setting =>
              simp [inductionHypothesis]
          | error failure =>
              cases failure <;> simp [Failure.map]

/-- Whatever the search for the first entry that cannot be read refuses is a
malformed value. -/
theorem malformed_of_locate
    {kind : Kind}
    {whole : SettingError}
    {entries : List (Node × Node)}
    {error : DecodeError}
    (located : kind.locate whole entries = .refused error) :
    ∃ place cause, error = .malformed kind place cause := by
  induction entries with
  | nil =>
      cases located
      exact ⟨.node, whole, rfl⟩
  | cons entry rest inductionHypothesis =>
      cases named : kind.fieldOf? entry.1 with
      | none =>
          rw [locate_cons_of_none named] at located
          exact inductionHypothesis located
      | some field =>
          rw [locate_cons_of_some named] at located
          cases read : field.sort.read entry.2 with
          | ok setting =>
              rw [read] at located
              exact inductionHypothesis located
          | error failure =>
              rw [read] at located
              cases failure with
              | aborted =>
                  cases located
              | refused cause =>
                  cases located
                  exact ⟨.entry entry.1.describeKey, cause, rfl⟩

/-- A run over entries aborts only if reading gives up. -/
theorem givesUp_of_readEntries
    {kind : Kind}
    {given : List (String × Setting)}
    {entries : List (Node × Node)}
    (aborts : kind.readEntries given entries = .error .aborted) :
    kind.GivesUp entries := by
  induction entries generalizing given with
  | nil =>
      cases aborts
  | cons entry rest inductionHypothesis =>
      cases named : kind.fieldOf? entry.1 with
      | none =>
          rw [readEntries_cons_of_none named] at aborts
          exact (givesUp_cons_iff_of_none named).mpr
            (inductionHypothesis aborts)
      | some field =>
          have names := fieldOf?_eq_some_iff.mp named
          rw [readEntries_cons_of_some named] at aborts
          rw [givesUp_cons_iff names, fits_iff_read_ok names]
          split at aborts
          · cases aborts
          · cases read : field.sort.read entry.2 with
            | error failure =>
                rw [read] at aborts
                cases aborts
                exact .inl rfl
            | ok setting =>
                rw [read] at aborts
                exact .inr ⟨⟨setting, rfl⟩, inductionHypothesis aborts⟩

/-- Entries give settings exactly if a run over them ends with these. -/
theorem readGiven_eq_ok_iff
    {kind : Kind}
    {entries : List (Node × Node)}
    {given : kind.Given} :
    kind.readGiven entries = .ok given ↔
      kind.readEntries [] entries = .ok given.settings := by
  rw [← readAll_eq_ok_iff]
  unfold readGiven
  cases kind.readAll entries with
  | ok result =>
      simp
  | error failure =>
      cases failure <;> simp

/-- Entries give settings exactly if all of them fit and none names a field again. -/
theorem readGiven_ok_iff
    {kind : Kind}
    {entries : List (Node × Node)} :
    (∃ given, kind.readGiven entries = .ok given) ↔
      (∀ entry ∈ entries, kind.Fits entry) ∧ ¬ kind.Repeats entries := by
  simp only [readGiven_eq_ok_iff]
  constructor
  · rintro ⟨given, ended⟩
    have reads := reads_of_readEntries (by simp [AtMostOnce]) ended
    refine ⟨fun entry member field names => ?_, ?_⟩
    · obtain ⟨setting, converts, _⟩ :=
        reads.converted entry member field names
      exact ⟨setting, converts⟩
    · rintro ⟨field, member, twice⟩
      have once := reads.once field member
      omega
  · rintro ⟨fits, notTwice⟩
    obtain ⟨settings, ended⟩ : ∃ settings, kind.readEntries [] entries = .ok settings := by
      refine exists_readEntries fits fun field member => ?_
      have notRepeated : ¬ 2 ≤ timesNamed entries field.name :=
        fun twice => notTwice ⟨field, member, twice⟩
      simp only [List.countP_nil]
      omega
    obtain ⟨given, rfl, _⟩ := exists_readAll ended
    exact ⟨given, ended⟩

/-- Entries make the whole reading abort exactly if it gives up at the first
entry that does not fit. -/
theorem readGiven_eq_aborted_iff
    {kind : Kind}
    {entries : List (Node × Node)} :
    kind.readGiven entries = .error .aborted ↔ kind.GivesUp entries := by
  unfold readGiven
  cases ended : kind.readAll entries with
  | ok result =>
      have isGiven := readGiven_eq_ok_iff.mpr (readAll_eq_ok_iff.mp ended)
      have fits := (readGiven_ok_iff.mp ⟨result, isGiven⟩).1
      have notGivesUp : ¬ kind.GivesUp entries := fun givesUp => by
        obtain ⟨entry, member, notFits⟩ := givesUp.exists_not_fits
        exact notFits (fits entry member)
      simp [notGivesUp]
  | error failure =>
      cases failure with
      | refused error =>
          simp [locate_eq_aborted_iff]
      | aborted =>
          simp [givesUp_of_readEntries (readAll_eq_error_iff.mp ended)]

/-- What entries are refused for is a malformed value. -/
theorem malformed_of_readGiven
    {kind : Kind}
    {entries : List (Node × Node)}
    {error : DecodeError}
    (refused : kind.readGiven entries = .error (.refused error)) :
    ∃ place cause, error = .malformed kind place cause := by
  unfold readGiven at refused
  split at refused
  · cases refused
  · exact malformed_of_locate (Except.error.inj refused)
  · cases refused

end Kind

end AlertReceivers
