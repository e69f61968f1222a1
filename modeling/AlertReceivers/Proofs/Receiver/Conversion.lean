import AlertReceivers.Proofs.Dict
import AlertReceivers.Proofs.Outcome
import AlertReceivers.Receiver.Setting
import Mathlib.Data.List.Forall2

namespace AlertReceivers

/-!
# Conversion of values

Which values convert to a setting of a sort, and to which.  Reading a setting
succeeds exactly on the values that convert, and only a span can make it abort.
-/

/-- The text of the last entry whose key has a given text. -/
def lastText?
    (entries : List (Node × Node))
    (name : String) :
    Option String :=
  (entries.reverse.find? fun entry => entry.1.scalarText? == some name).bind
    fun entry => entry.2.scalarText?

/--
A value converts to a setting of a sort.

Flags look through tags.  A flag that may be left open is left open by null
itself.  Texts, secrets and spans take the text of a scalar without tags, and
tables that of each key and value, the last of equal keys counting.
-/
inductive Converts : SettingSort → Node → Setting → Prop where
  | flag {node : Node} {on : Bool} :
      node.untagged = .boolean on →
      Converts .flag node (.flag on)
  | openFlag :
      Converts .optionalFlag .null (.optionalFlag none)
  | givenFlag {node : Node} {on : Bool} :
      node.untagged = .boolean on →
      Converts .optionalFlag node (.optionalFlag (some on))
  | text {node : Node} {value : String} :
      node.scalarText? = some value →
      Converts .text node (.text value)
  | secret {node : Node} {value : String} :
      node.scalarText? = some value →
      Converts .secret node (.secret ⟨value⟩)
  | emptySpan :
      Converts .span .null (.span .zero)
  | span {node : Node} {written : String} {span : Span} :
      node.scalarText? = some written →
      Span.read written = .ok span →
      Converts .span node (.span span)
  | emptyTable :
      Converts .table .null (.table .empty)
  | table {entries : List (Node × Node)} {table : Dict String} :
      (∀ entry ∈ entries,
        entry.1.scalarText?.isSome ∧ entry.2.scalarText?.isSome) →
      (∀ name, table.get? name = lastText? entries name) →
      Converts .table (.mapping entries) (.table table)

/-- A node converts to a setting of the wanted sort. -/
theorem Converts.sort_eq
    {sort : SettingSort}
    {node : Node}
    {setting : Setting}
    (converts : Converts sort node setting) :
    setting.sort = sort := by
  cases converts <;> rfl

namespace Setting

/-- A setting of the sort for tables is a table. -/
theorem exists_table
    {setting : Setting}
    (isTable : setting.sort = .table) :
    ∃ table, setting = .table table := by
  cases setting with
  | table table =>
      exact ⟨table, rfl⟩
  | flag | optionalFlag | text | secret | span =>
      cases isTable

theorem ofMismatch_eq_ok_iff
    {α : Type}
    {reading : Except Mismatch α}
    {value : α} :
    ofMismatch reading = .ok value ↔ reading = .ok value := by
  cases reading <;> simp [ofMismatch, Outcome.refuse]

theorem ofMismatch_ne_aborted
    {α : Type}
    {reading : Except Mismatch α} :
    ofMismatch reading ≠ .error .aborted := by
  cases reading <;> simp [ofMismatch, Outcome.refuse]

/-- A flag is read from booleans only, with tags around them or without. -/
theorem readFlag_eq_ok_iff
    {node : Node}
    {on : Bool} :
    readFlag node = .ok on ↔ node.untagged = .boolean on := by
  unfold readFlag
  cases node.untagged <;> simp

/-- An open flag is read from null, any other from a boolean under any tags. -/
theorem readOptionalFlag_eq_ok_iff
    {node : Node}
    {on : Option Bool} :
    readOptionalFlag node = .ok on ↔
      Converts .optionalFlag node (.optionalFlag on) := by
  constructor
  · intro reads
    unfold readOptionalFlag at reads
    split at reads
    · cases reads
      exact .openFlag
    · cases flag : readFlag node with
      | error cause =>
          simp [flag, Except.map] at reads
      | ok value =>
          simp only [flag, Except.map, Except.ok.injEq] at reads
          subst on
          exact .givenFlag (readFlag_eq_ok_iff.mp flag)
  · intro converts
    cases converts with
    | openFlag =>
        rfl
    | givenFlag plain =>
        have notNull : node ≠ .null := by
          rintro rfl
          simp [Node.untagged] at plain
        have flag := readFlag_eq_ok_iff.mpr plain
        unfold readOptionalFlag
        split
        · contradiction
        · simp [flag, Except.map]

/-- A text is read from scalars only. -/
theorem readText_eq_ok_iff
    {node : Node}
    {value : String} :
    readText node = .ok value ↔ node.scalarText? = some value := by
  unfold readText
  cases node.scalarText? <;> simp

/-- The pairs that are read from entries are the texts of their keys and values. -/
theorem forall₂_of_readPairs
    {entries : List (Node × Node)}
    {pairs : List (String × String)}
    (reads : readPairs entries = .ok pairs) :
    List.Forall₂
      (fun entry pair =>
        entry.1.scalarText? = some pair.1 ∧
          entry.2.scalarText? = some pair.2)
      entries pairs := by
  induction entries generalizing pairs with
  | nil =>
      cases reads
      exact .nil
  | cons entry rest inductionHypothesis =>
      obtain ⟨keyText, keyReads, afterKey⟩ := Outcome.bind_eq_ok_iff.mp reads
      obtain ⟨valueText, valueReads, afterValue⟩ :=
        Outcome.bind_eq_ok_iff.mp afterKey
      obtain ⟨restPairs, restReads, result⟩ :=
        Outcome.bind_eq_ok_iff.mp afterValue
      cases result
      exact .cons
        ⟨readText_eq_ok_iff.mp keyReads, readText_eq_ok_iff.mp valueReads⟩
        (inductionHypothesis restReads)

/-- Entries with scalars on both sides are read to pairs. -/
theorem exists_readPairs
    {entries : List (Node × Node)}
    (scalars :
      ∀ entry ∈ entries,
        entry.1.scalarText?.isSome ∧ entry.2.scalarText?.isSome) :
    ∃ pairs, readPairs entries = .ok pairs := by
  induction entries with
  | nil =>
      exact ⟨[], rfl⟩
  | cons entry rest inductionHypothesis =>
      obtain ⟨key, value⟩ := entry
      obtain ⟨restPairs, restReads⟩ :=
        inductionHypothesis fun later member =>
          scalars later (List.mem_cons_of_mem _ member)
      obtain ⟨keyScalar, valueScalar⟩ := scalars (key, value) List.mem_cons_self
      obtain ⟨keyText, keyShape⟩ := Option.isSome_iff_exists.mp keyScalar
      obtain ⟨valueText, valueShape⟩ := Option.isSome_iff_exists.mp valueScalar
      refine ⟨(keyText, valueText) :: restPairs, ?_⟩
      simp only [readPairs, readText_eq_ok_iff.mpr keyShape,
        readText_eq_ok_iff.mpr valueShape, restReads, Outcome.ok_bind]

/-- The pairs that entries are read to are found under the texts of the keys. -/
theorem lookup_of_forall₂
    {entries : List (Node × Node)}
    {pairs : List (String × String)}
    (texts :
      List.Forall₂
        (fun entry pair =>
          entry.1.scalarText? = some pair.1 ∧
            entry.2.scalarText? = some pair.2)
        entries pairs)
    (name : String) :
    pairs.lookup name =
      (entries.find? fun entry => entry.1.scalarText? == some name).bind
        fun entry => entry.2.scalarText? := by
  induction texts with
  | nil =>
      rfl
  | @cons entry pair _ _ text _ inductionHypothesis =>
      rw [Lookup.lookup_cons_eq_ite, List.find?_cons, text.1]
      by_cases same : name = pair.1
      · simp [same, text.2]
      · have keyDiffers : (some pair.1 == some name) = false := by
          simpa using Ne.symm same
        simp only [same, keyDiffers, if_false, inductionHypothesis]

/-- A table is read exactly from null and from mappings of scalars to scalars. -/
theorem readTable_eq_ok_iff
    {node : Node}
    {table : Dict String} :
    readTable node = .ok table ↔ Converts .table node (.table table) := by
  constructor
  · intro reads
    unfold readTable at reads
    split at reads
    · cases reads
      exact .emptyTable
    · rename_i entries
      obtain ⟨pairs, pairsRead, rfl⟩ := Outcome.map_eq_ok_iff.mp reads
      have texts := forall₂_of_readPairs pairsRead
      have scalars :
          ∀ entry ∈ entries,
            entry.1.scalarText?.isSome ∧ entry.2.scalarText?.isSome :=
        ((List.forall₂_and_left entries pairs).mp
          (texts.imp fun entry pair text => ⟨by simp [text], text⟩)).1
      refine .table scalars fun name => ?_
      rw [Dict.get?_ofList]
      exact lookup_of_forall₂ (List.rel_reverse texts) name
    · cases reads
  · intro converts
    cases converts with
    | emptyTable =>
        rfl
    | @table entries _ scalars texts =>
        obtain ⟨pairs, pairsRead⟩ := exists_readPairs scalars
        refine Outcome.map_eq_ok_iff.mpr ⟨pairs, pairsRead, ?_⟩
        refine Dict.ext_get? fun name => ?_
        rw [Dict.get?_ofList, texts]
        exact lookup_of_forall₂
          (List.rel_reverse (forall₂_of_readPairs pairsRead)) name

/-- A span is read exactly from null and from scalars whose text is a span. -/
theorem readSpan_eq_ok_iff
    {node : Node}
    {span : Span} :
    readSpan node = .ok span ↔ Converts .span node (.span span) := by
  constructor
  · intro reads
    unfold readSpan at reads
    split at reads
    · cases reads
      exact .emptySpan
    · split at reads
      · rename_i written textReads
        exact .span (readText_eq_ok_iff.mp textReads)
          (Outcome.mapRefusal_eq_ok_iff.mp reads)
      · cases reads
  · intro converts
    cases converts with
    | emptySpan =>
        rfl
    | @span _ written _ scalar reads =>
        unfold readSpan
        split
        · cases scalar
          cases reads
        · rw [readText_eq_ok_iff.mpr scalar]
          exact Outcome.mapRefusal_eq_ok_iff.mpr reads

/-- Reading a span aborts exactly where reading its text does. -/
theorem readSpan_eq_aborted_iff
    {node : Node} :
    readSpan node = .error .aborted ↔
      ∃ written,
        node.scalarText? = some written ∧
          Span.read written = .error .aborted := by
  unfold readSpan
  split
  · have nothingWritten : Span.read "" ≠ .error .aborted := by
      intro aborts
      cases aborts
    simp [Node.scalarText?, nothingWritten]
  · split
    · rename_i written textReads
      simp [Outcome.mapRefusal_eq_aborted_iff, readText_eq_ok_iff.mp textReads]
    · rename_i cause textReads
      have notScalar : ∀ written, node.scalarText? ≠ some written :=
        fun written scalar => by
          rw [readText_eq_ok_iff.mpr scalar] at textReads
          cases textReads
      simp [Outcome.refuse, notScalar]

end Setting

namespace SettingSort

open Setting

/-- Reading a setting succeeds exactly on the values that convert to it. -/
theorem read_eq_ok_iff
    {sort : SettingSort}
    {node : Node}
    {setting : Setting} :
    sort.read node = .ok setting ↔ Converts sort node setting := by
  constructor
  · intro reads
    cases sort with
    | flag =>
        obtain ⟨on, flag, rfl⟩ := Outcome.map_eq_ok_iff.mp reads
        exact .flag (readFlag_eq_ok_iff.mp (ofMismatch_eq_ok_iff.mp flag))
    | optionalFlag =>
        obtain ⟨on, flag, rfl⟩ := Outcome.map_eq_ok_iff.mp reads
        exact readOptionalFlag_eq_ok_iff.mp (ofMismatch_eq_ok_iff.mp flag)
    | text =>
        obtain ⟨value, text, rfl⟩ := Outcome.map_eq_ok_iff.mp reads
        exact .text (readText_eq_ok_iff.mp (ofMismatch_eq_ok_iff.mp text))
    | secret =>
        obtain ⟨value, text, rfl⟩ := Outcome.map_eq_ok_iff.mp reads
        exact .secret (readText_eq_ok_iff.mp (ofMismatch_eq_ok_iff.mp text))
    | span =>
        obtain ⟨value, span, rfl⟩ := Outcome.map_eq_ok_iff.mp reads
        exact readSpan_eq_ok_iff.mp span
    | table =>
        obtain ⟨value, table, rfl⟩ := Outcome.map_eq_ok_iff.mp reads
        exact readTable_eq_ok_iff.mp (ofMismatch_eq_ok_iff.mp table)
  · intro converts
    cases sort with
    | flag =>
        cases converts with
        | flag plain =>
            exact Outcome.map_eq_ok_iff.mpr
              ⟨_, ofMismatch_eq_ok_iff.mpr (readFlag_eq_ok_iff.mpr plain), rfl⟩
    | optionalFlag =>
        obtain ⟨on, rfl⟩ : ∃ on, setting = .optionalFlag on := by
          cases converts <;> exact ⟨_, rfl⟩
        exact Outcome.map_eq_ok_iff.mpr
          ⟨on, ofMismatch_eq_ok_iff.mpr
            (readOptionalFlag_eq_ok_iff.mpr converts), rfl⟩
    | text =>
        cases converts with
        | text scalar =>
            exact Outcome.map_eq_ok_iff.mpr
              ⟨_, ofMismatch_eq_ok_iff.mpr (readText_eq_ok_iff.mpr scalar), rfl⟩
    | secret =>
        cases converts with
        | secret scalar =>
            exact Outcome.map_eq_ok_iff.mpr
              ⟨_, ofMismatch_eq_ok_iff.mpr (readText_eq_ok_iff.mpr scalar), rfl⟩
    | span =>
        obtain ⟨span, rfl⟩ : ∃ span, setting = .span span := by
          cases converts <;> exact ⟨_, rfl⟩
        exact Outcome.map_eq_ok_iff.mpr
          ⟨span, readSpan_eq_ok_iff.mpr converts, rfl⟩
    | table =>
        obtain ⟨table, rfl⟩ : ∃ table, setting = .table table := by
          cases converts <;> exact ⟨_, rfl⟩
        exact Outcome.map_eq_ok_iff.mpr
          ⟨table, ofMismatch_eq_ok_iff.mpr
            (readTable_eq_ok_iff.mpr converts), rfl⟩

/-- Only a span whose text cannot be read to the end makes a reading abort. -/
theorem read_eq_aborted_iff
    {sort : SettingSort}
    {node : Node} :
    sort.read node = .error .aborted ↔
      sort = .span ∧
        ∃ written,
          node.scalarText? = some written ∧
            Span.read written = .error .aborted := by
  cases sort with
  | span =>
      simp only [read, Outcome.map_eq_error_iff, readSpan_eq_aborted_iff,
        true_and]
  | flag | optionalFlag | text | secret | table =>
      simp [read, Outcome.map_eq_error_iff, ofMismatch_ne_aborted]

end SettingSort

end AlertReceivers
