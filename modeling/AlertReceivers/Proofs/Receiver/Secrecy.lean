import AlertReceivers.Proofs.Receiver.Entries
import AlertReceivers.Proofs.Receiver.Headers

namespace AlertReceivers

/-!
# What receivers do not tell

Two nodes that differ only in the texts of secrets and under undeclared keys are
decoded alike: they are refused for the same reason, or become receivers that are
exported alike.  The steps of decoding are followed in both runs at once.
-/

/-- Two scalars without tags of which both have text or neither has. -/
def Node.SameEmptiness (first second : Node) : Prop :=
  ∃ firstText secondText,
    first.scalarText? = some firstText ∧
      second.scalarText? = some secondText ∧
      (firstText = "" ↔ secondText = "")

/-- Two entries differ at most under a key that the kind does not declare, or in
the text of a secret of the kind. -/
inductive Conceals (kind? : Option Kind) : Node × Node → Node × Node → Prop where
  | same {entry : Node × Node} :
      Conceals kind? entry entry
  | undeclared {key first second : Node} :
      Receiver.isKindKey key = false →
      (∀ kind field, kind? = some kind → ¬ kind.Names field key) →
      Conceals kind? (key, first) (key, second)
  | secret {kind : Kind} {field : Field} {key first second : Node} :
      kind? = some kind →
      kind.Names field key →
      field.sort = .secret →
      first.SameEmptiness second →
      Conceals kind? (key, first) (key, second)

/-- Two settings differ at most in the text of a secret. -/
inductive Setting.Alike : Setting → Setting → Prop where
  | same {setting : Setting} :
      Alike setting setting
  | secret {first second : Secret} :
      first.isEmpty = second.isEmpty →
      Alike (.secret first) (.secret second)

/-- Two lists of settings differ at most in the texts of secrets. -/
def AlikeSettings : List (String × Setting) → List (String × Setting) → Prop :=
  List.Forall₂ fun first second =>
    first.1 = second.1 ∧ Setting.Alike first.2 second.2

/-- Two receivers differ at most in the texts of secrets. -/
structure Receiver.Alike (first second : Receiver) : Prop where
  kind :
    first.kind = second.kind
  settings :
    AlikeSettings first.settings second.settings

theorem Conceals.key_eq
    {kind? : Option Kind}
    {first second : Node × Node}
    (conceals : Conceals kind? first second) :
    first.1 = second.1 := by
  cases conceals <;> rfl

theorem Setting.Alike.isEmpty_eq
    {first second : Setting}
    (alike : first.Alike second) :
    first.isEmpty = second.isEmpty := by
  cases alike with
  | same =>
      rfl
  | secret sameEmptiness =>
      exact sameEmptiness

theorem Setting.Alike.export?_eq
    {first second : Setting}
    (alike : first.Alike second) :
    first.export? = second.export? := by
  cases alike <;> rfl

/-- A field has settings that differ at most in secrets in both lists, or in
neither. -/
theorem lookup_of_alike
    {first second : List (String × Setting)}
    (alike : AlikeSettings first second)
    (name : String) :
    (first.lookup name = none ∧ second.lookup name = none) ∨
      ∃ firstSetting secondSetting,
        first.lookup name = some firstSetting ∧
          second.lookup name = some secondSetting ∧
          firstSetting.Alike secondSetting := by
  induction alike with
  | nil =>
      exact .inl ⟨rfl, rfl⟩
  | @cons firstHead secondHead _ _ head _ inductionHypothesis =>
      rw [Lookup.lookup_cons_eq_ite, Lookup.lookup_cons_eq_ite, ← head.1]
      by_cases same : name = firstHead.1
      · rw [if_pos same, if_pos same]
        exact .inr ⟨firstHead.2, secondHead.2, rfl, rfl, head.2⟩
      · rw [if_neg same, if_neg same]
        exact inductionHypothesis

namespace Kind

/-- Values that conceal a difference are read alike. -/
theorem read_of_conceals
    {kind : Kind}
    {field : Field}
    {first second : Node × Node}
    (conceals : Conceals (some kind) first second)
    (names : kind.Names field first.1) :
    Outcome.Matches Setting.Alike
      (field.sort.read first.2) (field.sort.read second.2) := by
  cases conceals with
  | same =>
      exact .refl (fun _ => .same) _
  | undeclared _ notNamed =>
      exact (notNamed kind field rfl names).elim
  | secret sameKind namesSecret isSecret sameEmptiness =>
      cases sameKind
      obtain ⟨firstText, secondText, firstScalar, secondScalar, alike⟩ :=
        sameEmptiness
      rw [names.unique namesSecret, isSecret]
      have firstReads :=
        SettingSort.read_eq_ok_iff.mpr (Converts.secret firstScalar)
      have secondReads :=
        SettingSort.read_eq_ok_iff.mpr (Converts.secret secondScalar)
      have emptyAlike : firstText.isEmpty = secondText.isEmpty := by
        rw [Bool.eq_iff_iff, String.isEmpty_iff, String.isEmpty_iff]
        exact alike
      rw [firstReads, secondReads]
      exact .ok (.secret emptyAlike)

/-- Runs over entries that conceal a difference end alike, if they started with
settings that differ at most in secrets. -/
theorem readEntries_of_conceals
    {kind : Kind}
    {first second : List (Node × Node)}
    {firstGiven secondGiven : List (String × Setting)}
    (conceal : List.Forall₂ (Conceals (some kind)) first second)
    (alike : AlikeSettings firstGiven secondGiven) :
    Outcome.Matches AlikeSettings
      (kind.readEntries firstGiven first)
      (kind.readEntries secondGiven second) := by
  induction conceal generalizing firstGiven secondGiven with
  | nil =>
      exact .ok alike
  | @cons firstHead secondHead _ _ head _ inductionHypothesis =>
      have sameField : kind.fieldOf? secondHead.1 = kind.fieldOf? firstHead.1 := by
        rw [head.key_eq]
      cases named : kind.fieldOf? firstHead.1 with
      | none =>
          rw [readEntries_cons_of_none named,
            readEntries_cons_of_none (sameField.trans named)]
          exact inductionHypothesis alike
      | some field =>
          rw [readEntries_cons_of_some named,
            readEntries_cons_of_some (sameField.trans named)]
          have sameLookup :
              (firstGiven.lookup field.name).isSome =
                (secondGiven.lookup field.name).isSome := by
            rcases lookup_of_alike alike field.name with
              ⟨firstNone, secondNone⟩ | ⟨_, _, firstFound, secondFound, _⟩
            · rw [firstNone, secondNone]
            · rw [firstFound, secondFound]
              rfl
          rw [sameLookup]
          split
          · exact .error
          · refine (read_of_conceals head (fieldOf?_eq_some_iff.mp named)).bind ?_
            intro firstSetting secondSetting alikeSettings
            exact inductionHypothesis (.cons ⟨rfl, alikeSettings⟩ alike)

/-- The first entry that cannot be read is the same, and so is its error. -/
theorem locate_of_conceals
    {kind : Kind}
    {first second : List (Node × Node)}
    (conceal : List.Forall₂ (Conceals (some kind)) first second)
    (whole : SettingError) :
    kind.locate whole first = kind.locate whole second := by
  induction conceal with
  | nil =>
      rfl
  | @cons firstHead secondHead _ _ head _ inductionHypothesis =>
      have sameField : kind.fieldOf? secondHead.1 = kind.fieldOf? firstHead.1 := by
        rw [head.key_eq]
      cases named : kind.fieldOf? firstHead.1 with
      | none =>
          rw [locate_cons_of_none named,
            locate_cons_of_none (sameField.trans named), inductionHypothesis]
      | some field =>
          rw [locate_cons_of_some named,
            locate_cons_of_some (sameField.trans named),
            inductionHypothesis, head.key_eq]
          have readsAlike := read_of_conceals head (fieldOf?_eq_some_iff.mp named)
          generalize field.sort.read firstHead.2 = firstRead at readsAlike ⊢
          generalize field.sort.read secondHead.2 = secondRead at readsAlike ⊢
          cases readsAlike <;> rfl

/-- Two collections of given settings differ at most in the texts of secrets. -/
def Given.Alike {kind : Kind} (first second : kind.Given) : Prop :=
  AlikeSettings first.settings second.settings

/-- Runs over all entries that conceal a difference end alike. -/
theorem readAll_of_conceals
    {kind : Kind}
    {first second : List (Node × Node)}
    (conceal : List.Forall₂ (Conceals (some kind)) first second) :
    Outcome.Matches Given.Alike (kind.readAll first) (kind.readAll second) := by
  have runs := readEntries_of_conceals conceal .nil
  generalize isFirst : kind.readEntries [] first = firstRun at runs
  generalize isSecond : kind.readEntries [] second = secondRun at runs
  cases runs with
  | ok alike =>
      obtain ⟨firstGiven, rfl, firstEnded⟩ := exists_readAll isFirst
      obtain ⟨secondGiven, rfl, secondEnded⟩ := exists_readAll isSecond
      rw [firstEnded, secondEnded]
      exact .ok alike
  | error =>
      rw [readAll_eq_error_iff.mpr isFirst, readAll_eq_error_iff.mpr isSecond]
      exact .error

/-- Entries that conceal a difference give settings that differ at most in
secrets, or fail alike. -/
theorem readGiven_of_conceals
    {kind : Kind}
    {first second : List (Node × Node)}
    (conceal : List.Forall₂ (Conceals (some kind)) first second) :
    Outcome.Matches Given.Alike (kind.readGiven first) (kind.readGiven second) := by
  have runs := readAll_of_conceals conceal
  unfold readGiven
  generalize kind.readAll first = firstRun at runs ⊢
  generalize kind.readAll second = secondRun at runs ⊢
  cases runs with
  | ok alike =>
      exact .ok alike
  | @error failure =>
      cases failure with
      | aborted =>
          exact .error
      | refused error =>
          have sameFailure := locate_of_conceals conceal error
          simp only [sameFailure]
          exact .error

/-- Settings that differ in secrets are overlaid alike. -/
theorem overlay_of_alike
    (kind : Kind)
    {firstGiven secondGiven : kind.Given}
    (alike : firstGiven.Alike secondGiven) :
    (kind.overlay firstGiven).Alike (kind.overlay secondGiven) where
  kind :=
    rfl
  settings := by
    refine List.forall₂_map_left_iff.mpr (List.forall₂_map_right_iff.mpr ?_)
    refine List.forall₂_same.mpr fun field _ => ⟨rfl, ?_⟩
    rcases lookup_of_alike alike field.name with
      ⟨firstNone, secondNone⟩ | ⟨_, _, firstFound, secondFound, alikeSetting⟩
    · rw [firstNone, secondNone]
      exact .same
    · rw [firstFound, secondFound]
      exact alikeSetting

/-- The same keys are unknown, whatever is under them. -/
theorem unknownKeys_of_conceals
    {kind : Kind}
    {kind? : Option Kind}
    {first second : List (Node × Node)}
    (conceal : List.Forall₂ (Conceals kind?) first second) :
    kind.unknownKeys first = kind.unknownKeys second := by
  unfold unknownKeys
  induction conceal with
  | nil =>
      rfl
  | @cons firstHead secondHead _ _ head _ inductionHypothesis =>
      simp only [List.filter_cons, head.key_eq]
      split
      · simp only [List.map_cons, head.key_eq, inductionHypothesis]
      · exact inductionHypothesis

end Kind

namespace Receiver

/-- Receivers that differ in secrets have the same headers. -/
theorem Alike.headers_eq
    {first second : Receiver}
    (alike : first.Alike second) :
    first.headers = second.headers := by
  unfold headers setting?
  rcases lookup_of_alike alike.settings "headers" with
    ⟨firstNone, secondNone⟩ | ⟨_, _, firstFound, secondFound, alikeSetting⟩
  · rw [firstNone, secondNone]
  · rw [firstFound, secondFound]
    cases alikeSetting <;> rfl

/-- Receivers that differ in secrets still do so with other headers. -/
theorem Alike.withHeaders
    {first second : Receiver}
    (alike : first.Alike second)
    (headers : Dict String) :
    (first.withHeaders headers).Alike (second.withHeaders headers) where
  kind :=
    alike.kind
  settings := by
    refine List.forall₂_map_left_iff.mpr (List.forall₂_map_right_iff.mpr ?_)
    refine alike.settings.imp fun firstEntry secondEntry entries => ?_
    rw [← entries.1]
    split
    · exact ⟨rfl, .same⟩
    · exact entries

/-- Receivers that differ in secrets are normalised alike. -/
theorem Alike.normalize
    {first second : Receiver}
    (alike : first.Alike second) :
    Outcome.Matches Alike first.normalize second.normalize := by
  by_cases isMail : first.kind = .email
  · rw [normalize_of_eq_email isMail,
      normalize_of_eq_email (alike.kind ▸ isMail), alike.headers_eq]
    split
    · exact .ok (alike.withHeaders _)
    · exact .error
  · rw [normalize_of_ne_email isMail,
      normalize_of_ne_email (alike.kind ▸ isMail)]
    exact .ok alike

/-- Receivers that differ in secrets lack the same field. -/
theorem Alike.missingField?_eq
    {first second : Receiver}
    (alike : first.Alike second) :
    first.missingField? = second.missingField? := by
  have emptyAlike : ∀ name,
      (first.setting? name).all Setting.isEmpty =
        (second.setting? name).all Setting.isEmpty := by
    intro name
    unfold setting?
    rcases lookup_of_alike alike.settings name with
      ⟨firstNone, secondNone⟩ | ⟨_, _, firstFound, secondFound, alikeSetting⟩
    · rw [firstNone, secondNone]
    · rw [firstFound, secondFound]
      exact alikeSetting.isEmpty_eq
  simp only [missingField?, alike.kind, emptyAlike]

/-- Receivers that differ in secrets are exported alike. -/
theorem Alike.toExport_eq
    {first second : Receiver}
    (alike : first.Alike second) :
    first.toExport = second.toExport := by
  have sameKind := alike.kind
  have settings := alike.settings
  unfold toExport exportEntries
  rw [sameKind]
  generalize first.settings = firstSettings at settings ⊢
  generalize second.settings = secondSettings at settings ⊢
  congr 2
  induction settings with
  | nil =>
      rfl
  | @cons firstHead secondHead _ _ head _ inductionHypothesis =>
      have elidesAlike : ∀ name,
          second.kind.elides name firstHead.2 =
            second.kind.elides name secondHead.2 := by
        simp only [Kind.elides, head.2.isEmpty_eq, implies_true]
      simp only [List.filterMap_cons, elidesAlike, head.1, head.2.export?_eq,
        inductionHypothesis]

/-- Entries that conceal a difference are decoded alike. -/
theorem ofEntries_of_conceals
    {kind : Kind}
    {first second : List (Node × Node)}
    (conceal : List.Forall₂ (Conceals (some kind)) first second) :
    Outcome.Matches Alike (ofEntries kind first) (ofEntries kind second) := by
  unfold ofEntries
  rw [Kind.readGiven_filter fun _ => id, Kind.readGiven_filter fun _ => id,
    Kind.unknownKeys_of_conceals conceal]
  refine (Kind.readGiven_of_conceals conceal).bind fun _ _ alikeGiven => ?_
  have normalized := (kind.overlay_of_alike alikeGiven).normalize
  refine (Outcome.Matches.ofExcept normalized).bind
    fun firstReceiver secondReceiver alike => ?_
  have sameCheck : firstReceiver.checkRequired = secondReceiver.checkRequired := by
    simp only [checkRequired, alike.missingField?_eq, alike.kind]
  rw [sameCheck]
  refine (Outcome.Matches.refl (fun _ => rfl) _).bind fun _ _ _ => ?_
  refine (Outcome.Matches.refl (fun _ => rfl) _).bind fun _ _ _ => ?_
  exact .ok alike

end Receiver

/-- The kind that the entries of a node name. -/
def namedKind? (entries : List (Node × Node)) : Option Kind :=
  (Receiver.kindNode? entries).bind fun value =>
    (Receiver.readKind value).toOption

/-- Two nodes differ at most in what the kind they name conceals. -/
inductive Node.Alike : Node → Node → Prop where
  | same {node : Node} :
      Alike node node
  | mapping {first second : List (Node × Node)} :
      List.Forall₂ (Conceals (namedKind? first)) first second →
      Alike (.mapping first) (.mapping second)

/-- The entry that names the kind is never concealed. -/
theorem Conceals.eq_of_isKindKey
    {kind? : Option Kind}
    {first second : Node × Node}
    (conceals : Conceals kind? first second)
    (isKindKey : Receiver.isKindKey first.1 = true) :
    first = second := by
  cases conceals with
  | same =>
      rfl
  | undeclared notKindKey _ =>
      rw [notKindKey] at isKindKey
      cases isKindKey
  | secret _ names _ _ =>
      rw [names.not_isKindKey] at isKindKey
      cases isKindKey

namespace Receiver

/-- Entries that conceal a difference name the kind alike. -/
theorem kindNode?_of_conceals
    {kind? : Option Kind}
    {first second : List (Node × Node)}
    (conceal : List.Forall₂ (Conceals kind?) first second) :
    kindNode? first = kindNode? second := by
  have sameEntries :
      (first.filter fun entry => isKindKey entry.1) =
        second.filter fun entry => isKindKey entry.1 := by
    induction conceal with
    | nil =>
        rfl
    | @cons firstHead secondHead _ _ head _ inductionHypothesis =>
        rw [List.filter_cons, List.filter_cons, ← head.key_eq,
          inductionHypothesis]
        split
        · rename_i isKindKey
          rw [head.eq_of_isKindKey isKindKey]
        · rfl
  unfold kindNode?
  rw [sameEntries]

/-- Nodes that conceal a difference are decoded alike. -/
theorem decodeTagged_of_alike
    {first second : Node}
    (alike : first.Alike second) :
    Outcome.Matches Alike (decodeTagged first) (decodeTagged second) := by
  cases alike with
  | same =>
      exact .refl
        (fun receiver =>
          ⟨rfl, List.forall₂_same.mpr fun _ _ => ⟨rfl, .same⟩⟩)
        _
  | @mapping firstEntries secondEntries conceal =>
      have sameKindNode := kindNode?_of_conceals conceal
      cases named : kindNode? firstEntries with
      | none =>
          have otherNamed := sameKindNode.symm.trans named
          simp only [decodeTagged, named, otherNamed]
          exact .error
      | some value =>
          have otherNamed := sameKindNode.symm.trans named
          cases read : readKind value with
          | error error =>
              simp only [decodeTagged, named, otherNamed, read, Outcome.ofExcept,
                Outcome.refuse, Outcome.error_bind]
              exact .error
          | ok kind =>
              have isKind : namedKind? firstEntries = some kind := by
                simp [namedKind?, named, read, Except.toOption]
              rw [isKind] at conceal
              simp only [decodeTagged, named, otherNamed, read, Outcome.ofExcept,
                Outcome.ok_bind]
              refine ofEntries_of_conceals ?_
              refine List.rel_filter ?_ conceal
              intro firstEntry secondEntry head
              simp only [head.key_eq]

end Receiver

end AlertReceivers
