import AlertReceivers.Proofs.Receiver.Overlay
import AlertReceivers.Proofs.Span.LastSecond

namespace AlertReceivers

/-!
# What becomes of a node

Decoding looks for five kinds of errors, one after another.  Which of them it
reports depends on the entries of the node alone, and a node without any of them
becomes a receiver.
-/

namespace Kind

/-- Every declared entry converts and no field is named twice. -/
def Readable
    (kind : Kind)
    (entries : List (Node × Node)) :
    Prop :=
  (∀ entry ∈ entries, kind.Fits entry) ∧ ¬ kind.Repeats entries

/-- The entries give headers to a mail of which two have one canonical name. -/
def HeadersCollide
    (kind : Kind)
    (entries : List (Node × Node)) :
    Prop :=
  kind = .email ∧
    ∃ written,
      kind.Gives entries headersField (.table written) ∧ Collides written

/-- The entries leave a field empty that must be given. -/
def Lacks
    (kind : Kind)
    (entries : List (Node × Node))
    (field : Field) :
    Prop :=
  field.required = true ∧
    ∃ setting, kind.Gives entries field setting ∧ setting.isEmpty = true

/-- The first field of the schema that must be given and is left empty. -/
def LacksFirst
    (kind : Kind)
    (entries : List (Node × Node))
    (name : String) :
    Prop :=
  ∃ earlier field later,
    kind.schema = earlier ++ field :: later ∧
      field.name = name ∧
      kind.Lacks entries field ∧
      ∀ other ∈ earlier, ¬ kind.Lacks entries other

/-- The keys that name no field in their order, as messages describe them. -/
inductive Undeclared (kind : Kind) :
    List (Node × Node) → List String → Prop where
  | none :
      Undeclared kind [] []
  | declared
      {entry : Node × Node}
      {rest : List (Node × Node)}
      {keys : List String}
      {field : Field} :
      kind.Names field entry.1 →
      Undeclared kind rest keys →
      Undeclared kind (entry :: rest) keys
  | undeclared
      {entry : Node × Node}
      {rest : List (Node × Node)}
      {keys : List String} :
      (∀ field, ¬ kind.Names field entry.1) →
      Undeclared kind rest keys →
      Undeclared kind (entry :: rest) (entry.1.describeKey :: keys)

/--
What becomes of the entries of a node.  A case applies only if none of those
before it does.
-/
inductive Judged
    (kind : Kind)
    (entries : List (Node × Node)) :
    Outcome DecodeError Receiver → Prop where
  | givesUp :
      kind.GivesUp entries →
      Judged kind entries .abort
  | malformed {place : Place} {cause : SettingError} :
      ¬ kind.GivesUp entries →
      ¬ kind.Readable entries →
      Judged kind entries (.refuse (.malformed kind place cause))
  | duplicateHeader {header : String} :
      kind.Readable entries →
      kind.HeadersCollide entries →
      Judged kind entries (.refuse (.duplicateHeader kind header))
  | missingField {name : String} :
      kind.Readable entries →
      ¬ kind.HeadersCollide entries →
      kind.LacksFirst entries name →
      Judged kind entries (.refuse (.missingField kind name))
  | unknownFields {keys : List String} :
      kind.Readable entries →
      ¬ kind.HeadersCollide entries →
      (∀ name, ¬ kind.LacksFirst entries name) →
      kind.Undeclared entries keys →
      keys ≠ [] →
      Judged kind entries (.refuse (.unknownFields kind keys))
  | receiver {receiver : Receiver} :
      kind.Readable entries →
      ¬ kind.HeadersCollide entries →
      (∀ name, ¬ kind.LacksFirst entries name) →
      kind.Undeclared entries [] →
      Judged kind entries (.ok receiver)

/-- When decoding ends with which answer. -/
structure Verdict
    (kind : Kind)
    (entries : List (Node × Node))
    (outcome : Outcome DecodeError Receiver) :
    Prop where
  abort :
    outcome = .abort ↔ kind.GivesUp entries
  malformed :
    (∃ place cause, outcome = .refuse (.malformed kind place cause)) ↔
      ¬ kind.GivesUp entries ∧ ¬ kind.Readable entries
  duplicateHeader :
    (∃ header, outcome = .refuse (.duplicateHeader kind header)) ↔
      kind.Readable entries ∧ kind.HeadersCollide entries
  missingField :
    ∀ name,
      outcome = .refuse (.missingField kind name) ↔
        kind.Readable entries ∧
          ¬ kind.HeadersCollide entries ∧
          kind.LacksFirst entries name
  unknownFields :
    ∀ keys,
      outcome = .refuse (.unknownFields kind keys) ↔
        kind.Readable entries ∧
          ¬ kind.HeadersCollide entries ∧
          (∀ name, ¬ kind.LacksFirst entries name) ∧
          kind.Undeclared entries keys ∧
          keys ≠ []
  receiver :
    (∃ receiver, outcome = .ok receiver) ↔
      kind.Readable entries ∧
        ¬ kind.HeadersCollide entries ∧
        (∀ name, ¬ kind.LacksFirst entries name) ∧
        kind.Undeclared entries []

/-- The keys that name no field are those that decoding reports. -/
theorem undeclared_iff
    {kind : Kind}
    {entries : List (Node × Node)}
    {keys : List String} :
    kind.Undeclared entries keys ↔ keys = kind.unknownKeys entries := by
  induction entries generalizing keys with
  | nil =>
      constructor
      · intro undeclared
        cases undeclared
        rfl
      · rintro rfl
        exact .none
  | cons entry rest inductionHypothesis =>
      by_cases declared : kind.declares entry.1 = true
      · obtain ⟨field, names⟩ := declares_iff.mp declared
        have sameKeys : kind.unknownKeys (entry :: rest) = kind.unknownKeys rest := by
          simp [unknownKeys, declared]
        rw [sameKeys, ← inductionHypothesis]
        constructor
        · intro undeclared
          cases undeclared with
          | declared _ restUndeclared =>
              exact restUndeclared
          | undeclared notNamed _ =>
              exact (notNamed field names).elim
        · exact .declared names
      · have notNamed : ∀ field, ¬ kind.Names field entry.1 :=
          fun field names => declared (declares_iff.mpr ⟨field, names⟩)
        have moreKeys :
            kind.unknownKeys (entry :: rest) =
              entry.1.describeKey :: kind.unknownKeys rest := by
          simp [unknownKeys, declared]
        rw [moreKeys]
        constructor
        · intro undeclared
          cases undeclared with
          | declared names _ =>
              exact (notNamed _ names).elim
          | undeclared _ restUndeclared =>
              rw [inductionHypothesis.mp restUndeclared]
        · rintro rfl
          exact .undeclared notNamed (inductionHypothesis.mpr rfl)

theorem GivesUp.not_readable
    {kind : Kind}
    {entries : List (Node × Node)}
    (givesUp : kind.GivesUp entries) :
    ¬ kind.Readable entries := by
  rintro ⟨fits, _⟩
  obtain ⟨entry, member, notFits⟩ := givesUp.exists_not_fits
  exact notFits (fits entry member)

/-- Exactly the headers of the overlaid receiver decide whether headers collide. -/
theorem headersCollide_iff
    {kind : Kind}
    {entries : List (Node × Node)}
    {given : kind.Given}
    (ended : kind.readGiven entries = .ok given) :
    kind.HeadersCollide entries ↔
      kind = .email ∧ Collides (kind.overlay given).headers := by
  refine and_congr_right fun isMail => ?_
  subst kind
  have member := headersField_mem_schema
  obtain ⟨setting, gives, found⟩ := gives_of_overlay ended member
  obtain ⟨written, rfl⟩ := Setting.exists_table (gives.sort_eq member)
  rw [Receiver.headers_of_setting? found]
  constructor
  · rintro ⟨other, givesOther, collides⟩
    cases gives.unique member givesOther
    exact collides
  · intro collides
    exact ⟨written, gives, collides⟩

/-- A required field is found missing exactly if the entries leave it empty. -/
theorem Overlays.lacks_iff
    {kind : Kind}
    {entries : List (Node × Node)}
    {receiver : Receiver}
    {field : Field}
    (overlays : kind.Overlays entries receiver)
    (member : field ∈ kind.schema) :
    (field.required && (receiver.setting? field.name).all Setting.isEmpty) = true ↔
      kind.Lacks entries field := by
  rw [Bool.and_eq_true]
  refine and_congr_right fun required => ?_
  obtain ⟨given, kept, gives, keeps, found⟩ := overlays.settings field member
  have unchanged : kept = given := by
    have sort := gives.sort_eq member
    cases keeps with
    | headers _ _ _ =>
        rcases sort_of_required member required with isText | isSecret
        · rw [isText] at sort
          cases sort
        · rw [isSecret] at sort
          cases sort
    | other _ =>
        rfl
  subst kept
  rw [found]
  constructor
  · intro isEmpty
    exact ⟨given, gives, by simpa using isEmpty⟩
  · rintro ⟨other, givesOther, isEmpty⟩
    rw [gives.unique member givesOther]
    simpa using isEmpty

/-- A search through the schema for the fields that are left empty finds the first
of them. -/
theorem find?_eq_some_iff_lacksFirst
    {kind : Kind}
    {entries : List (Node × Node)}
    {isMissing : Field → Bool}
    {name : String}
    (agrees :
      ∀ {field}, field ∈ kind.schema →
        (isMissing field = true ↔ kind.Lacks entries field)) :
    (kind.schema.find? isMissing).map (·.name) = some name ↔
      kind.LacksFirst entries name := by
  rw [Option.map_eq_some_iff]
  constructor
  · rintro ⟨field, found, isName⟩
    obtain ⟨missing, earlier, later, shape, before⟩ :=
      List.find?_eq_some_iff_append.mp found
    refine ⟨earlier, field, later, shape, isName,
      (agrees (by simp [shape])).mp missing, fun other member => ?_⟩
    intro otherLacks
    have otherMissing := (agrees (by simp [shape, member])).mpr otherLacks
    simpa [otherMissing] using before other member
  · rintro ⟨earlier, field, later, shape, isName, fieldLacks, before⟩
    refine ⟨field, List.find?_eq_some_iff_append.mpr
      ⟨(agrees (by simp [shape])).mpr fieldLacks, earlier, later, shape,
        fun other member => ?_⟩, isName⟩
    have notMissing : ¬ isMissing other = true := fun missing =>
      before other member ((agrees (by simp [shape, member])).mp missing)
    simp [notMissing]

/-- The field that is reported missing is the first one that the entries leave
empty. -/
theorem Overlays.missingField?_eq_some_iff
    {kind : Kind}
    {entries : List (Node × Node)}
    {receiver : Receiver}
    {name : String}
    (overlays : kind.Overlays entries receiver) :
    receiver.missingField? = some name ↔ kind.LacksFirst entries name := by
  unfold Receiver.missingField?
  rw [overlays.sameKind]
  exact find?_eq_some_iff_lacksFirst overlays.lacks_iff

theorem LacksFirst.unique
    {kind : Kind}
    {entries : List (Node × Node)}
    {first second : String}
    (lacksFirst : kind.LacksFirst entries first)
    (lacksSecond : kind.LacksFirst entries second) :
    first = second := by
  classical
  have search {name : String} :
      (kind.schema.find? fun field => decide (kind.Lacks entries field)).map
          (·.name) =
        some name ↔
      kind.LacksFirst entries name :=
    find?_eq_some_iff_lacksFirst fun _ => decide_eq_true_iff
  exact Option.some.inj
    ((search.mpr lacksFirst).symm.trans (search.mpr lacksSecond))

theorem Undeclared.unique
    {kind : Kind}
    {entries : List (Node × Node)}
    {first second : List String}
    (undeclaredFirst : kind.Undeclared entries first)
    (undeclaredSecond : kind.Undeclared entries second) :
    first = second :=
  (undeclared_iff.mp undeclaredFirst).trans
    (undeclared_iff.mp undeclaredSecond).symm

/-- The cases of what becomes of entries exclude each other. -/
theorem Judged.verdict
    {kind : Kind}
    {entries : List (Node × Node)}
    {outcome : Outcome DecodeError Receiver}
    (judged : kind.Judged entries outcome) :
    kind.Verdict entries outcome := by
  have readableGoesOn : kind.Readable entries → ¬ kind.GivesUp entries :=
    fun readable givesUp => givesUp.not_readable readable
  cases judged with
  | givesUp givesUp =>
      have notReadable := givesUp.not_readable
      constructor <;> simp [Outcome.abort, Outcome.refuse, givesUp, notReadable]
  | malformed goesOn notReadable =>
      constructor <;> simp [Outcome.abort, Outcome.refuse, goesOn, notReadable]
  | duplicateHeader readable collide =>
      have goesOn := readableGoesOn readable
      constructor <;>
        simp [Outcome.abort, Outcome.refuse, goesOn, readable, collide]
  | @missingField name readable apart lacks =>
      have goesOn := readableGoesOn readable
      have some : ∃ name, kind.LacksFirst entries name := ⟨name, lacks⟩
      have only : ∀ other, name = other ↔ kind.LacksFirst entries other :=
        fun other =>
          ⟨fun same => same ▸ lacks, fun lacksOther => lacks.unique lacksOther⟩
      constructor <;>
        simp [Outcome.abort, Outcome.refuse, goesOn, readable, apart, some, only]
  | @unknownFields keys readable apart complete undeclared someKeys =>
      have goesOn := readableGoesOn readable
      have notNone : ¬ kind.Undeclared entries [] :=
        fun noKeys => someKeys (undeclared.unique noKeys)
      have only : ∀ other,
          keys = other ↔ kind.Undeclared entries other ∧ other ≠ [] := by
        intro other
        constructor
        · rintro rfl
          exact ⟨undeclared, someKeys⟩
        · rintro ⟨undeclaredOther, _⟩
          exact undeclared.unique undeclaredOther
      constructor <;>
        simp [Outcome.abort, Outcome.refuse, goesOn, readable, apart, complete,
          notNone, only]
  | receiver readable apart complete noKeys =>
      have goesOn := readableGoesOn readable
      have none : ∀ keys, kind.Undeclared entries keys → keys = [] :=
        fun keys undeclared => undeclared.unique noKeys
      constructor <;>
        simp [Outcome.abort, Outcome.refuse, goesOn, readable, apart, complete,
          noKeys]
      exact none

end Kind

namespace Receiver

/-- Entries that cannot all be read make decoding give up, or are refused for a
malformed value. -/
theorem judged_of_readGiven_error
    {kind : Kind}
    {entries : List (Node × Node)}
    (failed : ∀ given, kind.readGiven entries ≠ .ok given) :
    kind.Judged entries (ofEntries kind entries) := by
  have notReadable : ¬ kind.Readable entries := fun readable => by
    obtain ⟨given, ended⟩ := Kind.readGiven_ok_iff.mpr readable
    exact failed given ended
  unfold ofEntries
  rw [Kind.readGiven_filter fun _ => id]
  cases outcome : kind.readGiven entries with
  | ok given =>
      exact (failed given outcome).elim
  | error failure =>
      cases failure with
      | aborted =>
          exact .givesUp (Kind.readGiven_eq_aborted_iff.mp outcome)
      | refused error =>
          have notGivesUp : ¬ kind.GivesUp entries := fun givesUp => by
            rw [Kind.readGiven_eq_aborted_iff.mpr givesUp] at outcome
            cases outcome
          obtain ⟨place, cause, rfl⟩ := Kind.malformed_of_readGiven outcome
          exact .malformed notGivesUp notReadable

/-- Once the settings are overlaid, what is missing or unknown decides. -/
theorem judged_of_normalize
    {kind : Kind}
    {entries : List (Node × Node)}
    {given : kind.Given}
    {receiver : Receiver}
    (ended : kind.readGiven entries = .ok given)
    (normalized : (kind.overlay given).normalize = .ok receiver) :
    kind.Judged entries (ofEntries kind entries) := by
  have readable := Kind.readGiven_ok_iff.mp ⟨given, ended⟩
  have apart : ¬ kind.HeadersCollide entries := by
    rw [Kind.headersCollide_iff ended]
    exact normalize_ok_iff.mp ⟨receiver, normalized⟩
  have overlays := overlays_of_normalize ended normalized
  unfold ofEntries
  rw [Kind.readGiven_filter fun _ => id, ended]
  simp only [Outcome.ok_bind, normalized, Outcome.ofExcept]
  unfold checkRequired
  cases missing : receiver.missingField? with
  | some name =>
      rw [overlays.sameKind]
      exact .missingField readable apart
        (overlays.missingField?_eq_some_iff.mp missing)
  | none =>
      have complete : ∀ name, ¬ kind.LacksFirst entries name := fun name lacks => by
        rw [overlays.missingField?_eq_some_iff.mpr lacks] at missing
        cases missing
      have undeclared : kind.Undeclared entries (kind.unknownKeys entries) :=
        Kind.undeclared_iff.mpr rfl
      unfold checkKnown
      by_cases noKeys : (kind.unknownKeys entries).isEmpty = true
      · rw [List.isEmpty_iff.mp noKeys] at undeclared ⊢
        exact .receiver readable apart complete undeclared
      · rw [if_neg noKeys]
        exact .unknownFields readable apart complete undeclared fun isNil =>
          noKeys (List.isEmpty_iff.mpr isNil)

/-- Decoding ends as the entries of the node demand. -/
theorem judged_of_ofEntries
    (kind : Kind)
    (entries : List (Node × Node)) :
    kind.Judged entries (ofEntries kind entries) := by
  cases ended : kind.readGiven entries with
  | error failure =>
      refine judged_of_readGiven_error fun given isOk => ?_
      rw [ended] at isOk
      cases isOk
  | ok given =>
      cases normalized : (kind.overlay given).normalize with
      | ok receiver =>
          exact judged_of_normalize ended normalized
      | error error =>
          have readable := Kind.readGiven_ok_iff.mp ⟨given, ended⟩
          obtain ⟨isMail, header, rfl⟩ := duplicateHeader_of_normalize normalized
          change kind = .email at isMail
          have collide : kind.HeadersCollide entries := by
            rw [Kind.headersCollide_iff ended]
            by_contra apart
            have succeeds : ∃ result, (kind.overlay given).normalize = .ok result :=
              normalize_ok_iff.mpr apart
            obtain ⟨result, isOk⟩ := succeeds
            rw [normalized] at isOk
            cases isOk
          unfold ofEntries
          rw [Kind.readGiven_filter fun _ => id, ended]
          simp only [Outcome.ok_bind, normalized]
          subst kind
          exact .duplicateHeader readable collide

/--
Decoding refuses exactly the nodes other than null and mappings for not being a
mapping.  Of a mapping's errors, an entry that does not convert or a repeated field
comes first, then colliding headers of a mail, then the first required field that
is left empty, and then all the undeclared keys.  A mapping with none of them
becomes a receiver.  The only exception is an entry with a span on which reading
gives up, if all entries before it convert: then there is no answer at all.
-/
theorem verdict_of_decode
    (kind : Kind)
    (node : Node) :
    (∀ shape,
      decode kind node = .refuse (.notAMapping (some kind) shape) ↔
        (∀ entries, ¬ node.Lists entries) ∧ node.shape = shape) ∧
      ∀ entries, node.Lists entries →
        kind.Verdict entries (decode kind node) := by
  constructor
  · intro shape
    rw [← Node.entries?_eq_none_iff]
    unfold decode
    cases listed : node.entries? with
    | none =>
        simp [Outcome.refuse]
    | some entries =>
        have judged := judged_of_ofEntries kind entries
        simp only [reduceCtorEq, false_and, iff_false]
        intro isRefused
        rw [isRefused] at judged
        cases judged
  · intro entries lists
    unfold decode
    rw [Node.entries?_eq_some_iff.mpr lists]
    exact (judged_of_ofEntries kind entries).verdict

/-- A node for a pushover receiver with a span whose nanoseconds carry over into
too many seconds. -/
def overflowingNode : Node :=
  .mapping
    [(.text "user_key", .text "u"),
     (.text "token", .text "t"),
     (.text "retry", .text Span.lastSecondText)]

/-- The value of an entry does not convert, but decoding gives no answer. -/
theorem overflowingNode_not_malformed :
    ∃ entries,
      overflowingNode.Lists entries ∧
        ¬ Kind.pushover.Readable entries ∧
        ∀ error, decode .pushover overflowingNode ≠ .refuse error := by
  have aborts : decode .pushover overflowingNode = .abort := rfl
  refine ⟨_, .mapping, ?_, ?_⟩
  · intro readable
    have givesUp :=
      (judged_of_ofEntries .pushover _).verdict.abort.mp aborts
    exact givesUp.not_readable readable
  · intro error
    rw [aborts]
    simp [Outcome.abort, Outcome.refuse]

end Receiver

end AlertReceivers
