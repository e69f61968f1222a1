import AlertReceivers.Proofs.Document.Secrecy
import AlertReceivers.Proofs.Receiver.Tagged
import AlertReceivers.Proofs.Span.LastSecond

namespace AlertReceivers

/-!
# Texts and nodes with an answer

A text is a span or is refused with a reason, and a node is a receiver or is refused
with an error of its own kind.  Texts that fill up the last second of the counters are
the only exception.
-/

/-- The kind of the receiver that an error is about. -/
def DecodeError.kind? : DecodeError → Option Kind
  | .notAMapping kind? _ =>
      kind?
  | .malformed kind _ _ | .missingField kind _ | .unknownFields kind _
  | .duplicateHeader kind _ =>
      some kind
  | .missingKind | .unknownKind _ =>
      none

/-- Entries give a span of a pushover receiver a text that fills up the last second. -/
def GivesFullSpan (entries : List (Node × Node)) : Prop :=
  ∃ entry ∈ entries,
    (entry.1.asText? = some "retry" ∨ entry.1.asText? = some "expire") ∧
      ∃ written,
        entry.2.scalarText? = some written ∧ Span.FillsUpLastSecond written

/-- A reading of a text ends with a span, or with a refusal of the text. -/
def Span.Answers (text : String) (outcome : Outcome Refusal Span) : Prop :=
  (∃ span, outcome = .ok span) ∨ ∃ reason, outcome = .refuse ⟨text, reason⟩

/-- Decoding ends with a receiver, or with an error about one of the kind. -/
def Kind.Answers (kind : Kind) (outcome : Outcome DecodeError Receiver) : Prop :=
  (∃ receiver, outcome = .ok receiver) ∨
    ∃ error, outcome = .refuse error ∧ error.kind? = some kind

/-- A text has an answer unless reading aborts. -/
theorem Span.answers_iff
    {text : String} :
    Span.Answers text (read text) ↔ read text ≠ .error .aborted := by
  unfold Answers read
  cases readChars text.toList with
  | ok span =>
      simp [Outcome.mapRefusal]
  | error failure =>
      cases failure <;> simp [Outcome.mapRefusal, Outcome.refuse, Failure.map]

namespace Kind

/-- The spans of a pushover receiver are two. -/
theorem name_of_span
    {field : Field}
    (member : field ∈ pushover.schema)
    (isSpan : field.sort = .span) :
    field.name = "retry" ∨ field.name = "expire" := by
  have each : ∀ field ∈ pushover.schema,
      field.sort = .span → field.name = "retry" ∨ field.name = "expire" := by
    decide
  exact each field member isSpan

/-- Where decoding a pushover receiver gives up, a span fills up the last second. -/
theorem GivesUp.givesFullSpan
    {entries : List (Node × Node)}
    (givesUp : pushover.GivesUp entries) :
    GivesFullSpan entries := by
  induction givesUp with
  | @here key value rest field written names isSpan scalar aborts =>
      refine ⟨(key, value), List.mem_cons_self, ?_, written, scalar,
        Span.read_eq_aborted_iff.mp aborts⟩
      rcases name_of_span names.1 isSpan with isName | isName
      · exact .inl (isName ▸ names.2)
      · exact .inr (isName ▸ names.2)
  | later _ _ inductionHypothesis =>
      obtain ⟨entry, member, full⟩ := inductionHypothesis
      exact ⟨entry, List.mem_cons_of_mem _ member, full⟩

/-- Entries have an answer unless they make decoding give up. -/
theorem Judged.answers
    {kind : Kind}
    {entries : List (Node × Node)}
    {outcome : Outcome DecodeError Receiver}
    (judged : kind.Judged entries outcome)
    (goesOn : ¬ kind.GivesUp entries) :
    kind.Answers outcome := by
  cases judged with
  | givesUp givesUp =>
      exact (goesOn givesUp).elim
  | malformed | duplicateHeader | missingField | unknownFields =>
      exact .inr ⟨_, rfl, rfl⟩
  | receiver =>
      exact .inl ⟨_, rfl⟩

/-- A node has an answer if its entries do not make decoding give up. -/
theorem answers_decode
    {kind : Kind}
    {node : Node}
    (goesOn : ∀ entries, node.Lists entries → ¬ kind.GivesUp entries) :
    kind.Answers (Receiver.decode kind node) := by
  unfold Receiver.decode
  cases listed : node.entries? with
  | none =>
      exact .inr ⟨_, rfl, rfl⟩
  | some entries =>
      exact (Receiver.judged_of_ofEntries kind entries).answers
        (goesOn entries (Node.entries?_eq_some_iff.mp listed))

/-- A node that names its kind has an answer if its entries do not make decoding give
up. -/
theorem answers_decodeTagged
    {kind : Kind}
    {entries : List (Node × Node)}
    (named : namedKind? entries = some kind)
    (goesOn : ¬ kind.GivesUp entries) :
    kind.Answers (Receiver.decodeTagged (.mapping entries)) := by
  obtain ⟨value, isValue, isName⟩ := Receiver.namedKind?_eq_some_iff.mp named
  have judged := Receiver.judged_of_ofEntries kind
    (entries.filter fun entry => !Receiver.isKindKey entry.1)
  rw [Receiver.decodeTagged_of_kindNode? isValue isName]
  exact judged.answers (mt Receiver.givesUp_filter_iff.mp goesOn)

end Kind

/--
Exactly the texts that fill up the last second are neither a span nor refused with a
reason.  Hence a pushover node none of whose spans has such a text is a receiver or is
refused with an error of a pushover receiver, whatever else it holds, and whether or not
it names its kind itself.
-/
theorem answers_unless_lastSecond
    (text : String)
    (node : Node) :
    (Span.Answers text (Span.read text) ↔ ¬ Span.FillsUpLastSecond text) ∧
      ((∀ entries, node.Lists entries → ¬ GivesFullSpan entries) →
        Kind.pushover.Answers (Receiver.decode .pushover node) ∧
          ∀ entries,
            node = .mapping entries →
              namedKind? entries = some .pushover →
              Kind.pushover.Answers (Receiver.decodeTagged node)) := by
  refine ⟨?_, fun noneFull => ⟨?_, ?_⟩⟩
  · rw [Span.answers_iff, Ne, Span.read_eq_aborted_iff]
  · exact Kind.answers_decode fun entries lists givesUp =>
      noneFull entries lists givesUp.givesFullSpan
  · rintro entries rfl named
    exact Kind.answers_decodeTagged named fun givesUp =>
      noneFull entries .mapping givesUp.givesFullSpan

/-- The entries of a pushover node with a span of as many seconds as a counter holds. -/
def longestEntries : List (Node × Node) :=
  [(.text "type", .text "pushover"),
   (.text "user_key", .text "u"),
   (.text "token", .text "t"),
   (.text "retry", .text "18446744073709551615s")]

/-- The seconds of the longest time do not fill up its last second. -/
theorem answers_unless_lastSecond_longest :
    namedKind? longestEntries = some .pushover ∧
      ¬ GivesFullSpan longestEntries ∧
      Span.Answers "18446744073709551615s" (Span.read "18446744073709551615s") ∧
      Kind.pushover.Answers (Receiver.decodeTagged (.mapping longestEntries)) := by
  have named : namedKind? longestEntries = some .pushover := rfl
  have isRefused :
      Span.read "18446744073709551615s" =
        .refuse ⟨"18446744073709551615s", .outOfRange⟩ := rfl
  have notFull : ¬ Span.FillsUpLastSecond "18446744073709551615s" := by
    rw [← Span.read_eq_aborted_iff, isRefused]
    exact nofun
  have noneFull : ¬ GivesFullSpan longestEntries := by
    rintro ⟨entry, member, isSpan, written, scalar, full⟩
    simp only [longestEntries, List.mem_cons, List.not_mem_nil, or_false] at member
    rcases member with rfl | rfl | rfl | rfl
    · simp [Node.asText?, Node.untagged] at isSpan
    · simp [Node.asText?, Node.untagged] at isSpan
    · simp [Node.asText?, Node.untagged] at isSpan
    · obtain rfl : "18446744073709551615s" = written := Option.some.inj scalar
      exact notFull full
  obtain ⟨answers, answersNode⟩ :=
    answers_unless_lastSecond "18446744073709551615s" (.mapping longestEntries)
  have listed : ∀ entries, (Node.mapping longestEntries).Lists entries →
      ¬ GivesFullSpan entries := by
    rintro entries ⟨⟩
    exact noneFull
  exact ⟨named, noneFull, answers.mpr notFull,
    (answersNode listed).2 longestEntries rfl named⟩

/-- The text is no span, but it is not refused either. -/
theorem lastSecondText_without_answer :
    ¬ Span.Answers Span.lastSecondText (Span.read Span.lastSecondText) := by
  rw [Span.answers_iff]
  exact fun answers => answers Span.read_lastSecondText

end AlertReceivers
