import AlertReceivers.Proofs.Document.Decoding
import AlertReceivers.Proofs.Receiver.RoundTrip
import AlertReceivers.Proofs.Receiver.Tagged

namespace AlertReceivers

/-!
# Canonical texts of spans

A text that is accepted is a span with an opposite, and the text of such a span is read
back.  So the texts of spans tell apart all spans that can be written, and the spans of a
receiver are not changed when it is exported and decoded again.
-/

namespace Span

/-- Exactly the least span is the span of no text. -/
theorem exists_read_eq_ok_iff
    {span : Span} :
    (∃ text, read text = .ok span) ↔ span ≠ least := by
  constructor
  · rintro ⟨text, reads⟩ rfl
    exact absurd (natAbs_of_read reads) (by decide)
  · intro notLeast
    exact ⟨span.text, by rw [read_text_unless_least, if_neg notLeast]⟩

/-- The text of a span that was read is read as the same span. -/
theorem read_text_of_read
    {text : String}
    {span : Span}
    (reads : read text = .ok span) :
    read span.text = .ok span :=
  read_text (natAbs_of_read reads)

/-- Spans that were read have the same text exactly if they are as long. -/
theorem text_eq_iff_of_read
    {firstText secondText : String}
    {first second : Span}
    (readsFirst : read firstText = .ok first)
    (readsSecond : read secondText = .ok second) :
    first.text = second.text ↔ first.nanos = second.nanos := by
  constructor
  · intro sameText
    have readsBoth := read_text_of_read readsFirst
    rw [sameText, read_text_of_read readsSecond] at readsBoth
    cases readsBoth
    rfl
  · intro sameNanos
    cases first
    cases second
    cases sameNanos
    rfl

end Span

theorem Setting.exists_span
    {setting : Setting}
    (isSpan : setting.sort = .span) :
    ∃ span, setting = .span span := by
  cases setting with
  | span span =>
      exact ⟨span, rfl⟩
  | flag | optionalFlag | text | secret | table =>
      cases isSpan

/-- The span of a setting of a receiver is exported, and is decoded from the export. -/
structure Receiver.ReturnsSpan
    (receiver again : Receiver)
    (name : String)
    (span : Span) :
    Prop where
  original :
    receiver.setting? name = some (.span span)
  exported :
    ∃ entries,
      receiver.toExport.toNode = .mapping entries ∧
        (.text name, .text span.text) ∈ entries
  returned :
    again.setting? name = some (.span span)

namespace Receiver

/-- A decoded receiver is exportable unless it is for mails, whose headers matter. -/
theorem exportable_of_decodeTagged
    {node : Node}
    {receiver : Receiver}
    (decoded : decodeTagged node = .ok receiver)
    (noMail : receiver.kind ≠ .email) :
    receiver.Exportable := by
  obtain ⟨entries, value, rfl, _, _, isReceiver⟩ := named_of_decodeTagged decoded
  exact exportable_of_ofEntries isReceiver fun isMail => (noMail isMail).elim

/-- The spans of a receiver are left alone by its export and its redaction. -/
theorem exists_returnsSpan
    {receiver : Receiver}
    {field : Field}
    (member : field ∈ receiver.kind.schema)
    (isSpan : field.sort = .span) :
    ∃ span, receiver.ReturnsSpan receiver.redacted field.name span := by
  obtain ⟨setting, found⟩ := exists_setting member
  obtain ⟨span, rfl⟩ := Setting.exists_span ((sort_of_setting? member found).trans isSpan)
  refine ⟨span, found, ⟨_, receiver.toNode_toExport, ?_⟩, ?_⟩
  · have inSettings := setting?_eq_some_iff.mp found
    exact List.mem_cons_of_mem _ (mem_exportedSettings inSettings rfl rfl)
  · rw [setting?_redacted, found]
    rfl

end Receiver

/-- The receiver of a name was decoded from a node of this name. -/
theorem Document.exists_node_of_decode
    {document : Document}
    {receivers : Dict Receiver}
    {name : String}
    {receiver : Receiver}
    (decoded : document.decode = .ok receivers)
    (found : receivers.get? name = some receiver) :
    ∃ node,
      document.receivers.get? name = some node ∧
        Receiver.decodeTagged node = .ok receiver := by
  rw [(decode_eq_ok_iff.mp decoded).get?_eq] at found
  obtain ⟨node, isNode, isReceiver⟩ := Option.bind_eq_some_iff.mp found
  exact ⟨node, isNode, Outcome.value?_eq_some_iff.mp isReceiver⟩

/--
The text of a span that was read from any text is read as this span, and all spans but the
least one are read from some text.  Two accepted texts have the same canonical text exactly
if they stand for equally many nanoseconds.  So the spans of every pushover receiver of a
document are exported as texts from which the same spans are decoded again.
-/
theorem canonicalText_of_accepted :
    (∀ text span,
      Span.read text = .ok span →
        Span.read span.text = .ok span) ∧
      (∀ span, (∃ text, Span.read text = .ok span) ↔ span ≠ Span.least) ∧
      (∀ firstText secondText first second,
        Span.read firstText = .ok first →
          Span.read secondText = .ok second →
          (first.text = second.text ↔ first.nanos = second.nanos)) ∧
      ∀ document receivers name receiver,
        Document.decode document = .ok receivers →
          receivers.get? name = some receiver →
          receiver.kind = .pushover →
          ∃ again,
            Receiver.decodeTagged receiver.toExport.toNode = .ok again ∧
              again.kind = .pushover ∧
              ∀ fieldName,
                fieldName = "retry" ∨ fieldName = "expire" →
                  ∃ span, receiver.ReturnsSpan again fieldName span := by
  refine ⟨fun _ _ => Span.read_text_of_read, fun _ => Span.exists_read_eq_ok_iff,
    fun _ _ _ _ => Span.text_eq_iff_of_read, ?_⟩
  intro document receivers name receiver decoded found isPushover
  obtain ⟨node, _, isReceiver⟩ := Document.exists_node_of_decode decoded found
  have exportable := Receiver.exportable_of_decodeTagged isReceiver (by simp [isPushover])
  refine ⟨receiver.redacted, ?_, isPushover, fun fieldName isName => ?_⟩
  · rw [Receiver.decodeTagged_toNode]
    exact exportable.ofEntries_exportedSettings
  · obtain ⟨field, member, rfl, isSpan⟩ := Kind.exists_spanField isName
    exact Receiver.exists_returnsSpan (isPushover ▸ member) isSpan

/-- A document with a pushover receiver that is retried every ninety seconds. -/
def patientDocument : Document where
  receivers :=
    .ofList
      [("p",
        .mapping
          [(.text "user_key", .text "u"),
           (.text "token", .text "t"),
           (.text "retry", .text "0.5m 60s"),
           (.text "type", .text "pushover")])]

/-- Two texts for ninety minutes have one canonical text, and the exported receiver is read
back with its span. -/
theorem canonicalText_of_accepted_patientDocument :
    (∃ first second,
      Span.read " 90m" = .ok first ∧
        Span.read "1.5 h" = .ok second ∧
        Span.read first.text = .ok first ∧
        first.text = second.text) ∧
      ∃ receivers receiver again span,
        patientDocument.decode = .ok receivers ∧
          receivers.get? "p" = some receiver ∧
          Receiver.decodeTagged receiver.toExport.toNode = .ok again ∧
          receiver.ReturnsSpan again "retry" span := by
  obtain ⟨readsAgain, _, sameText, returns⟩ := canonicalText_of_accepted
  constructor
  · obtain ⟨first, readsFirst, firstNanos⟩ :
        ∃ first, Span.read " 90m" = .ok first ∧ first.nanos = 5400000000000 :=
      ⟨_, rfl, rfl⟩
    obtain ⟨second, readsSecond, secondNanos⟩ :
        ∃ second, Span.read "1.5 h" = .ok second ∧ second.nanos = 5400000000000 :=
      ⟨_, rfl, rfl⟩
    have sameNanos : first.nanos = second.nanos := firstNanos.trans secondNanos.symm
    exact ⟨first, second, readsFirst, readsSecond, readsAgain _ _ readsFirst,
      (sameText _ _ _ _ readsFirst readsSecond).mpr sameNanos⟩
  · obtain ⟨receivers, receiver, decoded, found, isPushover⟩ :
        ∃ receivers receiver,
          patientDocument.decode = .ok receivers ∧
            receivers.get? "p" = some receiver ∧
            receiver.kind = .pushover :=
      ⟨_, _, rfl, rfl, rfl⟩
    obtain ⟨again, decodedAgain, _, eachReturns⟩ :=
      returns patientDocument receivers "p" receiver decoded found isPushover
    obtain ⟨span, returnsSpan⟩ := eachReturns "retry" (.inl rfl)
    exact ⟨receivers, receiver, again, span, decoded, found, decodedAgain, returnsSpan⟩

end AlertReceivers
