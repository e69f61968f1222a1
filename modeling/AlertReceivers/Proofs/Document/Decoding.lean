import AlertReceivers.Proofs.Document.Secrecy
import AlertReceivers.Proofs.Text.ByteOrder

namespace AlertReceivers

/-!
# Decoding all receivers of a document

A document is decoded as a whole or not at all.  Either each of its nodes becomes a
receiver, or every node that does not is reported with its own error.  What is said
of one name does not depend on the nodes of other names.
-/

/-- Receivers are what the nodes of a document decode to, name by name. -/
structure Document.DecodesTo
    (document : Document)
    (receivers : Dict Receiver) :
    Prop where
  sameNames :
    receivers.keys = document.receivers.keys
  each :
    ∀ name node, document.receivers.get? name = some node →
      ∃ receiver,
        Receiver.decodeTagged node = .ok receiver ∧
          receivers.get? name = some receiver

/-- Errors are those of the nodes of a document that are no receivers, one for each of
them, in the order of the bytes of the names. -/
structure Document.RefusedWith
    (document : Document)
    (errors : List InvalidReceiver) :
    Prop where
  notNone :
    errors ≠ []
  ascending :
    errors.Pairwise fun first second =>
      Yaml.textBytes first.name.toList < Yaml.textBytes second.name.toList
  each :
    ∀ name cause,
      ⟨name, cause⟩ ∈ errors ↔
        ∃ node,
          document.receivers.get? name = some node ∧
            Receiver.decodeTagged node = .refuse cause

/-- A name is reported with an error when a document is decoded. -/
def Document.Reports
    (document : Document)
    (name : String)
    (cause : DecodeError) :
    Prop :=
  ∃ errors, document.decode = .refuse errors ∧ ⟨name, cause⟩ ∈ errors

/-- A document with a node for a name, in place of the one that the name had. -/
def Document.withNode
    (document : Document)
    (name : String)
    (node : Node) :
    Document where
  receivers :=
    document.receivers.insert name node

namespace Document

variable {document : Document}

theorem get?_withNode
    {name other : String}
    {node : Node}
    (differs : other ≠ name) :
    (document.withNode name node).receivers.get? other =
      document.receivers.get? other := by
  rw [withNode, Dict.get?_insert, if_neg differs]

/-- Every name has the verdict on its own node. -/
theorem get?_verdicts (name : String) :
    document.verdicts.get? name =
      (document.receivers.get? name).map Receiver.decodeTagged := by
  rw [verdicts, Dict.get?_filterMap, Option.map_eq_bind]
  rfl

/-- An error is reported exactly if it is the verdict on the node of its name. -/
theorem mem_invalid_iff
    {name : String}
    {cause : DecodeError} :
    ⟨name, cause⟩ ∈ invalid document.verdicts ↔
      ∃ node,
        document.receivers.get? name = some node ∧
          Receiver.decodeTagged node = .refuse cause := by
  unfold invalid
  rw [entries_verdicts]
  simp only [List.filterMap_map, List.mem_filterMap, Function.comp_apply,
    Option.map_eq_some_iff, InvalidReceiver.mk.injEq, Dict.get?_eq_some_iff]
  constructor
  · rintro ⟨entry, member, error, isError, rfl, rfl⟩
    exact ⟨entry.2, member, Outcome.refusal?_eq_some_iff.mp isError⟩
  · rintro ⟨node, member, isError⟩
    exact ⟨(name, node), member, cause, Outcome.refusal?_eq_some_iff.mpr isError,
      rfl, rfl⟩

/-- Errors are reported in the order of the bytes of their names. -/
theorem pairwise_invalid
    (verdicts : Dict (Outcome DecodeError Receiver)) :
    (invalid verdicts).Pairwise fun first second =>
      Yaml.textBytes first.name.toList < Yaml.textBytes second.name.toList := by
  refine verdicts.sorted.filterMap _ fun first second below => ?_
  intro firstError isFirst secondError isSecond
  obtain ⟨_, _, rfl⟩ := Option.map_eq_some_iff.mp isFirst
  obtain ⟨_, _, rfl⟩ := Option.map_eq_some_iff.mp isSecond
  exact Text.textBytes_lt_of_lt below

/-- A document gives up if the node of a name does. -/
theorem givesUp_iff :
    document.GivesUp ↔
      ∃ name node,
        document.receivers.get? name = some node ∧
          Receiver.decodeTagged node = .abort := by
  unfold GivesUp
  simp only [← Receiver.decodeTagged_eq_aborted_iff, Dict.get?_eq_some_iff,
    Outcome.abort, Prod.exists]

/-- Decoding is abandoned exactly if some receiver gives up. -/
theorem decode_eq_abort_iff :
    document.decode = .abort ↔ document.GivesUp := by
  rw [← any_isAborted_iff, decode]
  split
  · rename_i aborts
    exact iff_of_true rfl aborts
  · rename_i goesOn
    refine iff_of_false ?_ goesOn
    split <;> simp [Outcome.abort, Outcome.refuse]

theorem decode_of_goesOn
    (goesOn : ¬ document.GivesUp) :
    document.decode =
      if (invalid document.verdicts).isEmpty then
        .ok (document.verdicts.filterMap Outcome.value?)
      else
        .refuse (invalid document.verdicts) := by
  rw [decode, if_neg (mt any_isAborted_iff.mp goesOn)]

/-- A document is refused with one list of errors only. -/
theorem RefusedWith.unique
    {first second : List InvalidReceiver}
    (refusedFirst : document.RefusedWith first)
    (refusedSecond : document.RefusedWith second) :
    first = second := by
  have asymmetric :
      Std.Antisymm (fun first second : InvalidReceiver =>
        Yaml.textBytes first.name.toList < Yaml.textBytes second.name.toList) :=
    ⟨fun _ _ below above => (List.lt_asymm below above).elim⟩
  have irreflexive :
      Std.Irrefl (fun first second : InvalidReceiver =>
        Yaml.textBytes first.name.toList < Yaml.textBytes second.name.toList) :=
    ⟨fun _ => List.lt_irrefl _⟩
  refine refusedFirst.ascending.eq_of_mem_iff refusedSecond.ascending
    fun invalid => ?_
  rw [refusedFirst.each invalid.name invalid.cause,
    refusedSecond.each invalid.name invalid.cause]

/-- The receiver of a name is what its own node decodes to. -/
theorem DecodesTo.get?_eq
    {receivers : Dict Receiver}
    (decodesTo : document.DecodesTo receivers)
    (name : String) :
    receivers.get? name =
      (document.receivers.get? name).bind fun node =>
        (Receiver.decodeTagged node).value? := by
  cases found : document.receivers.get? name with
  | some node =>
      obtain ⟨receiver, decoded, inReceivers⟩ := decodesTo.each name node found
      rw [inReceivers, Option.bind_some, decoded, Outcome.value?_ok]
  | none =>
      have absent : name ∉ receivers.keys := by
        rw [decodesTo.sameNames, Dict.mem_keys_iff]
        simp [found]
      rw [Option.bind_none, Option.eq_none_iff_forall_ne_some]
      exact fun receiver inReceivers =>
        absent (Dict.mem_keys_iff.mpr ⟨receiver, inReceivers⟩)

/-- A document decodes to one dictionary of receivers only. -/
theorem DecodesTo.unique
    {first second : Dict Receiver}
    (decodesFirst : document.DecodesTo first)
    (decodesSecond : document.DecodesTo second) :
    first = second :=
  Dict.ext_get? fun name => by
    rw [decodesFirst.get?_eq, decodesSecond.get?_eq]

/-- Without errors, every node is a receiver. -/
theorem exists_receiver_of_no_errors
    {name : String}
    {node : Node}
    (goesOn : ¬ document.GivesUp)
    (noErrors : invalid document.verdicts = [])
    (found : document.receivers.get? name = some node) :
    ∃ receiver, Receiver.decodeTagged node = .ok receiver := by
  cases outcome : Receiver.decodeTagged node with
  | ok receiver =>
      exact ⟨receiver, rfl⟩
  | error failure =>
      cases failure with
      | refused cause =>
          have member := mem_invalid_iff.mpr ⟨node, found, outcome⟩
          rw [noErrors] at member
          cases member
      | aborted =>
          exact (goesOn (givesUp_iff.mpr ⟨name, node, found, outcome⟩)).elim

/-- The errors of the nodes are a list of errors to refuse a document with. -/
theorem refusedWith_invalid
    (someErrors : invalid document.verdicts ≠ []) :
    document.RefusedWith (invalid document.verdicts) where
  notNone :=
    someErrors
  ascending :=
    pairwise_invalid document.verdicts
  each _ _ :=
    mem_invalid_iff

/-- If every node is a receiver, the document decodes to these receivers. -/
theorem decodesTo_of_each
    (each :
      ∀ name node, document.receivers.get? name = some node →
        ∃ receiver, Receiver.decodeTagged node = .ok receiver) :
    document.DecodesTo (document.verdicts.filterMap Outcome.value?) := by
  have eachEntry : ∀ entry ∈ document.receivers.entries,
      ((Outcome.value? (Receiver.decodeTagged entry.2)).map
        fun value => (entry.1, value)).map (·.1) = some entry.1 := by
    intro entry member
    obtain ⟨receiver, decoded⟩ :=
      each entry.1 entry.2 (Dict.get?_eq_some_iff.mpr member)
    simp [decoded]
  constructor
  · unfold Dict.keys Dict.filterMap
    simp only [entries_verdicts, List.filterMap_map, List.map_filterMap,
      Function.comp_apply]
    rw [← List.filterMap_eq_map]
    exact List.filterMap_congr eachEntry
  · intro name node found
    obtain ⟨receiver, decoded⟩ := each name node found
    refine ⟨receiver, decoded, ?_⟩
    rw [Dict.get?_filterMap, get?_verdicts, found, Option.map_some, decoded]
    rfl

/-- A document decodes exactly to the receivers of its nodes. -/
theorem decode_eq_ok_iff
    {receivers : Dict Receiver} :
    document.decode = .ok receivers ↔ document.DecodesTo receivers := by
  constructor
  · intro decoded
    have goesOn : ¬ document.GivesUp := fun givesUp => by
      rw [decode_eq_abort_iff.mpr givesUp] at decoded
      cases decoded
    rw [decode_of_goesOn goesOn] at decoded
    split at decoded
    · rename_i noErrors
      cases decoded
      exact decodesTo_of_each fun name node found =>
        exists_receiver_of_no_errors goesOn (List.isEmpty_iff.mp noErrors) found
    · cases decoded
  · intro decodesTo
    have goesOn : ¬ document.GivesUp := by
      rw [givesUp_iff]
      rintro ⟨name, node, found, aborts⟩
      obtain ⟨receiver, decoded, _⟩ := decodesTo.each name node found
      rw [decoded] at aborts
      cases aborts
    have noErrors : invalid document.verdicts = [] := by
      refine List.eq_nil_iff_forall_not_mem.mpr fun ⟨name, cause⟩ member => ?_
      obtain ⟨node, found, refused⟩ := mem_invalid_iff.mp member
      obtain ⟨receiver, decoded, _⟩ := decodesTo.each name node found
      rw [decoded] at refused
      cases refused
    have each : ∀ name node, document.receivers.get? name = some node →
        ∃ receiver, Receiver.decodeTagged node = .ok receiver :=
      fun name node found =>
        exists_receiver_of_no_errors goesOn noErrors found
    rw [decode_of_goesOn goesOn, noErrors, (decodesTo_of_each each).unique decodesTo]
    rfl

/-- A document is refused exactly with the errors of its nodes, unless it gives
up. -/
theorem decode_eq_refuse_iff
    {errors : List InvalidReceiver} :
    document.decode = .refuse errors ↔
      ¬ document.GivesUp ∧ document.RefusedWith errors := by
  constructor
  · intro refused
    have goesOn : ¬ document.GivesUp := fun givesUp => by
      rw [decode_eq_abort_iff.mpr givesUp] at refused
      cases refused
    rw [decode_of_goesOn goesOn] at refused
    split at refused
    · cases refused
    · rename_i someErrors
      cases refused
      rw [List.isEmpty_iff] at someErrors
      exact ⟨goesOn, refusedWith_invalid someErrors⟩
  · rintro ⟨goesOn, refusedWith⟩
    have someErrors : invalid document.verdicts ≠ [] := by
      obtain ⟨⟨name, cause⟩, member⟩ :=
        List.exists_mem_of_ne_nil errors refusedWith.notNone
      have isError := (refusedWith.each name cause).mp member
      exact List.ne_nil_of_mem (mem_invalid_iff.mpr isError)
    have notEmpty : ¬ (invalid document.verdicts).isEmpty = true := by
      rwa [List.isEmpty_iff]
    rw [decode_of_goesOn goesOn, if_neg notEmpty,
      (refusedWith_invalid someErrors).unique refusedWith]

/-- What is reported for a name depends on its own node alone, unless the document
gives up. -/
theorem reports_iff
    (goesOn : ¬ document.GivesUp)
    {name : String}
    {cause : DecodeError} :
    document.Reports name cause ↔
      ∃ node,
        document.receivers.get? name = some node ∧
          Receiver.decodeTagged node = .refuse cause := by
  constructor
  · rintro ⟨errors, refused, member⟩
    exact ((decode_eq_refuse_iff.mp refused).2.each name cause).mp member
  · intro isError
    have member := mem_invalid_iff.mpr isError
    refine ⟨_, decode_eq_refuse_iff.mpr ⟨goesOn, ?_⟩, member⟩
    exact refusedWith_invalid (List.ne_nil_of_mem member)

/--
A document decodes exactly if each of its nodes does, and then to the receivers of
its nodes.  Otherwise it is refused with one error for each node that is no receiver,
in the order of the bytes of the names.  Another node for one name changes neither the
error nor the receiver of any other name.  Only a span on which reading gives up
leaves a document without receivers and without errors.
-/
theorem decode_all_or_nothing (document : Document) :
    ((∃ receivers, document.decode = .ok receivers) ↔
      ∀ name node, document.receivers.get? name = some node →
        ∃ receiver, Receiver.decodeTagged node = .ok receiver) ∧
      (∀ receivers,
        document.decode = .ok receivers ↔ document.DecodesTo receivers) ∧
      (document.decode = .abort ↔ document.GivesUp) ∧
      (∀ errors,
        document.decode = .refuse errors ↔
          ¬ document.GivesUp ∧ document.RefusedWith errors) ∧
      ∀ name node other, other ≠ name →
        (∀ receivers changed,
          document.decode = .ok receivers →
            (document.withNode name node).decode = .ok changed →
            changed.get? other = receivers.get? other) ∧
          (¬ document.GivesUp →
            ¬ (document.withNode name node).GivesUp →
            ∀ cause,
              (document.withNode name node).Reports other cause ↔
                document.Reports other cause) := by
  refine ⟨?_, fun _ => decode_eq_ok_iff, decode_eq_abort_iff,
    fun _ => decode_eq_refuse_iff, fun name node other differs => ⟨?_, ?_⟩⟩
  · constructor
    · rintro ⟨receivers, decoded⟩ name node found
      obtain ⟨receiver, isReceiver, _⟩ :=
        (decode_eq_ok_iff.mp decoded).each name node found
      exact ⟨receiver, isReceiver⟩
    · intro each
      exact ⟨_, decode_eq_ok_iff.mpr (decodesTo_of_each each)⟩
  · intro receivers changed decoded changedDecoded
    rw [(decode_eq_ok_iff.mp decoded).get?_eq,
      (decode_eq_ok_iff.mp changedDecoded).get?_eq, get?_withNode differs]
  · intro goesOn changedGoesOn cause
    rw [reports_iff goesOn, reports_iff changedGoesOn, get?_withNode differs]

/-- A document with a node that names no kind, and a receiver on which reading gives
up. -/
def abandonedDocument : Document where
  receivers :=
    .ofList
      [("a", .mapping []),
       ("p",
        .mapping
          [(.text "type", .text "pushover"),
           (.text "user_key", .text "u"),
           (.text "token", .text "t"),
           (.text "expire", .text Span.lastSecondText)])]

/-- A node is no receiver, but no error is reported for it. -/
theorem abandonedDocument_without_errors :
    (∃ node cause,
      abandonedDocument.receivers.get? "a" = some node ∧
        Receiver.decodeTagged node = .refuse cause) ∧
      (∀ receivers, abandonedDocument.decode ≠ .ok receivers) ∧
      ∀ errors, abandonedDocument.decode ≠ .refuse errors := by
  have aborts : abandonedDocument.decode = .abort := rfl
  rw [aborts]
  refine ⟨⟨.mapping [], .missingKind, rfl, rfl⟩, fun receivers => ?_, fun errors => ?_⟩
  · simp [Outcome.abort]
  · simp [Outcome.abort, Outcome.refuse]

end Document

end AlertReceivers
