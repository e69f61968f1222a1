import AlertReceivers.Proofs.Command.Runs
import AlertReceivers.Proofs.Dict
import AlertReceivers.Proofs.Receiver.Tally

namespace AlertReceivers.Command

/-!
# Summaries

The summary of a document has a line for each kind that its receivers have, in the order
of all kinds, and every receiver is counted in exactly one of them.
-/

/-- Some receiver has the kind. -/
def HasKind
    (receivers : Dict Receiver)
    (kind : Kind) :
    Prop :=
  ∃ name receiver, receivers.get? name = some receiver ∧ receiver.kind = kind

/-- The number of receivers of a kind. -/
def numberOf
    (receivers : Dict Receiver)
    (kind : Kind) :
    Nat :=
  receivers.entries.countP fun entry => entry.2.kind = kind

/-- The kinds of receivers, one for each. -/
def kindsOf (receivers : Dict Receiver) : List Kind :=
  receivers.entries.map fun entry => entry.2.kind

variable {receivers : Dict Receiver}
variable {kind : Kind}

/-- The kinds are those of the receivers. -/
theorem mem_kindsOf_iff : kind ∈ kindsOf receivers ↔ HasKind receivers kind := by
  simp only [kindsOf, HasKind, List.mem_map, Dict.get?_eq_some_iff]
  constructor
  · rintro ⟨⟨name, receiver⟩, member, isKind⟩
    exact ⟨name, receiver, member, isKind⟩
  · rintro ⟨name, receiver, member, isKind⟩
    exact ⟨(name, receiver), member, isKind⟩

/-- A kind occurs as often as there are receivers of it. -/
theorem count_kindsOf : (kindsOf receivers).count kind = numberOf receivers kind := by
  rw [kindsOf, List.count_eq_countP, List.countP_map]
  refine List.countP_congr fun entry _ => ?_
  rw [Function.comp_apply, beq_iff_eq, decide_eq_true_eq]

/-- A tally of receivers has the kinds of receivers with the numbers of receivers. -/
theorem mem_countByKind_iff
    {number : Nat} :
    (kind, number) ∈ (countByKind receivers).counts ↔
      HasKind receivers kind ∧ number = numberOf receivers kind := by
  have isTally : countByKind receivers = .ofKinds (kindsOf receivers) := rfl
  rw [isTally, Tally.mem_counts_iff, Tally.get?_ofKinds, count_kindsOf, ← mem_kindsOf_iff]
  split
  · rename_i occurs
    rw [Option.some.injEq]
    exact ⟨fun isNumber => ⟨occurs, isNumber.symm⟩, fun isNumber => isNumber.2.symm⟩
  · rename_i isAbsent
    exact iff_of_false (fun isSome => nomatch isSome) fun isNumber => isAbsent isNumber.1

/-- The entries of a tally of receivers are its kinds, each with its number of receivers. -/
theorem counts_countByKind (receivers : Dict Receiver) :
    (countByKind receivers).counts =
      (countByKind receivers).kinds.map fun kind => (kind, numberOf receivers kind) := by
  have isItself : ∀ entry ∈ (countByKind receivers).counts,
      entry = (entry.1, numberOf receivers entry.1) := by
    intro entry member
    exact Prod.ext rfl (mem_countByKind_iff.mp member).2
  rw [Tally.kinds, List.map_map]
  exact (List.map_id _).symm.trans (List.map_congr_left isItself)

/-- The lines of a summary are about the kinds of the tally and their numbers of receivers. -/
theorem lines_countByKind (receivers : Dict Receiver) :
    (countByKind receivers).counts.map countLine =
      (countByKind receivers).kinds.map fun kind => countLine (kind, numberOf receivers kind) := by
  rw [counts_countByKind, List.map_map, Function.comp_def]

/-- A run that only says whether a document is valid prints the summary of its receivers. -/
theorem output_of_validation
    {options : Options}
    {content : Except String String}
    {document : Document}
    (environment : Environment)
    (validates : options.validate = true)
    (holds : Holds content document)
    (decoded : document.decode = .ok receivers) :
    (run environment options content).output = summary options.config receivers := by
  have loaded : loadDocument options content = .ok document :=
    loadDocument_eq_ok_iff.mpr holds
  have noExport : options.exports = false := by
    rw [Options.exports, validates]
    rfl
  simp only [run, Result.filtered, runContent, loaded, runDocument, decoded, printed, noExport]
  rfl

/--
A tally of receivers has an entry for exactly the kinds that some receiver has, with the
number of these receivers, and its numbers add up to the number of receivers.  A run that
only says whether a document is valid prints this number and then one line for each of
these kinds, in the order of all kinds.
-/
theorem summary_counts_each_receiver_once (receivers : Dict Receiver) :
    (∀ kind,
      (∃ number, (kind, number) ∈ (countByKind receivers).counts) ↔ HasKind receivers kind) ∧
      (∀ kind number,
        (kind, number) ∈ (countByKind receivers).counts →
          number = numberOf receivers kind) ∧
      (countByKind receivers).total = receivers.size ∧
      (countByKind receivers).kinds.Nodup ∧
      (countByKind receivers).kinds.Sublist Kind.all ∧
      ∀ environment options content document,
        options.validate = true →
          Holds content document →
            document.decode = .ok receivers →
              (run environment options content).output =
                "Configuration is valid: " ++ options.config ++ "\n" ++
                  "  Receivers: " ++ toString receivers.size ++ "\n" ++
                  String.join
                    ((countByKind receivers).kinds.map fun kind =>
                      countLine (kind, numberOf receivers kind)) := by
  refine ⟨fun kind => ⟨?_, fun hasKind => ?_⟩, fun kind number member => ?_, ?_,
    Tally.nodup_kinds _, Tally.kinds_sublist_all _, ?_⟩
  · rintro ⟨number, member⟩
    exact (mem_countByKind_iff.mp member).1
  · exact ⟨_, mem_countByKind_iff.mpr ⟨hasKind, rfl⟩⟩
  · exact (mem_countByKind_iff.mp member).2
  · rw [countByKind, Tally.total_ofKinds, List.length_map, Dict.size]
  · intro environment options content document validates holds decoded
    have isSummary := output_of_validation environment validates holds decoded
    unfold summary at isSummary
    rw [lines_countByKind] at isSummary
    exact isSummary

/-- A text with two receivers of a kind that stands between those of others. -/
def fiveReceiversText : String :=
  "receivers:\n  a: \x7btype: webhook, url: x\x7d\n  b: \x7btype: opsgenie, api_key: k\x7d\n" ++
    "  c: \x7btype: slack\x7d\n  d: \x7btype: webhook, url: y\x7d\n" ++
    "  e: \x7btype: hipchat, room_id: 7\x7d\n"

/-- Five receivers of four kinds. -/
theorem summary_counts_each_receiver_once_fiveReceiversText :
    (run {} validation (.ok fiveReceiversText)).output =
      "Configuration is valid: receivers.yaml\n  Receivers: 5\n" ++
        "    slack: 1\n    hipchat: 1\n    webhook: 2\n    opsgenie: 1\n" := by
  have isDecoded :
      ((Document.read fiveReceiversText).toOption.bind fun document =>
          document.decode.value?.map fun receivers =>
            (receivers.size, (countByKind receivers).counts)) =
        some (5, [(.slack, 1), (.hipchat, 1), (.webhook, 2), (.opsgenie, 1)]) := by
    decide +kernel
  obtain ⟨document, isRead, isCounted⟩ := Option.bind_eq_some_iff.mp isDecoded
  obtain ⟨receivers, isValue, sizeAndCounts⟩ := Option.map_eq_some_iff.mp isCounted
  obtain ⟨isFive, areCounts⟩ := Prod.mk.inj sizeAndCounts
  have holds : Holds (.ok fiveReceiversText) document :=
    ⟨fiveReceiversText, rfl, Outcome.toOption_eq_some_iff.mp isRead⟩
  obtain ⟨_, _, _, _, _, isPrinted⟩ := summary_counts_each_receiver_once receivers
  have output := isPrinted {} validation _ document rfl holds (Outcome.value?_eq_some_iff.mp isValue)
  rw [isFive, ← lines_countByKind, areCounts] at output
  exact output.trans (by decide)

end AlertReceivers.Command
