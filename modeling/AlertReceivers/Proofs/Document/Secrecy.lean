import AlertReceivers.Document.Basic
import AlertReceivers.Proofs.Receiver.Secrecy
import AlertReceivers.Proofs.Receiver.Verdict

namespace AlertReceivers

/-!
# What documents do not tell

Documents that differ only in the texts of secrets and under undeclared keys
decode alike: the same errors are reported for the same names, or the receivers
are exported alike.
-/

/-- A node names a kind and makes decoding as this kind give up. -/
def Node.GivesUp (node : Node) : Prop :=
  ∃ entries kind,
    node = .mapping entries ∧
      namedKind? entries = some kind ∧
      kind.GivesUp entries

/-- Some receiver of a document makes decoding give up. -/
def Document.GivesUp (document : Document) : Prop :=
  ∃ entry ∈ document.receivers.entries, entry.2.GivesUp

/-- Two documents give the same names to nodes that differ at most in what their
kinds conceal. -/
def Document.Alike (first second : Document) : Prop :=
  List.Forall₂
    (fun firstEntry secondEntry =>
      firstEntry.1 = secondEntry.1 ∧ firstEntry.2.Alike secondEntry.2)
    first.receivers.entries second.receivers.entries

namespace Receiver

/-- The entries that name the kind do not make decoding give up. -/
theorem givesUp_filter_iff
    {kind : Kind}
    {entries : List (Node × Node)} :
    kind.GivesUp (entries.filter fun entry => !isKindKey entry.1) ↔
      kind.GivesUp entries := by
  rw [← Kind.readGiven_eq_aborted_iff, ← Kind.readGiven_eq_aborted_iff,
    Kind.readGiven_filter]
  intro entry declared
  obtain ⟨field, names⟩ := Kind.declares_iff.mp declared
  simp [names.not_isKindKey]

/-- Decoding a node that names its kind aborts exactly if it gives up. -/
theorem decodeTagged_eq_aborted_iff
    {node : Node} :
    decodeTagged node = .error .aborted ↔ node.GivesUp := by
  unfold decodeTagged Node.GivesUp namedKind?
  cases node with
  | mapping entries =>
      simp only [Node.mapping.injEq]
      cases named : kindNode? entries with
      | none =>
          simp [Outcome.refuse, named]
      | some value =>
          cases read : readKind value with
          | error error =>
              simp [Outcome.ofExcept, Outcome.refuse, named, read,
                Except.toOption]
          | ok kind =>
              have verdict :=
                (judged_of_ofEntries kind
                  (entries.filter fun entry => !isKindKey entry.1)).verdict
              have aborts := verdict.abort
              rw [givesUp_filter_iff, Outcome.abort] at aborts
              simp [Outcome.ofExcept, named, read, Except.toOption, aborts]
  | null | boolean | number | text | sequence | tagged =>
      simp [Outcome.refuse]

end Receiver

namespace Document

/-- Two lists of verdicts on the same names, which match. -/
def AlikeVerdicts :
    List (String × Outcome DecodeError Receiver) →
      List (String × Outcome DecodeError Receiver) → Prop :=
  List.Forall₂ fun first second =>
    first.1 = second.1 ∧ Outcome.Matches Receiver.Alike first.2 second.2

theorem entries_verdicts (document : Document) :
    document.verdicts.entries =
      document.receivers.entries.map fun entry =>
        (entry.1, Receiver.decodeTagged entry.2) := by
  simp [verdicts, Dict.filterMap, List.filterMap_eq_map']

/-- Documents that conceal a difference get matching verdicts. -/
theorem Alike.verdicts
    {first second : Document}
    (alike : first.Alike second) :
    AlikeVerdicts first.verdicts.entries second.verdicts.entries := by
  rw [entries_verdicts, entries_verdicts]
  refine List.forall₂_map_left_iff.mpr (List.forall₂_map_right_iff.mpr ?_)
  exact alike.imp fun firstEntry secondEntry entries =>
    ⟨entries.1, Receiver.decodeTagged_of_alike entries.2⟩

/-- Matching verdicts abort for the same names. -/
theorem any_isAborted_of_alike
    {first second : List (String × Outcome DecodeError Receiver)}
    (alike : AlikeVerdicts first second) :
    (first.any fun entry => Outcome.isAborted entry.2) =
      second.any fun entry => Outcome.isAborted entry.2 := by
  induction alike with
  | nil =>
      rfl
  | @cons firstHead secondHead _ _ head _ inductionHypothesis =>
      rw [List.any_cons, List.any_cons, head.2.isAborted_eq, inductionHypothesis]

/-- Matching verdicts report the same errors for the same names. -/
theorem invalid_of_alike
    {first second : Dict (Outcome DecodeError Receiver)}
    (alike : AlikeVerdicts first.entries second.entries) :
    invalid first = invalid second := by
  unfold invalid
  generalize first.entries = firstEntries at alike ⊢
  generalize second.entries = secondEntries at alike ⊢
  induction alike with
  | nil =>
      rfl
  | @cons firstHead secondHead _ _ head _ inductionHypothesis =>
      rw [List.filterMap_cons, List.filterMap_cons, head.2.refusal?_eq, head.1,
        inductionHypothesis]

/-- The receivers of matching verdicts are exported alike. -/
theorem exportAll_of_alike
    {first second : Dict (Outcome DecodeError Receiver)}
    (alike : AlikeVerdicts first.entries second.entries) :
    Receiver.exportAll (first.filterMap Outcome.value?) =
      Receiver.exportAll (second.filterMap Outcome.value?) := by
  unfold Receiver.exportAll Dict.filterMap
  simp only
  generalize first.entries = firstEntries at alike ⊢
  generalize second.entries = secondEntries at alike ⊢
  congr 4
  induction alike with
  | nil =>
      rfl
  | @cons firstHead secondHead _ _ head _ inductionHypothesis =>
      obtain ⟨sameName, isMatch⟩ := head
      rw [List.filterMap_cons, List.filterMap_cons]
      generalize firstHead.2 = firstVerdict at isMatch ⊢
      generalize secondHead.2 = secondVerdict at isMatch ⊢
      cases isMatch with
      | ok alikeReceivers =>
          simp only [Outcome.value?_ok, Option.map_some, List.map_cons, sameName,
            alikeReceivers.toExport_eq, inductionHypothesis]
      | error =>
          exact inductionHypothesis

/-- Some verdict is an abort exactly if some receiver makes decoding give up. -/
theorem any_isAborted_iff
    {document : Document} :
    (document.verdicts.entries.any fun entry => Outcome.isAborted entry.2) = true ↔
      document.GivesUp := by
  have isAborted : ∀ outcome : Outcome DecodeError Receiver,
      Outcome.isAborted outcome = true ↔ outcome = .error .aborted := by
    intro outcome
    rcases outcome with (_ | _) | _ <;> simp [Outcome.isAborted]
  rw [entries_verdicts, List.any_map, List.any_eq_true]
  simp only [Function.comp_apply, isAborted,
    Receiver.decodeTagged_eq_aborted_iff]
  rfl

/-- Decoding does not tell two documents apart: it aborts for both, reports the same
errors for both, or gives receivers with the same exports. -/
def AnsweredAlike (first second : Document) : Prop :=
  (first.GivesUp → first.decode = .abort ∧ second.decode = .abort) ∧
    (¬ first.GivesUp →
      (∃ errors,
        first.decode = .refuse errors ∧ second.decode = .refuse errors) ∨
      ∃ firstReceivers secondReceivers,
        first.decode = .ok firstReceivers ∧
          second.decode = .ok secondReceivers ∧
          (Receiver.exportAll firstReceivers).toNode =
            (Receiver.exportAll secondReceivers).toNode)

/-- Documents with matching verdicts are answered alike. -/
theorem answeredAlike_of_verdicts
    {first second : Document}
    (alike : AlikeVerdicts first.verdicts.entries second.verdicts.entries) :
    first.AnsweredAlike second := by
  have sameAborts := any_isAborted_of_alike alike
  have sameErrors := invalid_of_alike alike
  have sameExports := exportAll_of_alike alike
  constructor
  · intro givesUp
    have firstAborts := any_isAborted_iff.mpr givesUp
    have secondAborts := sameAborts.symm.trans firstAborts
    unfold decode
    exact ⟨if_pos firstAborts, if_pos secondAborts⟩
  · intro goesOn
    have firstGoesOn := mt any_isAborted_iff.mp goesOn
    have secondGoesOn := firstGoesOn
    rw [sameAborts] at secondGoesOn
    unfold decode
    rw [if_neg firstGoesOn, if_neg secondGoesOn, ← sameErrors]
    split
    · exact .inr ⟨_, _, rfl, rfl, congrArg Export.toNode sameExports⟩
    · exact .inl ⟨_, rfl, rfl⟩

/--
Two documents that differ only under undeclared keys and in the texts of secrets
cannot be told apart by decoding them: the same errors are reported for the same
names, or the exports of all receivers are the same nodes.  The only exception
is a receiver on which reading a span gives up; then neither document gets an
answer.
-/
theorem decode_of_alike
    {first second : Document}
    (alike : first.Alike second) :
    (first.GivesUp → first.decode = .abort ∧ second.decode = .abort) ∧
      (¬ first.GivesUp →
        (∃ errors,
          first.decode = .refuse errors ∧ second.decode = .refuse errors) ∨
        ∃ firstReceivers secondReceivers,
          first.decode = .ok firstReceivers ∧
            second.decode = .ok secondReceivers ∧
            (Receiver.exportAll firstReceivers).toNode =
              (Receiver.exportAll secondReceivers).toNode) :=
  answeredAlike_of_verdicts alike.verdicts

/-- A document with a secret, and with other entries for its receiver. -/
def tokenDocument (token : String) (others : List (Node × Node)) : Document where
  receivers :=
    .ofList
      [("ops",
        .mapping
          ((.text "type", .text "hipchat") ::
            (.text "room_id", .text "alerts") ::
            (.text "auth_token", .text token) :: others))]

/-- With another token, a document is accepted with the same exports, and it is refused for
the same key if one is misspelt. -/
theorem decode_of_alike_tokenDocument :
    ((tokenDocument "one" []).Alike (tokenDocument "two" []) ∧
      ¬ (tokenDocument "one" []).GivesUp ∧
      ∃ firstReceivers secondReceivers,
        (tokenDocument "one" []).decode = .ok firstReceivers ∧
          (tokenDocument "two" []).decode = .ok secondReceivers ∧
          (Receiver.exportAll firstReceivers).toNode =
            (Receiver.exportAll secondReceivers).toNode) ∧
      (tokenDocument "one" [(.text "room", .null)]).Alike
        (tokenDocument "two" [(.text "room", .boolean true)]) ∧
      ¬ (tokenDocument "one" [(.text "room", .null)]).GivesUp ∧
      (tokenDocument "one" [(.text "room", .null)]).decode =
        .refuse [⟨"ops", .unknownFields .hipchat ["room"]⟩] ∧
      (tokenDocument "two" [(.text "room", .boolean true)]).decode =
        .refuse [⟨"ops", .unknownFields .hipchat ["room"]⟩] := by
  have otherToken :
      Conceals (some .hipchat) (.text "auth_token", .text "one")
        (.text "auth_token", .text "two") :=
    .secret rfl (Kind.fieldOf?_eq_some_iff.mp rfl) rfl ⟨"one", "two", rfl, rfl, by decide⟩
  have misspelt :
      Conceals (some .hipchat) (.text "room", .null) (.text "room", .boolean true) := by
    refine .undeclared rfl fun kind field named names => ?_
    cases named
    exact Kind.fieldOf?_eq_none_iff.mp rfl field names
  constructor
  · have alike : (tokenDocument "one" []).Alike (tokenDocument "two" []) :=
      .cons ⟨rfl, .mapping (.cons .same (.cons .same (.cons otherToken .nil)))⟩ .nil
    obtain ⟨aborts, answers⟩ := decode_of_alike alike
    have accepted : (tokenDocument "one" []).decode.toOption.isSome = true := by
      decide +kernel
    obtain ⟨receivers, isReceivers⟩ := Option.isSome_iff_exists.mp accepted
    have decoded := Outcome.toOption_eq_some_iff.mp isReceivers
    have goesOn : ¬ (tokenDocument "one" []).GivesUp := by
      intro givesUp
      cases decoded.symm.trans (aborts givesUp).1
    refine ⟨alike, goesOn, (answers goesOn).resolve_left ?_⟩
    rintro ⟨errors, refused, _⟩
    cases decoded.symm.trans refused
  · have alike :
        (tokenDocument "one" [(.text "room", .null)]).Alike
          (tokenDocument "two" [(.text "room", .boolean true)]) :=
      .cons ⟨rfl, .mapping
        (.cons .same (.cons .same (.cons otherToken (.cons misspelt .nil))))⟩ .nil
    obtain ⟨aborts, answers⟩ := decode_of_alike alike
    have refused :
        (tokenDocument "one" [(.text "room", .null)]).decode =
          .refuse [⟨"ops", .unknownFields .hipchat ["room"]⟩] := rfl
    have goesOn : ¬ (tokenDocument "one" [(.text "room", .null)]).GivesUp := by
      intro givesUp
      cases refused.symm.trans (aborts givesUp).1
    refine ⟨alike, goesOn, refused, ?_⟩
    rcases answers goesOn with ⟨errors, isErrors, isErrorsAgain⟩ | ⟨_, _, decoded, _⟩
    · cases refused.symm.trans isErrors
      exact isErrorsAgain
    · cases refused.symm.trans decoded

/-- A document with a receiver on which reading gives up. -/
def overflowingDocument : Document where
  receivers :=
    .ofList
      [("p",
        .mapping
          [(.text "type", .text "pushover"),
           (.text "user_key", .text "u"),
           (.text "token", .text "t"),
           (.text "retry", .text Span.lastSecondText)])]

/-- Nothing differs, but there are neither errors nor receivers. -/
theorem overflowingDocument_without_answer :
    overflowingDocument.Alike overflowingDocument ∧
      (∀ errors, overflowingDocument.decode ≠ .refuse errors) ∧
      ∀ receivers, overflowingDocument.decode ≠ .ok receivers := by
  have aborts : overflowingDocument.decode = .abort := rfl
  rw [aborts]
  refine ⟨List.forall₂_same.mpr fun _ _ => ⟨rfl, .same⟩, fun errors => ?_,
    fun receivers => ?_⟩
  · simp [Outcome.abort, Outcome.refuse]
  · simp [Outcome.abort]

end Document

end AlertReceivers
