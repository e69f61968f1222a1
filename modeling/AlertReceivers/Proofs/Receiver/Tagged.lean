import AlertReceivers.Proofs.Receiver.Overlay
import AlertReceivers.Proofs.Receiver.Secrecy

namespace AlertReceivers

/-!
# Nodes that name their kind

The last entry whose key reads as the one for the kind names it.  All entries with such
a key are taken out, and the others are decoded as that kind in the order in which they
stand.  So a node decodes like the mapping without the entry for its kind, wherever that
entry stands, and of several such entries only the last one counts.
-/

/-- Two entries have a key that reads as the one for the kind. -/
def RepeatsKind (entries : List (Node × Node)) : Prop :=
  2 ≤ Kind.timesNamed entries kindKey

/-- The name of a kind leads back to it. -/
theorem Kind.ofName?_eq_some_iff
    {name : String}
    {kind : Kind} :
    ofName? name = some kind ↔ kind.name = name := by
  unfold ofName?
  constructor
  · intro found
    simpa using List.find?_some found
  · rintro rfl
    cases kind <;> rfl

namespace Receiver

variable {kind : Kind} {key value : Node} {entries earlier later : List (Node × Node)}

/-- A key is the one for the kind if it reads as its name. -/
theorem isKindKey_eq_true_iff :
    isKindKey key = true ↔ key.asText? = some kindKey := by
  simp [isKindKey]

/-- A key is not the one for the kind if it reads otherwise. -/
theorem isKindKey_eq_false_iff :
    isKindKey key = false ↔ key.asText? ≠ some kindKey := by
  simp [isKindKey]

/-- A value names a kind exactly if its text, whatever its tags, is the kind's name. -/
theorem readKind_eq_ok_iff :
    readKind value = .ok kind ↔ value.asText? = some kind.name := by
  unfold readKind
  cases value.asText? with
  | none =>
      simp
  | some name =>
      have leads : Kind.ofName? name = some kind ↔ name = kind.name :=
        Kind.ofName?_eq_some_iff.trans eq_comm
      cases found : Kind.ofName? name with
      | none =>
          simpa [found] using leads
      | some other =>
          simpa [found] using leads

/-- Later entries come first when the kind is looked for. -/
theorem kindNode?_append :
    kindNode? (earlier ++ later) = (kindNode? later).or (kindNode? earlier) := by
  simp [kindNode?, List.filter_append, List.getLast?_append, Option.map_or]

/-- The last entry for the kind counts. -/
theorem kindNode?_cons
    (entry : Node × Node)
    (rest : List (Node × Node)) :
    kindNode? (entry :: rest) =
      (kindNode? rest).or (if isKindKey entry.1 then some entry.2 else none) := by
  rw [← List.singleton_append, kindNode?_append]
  by_cases isKey : isKindKey entry.1 = true <;> simp [kindNode?, isKey]

/-- No kind is given exactly if no key is the one for it. -/
theorem kindNode?_eq_none_iff :
    kindNode? entries = none ↔ ∀ entry ∈ entries, isKindKey entry.1 = false := by
  simp [kindNode?]

/-- Entries in front of one for the kind have no say in the kind. -/
theorem kindNode?_append_cons
    (isKey : isKindKey key = true) :
    kindNode? (earlier ++ (key, value) :: later) = some ((kindNode? later).getD value) := by
  rw [kindNode?_append, kindNode?_cons, isKey]
  cases kindNode? later <;> rfl

/-- The kind is looked for in the last entry for it. -/
theorem exists_last_of_kindNode?
    (named : kindNode? entries = some value) :
    ∃ earlier key later,
      entries = earlier ++ (key, value) :: later ∧
        isKindKey key = true ∧
        ∀ entry ∈ later, isKindKey entry.1 = false := by
  induction entries with
  | nil =>
      cases named
  | cons head rest inductionHypothesis =>
      -- The head counts only if no entry of the rest is for the kind.
      rw [kindNode?_cons] at named
      cases inRest : kindNode? rest with
      | some other =>
          rw [inRest, Option.some_or] at named
          obtain ⟨earlier, key, later, rfl, isKey, noneLater⟩ :=
            inductionHypothesis (inRest.trans named)
          exact ⟨head :: earlier, key, later, rfl, isKey, noneLater⟩
      | none =>
          rw [inRest, Option.none_or] at named
          split at named
          · rename_i isKey
            cases named
            exact ⟨[], head.1, rest, rfl, isKey, kindNode?_eq_none_iff.mp inRest⟩
          · cases named

/-- A kind is named by a value that reads as its name. -/
theorem namedKind?_eq_some_iff :
    namedKind? entries = some kind ↔
      ∃ value, kindNode? entries = some value ∧ value.asText? = some kind.name := by
  simp only [namedKind?, Option.bind_eq_some_iff, Outcome.toOption_eq_some_iff,
    readKind_eq_ok_iff]

/-- A node is decoded as the kind that it names, without the entries for the kind. -/
theorem decodeTagged_of_kindNode?
    (named : kindNode? entries = some value)
    (isName : value.asText? = some kind.name) :
    decodeTagged (.mapping entries) =
      ofEntries kind (entries.filter fun entry => !isKindKey entry.1) := by
  simp only [decodeTagged, named, readKind_eq_ok_iff.mpr isName, Outcome.ofExcept,
    Outcome.ok_bind]

/-- If only one entry is for the kind, the node is decoded as the entries beside it. -/
theorem decodeTagged_of_only
    (earlier later : List (Node × Node))
    (isKey : isKindKey key = true)
    (isName : value.asText? = some kind.name)
    (noOther : ∀ entry ∈ earlier ++ later, isKindKey entry.1 = false) :
    decodeTagged (.mapping (earlier ++ (key, value) :: later)) =
      ofEntries kind (earlier ++ later) := by
  have noneLater : kindNode? later = none :=
    kindNode?_eq_none_iff.mpr fun entry member =>
      noOther entry (List.mem_append_right earlier member)
  have named : kindNode? (earlier ++ (key, value) :: later) = some value := by
    rw [kindNode?_append_cons isKey, noneLater]
    rfl
  have others :
      ((earlier ++ (key, value) :: later).filter fun entry => !isKindKey entry.1) =
        earlier ++ later := by
    rw [List.filter_append, List.filter_cons_of_neg (by simp [isKey]),
      ← List.filter_append, List.filter_eq_self]
    exact fun entry member => by rw [noOther entry member, Bool.not_false]
  rw [decodeTagged_of_kindNode? named isName, others]

/-- A node that decodes names the kind of the receiver. -/
theorem named_of_decodeTagged
    {node : Node}
    {receiver : Receiver}
    (decoded : decodeTagged node = .ok receiver) :
    ∃ entries value,
      node = .mapping entries ∧
        kindNode? entries = some value ∧
        value.asText? = some receiver.kind.name ∧
        ofEntries receiver.kind (entries.filter fun entry => !isKindKey entry.1) =
          .ok receiver := by
  unfold decodeTagged at decoded
  split at decoded
  · rename_i entries
    split at decoded
    · cases decoded
    · rename_i value named
      obtain ⟨kind, isKind, isReceiver⟩ := Outcome.bind_eq_ok_iff.mp decoded
      have sameKind := (overlays_of_ofEntries isReceiver).sameKind
      subst sameKind
      have isName := readKind_eq_ok_iff.mp (Outcome.ofExcept_eq_ok_iff.mp isKind)
      exact ⟨entries, value, rfl, named, isName, isReceiver⟩
  · cases decoded
  · cases decoded

/-- Nodes with the same entry for the kind and the same other entries in the same order
decode to the same, whatever else they have for the kind. -/
theorem decodeTagged_congr
    {first second : List (Node × Node)}
    (sameKind : kindNode? first = kindNode? second)
    (sameOthers :
      (first.filter fun entry => !isKindKey entry.1) =
        second.filter fun entry => !isKindKey entry.1) :
    decodeTagged (.mapping first) = decodeTagged (.mapping second) := by
  simp only [decodeTagged, sameKind, sameOthers]

/--
An entry for the kind can stand anywhere among entries that are not for it: the node
decodes to exactly what its other entries decode to as this kind, be it a receiver or an
error with its place, its keys and its message.  And a node decodes to receivers of the
kind only that one of its entries names.
-/
theorem decodeTagged_agrees_with_decode :
    (∀ kind earlier key value later,
      (∀ entry ∈ earlier ++ later, entry.1.asText? ≠ some kindKey) →
        key.asText? = some kindKey →
        value.asText? = some (Kind.name kind) →
        decodeTagged (.mapping (earlier ++ (key, value) :: later)) =
          decode kind (.mapping (earlier ++ later))) ∧
      ∀ node receiver,
        decodeTagged node = .ok receiver →
          ∃ entries,
            node = .mapping entries ∧
              ∃ entry ∈ entries,
                entry.1.asText? = some kindKey ∧
                  entry.2.asText? = some receiver.kind.name := by
  refine ⟨fun kind earlier key value later noneOther isKey isName => ?_,
    fun node receiver decoded => ?_⟩
  · exact decodeTagged_of_only earlier later (isKindKey_eq_true_iff.mpr isKey) isName
      fun entry member => isKindKey_eq_false_iff.mpr (noneOther entry member)
  · obtain ⟨entries, value, rfl, named, isName, _⟩ := named_of_decodeTagged decoded
    obtain ⟨earlier, key, later, rfl, isKey, _⟩ := exists_last_of_kindNode? named
    exact ⟨_, rfl, (key, value), by simp, isKindKey_eq_true_iff.mp isKey, isName⟩

/-- The tagged entry for the kind of a webhook, between its other entries. -/
theorem decodeTagged_agrees_with_decode_webhookNode :
    (∀ entry ∈ [(Node.text "url", Node.text "http://hooks"), (.null, .boolean true)],
      entry.1.asText? ≠ some kindKey) ∧
      decodeTagged
          (.mapping
            [(.text "url", .text "http://hooks"),
             (.tagged "key" (.text "type"), .tagged "kind" (.text "webhook")),
             (.null, .boolean true)]) =
        decode .webhook
          (.mapping [(.text "url", .text "http://hooks"), (.null, .boolean true)]) ∧
      decode .webhook
          (.mapping [(.text "url", .text "http://hooks"), (.null, .boolean true)]) =
        .refuse (.unknownFields .webhook ["~"]) := by
  have noneOther :
      ∀ entry ∈ [(Node.text "url", Node.text "http://hooks"), (.null, .boolean true)],
        entry.1.asText? ≠ some kindKey := by
    simp [Node.asText?, Node.untagged, kindKey]
  exact ⟨noneOther,
    decodeTagged_agrees_with_decode.1 .webhook [(.text "url", .text "http://hooks")]
      (.tagged "key" (.text "type")) (.tagged "kind" (.text "webhook"))
      [(.null, .boolean true)] noneOther rfl rfl,
    rfl⟩

theorem timesNamed_kindKey_eq_zero_iff :
    Kind.timesNamed entries kindKey = 0 ↔
      ∀ entry ∈ entries, isKindKey entry.1 = false := by
  simp only [Kind.timesNamed_eq_zero_iff, isKindKey_eq_false_iff]

theorem timesNamed_kindKey_append_cons
    (isKey : isKindKey key = true) :
    Kind.timesNamed (earlier ++ (key, value) :: later) kindKey =
      Kind.timesNamed earlier kindKey + Kind.timesNamed later kindKey + 1 := by
  have isAppend :
      Kind.timesNamed (earlier ++ (key, value) :: later) kindKey =
        Kind.timesNamed earlier kindKey +
          Kind.timesNamed ((key, value) :: later) kindKey :=
    List.countP_append
  rw [isAppend, Kind.timesNamed_cons, if_pos (isKindKey_eq_true_iff.mp isKey)]
  omega

/-- The entries of a decoded node name no field of its kind twice. -/
theorem not_repeats_of_ofEntries
    {receiver : Receiver}
    (decoded :
      ofEntries kind (entries.filter fun entry => !isKindKey entry.1) = .ok receiver) :
    ¬ kind.Repeats entries := by
  obtain ⟨given, ended, _⟩ := ofEntries_eq_ok_iff.mp decoded
  rw [Kind.readGiven_filter] at ended
  · exact (Kind.readGiven_ok_iff.mp ⟨given, ended⟩).2
  · intro entry declared
    obtain ⟨field, names⟩ := Kind.declares_iff.mp declared
    simp [names.not_isKindKey]

/-- Entries for the kind in front of another one can be left out, added or changed. -/
theorem decodeTagged_congr_earlier
    {others : List (Node × Node)}
    (isKey : isKindKey key = true)
    (sameOthers :
      (others.filter fun entry => !isKindKey entry.1) =
        earlier.filter fun entry => !isKindKey entry.1) :
    decodeTagged (.mapping (others ++ (key, value) :: later)) =
      decodeTagged (.mapping (earlier ++ (key, value) :: later)) := by
  refine decodeTagged_congr ?_ ?_
  · rw [kindNode?_append_cons isKey, kindNode?_append_cons isKey]
  · rw [List.filter_append, List.filter_append, sameOthers]

/-- Of several entries for the kind there is a last one, with another in front of it. -/
theorem exists_last_of_repeatsKind
    (repeats : RepeatsKind entries) :
    ∃ earlier key value later,
      entries = earlier ++ (key, value) :: later ∧
        isKindKey key = true ∧
        (∃ entry ∈ earlier, isKindKey entry.1 = true) ∧
        ∀ entry ∈ later, isKindKey entry.1 = false := by
  unfold RepeatsKind at repeats
  have someNamed : kindNode? entries ≠ none := by
    rw [Ne, kindNode?_eq_none_iff, ← timesNamed_kindKey_eq_zero_iff]
    omega
  obtain ⟨value, named⟩ := Option.ne_none_iff_exists'.mp someNamed
  obtain ⟨earlier, key, later, rfl, isKey, noneLater⟩ := exists_last_of_kindNode? named
  refine ⟨earlier, key, value, later, rfl, isKey, ?_, noneLater⟩
  rw [timesNamed_kindKey_append_cons isKey,
    timesNamed_kindKey_eq_zero_iff.mpr noneLater] at repeats
  by_contra noneEarlier
  have noCount : Kind.timesNamed earlier kindKey = 0 := by
    refine timesNamed_kindKey_eq_zero_iff.mpr fun entry member => ?_
    exact Bool.eq_false_iff.mpr fun isKey => noneEarlier ⟨entry, member, isKey⟩
  omega

/--
A node that decodes names no field of its kind twice, and its kind at least once: exactly
once, unless the entry for the kind is repeated.  That is not looked for.  A node with
several such entries decodes as if the last one stood alone, whatever entries for the
kind stand in front of it and whatever their values are.
-/
theorem kind_of_decodeTagged_unless_repeated (node : Node) :
    (∀ receiver,
      decodeTagged node = .ok receiver →
        ∃ entries,
          node = .mapping entries ∧
            (Kind.timesNamed entries kindKey = 1 ↔ ¬ RepeatsKind entries) ∧
            ¬ receiver.kind.Repeats entries) ∧
      ∀ entries,
        node = .mapping entries →
          RepeatsKind entries →
          ∃ earlier key value later,
            entries = earlier ++ (key, value) :: later ∧
              isKindKey key = true ∧
              (∃ entry ∈ earlier, isKindKey entry.1 = true) ∧
              (∀ entry ∈ later, isKindKey entry.1 = false) ∧
              ∀ others : List (Node × Node),
                ((others.filter fun entry => !isKindKey entry.1) =
                    earlier.filter fun entry => !isKindKey entry.1) →
                  decodeTagged (.mapping (others ++ (key, value) :: later)) =
                    decodeTagged node := by
  refine ⟨fun receiver decoded => ?_, ?_⟩
  · obtain ⟨entries, value, rfl, named, _, isReceiver⟩ := named_of_decodeTagged decoded
    refine ⟨entries, rfl, ?_, not_repeats_of_ofEntries isReceiver⟩
    obtain ⟨earlier, key, later, rfl, isKey, _⟩ := exists_last_of_kindNode? named
    unfold RepeatsKind
    rw [timesNamed_kindKey_append_cons isKey]
    omega
  · rintro entries rfl repeats
    obtain ⟨earlier, key, value, later, rfl, isKey, someEarlier, noneLater⟩ :=
      exists_last_of_repeatsKind repeats
    exact ⟨earlier, key, value, later, rfl, isKey, someEarlier, noneLater,
      fun others sameOthers => decodeTagged_congr_earlier isKey sameOthers⟩

/-- A node for a webhook that is first said to be for a chat, under a tagged key. -/
def twoKindsEntries : List (Node × Node) :=
  [(.tagged "x" (.text "type"), .text "slack"),
   (.text "type", .text "webhook"),
   (.text "url", .text "http://hooks")]

/-- Two entries name different kinds, but the node decodes. -/
theorem twoKindsEntries_decode :
    RepeatsKind twoKindsEntries ∧
      ∃ receiver,
        decodeTagged (.mapping twoKindsEntries) = .ok receiver ∧
          receiver.kind = .webhook := by
  refine ⟨?_, _, rfl, rfl⟩
  unfold RepeatsKind
  decide

end Receiver

end AlertReceivers
