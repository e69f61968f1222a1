import AlertReceivers.Proofs.Receiver.Tagged
import AlertReceivers.Proofs.Receiver.WrittenHeaders
import AlertReceivers.Proofs.Span.Numerals
import AlertReceivers.Proofs.Text.AsciiNames
import AlertReceivers.Proofs.Yaml.Denotation

namespace AlertReceivers

/-!
# The subject of mails

A mail's subject is the value of its header for it, in whatever spelling the header is
named.  Only a text can be such a name: numbers, booleans and null have no letter `b`.
So two of these names differ, and then they collide.
-/

open Text (IsAscii EqualIgnoringAsciiCase canonicalHeaderName)
open Yaml (KeysDiffer)

/-- The headers among the entries of a node for a mail. -/
def headersOf (entries : List (Node × Node)) : List (Node × Node) :=
  (entries.filter fun entry => entry.1.asText? == some "headers").flatMap fun entry =>
    entry.2.entries?.getD []

/-- A header is the one for the subject, in some spelling. -/
def NamesSubject (header : Node × Node) : Prop :=
  ∃ name,
    header.1.scalarText? = some name ∧ EqualIgnoringAsciiCase name "subject"

/-- No number has a letter `b`. -/
theorem Decimal.AreNumeral.not_mem_map_toLower
    {chars : List Char}
    (areNumeral : AreNumeral chars) :
    'b' ∉ chars.map Char.toLower := by
  intro member
  obtain ⟨char, isMember, isLetter⟩ := List.mem_map.mp member
  have isNumeral := areNumeral char isMember
  simp only [isNumeralChar, Bool.or_eq_true, beq_iff_eq] at isNumeral
  rcases isNumeral with ((isDigit | rfl) | rfl) | rfl
  · have notUpper : ¬ (char.val ≥ 'A'.val ∧ char.val ≤ 'Z'.val) := by
      simp only [Char.isDigit, Bool.and_eq_true, decide_eq_true_eq] at isDigit
      rintro ⟨large, _⟩
      exact absurd (UInt32.le_trans large isDigit.2) (by decide)
    have stays : char.toLower = char := dif_neg notUpper
    rw [stays] at isLetter
    subst isLetter
    revert isDigit
    decide
  all_goals
    revert isLetter
    decide

theorem Number.not_mem_map_toLower (number : Number) :
    'b' ∉ number.text.toList.map Char.toLower := by
  cases number with
  | integer value =>
      rw [text, String.toList_ofList]
      exact (Decimal.areNumeral_integer value).not_mem_map_toLower
  | real value =>
      rw [text, String.toList_ofList]
      cases value with
      | nan =>
          decide
      | infinite negative =>
          cases negative <;> decide
      | finite negative mantissa exponent =>
          have shown := Decimal.isFractional_text negative mantissa exponent
          exact shown.areNumeral.not_mem_map_toLower

/-- A name with a letter `b` is written as a text. -/
theorem Node.eq_text_of_letter
    {node : Node}
    {name : String}
    (isName : node.scalarText? = some name)
    (letter : 'b' ∈ name.toList.map Char.toLower) :
    node = .text name := by
  cases node with
  | null =>
      cases isName
      simp at letter
  | boolean value =>
      cases isName
      cases value
      · exact absurd letter (by decide)
      · exact absurd letter (by decide)
  | number number =>
      cases isName
      exact absurd letter number.not_mem_map_toLower
  | text value =>
      cases isName
      rfl
  | sequence items | mapping entries | tagged tag value =>
      cases isName

/-- Only a text names the subject. -/
theorem eq_text_of_namesSubject
    {node : Node}
    {name : String}
    (isName : node.scalarText? = some name)
    (isSubject : EqualIgnoringAsciiCase name "subject") :
    node = .text name := by
  refine Node.eq_text_of_letter isName ?_
  rw [isSubject]
  decide

/-- Every spelling of the subject has the same canonical form. -/
theorem canonicalHeaderName_of_isSubject
    {name : String}
    (isSubject : EqualIgnoringAsciiCase name "subject") :
    canonicalHeaderName name = "Subject" := by
  rw [Text.canonicalHeaderName_congr isSubject]
  decide

section Entries

variable {entries : List (Node × Node)}

theorem names_headersField_iff
    {key : Node} :
    Kind.email.Names Kind.headersField key ↔
      (key.asText? == some "headers") = true := by
  rw [beq_iff_eq]
  exact ⟨fun names => names.2, fun named => ⟨Kind.headersField_mem_schema, named⟩⟩

/-- Without an entry for the headers, there are none. -/
theorem headersOf_eq_nil
    (notNamed : ∀ entry ∈ entries, ¬ Kind.email.Names Kind.headersField entry.1) :
    headersOf entries = [] := by
  have noneLeft :
      (entries.filter fun entry => entry.1.asText? == some "headers") = [] :=
    List.filter_eq_nil_iff.mpr fun entry member named =>
      notNamed entry member (names_headersField_iff.mpr named)
  rw [headersOf, noneLeft, List.flatMap_nil]

/-- Headers are given by one entry alone. -/
theorem headersOf_eq_of_names
    (once : ¬ Kind.email.Repeats entries)
    {entry : Node × Node}
    (member : entry ∈ entries)
    (names : Kind.email.Names Kind.headersField entry.1) :
    headersOf entries = entry.2.entries?.getD [] := by
  have isLeft :
      entry ∈ entries.filter fun other => other.1.asText? == some "headers" :=
    List.mem_filter.mpr ⟨member, names_headersField_iff.mp names⟩
  have atMostOne : ¬ 1 < Kind.timesNamed entries "headers" := fun twice =>
    once ⟨Kind.headersField, Kind.headersField_mem_schema, twice⟩
  rw [Kind.timesNamed, List.countP_eq_length_filter, Nat.not_lt] at atMostOne
  obtain ⟨only, isOnly⟩ := List.length_eq_one_iff.mp
    (Nat.le_antisymm atMostOne (List.length_pos_of_mem isLeft))
  rw [isOnly, List.mem_singleton] at isLeft
  rw [headersOf, isOnly, isLeft, List.flatMap_singleton]

end Entries

namespace Receiver

variable {entries : List (Node × Node)}
variable {receiver : Receiver}

/-- The headers of a decoded mail are those of one mapping, or there are none. -/
theorem writesHeaders_or_none
    (decoded : ofEntries .email entries = .ok receiver) :
    WritesHeaders entries (headersOf entries) ∨
      headersOf entries = [] ∧ ∀ name, receiver.headers.get? name = none := by
  obtain ⟨written, gives, rekeys, _⟩ := rekeys_headers decoded
  have judged := (judged_of_ofEntries .email entries).verdict
  have readable := (judged.receiver.mp ⟨receiver, decoded⟩).1
  have noneWritten : written = .empty → ∀ name, receiver.headers.get? name = none := by
    rintro rfl name
    rw [Option.eq_none_iff_forall_ne_some]
    intro value found
    obtain ⟨_, _, nothing⟩ := (rekeys name value).mp found
    cases nothing
  rcases gives.source Kind.headersField_mem_schema with
    ⟨⟨key, value⟩, member, names, converts⟩ | ⟨notNamed, isInitial⟩
  · have isValue := headersOf_eq_of_names readable.2 member names
    change Converts .table value _ at converts
    cases converts with
    | emptyTable =>
        exact .inr ⟨isValue, noneWritten rfl⟩
    | @table pairs _ scalars _ =>
        have isPairs : headersOf entries = pairs := isValue
        rw [isPairs]
        exact .inl ⟨⟨key, names, member⟩, scalars,
          fun other otherMember _ => readable.1 other otherMember, readable.2⟩
  · refine .inr ⟨headersOf_eq_nil notNamed, noneWritten ?_⟩
    cases isInitial
    rfl

section Naming

variable {header other : Node × Node}
variable (decoded : ofEntries .email entries = .ok receiver)
include decoded

theorem writesHeaders_of_mem
    (member : header ∈ headersOf entries) :
    WritesHeaders entries (headersOf entries) :=
  (writesHeaders_or_none decoded).resolve_right fun none => List.ne_nil_of_mem member none.1

/-- All headers for the subject have one name, or they would collide. -/
theorem sameName_of_namesSubject
    (member : header ∈ headersOf entries)
    (otherMember : other ∈ headersOf entries)
    (isSubject : NamesSubject header)
    (otherIsSubject : NamesSubject other) :
    header.1 = other.1 := by
  obtain ⟨name, isName, equalName⟩ := isSubject
  obtain ⟨otherName, isOtherName, equalOther⟩ := otherIsSubject
  have sameText : name = otherName := by
    by_contra differ
    have writes := writesHeaders_of_mem decoded member
    have judged := (judged_of_ofEntries .email entries).verdict
    refine (judged.receiver.mp ⟨receiver, decoded⟩).2.1 (writes.headersCollide_iff.mpr ?_)
    refine hasNames_ne_iff.mpr ⟨name, mem_headerNames_iff.mpr ⟨header, member, isName⟩,
      otherName, mem_headerNames_iff.mpr ⟨other, otherMember, isOtherName⟩, differ, ?_⟩
    rw [canonicalHeaderName_of_isSubject equalName,
      canonicalHeaderName_of_isSubject equalOther]
  rw [eq_text_of_namesSubject isName equalName,
    eq_text_of_namesSubject isOtherName equalOther, sameText]

/-- One header at most is for the subject. -/
theorem not_namesSubject_of_others
    {earlier later : List (Node × Node)}
    (keysDiffer : KeysDiffer (headersOf entries))
    (shape : headersOf entries = earlier ++ header :: later)
    (isSubject : NamesSubject header) :
    ∀ other ∈ earlier ++ later, ¬ NamesSubject other := by
  intro other member otherIsSubject
  have isMember : header ∈ headersOf entries := by simp [shape]
  have otherMember : other ∈ headersOf entries := by
    rw [shape]
    exact (List.sublist_cons_self header later).append_left earlier |>.subset member
  have sameKey := sameName_of_namesSubject decoded isMember otherMember isSubject otherIsSubject
  obtain ⟨name, isName, equalName⟩ := isSubject
  have isText := eq_text_of_namesSubject isName equalName
  have same : header.1.same other.1 = true ∧ other.1.same header.1 = true := by
    rw [← sameKey, isText]
    simp [Node.same]
  rw [shape, KeysDiffer, List.pairwise_append, List.pairwise_cons] at keysDiffer
  obtain ⟨_, ⟨beforeLater, _⟩, afterEarlier⟩ := keysDiffer
  rcases List.mem_append.mp member with inEarlier | inLater
  · have differ := afterEarlier other inEarlier header List.mem_cons_self
    rw [same.2] at differ
    cases differ
  · have differ := beforeLater other inLater
    rw [same.1] at differ
    cases differ

/-- The header for the subject has the subject as its value. -/
theorem scalarText?_eq_subject
    {earlier later : List (Node × Node)}
    (shape : headersOf entries = earlier ++ header :: later)
    (isSubject : NamesSubject header)
    (noOther : ∀ other ∈ earlier ++ later, ¬ NamesSubject other) :
    header.2.scalarText? = some receiver.subject := by
  have isMember : header ∈ headersOf entries := by simp [shape]
  have writes := writesHeaders_of_mem decoded isMember
  obtain ⟨written, gives, rekeys, _⟩ := rekeys_headers decoded
  obtain ⟨name, isName, equalName⟩ := isSubject
  have noneLater :
      later.reverse.find? (fun entry => entry.1.scalarText? == some name) = none := by
    rw [List.find?_eq_none]
    intro other member sameName
    refine noOther other (List.mem_append_right earlier (List.mem_reverse.mp member)) ?_
    exact ⟨name, beq_iff_eq.mp sameName, equalName⟩
  obtain ⟨value, isValue⟩ :=
    Option.isSome_iff_exists.mp (writes.scalars header isMember).2
  have found : written.get? name = some value := by
    rw [writes.get?_of_gives gives, lastText?, shape, List.reverse_append,
      List.reverse_cons, List.append_assoc, List.find?_append, noneLater]
    simp [isName, isValue]
  have kept : receiver.headers.get? "Subject" = some value :=
    (rekeys _ _).mpr ⟨name, canonicalHeaderName_of_isSubject equalName, found⟩
  rw [isValue, subject, kept, Option.getD_some]

/-- Without a header for the subject, the subject is the default one. -/
theorem subject_eq_default
    (ascii : ∀ name ∈ headerNames (headersOf entries), IsAscii name)
    (noSubject : ∀ header ∈ headersOf entries, ¬ NamesSubject header) :
    receiver.subject = defaultSubject := by
  have notFound : receiver.headers.get? "Subject" = none := by
    rcases writesHeaders_or_none decoded with writes | ⟨_, nothing⟩
    · obtain ⟨written, gives, rekeys, _⟩ := rekeys_headers decoded
      rw [Option.eq_none_iff_forall_ne_some]
      intro value found
      obtain ⟨name, isCanonical, isWritten⟩ := (rekeys _ _).mp found
      have inNames := (writes.mem_keys_iff gives).mp (Dict.mem_keys_iff.mpr ⟨value, isWritten⟩)
      obtain ⟨header, member, isName⟩ := mem_headerNames_iff.mp inNames
      have subjectAscii : IsAscii "subject" := by decide
      refine noSubject header member ⟨name, isName, ?_⟩
      refine Text.equalIgnoringAsciiCase_of_canonicalHeaderName_eq (ascii name inNames)
        subjectAscii (isCanonical.trans ?_)
      decide
    · exact nothing _
  rw [subject, notFound, Option.getD_none]

end Naming

end Receiver

/-- The headers that a node for a mail gives; none if they are null or absent. -/
def Node.headers (node : Node) : List (Node × Node) :=
  headersOf (node.entries?.getD [])

/-- A node decodes as a mail, for itself or by the kind that it names. -/
inductive Node.DecodesAsMail (node : Node) (receiver : Receiver) : Prop where
  | untagged :
      Receiver.decode .email node = .ok receiver →
      DecodesAsMail node receiver
  | tagged :
      Receiver.decodeTagged node = .ok receiver →
      receiver.kind = .email →
      DecodesAsMail node receiver

/-- The key that names the kind gives no headers. -/
theorem headersOf_filter_notKindKey (entries : List (Node × Node)) :
    headersOf (entries.filter fun entry => !Receiver.isKindKey entry.1) =
      headersOf entries := by
  unfold headersOf
  rw [List.filter_filter]
  congr 1
  refine List.filter_congr fun entry _ => ?_
  by_cases named : entry.1.asText? = some "headers"
  · simp [named, Receiver.isKindKey, kindKey]
  · simp [named]

/-- A node that is a mail receiver has entries that are decoded. -/
theorem Node.DecodesAsMail.exists_entries
    {node : Node}
    {receiver : Receiver}
    (decoded : node.DecodesAsMail receiver) :
    ∃ entries,
      Receiver.ofEntries .email entries = .ok receiver ∧
        node.headers = headersOf entries := by
  cases decoded with
  | untagged decoded =>
      obtain ⟨entries, lists, _⟩ := Receiver.overlays_of_decode decoded
      rw [Receiver.decode_eq_ofEntries lists] at decoded
      refine ⟨entries, decoded, ?_⟩
      rw [Node.headers, Node.entries?_eq_some_iff.mpr lists, Option.getD_some]
  | tagged decoded isMail =>
      obtain ⟨entries, _, rfl, _, _, isReceiver⟩ := Receiver.named_of_decodeTagged decoded
      rw [isMail] at isReceiver
      refine ⟨_, isReceiver, ?_⟩
      rw [headersOf_filter_notKindKey]
      rfl

/--
A mail whose node has a header for the subject, in whatever spelling and place, has one
such header only, and the value of this header is its subject.  Every other mail has the
default subject.
-/
theorem Receiver.subject_of_decodesAsMail
    {node : Node}
    {receiver : Receiver}
    (decoded : node.DecodesAsMail receiver)
    (keysDiffer : KeysDiffer node.headers)
    (ascii : ∀ name ∈ headerNames node.headers, IsAscii name) :
    ((∃ header ∈ node.headers, NamesSubject header) →
        ∃ earlier header later,
          node.headers = earlier ++ header :: later ∧
            NamesSubject header ∧
            (∀ other ∈ earlier ++ later, ¬ NamesSubject other) ∧
            header.2.scalarText? = some receiver.subject) ∧
      ((∀ header ∈ node.headers, ¬ NamesSubject header) →
        receiver.subject = defaultSubject) := by
  obtain ⟨entries, isReceiver, sameHeaders⟩ := decoded.exists_entries
  rw [sameHeaders] at keysDiffer ascii ⊢
  refine ⟨?_, fun noSubject => subject_eq_default isReceiver ascii noSubject⟩
  rintro ⟨header, member, isSubject⟩
  obtain ⟨earlier, later, shape⟩ := List.append_of_mem member
  have noOther := not_namesSubject_of_others isReceiver keysDiffer shape isSubject
  exact ⟨earlier, header, later, shape, isSubject, noOther,
    scalarText?_eq_subject isReceiver shape isSubject noOther⟩

/-- A mail that names its kind and has its subject among headers with similar names. -/
def loudSubjectNode : Node :=
  .mapping
    [(.text "type", .text "email"),
     (.text "headers", .mapping
       [(.text "Subjects", .text "none"), (.text "sUBJECT", .number (.integer 7)),
        (.text "x-subject", .null)]),
     (.text "to", .text "ops")]

/-- The number under the only spelling of the subject is the subject of mails. -/
theorem Receiver.subject_of_decodesAsMail_loudSubjectNode :
    ∃ receiver,
      loudSubjectNode.DecodesAsMail receiver ∧
        KeysDiffer loudSubjectNode.headers ∧
        (∀ name ∈ headerNames loudSubjectNode.headers, IsAscii name) ∧
        receiver.subject = "7" ∧
        ∃ earlier header later,
          loudSubjectNode.headers = earlier ++ header :: later ∧
            NamesSubject header ∧
            (∀ other ∈ earlier ++ later, ¬ NamesSubject other) ∧
            header.2.scalarText? = some receiver.subject := by
  have keysDiffer : KeysDiffer loudSubjectNode.headers := by
    rw [KeysDiffer]
    decide
  have ascii : ∀ name ∈ headerNames loudSubjectNode.headers, IsAscii name := by decide
  have isSubject : NamesSubject (.text "sUBJECT", .number (.integer 7)) :=
    ⟨"sUBJECT", rfl, by decide⟩
  refine ⟨_, .tagged rfl rfl, keysDiffer, ascii, rfl, ?_⟩
  refine (subject_of_decodesAsMail (.tagged rfl rfl) keysDiffer ascii).1 ?_
  exact ⟨_, by simp [loudSubjectNode, Node.headers, Node.entries?, headersOf, Node.asText?,
    Node.untagged], isSubject⟩

end AlertReceivers
