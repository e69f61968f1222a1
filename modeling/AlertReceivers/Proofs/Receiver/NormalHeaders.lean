import AlertReceivers.Proofs.Receiver.Overlay
import AlertReceivers.Proofs.Text.HeaderName

namespace AlertReceivers

/-!
# Headers in normal form

The headers of a decoded mail are canonical, and no two of them differ in ASCII case
only, if every letter and digit in the names that were written has a single character
as its form.  A name with a letter such as the German sharp s does not stay as it is.
-/

open Text (canonicalHeaderName)

namespace Receiver

/-- A receiver has different headers under different names, whatever the case of
their ASCII letters, and normalising it changes nothing. -/
structure InNormalForm (receiver : Receiver) : Prop where
  apart :
    ∀ first ∈ receiver.headers.keys, ∀ second ∈ receiver.headers.keys,
      Text.EqualIgnoringAsciiCase first second → first = second
  stays :
    receiver.normalize = .ok receiver

/-- A mail with canonical headers is in normal form. -/
theorem inNormalForm_of_canonical
    {receiver : Receiver}
    (isMail : receiver.kind = .email)
    (canonical : ∀ name ∈ receiver.headers.keys, canonicalHeaderName name = name) :
    receiver.InNormalForm where
  apart := by
    intro first firstMember second secondMember same
    rw [← canonical first firstMember, ← canonical second secondMember]
    exact Text.canonicalHeaderName_congr same
  stays :=
    normalize_of_canonical isMail canonical

/-- Headers are canonical if the names that were written have single forms. -/
theorem canonical_of_rekeys
    {entries : List (Node × Node)}
    {canonical written : Dict String}
    {name : String}
    (rekeys : Rekeys canonical written)
    (gives : Kind.email.Gives entries Kind.headersField (.table written))
    (single : ∀ name, Kind.NamesHeader entries name → Text.HasSingleForms name)
    (isName : name ∈ canonical.keys) :
    canonicalHeaderName name = name := by
  obtain ⟨value, found⟩ := Dict.mem_keys_iff.mp isName
  obtain ⟨original, rfl, isWritten⟩ := (rekeys name value).mp found
  have originalMember : original ∈ written.keys :=
    Dict.mem_keys_iff.mpr ⟨value, isWritten⟩
  exact Text.canonicalHeaderName_of_hasSingleForms
    (single original (gives.namesHeader originalMember))

/--
A decoded mail is in normal form: no two of its headers have names that are equal but
for the case of ASCII letters, and normalising it again changes nothing.  Each letter
and digit of the written names has to have a single character as the form that its
place in the name asks for.
-/
theorem inNormalForm_of_decode
    {node : Node}
    {receiver : Receiver}
    (decoded : decode .email node = .ok receiver)
    (single :
      ∀ entries, node = .mapping entries →
        ∀ name, Kind.NamesHeader entries name → Text.HasSingleForms name) :
    receiver.InNormalForm := by
  unfold decode at decoded
  split at decoded
  · rename_i entries listed
    have singleForms :
        ∀ name, Kind.NamesHeader entries name → Text.HasSingleForms name := by
      cases Node.entries?_eq_some_iff.mp listed with
      | null =>
          rintro name ⟨entry, member, _⟩
          cases member
      | mapping =>
          exact single entries rfl
    have overlays := overlays_of_ofEntries decoded
    obtain ⟨written, gives, rekeys⟩ := overlays.rekeys_headers
    exact inNormalForm_of_canonical overlays.sameKind
      fun name isName => canonical_of_rekeys rekeys gives singleForms isName
  · cases decoded

/-- Only the headers in such entries are named. -/
theorem exists_of_namesHeader_headersEntries
    {headers : List (Node × Node)}
    {name : String}
    (named : Kind.NamesHeader (headersEntries headers) name) :
    ∃ header ∈ headers, header.1.scalarText? = some name := by
  obtain ⟨entry, member, _, others, isTable, header⟩ := named
  simp only [headersEntries, List.mem_cons, List.not_mem_nil, or_false] at member
  rcases member with rfl | rfl
  · cases isTable
  · cases isTable
    exact header

/-- The sharp s is kept inside of a word. -/
def streetHeaders : List (Node × Node) :=
  [(.text "élan-straße", .text "a"), (.text "X-ÉLAN", .text "b")]

/-- Letters beyond ASCII with single forms are in normal form. -/
theorem inNormalForm_of_decode_streetHeaders :
    ∃ receiver,
      decode .email (.mapping (headersEntries streetHeaders)) = .ok receiver ∧
        receiver.headers.keys = ["X-Élan", "Élan-Straße"] ∧
        receiver.InNormalForm := by
  obtain ⟨receiver, decoded, keys⟩ :
      ∃ receiver,
        decode .email (.mapping (headersEntries streetHeaders)) = .ok receiver ∧
          receiver.headers.keys = ["X-Élan", "Élan-Straße"] :=
    ⟨_, rfl, rfl⟩
  refine ⟨receiver, decoded, keys,
    inNormalForm_of_decode decoded fun entries isNode name named => ?_⟩
  cases isNode
  obtain ⟨header, member, isName⟩ := exists_of_namesHeader_headersEntries named
  simp only [streetHeaders, List.mem_cons, List.not_mem_nil, or_false] at member
  rcases member with rfl | rfl
  · cases isName
    decide
  · cases isName
    decide

/-- The sharp s becomes two letters at the start of a word. -/
def sharpHeaders : List (Node × Node) :=
  [(.text "ß", .text "a"), (.text "ss", .text "b")]

/-- Decoded headers differ in ASCII case only, and cannot be normalised again. -/
theorem sharpHeaders_not_inNormalForm :
    ∃ receiver,
      decode .email (.mapping (headersEntries sharpHeaders)) = .ok receiver ∧
        receiver.headers.keys = ["SS", "Ss"] ∧
        Text.EqualIgnoringAsciiCase "SS" "Ss" ∧
        receiver.normalize = .error (.duplicateHeader .email "Ss") :=
  ⟨_, rfl, rfl, by decide, rfl⟩

end Receiver

end AlertReceivers
