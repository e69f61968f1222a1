import AlertReceivers.Proofs.Document.GivenWords
import AlertReceivers.Proofs.Yaml.Tokens

namespace AlertReceivers.Document

/-!
# Documents with one field

The text of a document whose only receiver gives one word for one of its fields.  The
places of what is written depend only on the lengths of the names in front of it.
-/

open Yaml (IsPlainWordAfter Mark Origin Token Tree)

section

variable (kind : Kind) (field : Field) (word : String)

/-- The text of a document in front of the only field of a receiver of a kind. -/
def kindLead : String :=
  "receivers:\n  r:\n    type: " ++ kind.name ++ "\n    "

/-- The text of a document in front of what the only field of a receiver is given. -/
def fieldLead : String :=
  kindLead kind ++ field.name ++ ": "

/-- The text of a document whose receiver gives a word for its only field. -/
def fieldText : String :=
  fieldLead kind field ++ word ++ "\n"

/-- Where the name of the field starts. -/
def fieldStart : Mark :=
  ⟨(kindLead kind).utf8ByteSize, 3, 4⟩

/-- Where the name of the field stops. -/
def fieldStop : Mark :=
  ⟨(kindLead kind ++ field.name).utf8ByteSize, 3, 4 + field.name.length⟩

/-- Where the word stands. -/
def wordOrigin : Origin :=
  ⟨⟨(fieldLead kind field).utf8ByteSize, 3, 6 + field.name.length⟩, none, none⟩

/-- The entry of the receiver for its field. -/
def fieldEntry : Tree × Tree :=
  (.scalar ⟨fieldStart kind, none, none⟩ true field.name,
    .scalar (wordOrigin kind field) true word)

/-- The entries of the receiver. -/
def fieldEntries : List (Tree × Tree) :=
  [(.scalar ⟨⟨20, 2, 4⟩, none, none⟩ true kindKey,
    .scalar ⟨⟨26, 2, 10⟩, none, none⟩ true kind.name),
   fieldEntry kind field word]

/-- The entry of the document for its receiver. -/
def receiverEntry : Tree × Tree :=
  (.scalar ⟨⟨13, 1, 2⟩, none, none⟩ true "r",
    .mapping ⟨⟨20, 2, 4⟩, none, none⟩ (fieldEntries kind field word))

/-- The document whose receiver gives a word for its only field. -/
def fieldTree : Tree :=
  .mapping ⟨⟨0, 0, 0⟩, none, none⟩
    [(.scalar ⟨⟨0, 0, 0⟩, none, none⟩ true receiversField,
      .mapping ⟨⟨13, 1, 2⟩, none, none⟩ [receiverEntry kind field word])]

/-- The tokens of the text of the document. -/
def fieldTokens : List Token :=
  let start := fieldStart kind
  let stop := fieldStop kind field
  let wordStart := (wordOrigin kind field).mark
  let last : Mark := ⟨(fieldText kind field word).utf8ByteSize, 4, 0⟩
  [⟨.blockMappingStart, ⟨0, 0, 0⟩, ⟨0, 0, 0⟩⟩, ⟨.key, ⟨0, 0, 0⟩, ⟨0, 0, 0⟩⟩,
   ⟨.scalar true receiversField, ⟨0, 0, 0⟩, ⟨9, 0, 9⟩⟩, ⟨.value, ⟨9, 0, 9⟩, ⟨10, 0, 10⟩⟩,
   ⟨.blockMappingStart, ⟨13, 1, 2⟩, ⟨13, 1, 2⟩⟩, ⟨.key, ⟨13, 1, 2⟩, ⟨13, 1, 2⟩⟩,
   ⟨.scalar true "r", ⟨13, 1, 2⟩, ⟨14, 1, 3⟩⟩, ⟨.value, ⟨14, 1, 3⟩, ⟨15, 1, 4⟩⟩,
   ⟨.blockMappingStart, ⟨20, 2, 4⟩, ⟨20, 2, 4⟩⟩, ⟨.key, ⟨20, 2, 4⟩, ⟨20, 2, 4⟩⟩,
   ⟨.scalar true kindKey, ⟨20, 2, 4⟩, ⟨24, 2, 8⟩⟩, ⟨.value, ⟨24, 2, 8⟩, ⟨25, 2, 9⟩⟩,
   ⟨.scalar true kind.name, ⟨26, 2, 10⟩, start⟩, ⟨.key, start, start⟩,
   ⟨.scalar true field.name, start, stop⟩, ⟨.value, stop, stop.pass ':'⟩,
   ⟨.scalar true word, wordStart, last⟩, ⟨.blockEnd, last, last⟩, ⟨.blockEnd, last, last⟩,
   ⟨.blockEnd, last, last⟩, ⟨.streamEnd, last, last⟩]

/-- The other words of the document. -/
def otherWords : List String :=
  [receiversField, "r", kindKey, kind.name, field.name]

/-- The only receiver of the document. -/
def fieldReceiver : WrittenReceiver :=
  ⟨fieldTree kind field word, (receiverEntry kind field word).1,
    (receiverEntry kind field word).2⟩

end

variable {kind : Kind}
variable {field : Field}
variable {word other : String}

/-- The text has the document if it is cut into the tokens. -/
theorem parse?_of_fieldTokens
    (isTokens :
      Yaml.tokens? (fieldText kind field word).toList = some (fieldTokens kind field word)) :
    Yaml.parse? (fieldText kind field word) = some (some (fieldTree kind field word)) := by
  rw [Yaml.parse?, isTokens]
  rfl

/-- The word is a plain scalar of its own. -/
theorem isPlainWordAfter_fieldLead
    (isTokens :
      Yaml.tokens? (fieldText kind field word).toList = some (fieldTokens kind field word)) :
    IsPlainWordAfter (fieldLead kind field) word "\n" :=
  ⟨fieldTokens kind field word, _, isTokens, List.mem_of_getElem? (i := 16) rfl, rfl, rfl⟩

/-- The receiver names its kind. -/
theorem writtenKind?_fieldEntries
    (declared : field ∈ kind.schema)
    (root : Tree) :
    Receiver.writtenKind? root (fieldEntries kind field word) = some kind := by
  have isOther : field.name ≠ kindKey := Kind.name_ne_kindKey declared
  have keys :
      (fieldEntries kind field word).filter
          (fun entry => root.textOf? entry.1 == some kindKey) =
        [(.scalar ⟨⟨20, 2, 4⟩, none, none⟩ true kindKey,
          .scalar ⟨⟨26, 2, 10⟩, none, none⟩ true kind.name)] := by
    simp [fieldEntries, fieldEntry, Tree.textOf?, Tree.resolve, isOther]
  rw [Receiver.writtenKind?, keys]
  exact Kind.ofName?_eq_some_iff.mpr rfl

section Given

variable (isOther : word ∉ otherWords kind field)
include isOther

/-- The word is given by no other scalar of the document. -/
theorem not_gives_otherWord
    {root : Tree}
    {origin otherOrigin : Origin}
    {text : String}
    (member : text ∈ otherWords kind field) :
    ¬ root.Gives (.scalar origin true word) (.scalar otherOrigin true text) := by
  intro gives
  cases Tree.gives_scalar_iff.mp gives
  exact isOther member

/-- In the receiver, the word is given for the field only. -/
theorem givenOnlyIn_fieldEntries
    {root : Tree}
    {origin : Origin}
    {allowed : Tree × Tree → Prop}
    (isAllowed : allowed (fieldEntry kind field word)) :
    root.GivenOnlyIn (.scalar origin true word) allowed (fieldEntries kind field word) := by
  have notGiven := @not_gives_otherWord _ _ _ isOther root origin
  refine List.forall_mem_cons.mpr ⟨⟨notGiven (by simp [otherWords]), fun inKind => ?_⟩,
    List.forall_mem_singleton.mpr ⟨notGiven (by simp [otherWords]), fun _ => isAllowed⟩⟩
  exact (notGiven (by simp [otherWords]) inKind).elim

/-- In the document, the word is given in the receiver only. -/
theorem givenInDocument_fieldTree
    {origin : Origin}
    {allowed : Tree × Tree → Prop}
    (isAllowed : allowed (receiverEntry kind field word)) :
    GivenInDocument (fieldTree kind field word) (.scalar origin true word) allowed := by
  have notGiven := @not_gives_otherWord _ _ _ isOther (fieldTree kind field word) origin
  refine ⟨_, _, rfl,
    List.forall_mem_singleton.mpr ⟨notGiven (by simp [otherWords]), fun _ => ?_⟩⟩
  exact ⟨_, _, rfl,
    List.forall_mem_singleton.mpr ⟨notGiven (by simp [otherWords]), fun _ => isAllowed⟩⟩

variable (declared : field ∈ kind.schema)
include declared

/-- A word for a field with a secret is given for nothing but the secret. -/
theorem givenForSecrets_fieldTree
    (isSecret : field.sort = .secret) :
    GivenForSecrets (fieldTree kind field word)
      (.scalar (wordOrigin kind field) true word) := by
  refine givenInDocument_fieldTree isOther ⟨_, _, kind, rfl,
    writtenKind?_fieldEntries declared _, givenOnlyIn_fieldEntries isOther ⟨rfl, ?_, ?_⟩⟩
  · exact fun isKindKey => Kind.name_ne_kindKey declared (Option.some.inj isKindKey)
  · intro named isDeclared sameName
    rwa [← Kind.eq_of_name_eq declared isDeclared (Option.some.inj sameName)]

/-- A word for a field with a text or a secret is given for nothing but this field. -/
theorem givenForTexts_fieldTree
    (textual : field.sort.IsTextual) :
    GivenForTexts (fieldTree kind field word)
      (.scalar (wordOrigin kind field) true word) :=
  givenInDocument_fieldTree isOther ⟨_, _, kind, rfl, writtenKind?_fieldEntries declared _,
    givenOnlyIn_fieldEntries isOther ⟨rfl, field, declared, rfl, textual⟩⟩

end Given

/-- With another word, only the word is replaced. -/
theorem replaced_fieldTree :
    Tree.Replaced (wordOrigin kind field) word other
      (fieldTree kind field word) (fieldTree kind field other) := by
  have inEntries :
      Tree.Replaced (wordOrigin kind field) word other
        (receiverEntry kind field word).2 (receiverEntry kind field other).2 :=
    @Tree.Replaced.value _ _ _ _ [_] [] _ _ _ .here
  exact @Tree.Replaced.value _ _ _ _ [] [] _ _ _
    (@Tree.Replaced.value _ _ _ _ [] [] _ _ _ inEntries)

/-- Only the scalar of the field holds the word. -/
theorem eq_wordOrigin_of_replaced
    (isOther : word ∉ otherWords kind field)
    {origin : Origin}
    {otherTree : Tree}
    (replaced : Tree.Replaced origin word other (fieldTree kind field word) otherTree) :
    origin = wordOrigin kind field := by
  have gives := replaced.gives (fieldTree kind field word)
  simp only [otherWords, List.mem_cons, List.not_mem_nil, or_false, not_or] at isOther
  simpa [fieldTree, receiverEntry, fieldEntries, fieldEntry, Tree.gives_mapping_iff,
    Tree.gives_scalar_iff, isOther] using gives

/-- A text whose only receiver is that of the document writes no other receiver. -/
theorem isLast_fieldReceiver
    {text : String}
    (parsed : Yaml.parse? text = some (some (fieldTree kind field word))) :
    (fieldReceiver kind field word).IsLast "r" (written text) := by
  have isOnly : written text = [fieldReceiver kind field word] := by
    rw [written, parsed]
    rfl
  rw [isOnly]
  exact .here rfl nofun

/-- The receiver gives the word for its field. -/
theorem givesWord_fieldReceiver
    (declared : field ∈ kind.schema)
    (textual : field.sort.IsTextual) :
    (fieldReceiver kind field word).GivesWord
      (.scalar (wordOrigin kind field) true word) kind field where
  declared :=
    declared
  textual :=
    textual
  written :=
    ⟨_, fieldEntries kind field word, fieldEntry kind field word, rfl,
      writtenKind?_fieldEntries declared _, by simp [fieldEntries], rfl, rfl⟩

end AlertReceivers.Document
