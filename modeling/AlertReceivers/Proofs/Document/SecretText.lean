import AlertReceivers.Proofs.Document.OneField

namespace AlertReceivers.Document

/-!
# Texts with secrets

Texts of documents that differ only in a plain word for a secret get the same answer.
-/

open Yaml (IsPlainWordAfter IsWord Plain Tree parse?)

/-- Two texts of documents get the same answer: the same error when they are read, or
documents that are answered alike. -/
def TextsAnsweredAlike (firstText secondText : String) : Prop :=
  (∃ error, read firstText = .error error ∧ read secondText = .error error) ∨
    ∃ first second,
      read firstText = .ok first ∧
        read secondText = .ok second ∧
        first.AnsweredAlike second

/-- Two texts of documents differ in the characters of one plain word, which is not null, has
no tag and is given for secrets. -/
structure DifferInSecret
    (before first second after : String)
    (firstTree secondTree : Tree) :
    Prop where
  firstIsWord : IsWord first.toList
  secondIsWord : IsWord second.toList
  sameLength : first.length = second.length
  firstNotNull : Plain.read first.toList ≠ .null
  secondNotNull : Plain.read second.toList ≠ .null
  isPlainWord : IsPlainWordAfter before first after
  firstParsed : parse? (before ++ first ++ after) = some (some firstTree)
  secondParsed : parse? (before ++ second ++ after) = some (some secondTree)
  given :
    ∀ origin, Tree.Replaced origin first second firstTree secondTree →
      origin.tag? = none ∧ GivenForSecrets firstTree (.scalar origin true first)

/-- Two texts of documents that differ in a word for secrets get the same answer, unless one
of the words is an integer that is too wide for a node. -/
theorem textsAnsweredAlike_of_differInSecret
    {before first second after : String}
    {firstTree secondTree : Tree}
    (differ : DifferInSecret before first second after firstTree secondTree)
    (firstNotWide : ∀ value, Plain.read first.toList ≠ .wideInteger value)
    (secondNotWide : ∀ value, Plain.read second.toList ≠ .wideInteger value) :
    TextsAnsweredAlike (before ++ first ++ after) (before ++ second ++ after) := by
  have alike :
      Yaml.Reading.Alike
        (fun firstDocument secondDocument =>
          DictsMatch NodesMatch firstDocument.receivers secondDocument.receivers)
        (readRoot firstTree) (readRoot secondTree) := by
    obtain ⟨tree, isTree, trees⟩ := Yaml.parse?_differ differ.firstIsWord
      differ.secondIsWord differ.sameLength differ.isPlainWord differ.firstParsed
    rw [differ.secondParsed] at isTree
    cases isTree
    rcases trees with rfl | ⟨origin, replaced⟩
    · exact .refl (fun document => .refl NodesMatch.refl document.receivers) _
    · obtain ⟨untagged, given⟩ := differ.given origin replaced
      exact readRoot_alike_of_givenForSecrets (.inr replaced) untagged
        ⟨differ.firstNotNull, firstNotWide⟩ ⟨differ.secondNotNull, secondNotWide⟩ given
  have answers := alike 0
  unfold TextsAnsweredAlike read
  rw [differ.firstParsed, differ.secondParsed]
  dsimp only
  generalize readRoot firstTree 0 = firstResult at answers ⊢
  generalize readRoot secondTree 0 = secondResult at answers ⊢
  cases answers with
  | error =>
      exact .inl ⟨_, rfl, rfl⟩
  | ok isMatch =>
      exact .inr ⟨_, _, rfl, rfl, answeredAlike_of_dictsMatch isMatch.1⟩

section OneField

variable {kind : Kind}
variable {field : Field}
variable {first second : String}

/-- Two documents differ in a secret if the only field of their receivers is one. -/
theorem differInSecret_of_fieldTokens
    (declared : field ∈ kind.schema)
    (isSecret : field.sort = .secret)
    (firstIsWord : IsWord first.toList)
    (secondIsWord : IsWord second.toList)
    (sameLength : first.length = second.length)
    (firstNotNull : Plain.read first.toList ≠ .null)
    (secondNotNull : Plain.read second.toList ≠ .null)
    (isOther : first ∉ otherWords kind field)
    (firstTokens :
      Yaml.tokens? (fieldText kind field first).toList = some (fieldTokens kind field first))
    (secondTokens :
      Yaml.tokens? (fieldText kind field second).toList =
        some (fieldTokens kind field second)) :
    DifferInSecret (fieldLead kind field) first second "\n"
      (fieldTree kind field first) (fieldTree kind field second) where
  firstIsWord := firstIsWord
  secondIsWord := secondIsWord
  sameLength := sameLength
  firstNotNull := firstNotNull
  secondNotNull := secondNotNull
  isPlainWord := isPlainWordAfter_fieldLead firstTokens
  firstParsed := parse?_of_fieldTokens firstTokens
  secondParsed := parse?_of_fieldTokens secondTokens
  given := by
    intro origin replaced
    rw [eq_wordOrigin_of_replaced isOther replaced]
    exact ⟨rfl, givenForSecrets_fieldTree isOther declared isSecret⟩

end OneField

/-- The field with the token of a pushover receiver. -/
def tokenField : Field :=
  .requiredSecret "token"

/-- The text of a document in which a receiver has a token. -/
def tokenText (token : String) : String :=
  fieldText .pushover tokenField token

/-- Two texts of documents differ in the tokens of a receiver. -/
def DifferInToken (first second : String) : Prop :=
  DifferInSecret (fieldLead .pushover tokenField) first second "\n"
    (fieldTree .pushover tokenField first) (fieldTree .pushover tokenField second)

/-- A decimal and a hexadecimal token of the same length get the same answer. -/
theorem textsAnsweredAlike_of_tokenText :
    DifferInToken "31415926" "0xc0ffee" ∧
      (∀ value, Plain.read "31415926".toList ≠ .wideInteger value) ∧
      (∀ value, Plain.read "0xc0ffee".toList ≠ .wideInteger value) ∧
      TextsAnsweredAlike (tokenText "31415926") (tokenText "0xc0ffee") := by
  have differ : DifferInToken "31415926" "0xc0ffee" :=
    differInSecret_of_fieldTokens (by decide) rfl (by decide +kernel) (by decide +kernel)
      (by decide) (by decide +kernel) (by decide +kernel) (by decide) (by decide +kernel)
      (by decide +kernel)
  have firstNotWide : ∀ value, Plain.read "31415926".toList ≠ .wideInteger value := by
    have isInteger : Plain.read "31415926".toList = .integer 31415926 := by decide +kernel
    rw [isInteger]
    exact nofun
  have secondNotWide : ∀ value, Plain.read "0xc0ffee".toList ≠ .wideInteger value := by
    have isInteger : Plain.read "0xc0ffee".toList = .integer 12648430 := by decide +kernel
    rw [isInteger]
    exact nofun
  exact ⟨differ, firstNotWide, secondNotWide,
    textsAnsweredAlike_of_differInSecret differ firstNotWide secondNotWide⟩

/-- The message of the error when a text is read, if there is one. -/
def refusal? (text : String) : Option String :=
  match read text with
  | .error error =>
      some error.message
  | .ok _ =>
      none

/-- Two tokens of digits are shown in the messages that refuse their documents. -/
theorem tokenText_shown_of_wideIntegers :
    DifferInToken "99999999999999999999" "99999999999999999998" ∧
      ¬ TextsAnsweredAlike
        (tokenText "99999999999999999999") (tokenText "99999999999999999998") := by
  constructor
  · exact differInSecret_of_fieldTokens (by decide) rfl (by decide +kernel)
      (by decide +kernel) (by decide) (by decide +kernel) (by decide +kernel) (by decide)
      (by decide +kernel) (by decide +kernel)
  have refused : refusal? (tokenText "99999999999999999999") ≠ none := by
    decide +kernel
  have differ :
      refusal? (tokenText "99999999999999999999") ≠
        refusal? (tokenText "99999999999999999998") := by
    decide +kernel
  rintro (⟨error, isFirst, isSecond⟩ | ⟨first, second, isFirst, _⟩)
  · exact differ (by rw [refusal?, refusal?, isFirst, isSecond])
  · exact refused (by rw [refusal?, isFirst])

end AlertReceivers.Document
