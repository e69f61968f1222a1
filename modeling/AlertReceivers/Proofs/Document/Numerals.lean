import AlertReceivers.Proofs.Document.OneField
import AlertReceivers.Proofs.Yaml.Numerals

namespace AlertReceivers.Document

/-!
# Digits for texts

Where digits are given for a text or a secret, the receiver holds these digits, if their
number has at most 64 bits or is too large for a double.  It is refused if it is a little
wider than that, and otherwise the receiver holds the text of the nearest double.
-/

open Decimal (IsNumeral wholeValue)
open Yaml (IsWide KeepsDigits Origin Plain Tree textOfDigits)

/-- A receiver holds one text only in a field. -/
theorem HoldsText.unique
    {text name first second : String}
    {kind : Kind}
    {field : Field}
    (holdsFirst : HoldsText text name kind field first)
    (holdsSecond : HoldsText text name kind field second) :
    first = second := by
  obtain ⟨document, receivers, receiver, isRead, decoded, found, _, isFirst⟩ := holdsFirst
  obtain ⟨_, _, _, isReadAgain, decodedAgain, foundAgain, _, isSecond⟩ := holdsSecond
  cases isRead.symm.trans isReadAgain
  cases decoded.symm.trans decodedAgain
  cases found.symm.trans foundAgain
  exact Option.some.inj (isFirst.symm.trans isSecond)

section Digits

variable {text name digits : String}
variable {root : Tree}
variable {origin : Origin}
variable {receiver : WrittenReceiver}
variable {kind : Kind}
variable {field : Field}
variable (takes : TakesWord text digits root origin)
variable (isNumeral : IsNumeral digits.toList)
variable (isLast : receiver.IsLast name (written text))
variable (gives : receiver.GivesWord (.scalar origin true digits) kind field)
include takes isNumeral isLast gives

/-- Digits for a number of 65 to 128 bits are refused while the text is read. -/
theorem exists_invalid_of_isWide
    (wide : IsWide (wholeValue digits.toList)) :
    ∃ error, read text = .error (.invalid error) :=
  exists_invalid_of_toNode takes isLast gives (Yaml.toNode_of_wide isNumeral wide)

/-- All other digits are accepted, and the receiver holds the text of their number. -/
theorem holdsText_textOfDigits
    (notWide : ¬ IsWide (wholeValue digits.toList)) :
    HoldsText text name kind field (textOfDigits digits) := by
  obtain ⟨node, isNode, isText⟩ := Yaml.exists_node_of_numeral isNumeral notWide
  exact holdsText_of_toNode takes isLast gives isNode isText
    (Yaml.textOfDigits_ne_empty isNumeral)

/-- A receiver that holds the digits it is given is one whose digits are kept. -/
theorem keepsDigits_of_holdsText
    (holds : HoldsText text name kind field digits) :
    KeepsDigits (wholeValue digits.toList) := by
  by_cases wide : IsWide (wholeValue digits.toList)
  · obtain ⟨document, _, _, isRead, _⟩ := holds
    obtain ⟨error, isRefused⟩ := exists_invalid_of_isWide takes isNumeral isLast gives wide
    cases isRead.symm.trans isRefused
  · have holdsText := holdsText_textOfDigits takes isNumeral isLast gives wide
    exact (Yaml.textOfDigits_eq_iff isNumeral).mp (holdsText.unique holds)

/--
A text that gives digits without quotes for a text or a secret of a receiver is accepted,
and the receiver holds just these digits, exactly if they write a number of at most 64
bits or one that is too large for a double.  A text with a number of 65 to 128 bits is
refused while it is read.  Every other text is accepted, and the receiver then holds the
text of the nearest double.
-/
theorem holdsText_iff_keepsDigits :
    (HoldsText text name kind field digits ↔ KeepsDigits (wholeValue digits.toList)) ∧
      (IsWide (wholeValue digits.toList) → ∃ error, read text = .error (.invalid error)) ∧
      (¬ IsWide (wholeValue digits.toList) →
        HoldsText text name kind field (textOfDigits digits)) := by
  have holds := holdsText_textOfDigits takes isNumeral isLast gives
  refine ⟨⟨keepsDigits_of_holdsText takes isNumeral isLast gives, fun keeps => ?_⟩,
    exists_invalid_of_isWide takes isNumeral isLast gives, holds⟩
  have holdsText := holds fun wide => wide.not_keepsDigits keeps
  rwa [(Yaml.textOfDigits_eq_iff isNumeral).mpr keeps] at holdsText

end Digits

section OneField

variable {kind : Kind}
variable {field : Field}

/-- A text that decodes is accepted. -/
theorem exists_receivers_of_isSome
    {text : String}
    (accepted :
      ((read text).toOption.bind fun document => document.decode.toOption).isSome = true) :
    ∃ document receivers, read text = .ok document ∧ document.decode = .ok receivers := by
  obtain ⟨receivers, accepted⟩ := Option.isSome_iff_exists.mp accepted
  obtain ⟨document, isRead, decoded⟩ := Option.bind_eq_some_iff.mp accepted
  exact ⟨document, receivers, Outcome.toOption_eq_some_iff.mp isRead,
    Outcome.toOption_eq_some_iff.mp decoded⟩

/-- A word stands where another one would be accepted. -/
theorem takesWord_fieldText
    (word other : String)
    {otherNode : Node}
    (declared : field ∈ kind.schema)
    (textual : field.sort.IsTextual)
    (isOther : word ∉ otherWords kind field)
    (isTokens :
      Yaml.tokens? (fieldText kind field word).toList = some (fieldTokens kind field word))
    (otherTokens :
      Yaml.tokens? (fieldText kind field other).toList = some (fieldTokens kind field other))
    (isOtherNode : (Plain.read other.toList).toNode other = .ok otherNode)
    (accepted :
      ((read (fieldText kind field other)).toOption.bind fun document =>
        document.decode.toOption).isSome = true) :
    TakesWord (fieldText kind field word) word (fieldTree kind field word)
      (wordOrigin kind field) where
  parsed :=
    parse?_of_fieldTokens isTokens
  untagged :=
    rfl
  given :=
    givenForTexts_fieldTree isOther declared textual
  accepted := by
    obtain ⟨document, receivers, isRead, decoded⟩ := exists_receivers_of_isSome accepted
    exact ⟨other, fieldText kind field other, fieldTree kind field other, otherNode, document,
      receivers, parse?_of_fieldTokens otherTokens, replaced_fieldTree, isOtherNode, isRead,
      decoded⟩

end OneField

/-- The field with the room of a hipchat receiver. -/
def roomField : Field :=
  .requiredText "room_id"

/-- The text of a document in which a receiver has a room. -/
def roomText (room : String) : String :=
  fieldText .hipchat roomField room

/-- A room of digits stands in a document in which a room of letters would be accepted. -/
structure TakesRoom (room : String) : Prop where
  takes :
    TakesWord (roomText room) room (fieldTree .hipchat roomField room)
      (wordOrigin .hipchat roomField)
  isNumeral :
    IsNumeral room.toList
  isLast :
    (fieldReceiver .hipchat roomField room).IsLast "r" (written (roomText room))
  gives :
    (fieldReceiver .hipchat roomField room).GivesWord
      (.scalar (wordOrigin .hipchat roomField) true room) .hipchat roomField

/-- A room of digits that is not held, though a room of letters would be. -/
structure LosesRoom (room : String) : Prop extends TakesRoom room where
  lost :
    ¬ HoldsText (roomText room) "r" .hipchat roomField room

/-- A room of digits can be put in place of one of letters. -/
theorem takesRoom_of_tokens
    {room : String}
    (other : String)
    {otherNode : Node}
    (isOther : room ∉ otherWords .hipchat roomField)
    (isTokens :
      Yaml.tokens? (roomText room).toList = some (fieldTokens .hipchat roomField room))
    (otherTokens :
      Yaml.tokens? (roomText other).toList = some (fieldTokens .hipchat roomField other))
    (isOtherNode : (Plain.read other.toList).toNode other = .ok otherNode)
    (accepted :
      ((read (roomText other)).toOption.bind fun document =>
        document.decode.toOption).isSome = true)
    (isNumeral : IsNumeral room.toList) :
    TakesRoom room := by
  have takes := takesWord_fieldText room other (by decide) (.inl rfl) isOther isTokens
    otherTokens isOtherNode accepted
  exact ⟨takes, isNumeral, isLast_fieldReceiver takes.parsed,
    givesWord_fieldReceiver (by decide) (.inl rfl)⟩

/-- A room whose digits are not kept is not held. -/
theorem TakesRoom.losesRoom
    {room : String}
    (takes : TakesRoom room)
    (changes : ¬ KeepsDigits (wholeValue room.toList)) :
    LosesRoom room where
  toTakesRoom :=
    takes
  lost holds :=
    changes (keepsDigits_of_holdsText takes.takes takes.isNumeral takes.isLast takes.gives holds)

/-- A room of eight digits is held as it is written. -/
theorem holdsText_iff_keepsDigits_smallRoom :
    TakesRoom "20240117" ∧
      HoldsText (roomText "20240117") "r" .hipchat roomField "20240117" := by
  have takes : TakesRoom "20240117" :=
    takesRoom_of_tokens "xxxxxxxx" (by decide) (by decide +kernel)
      (by decide +kernel) rfl (by decide +kernel) (by decide)
  refine ⟨takes, (holdsText_iff_keepsDigits takes.takes takes.isNumeral takes.isLast
    takes.gives).1.mpr ?_⟩
  decide +kernel

/-- A room whose digits are refused, and one whose digits become those of a double. -/
theorem roomDigits_not_kept :
    LosesRoom "18446744073709551616" ∧
      LosesRoom "340282366920938463463374607431768211456" := by
  constructor
  · have takes : TakesRoom "18446744073709551616" :=
      takesRoom_of_tokens "xxxxxxxxxxxxxxxxxxxx" (by decide) (by decide +kernel)
        (by decide +kernel) rfl (by decide +kernel) (by decide)
    exact takes.losesRoom (by decide +kernel)
  · have takes : TakesRoom "340282366920938463463374607431768211456" :=
      takesRoom_of_tokens "xxxxxxxxxxxxxxxxxxxxxxxxxxxxxxxxxxxxxxx" (by decide)
        (by decide +kernel) (by decide +kernel) rfl (by decide +kernel) (by decide)
    exact takes.losesRoom (by decide +kernel)

end AlertReceivers.Document
