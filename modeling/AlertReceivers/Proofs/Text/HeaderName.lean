import AlertReceivers.Proofs.Text.CaseForms
import AlertReceivers.Text.HeaderName

namespace AlertReceivers.Text

/-!
# Canonical header names

The canonical form of a name is its own canonical form, and that of every name that
differs only in the case of ASCII letters, if each letter and digit has a single
character as the form that its place asks for.  All ASCII names are such names.
Beyond ASCII this can fail: a letter can have an upper-case form of several
characters.
-/

/-- A text of ASCII characters only. -/
def IsAscii (text : String) : Prop :=
  ∀ char ∈ text.toList, char.toNat < 128

instance : DecidablePred IsAscii :=
  fun text => List.decidableBAll (fun char : Char => char.toNat < 128) text.toList

/-- The form of a letter or digit at the start of a word, or inside of one. -/
def formAt
    (startsWord : Bool)
    (char : Char) :
    List Char :=
  if startsWord then upper char else lower char

/-- Every letter and digit of the rest of a name has a single character as the form
that its place asks for. -/
def SingleForms
    (startsWord : Bool) :
    List Char → Prop
  | [] =>
      True
  | char :: rest =>
      if isAlphanumeric char then
        (formAt startsWord char).length = 1 ∧ SingleForms false rest
      else
        SingleForms true rest

instance decidableSingleForms :
    (startsWord : Bool) → (chars : List Char) → Decidable (SingleForms startsWord chars)
  | _, [] =>
      inferInstanceAs (Decidable True)
  | startsWord, char :: rest =>
      have := decidableSingleForms false rest
      have := decidableSingleForms true rest
      inferInstanceAs
        (Decidable
          (if isAlphanumeric char then
            (formAt startsWord char).length = 1 ∧ SingleForms false rest
          else
            SingleForms true rest))

/-- Every letter and digit of a name has a single character as the form that its
place asks for. -/
def HasSingleForms (name : String) : Prop :=
  SingleForms true name.toList

instance : DecidablePred HasSingleForms :=
  fun name => decidableSingleForms true name.toList

/-- A letter or digit is written in its form, and the word goes on. -/
theorem canonicalFrom_cons_of_alphanumeric
    {startsWord : Bool}
    {char : Char}
    {rest : List Char}
    (alphanumeric : isAlphanumeric char = true) :
    canonicalFrom startsWord (char :: rest) =
      formAt startsWord char ++ canonicalFrom false rest := by
  rw [canonicalFrom, if_pos alphanumeric, formAt]

/-- Any other character stays, and a word may start after it. -/
theorem canonicalFrom_cons_of_not_alphanumeric
    {startsWord : Bool}
    {char : Char}
    {rest : List Char}
    (separates : ¬ isAlphanumeric char = true) :
    canonicalFrom startsWord (char :: rest) = char :: canonicalFrom true rest := by
  rw [canonicalFrom, if_neg separates]

/-- A single form of a letter or digit is its own form at this place. -/
theorem keepsCase_formAt
    {startsWord : Bool}
    {char form : Char}
    (alphanumeric : isAlphanumeric char = true)
    (single : formAt startsWord char = [form]) :
    KeepsCase (formAt startsWord) form := by
  cases startsWord with
  | true =>
      exact upper_isFinal.keepsCase alphanumeric single
  | false =>
      exact lower_isFinal.keepsCase alphanumeric single

/-- Canonical characters stay as they are, inside a word and before one. -/
theorem canonicalFrom_idempotent
    {startsWord : Bool}
    {chars : List Char}
    (single : SingleForms startsWord chars) :
    canonicalFrom startsWord (canonicalFrom startsWord chars) =
      canonicalFrom startsWord chars := by
  induction chars generalizing startsWord with
  | nil =>
      rfl
  | cons char rest inductionHypothesis =>
      unfold SingleForms at single
      split at single
      · rename_i alphanumeric
        obtain ⟨form, isForm⟩ := List.length_eq_one_iff.mp single.1
        obtain ⟨formAlphanumeric, stays⟩ := keepsCase_formAt alphanumeric isForm
        rw [canonicalFrom_cons_of_alphanumeric alphanumeric, isForm,
          List.singleton_append, canonicalFrom_cons_of_alphanumeric formAlphanumeric,
          stays, inductionHypothesis single.2, List.singleton_append]
      · rename_i separates
        rw [canonicalFrom_cons_of_not_alphanumeric separates,
          canonicalFrom_cons_of_not_alphanumeric separates,
          inductionHypothesis single]

/-- The canonical form of a name with single forms is canonical. -/
theorem canonicalHeaderName_of_hasSingleForms
    {name : String}
    (single : HasSingleForms name) :
    canonicalHeaderName (canonicalHeaderName name) = canonicalHeaderName name := by
  rw [canonicalHeaderName, canonicalHeaderName, String.toList_ofList,
    canonicalFrom_idempotent single]

/-- ASCII characters have single forms. -/
theorem length_formAt_of_ascii
    {char : Char}
    (ascii : char.toNat < 128)
    (startsWord : Bool) :
    (formAt startsWord char).length = 1 := by
  cases startsWord <;> simp [formAt, upper, lower, mapCase, ascii]

/-- Names of ASCII characters have single forms. -/
theorem singleForms_of_ascii
    {chars : List Char}
    (ascii : ∀ char ∈ chars, char.toNat < 128)
    (startsWord : Bool) :
    SingleForms startsWord chars := by
  induction chars generalizing startsWord with
  | nil =>
      trivial
  | cons char rest inductionHypothesis =>
      have restAscii : ∀ later ∈ rest, later.toNat < 128 :=
        fun later member => ascii later (List.mem_cons_of_mem char member)
      unfold SingleForms
      split
      · exact ⟨length_formAt_of_ascii (ascii char List.mem_cons_self) startsWord,
          inductionHypothesis restAscii false⟩
      · exact inductionHypothesis restAscii true

/-- The canonical form of an ASCII name is canonical. -/
theorem canonicalHeaderName_idempotent
    {name : String}
    (ascii : IsAscii name) :
    canonicalHeaderName (canonicalHeaderName name) = canonicalHeaderName name :=
  canonicalHeaderName_of_hasSingleForms (singleForms_of_ascii ascii true)

/-- Two texts differ at most in the case of ASCII letters. -/
def EqualIgnoringAsciiCase (first second : String) : Prop :=
  first.toList.map Char.toLower = second.toList.map Char.toLower

instance : DecidableRel EqualIgnoringAsciiCase :=
  fun first second =>
    inferInstanceAs
      (Decidable (first.toList.map Char.toLower = second.toList.map Char.toLower))

/-- The ASCII case of a character makes no difference to its forms. -/
theorem forms_toLower (char : Char) :
    isAlphanumeric char.toLower = isAlphanumeric char ∧
      (∀ startsWord, formAt startsWord char.toLower = formAt startsWord char) ∧
      (¬ isAlphanumeric char = true → char.toLower = char) := by
  by_cases ascii : char.toNat < 128
  · have everyAscii : ∀ char : Char, char.toNat < 128 →
        char.toLower.toNat < 128 ∧
          char.toLower.isAlphanum = char.isAlphanum ∧
          char.toLower.toUpper = char.toUpper ∧
          char.toLower.toLower = char.toLower ∧
          (¬ char.isAlphanum = true → char.toLower = char) :=
      forall_ascii (by decide +kernel)
    obtain ⟨lowerAscii, sameAlphanum, sameUpper, sameLower, stays⟩ := everyAscii char ascii
    simpa only [isAlphanumeric, formAt, upper, lower, mapCase, if_pos ascii, if_pos lowerAscii,
      sameAlphanum, sameUpper, sameLower, implies_true, true_and] using stays
  · have stays : char.toLower = char := by
      have notUpper : ¬ (char.val ≥ 'A'.val ∧ char.val ≤ 'Z'.val) := by
        rintro ⟨_, small⟩
        have smallNat : char.toNat ≤ 90 := UInt32.le_iff_toNat_le.mp small
        omega
      exact dif_neg notUpper
    rw [stays]
    exact ⟨rfl, fun _ => rfl, fun _ => rfl⟩

theorem canonicalFrom_map_toLower
    (startsWord : Bool)
    (chars : List Char) :
    canonicalFrom startsWord (chars.map Char.toLower) =
      canonicalFrom startsWord chars := by
  induction chars generalizing startsWord with
  | nil =>
      rfl
  | cons char rest inductionHypothesis =>
      obtain ⟨sameClass, sameForms, stays⟩ := forms_toLower char
      rw [List.map_cons]
      by_cases alphanumeric : isAlphanumeric char = true
      · rw [canonicalFrom_cons_of_alphanumeric alphanumeric,
          canonicalFrom_cons_of_alphanumeric (sameClass.trans alphanumeric),
          sameForms, inductionHypothesis]
      · rw [stays alphanumeric, canonicalFrom_cons_of_not_alphanumeric alphanumeric,
          canonicalFrom_cons_of_not_alphanumeric alphanumeric, inductionHypothesis]

/-- Names that differ in the case of ASCII letters have one canonical form. -/
theorem canonicalHeaderName_congr
    {first second : String}
    (same : EqualIgnoringAsciiCase first second) :
    canonicalHeaderName first = canonicalHeaderName second := by
  rw [canonicalHeaderName, ← canonicalFrom_map_toLower true first.toList, same,
    canonicalFrom_map_toLower, canonicalHeaderName]

end AlertReceivers.Text
