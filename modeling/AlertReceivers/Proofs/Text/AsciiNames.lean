import AlertReceivers.Proofs.Text.HeaderName

namespace AlertReceivers.Text

/-!
# Header names of ASCII characters

The canonical form of an ASCII name differs from the name in the case of its letters
only.  So two ASCII names have one canonical form exactly if they differ in nothing
else.
-/

variable {name first second : String}

/-- A form of an ASCII letter is this letter but for its case. -/
theorem toLower_of_formAt
    {startsWord : Bool}
    {char form : Char}
    (ascii : char.toNat < 128)
    (isForm : formAt startsWord char = [form]) :
    form.toLower = char.toLower := by
  have everyAscii : ∀ char : Char, char.toNat < 128 →
      char.toUpper.toLower = char.toLower ∧ char.toLower.toLower = char.toLower :=
    forall_ascii (by decide +kernel)
  obtain ⟨ofUpper, ofLower⟩ := everyAscii char ascii
  unfold formAt upper lower mapCase at isForm
  rw [if_pos ascii, if_pos ascii] at isForm
  cases startsWord with
  | true =>
      cases isForm
      exact ofUpper
  | false =>
      cases isForm
      exact ofLower

/-- Inside a word and before one, only the case of letters changes. -/
theorem map_toLower_canonicalFrom
    {startsWord : Bool}
    {chars : List Char}
    (ascii : ∀ char ∈ chars, char.toNat < 128) :
    (canonicalFrom startsWord chars).map Char.toLower = chars.map Char.toLower := by
  induction chars generalizing startsWord with
  | nil =>
      rfl
  | cons char rest inductionHypothesis =>
      obtain ⟨headAscii, restAscii⟩ := List.forall_mem_cons.mp ascii
      by_cases alphanumeric : isAlphanumeric char = true
      · obtain ⟨form, isForm⟩ :=
          List.length_eq_one_iff.mp (length_formAt_of_ascii headAscii startsWord)
        rw [canonicalFrom_cons_of_alphanumeric alphanumeric, isForm,
          List.singleton_append, List.map_cons, List.map_cons,
          toLower_of_formAt headAscii isForm, inductionHypothesis restAscii]
      · rw [canonicalFrom_cons_of_not_alphanumeric alphanumeric, List.map_cons,
          List.map_cons, inductionHypothesis restAscii]

/-- The canonical form of an ASCII name differs from it in case only. -/
theorem equalIgnoringAsciiCase_canonicalHeaderName
    (ascii : IsAscii name) :
    EqualIgnoringAsciiCase (canonicalHeaderName name) name := by
  rw [EqualIgnoringAsciiCase, canonicalHeaderName, String.toList_ofList,
    map_toLower_canonicalFrom ascii]

/-- ASCII names with one canonical form differ in the case of their letters only. -/
theorem equalIgnoringAsciiCase_of_canonicalHeaderName_eq
    (firstAscii : IsAscii first)
    (secondAscii : IsAscii second)
    (same : canonicalHeaderName first = canonicalHeaderName second) :
    EqualIgnoringAsciiCase first second := by
  calc
    first.toList.map Char.toLower
      = (canonicalHeaderName first).toList.map Char.toLower :=
        (equalIgnoringAsciiCase_canonicalHeaderName firstAscii).symm
    _ = (canonicalHeaderName second).toList.map Char.toLower := by rw [same]
    _ = second.toList.map Char.toLower :=
        equalIgnoringAsciiCase_canonicalHeaderName secondAscii

/-- What separates words is the same character in either case. -/
theorem eq_of_toLower_eq
    {separator other : Char}
    (separates : ¬ isAlphanumeric separator = true)
    (same : separator.toLower = other.toLower) :
    separator = other := by
  obtain ⟨sameClass, _, stays⟩ := forms_toLower separator
  obtain ⟨sameOtherClass, _, otherStays⟩ := forms_toLower other
  have otherSeparates : ¬ isAlphanumeric other = true := by
    rwa [← sameOtherClass, ← same, sameClass]
  rw [← stays separates, same, otherStays otherSeparates]

namespace EqualIgnoringAsciiCase

variable (same : EqualIgnoringAsciiCase first second)
include same

theorem length_eq : first.length = second.length := by
  have sameLength := congrArg List.length same
  rwa [List.length_map, List.length_map, String.length_toList, String.length_toList]
    at sameLength

/-- The same characters separate words, at the same places. -/
theorem separator_of_separator
    {place : Nat}
    {char : Char}
    (separates : ¬ isAlphanumeric char = true)
    (found : first.toList[place]? = some char) :
    second.toList[place]? = some char := by
  have lowered : (second.toList.map Char.toLower)[place]? = some char.toLower := by
    rw [← same, List.getElem?_map, found, Option.map_some]
  rw [List.getElem?_map, Option.map_eq_some_iff] at lowered
  obtain ⟨other, isOther, sameLower⟩ := lowered
  rw [isOther, eq_of_toLower_eq separates sameLower.symm]

end EqualIgnoringAsciiCase

/--
Two ASCII names have the same canonical form exactly if they are equal but for the case
of their letters.  The canonical form of an ASCII name is such a name itself: it is as
long, its words are separated by the same characters at the same places, and it is its
own canonical form.
-/
theorem canonicalHeaderName_eq_iff_of_isAscii
    (firstAscii : IsAscii first)
    (secondAscii : IsAscii second) :
    (canonicalHeaderName first = canonicalHeaderName second ↔
        EqualIgnoringAsciiCase first second) ∧
      EqualIgnoringAsciiCase (canonicalHeaderName first) first ∧
      (canonicalHeaderName first).length = first.length ∧
      (∀ (place : Nat) char, ¬ isAlphanumeric char = true →
        ((canonicalHeaderName first).toList[place]? = some char ↔
          first.toList[place]? = some char)) ∧
      canonicalHeaderName (canonicalHeaderName first) = canonicalHeaderName first := by
  have onlyCase := equalIgnoringAsciiCase_canonicalHeaderName firstAscii
  refine ⟨⟨?_, canonicalHeaderName_congr⟩, onlyCase, onlyCase.length_eq,
    fun place char separates => ⟨?_, ?_⟩, canonicalHeaderName_idempotent firstAscii⟩
  · exact equalIgnoringAsciiCase_of_canonicalHeaderName_eq firstAscii secondAscii
  · exact onlyCase.separator_of_separator separates
  · exact EqualIgnoringAsciiCase.separator_of_separator onlyCase.symm separates

/-- Two spellings of a name with a digit and an underscore have one canonical form. -/
theorem canonicalHeaderName_eq_iff_of_isAscii_traceHeaders :
    IsAscii "x-B3_traceID" ∧
      IsAscii "X-b3_TRACEid" ∧
      EqualIgnoringAsciiCase "x-B3_traceID" "X-b3_TRACEid" ∧
      canonicalHeaderName "x-B3_traceID" = canonicalHeaderName "X-b3_TRACEid" ∧
      EqualIgnoringAsciiCase "X-B3_Traceid" "x-B3_traceID" := by
  have firstAscii : IsAscii "x-B3_traceID" := by decide
  have secondAscii : IsAscii "X-b3_TRACEid" := by decide
  have same : EqualIgnoringAsciiCase "x-B3_traceID" "X-b3_TRACEid" := by decide
  have canonical : canonicalHeaderName "x-B3_traceID" = "X-B3_Traceid" := by decide
  obtain ⟨sameForm, onlyCase, _⟩ :=
    canonicalHeaderName_eq_iff_of_isAscii firstAscii secondAscii
  rw [canonical] at onlyCase
  exact ⟨firstAscii, secondAscii, same, sameForm.mpr same, onlyCase⟩

end AlertReceivers.Text
