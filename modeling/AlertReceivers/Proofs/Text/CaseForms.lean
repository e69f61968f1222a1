import AlertReceivers.Text.Alphanumeric
import AlertReceivers.Text.CaseMap

namespace AlertReceivers.Text

/-!
# Case forms of single characters

A letter or digit whose form of one case is a single character has a letter or digit
as that form, and the form stays as it is when it is mapped again.  The runs of the
case tables are compared with one another and with the ranges of letters and digits,
so that the tables are never gone through code point by code point.
-/

/-- A character that stands for itself wherever its form of one case is wanted. -/
def KeepsCase
    (convert : Char → List Char)
    (char : Char) :
    Prop :=
  isAlphanumeric char = true ∧ convert char = [char]

namespace CaseRun

/-- The code point that a run maps another one to. -/
def image
    (run : CaseRun)
    (code : Nat) :
    Nat :=
  Int.toNat (code + run.offset)

/-- Check that a run maps only to code points of a range. -/
def landsIn
    (run : CaseRun)
    (range : Nat × Nat) :
    Bool :=
  Nat.ble range.1 (run.image run.first) && Nat.ble (run.image run.last) range.2

/-- Check that a run maps only to code points before or after those of a range. -/
def landsBeside
    (run : CaseRun)
    (range : Nat × Nat) :
    Bool :=
  Nat.blt (run.image run.last) range.1 || Nat.blt range.2 (run.image run.first)

/-- Check that a run maps only to code points of some ranges.  A run that skips code
points may do so across several ranges. -/
def landsAmong
    (run : CaseRun)
    (ranges : List (Nat × Nat)) :
    Bool :=
  ranges.any run.landsIn ||
    (List.range' run.first (run.last + 1 - run.first)).all fun code =>
      !run.covers code || inRanges ranges (run.image code)

/-- Check that a run maps only to code points that another run does not map: they lie
beside it, or between the code points of a run that skips every other one. -/
def avoids (run other : CaseRun) : Bool :=
  run.landsBeside (other.first, other.last) ||
    (run.step == 2 || run.first == run.last) &&
      (other.step == 2 &&
        (run.image run.first != 0 && (run.image run.first + other.first) % 2 == 1))

theorem covers_iff
    {run : CaseRun}
    {code : Nat} :
    run.covers code = true ↔
      run.first ≤ code ∧ code ≤ run.last ∧ (code - run.first) % run.step = 0 := by
  simp [covers, and_assoc]

/-- A run that lands among ranges maps each of its code points into one. -/
theorem inRanges_of_landsAmong
    {run : CaseRun}
    {ranges : List (Nat × Nat)}
    {code : Nat}
    (lands : run.landsAmong ranges = true)
    (covered : run.covers code = true) :
    inRanges ranges (run.image code) = true := by
  obtain ⟨fromFirst, toLast, _⟩ := covers_iff.mp covered
  rcases Bool.or_eq_true_iff.mp lands with inOne | eachCode
  · obtain ⟨range, member, inRange⟩ := List.any_eq_true.mp inOne
    have bounds :
        range.1 ≤ run.image run.first ∧ run.image run.last ≤ range.2 := by
      simpa [landsIn] using inRange
    unfold image at bounds ⊢
    have inside :
        range.1 ≤ Int.toNat (code + run.offset) ∧
          Int.toNat (code + run.offset) ≤ range.2 := by
      omega
    exact List.any_eq_true.mpr ⟨range, member, by simpa using inside⟩
  · have inRun : code ∈ List.range' run.first (run.last + 1 - run.first) :=
      List.mem_range'_1.mpr (by omega)
    simpa [covered] using List.all_eq_true.mp eachCode code inRun

/-- A run that lands beside a range maps none of its code points into it. -/
theorem not_mem_of_landsBeside
    {run : CaseRun}
    {range : Nat × Nat}
    {code : Nat}
    (beside : run.landsBeside range = true)
    (covered : run.covers code = true) :
    ¬ (range.1 ≤ run.image code ∧ run.image code ≤ range.2) := by
  obtain ⟨fromFirst, toLast, _⟩ := covers_iff.mp covered
  have bounds :
      run.image run.last < range.1 ∨ range.2 < run.image run.first := by
    simpa [landsBeside] using beside
  unfold image at bounds ⊢
  omega

/-- A run that avoids another one maps to no code point that this one maps. -/
theorem not_covers_of_avoids
    {run other : CaseRun}
    {code : Nat}
    (avoids : run.avoids other = true)
    (covered : run.covers code = true) :
    ¬ other.covers (run.image code) = true := by
  intro coveredAgain
  obtain ⟨fromFirst, toLast, inStep⟩ := covers_iff.mp covered
  obtain ⟨fromOther, toOther, inOtherStep⟩ := covers_iff.mp coveredAgain
  rcases Bool.or_eq_true_iff.mp avoids with beside | between
  · exact not_mem_of_landsBeside beside covered ⟨fromOther, toOther⟩
  · obtain ⟨skipsOrSingle, otherSkips, positive, odd⟩ :
        (run.step = 2 ∨ run.first = run.last) ∧ other.step = 2 ∧
          run.image run.first ≠ 0 ∧
          (run.image run.first + other.first) % 2 = 1 := by
      simpa using between
    unfold image at fromOther positive odd inOtherStep
    rw [otherSkips] at inOtherStep
    rcases skipsOrSingle with skips | isSingle
    · rw [skips] at inStep
      omega
    · omega

end CaseRun

/-- A case map of which no mapped character is mapped on.  The ASCII characters that it
maps characters beyond ASCII to are among given letters. -/
structure IsFinal
    (mapAscii : Char → Char)
    (expansions : List (Nat × List Nat))
    (runs : List CaseRun)
    (letters : Nat × Nat) :
    Prop where
  asciiForms :
    ∀ code < 128, (Char.ofNat code).isAlphanum = true →
      (mapAscii (Char.ofNat code)).toNat < 128 ∧
        (mapAscii (Char.ofNat code)).isAlphanum = true ∧
        mapAscii (mapAscii (Char.ofNat code)) = mapAscii (Char.ofNat code)
  areAscii :
    letters.2 < 128
  lettersStay :
    ∀ code < 128, letters.1 ≤ code → code ≤ letters.2 →
      (Char.ofNat code).isAlphanum = true ∧
        mapAscii (Char.ofNat code) = Char.ofNat code
  /-- No expansion is a single character. -/
  several :
    ∀ expansion ∈ expansions, expansion.2.length ≠ 1
  alphanumeric :
    (runs.all fun run => run.landsAmong (letters :: alphanumericRanges)) = true
  unexpanded :
    (runs.all fun run => expansions.all fun expansion =>
      run.landsBeside (expansion.1, expansion.1)) = true
  unmapped :
    (runs.all fun run => runs.all fun other => run.avoids other) = true

/-- The upper-case map does not map its own results on. -/
theorem upper_isFinal : IsFinal Char.toUpper upperExpansions upperRuns (0x41, 0x5A) where
  asciiForms := by decide +kernel
  areAscii := by decide
  lettersStay := by decide +kernel
  several := by decide +kernel
  alphanumeric := by decide +kernel
  unexpanded := by decide +kernel
  unmapped := by decide +kernel

/-- The lower-case map does not map its own results on. -/
theorem lower_isFinal : IsFinal Char.toLower lowerExpansions lowerRuns (0x61, 0x7A) where
  asciiForms := by decide +kernel
  areAscii := by decide
  lettersStay := by decide +kernel
  several := by decide +kernel
  alphanumeric := by decide +kernel
  unexpanded := by decide +kernel
  unmapped := by decide +kernel

/-- The ranges of letters and digits lie beyond ASCII and hold characters only. -/
theorem isChar_of_alphanumericRanges :
    ∀ range ∈ alphanumericRanges,
      128 ≤ range.1 ∧
        (range.2 < 0xD800 ∨ 0xDFFF < range.1 ∧ range.2 < 0x110000) := by
  decide +kernel

namespace IsFinal

variable {mapAscii : Char → Char}
variable {expansions : List (Nat × List Nat)}
variable {runs : List CaseRun}
variable {letters : Nat × Nat}

/-- A mapped code point is one of the ASCII letters or a letter or digit beyond
ASCII, and always a character. -/
theorem image_isChar
    (final : IsFinal mapAscii expansions runs letters)
    {run : CaseRun}
    {code : Nat}
    (member : run ∈ runs)
    (covered : run.covers code = true) :
    (run.image code).isValidChar ∧
      (letters.1 ≤ run.image code ∧ run.image code ≤ letters.2 ∨
        128 ≤ run.image code ∧
          inRanges alphanumericRanges (run.image code) = true) := by
  have lands := List.all_eq_true.mp final.alphanumeric run member
  have inRange := CaseRun.inRanges_of_landsAmong lands covered
  generalize run.image code = mapped at inRange ⊢
  rw [inRanges, List.any_cons, Bool.or_eq_true] at inRange
  rcases inRange with isLetter | beyond
  · have bounds : letters.1 ≤ mapped ∧ mapped ≤ letters.2 := by
      simpa using isLetter
    have isAscii := final.areAscii
    exact ⟨.inl (by omega), .inl bounds⟩
  · obtain ⟨range, isRange, inside⟩ := List.any_eq_true.mp beyond
    have bounds : range.1 ≤ mapped ∧ mapped ≤ range.2 := by
      simpa using inside
    obtain ⟨afterAscii, areChars⟩ := isChar_of_alphanumericRanges range isRange
    refine ⟨?_, .inr ⟨by omega, beyond⟩⟩
    unfold Nat.isValidChar
    omega

/-- A single character that a table maps to is an ASCII letter, or a letter or digit
that the table maps to itself. -/
theorem form
    (final : IsFinal mapAscii expansions runs letters)
    {char form : Char}
    (beyondAscii : ¬ char.toNat < 128)
    (alphanumeric : inRanges alphanumericRanges char.toNat = true)
    (single : mapBeyondAscii expansions runs char = [form]) :
    letters.1 ≤ form.toNat ∧ form.toNat ≤ letters.2 ∨
      128 ≤ form.toNat ∧
        inRanges alphanumericRanges form.toNat = true ∧
        mapBeyondAscii expansions runs form = [form] := by
  unfold mapBeyondAscii at single
  split at single
  · rename_i codes isExpansion
    obtain ⟨earlier, later, shape, _⟩ := List.lookup_eq_some_iff.mp isExpansion
    have severalCodes := final.several (char.toNat, codes) (by simp [shape])
    have oneCode := congrArg List.length single
    rw [List.length_map, List.length_singleton] at oneCode
    exact (severalCodes oneCode).elim
  · rename_i notExpanded
    rw [CaseRun.apply] at single
    split at single
    · rename_i run isRun
      have member := List.mem_of_find?_eq_some isRun
      have covered := List.find?_some isRun
      obtain ⟨valid, isLetter⟩ := final.image_isChar member covered
      have isForm : Char.ofNat (run.image char.toNat) = form :=
        List.singleton_inj.mp single
      have isImage : form.toNat = run.image char.toNat := by
        rw [← isForm, Char.ofNat, dif_pos valid]
        rfl
      rw [isImage]
      refine isLetter.imp_right fun ⟨afterAscii, inRange⟩ => ⟨afterAscii, inRange, ?_⟩
      have notExpandedAgain : expansions.lookup form.toNat = none := by
        refine List.lookup_eq_none_iff.mpr fun expansion isExpansion => ?_
        have beside := List.all_eq_true.mp
          (List.all_eq_true.mp final.unexpanded run member) expansion isExpansion
        rw [bne_iff_ne, isImage]
        intro same
        exact CaseRun.not_mem_of_landsBeside beside covered
          ⟨Nat.le_of_eq same.symm, Nat.le_of_eq same⟩
      have notMapped : runs.find? (fun run => run.covers form.toNat) = none := by
        refine List.find?_eq_none.mpr fun other isOther => ?_
        have avoids := List.all_eq_true.mp
          (List.all_eq_true.mp final.unmapped run member) other isOther
        rw [isImage]
        exact CaseRun.not_covers_of_avoids avoids covered
      simp only [mapBeyondAscii, notExpandedAgain, CaseRun.apply, notMapped]
    · rename_i notMapped
      have isForm : char = form := by simpa using single
      subst form
      refine .inr ⟨by omega, alphanumeric, ?_⟩
      simp only [mapBeyondAscii, notExpanded, CaseRun.apply, notMapped]

/-- A single form of a letter or digit in one case is its own form in this case. -/
theorem keepsCase
    (final : IsFinal mapAscii expansions runs letters)
    {char form : Char}
    (alphanumeric : isAlphanumeric char = true)
    (single : mapCase mapAscii expansions runs char = [form]) :
    KeepsCase (mapCase mapAscii expansions runs) form := by
  unfold isAlphanumeric at alphanumeric
  unfold mapCase at single
  unfold KeepsCase isAlphanumeric mapCase
  split at single
  · rename_i ascii
    rw [if_pos ascii] at alphanumeric
    have asciiForms := final.asciiForms char.toNat ascii
    rw [Char.ofNat_toNat] at asciiForms
    obtain ⟨staysAscii, staysAlphanumeric, stays⟩ := asciiForms alphanumeric
    cases single
    simp only [if_pos staysAscii, staysAlphanumeric, stays, and_self]
  · rename_i beyondAscii
    rw [if_neg beyondAscii] at alphanumeric
    rcases final.form beyondAscii alphanumeric single with
      ⟨low, high⟩ | ⟨afterAscii, inRange, stays⟩
    · have ascii : form.toNat < 128 := Nat.lt_of_le_of_lt high final.areAscii
      have letterStays := final.lettersStay form.toNat ascii low high
      rw [Char.ofNat_toNat] at letterStays
      simp only [if_pos ascii, letterStays, and_self]
    · have notAscii : ¬ form.toNat < 128 := by omega
      simp only [if_neg notAscii, inRange, stays, and_self]

end IsFinal

/-- What holds of the character of every ASCII code holds of every ASCII character. -/
theorem forall_ascii
    {holds : Char → Prop}
    (everyCode : ∀ code < 128, holds (Char.ofNat code))
    (char : Char)
    (ascii : char.toNat < 128) :
    holds char :=
  Char.ofNat_toNat char ▸ everyCode char.toNat ascii

end AlertReceivers.Text
