import AlertReceivers.Proofs.Decimal.Wholes
import AlertReceivers.Proofs.ListFacts
import AlertReceivers.Span.Basic
import Mathlib.Data.List.Nodup
import Mathlib.Tactic.Ring

namespace AlertReceivers.Span

/-!
# Texts of spans as mixed-radix numbers

The text of a span gives its length in units of which each is a whole number of the next
one.  Every length has exactly one such form, and the characters of a form tell where each
number and each unit ends.  So spans have the same text only if they are equal.
-/

open ListFacts (append_inj_of_class)

/-- A unit of canonical texts, with its length in nanoseconds.  As many of it as the radix
says make a longer unit; any number of hours stays a number of hours. -/
structure Place where
  name : String
  size : Nat
  radix? : Option Nat
  deriving DecidableEq

/-- The longest unit. -/
def hour : Place :=
  ⟨"h", 3600000000000, none⟩

/-- The units of canonical texts, the longest first. -/
def places : List Place :=
  [hour, ⟨"m", 60000000000, some 60⟩, ⟨"s", 1000000000, some 60⟩,
   ⟨"ms", 1000000, some 1000⟩, ⟨"us", 1000, some 1000⟩, ⟨"ns", 1, some 1000⟩]

/-- A number of a unit, as it is written. -/
structure Amount where
  digits : List Char
  place : Place

namespace Amount

/-- The number that the digits write. -/
def count (amount : Amount) : Nat :=
  Decimal.wholeValue amount.digits

/-- The length of an amount. -/
def nanos (amount : Amount) : Nat :=
  amount.count * amount.place.size

/-- The digits with the name of the unit behind them. -/
def chars (amount : Amount) : List Char :=
  amount.digits ++ amount.place.name.toList

/-- The number is written without idle zeros, is not zero, and makes no longer unit. -/
structure IsCanonical (amount : Amount) : Prop where
  isNumeral :
    Decimal.IsNumeral amount.digits
  positive :
    1 ≤ amount.count
  belowRadix :
    ∀ radix ∈ amount.place.radix?, amount.count < radix

end Amount

/-- A mixed-radix form: canonical amounts of some of the units, in their order. -/
structure IsForm
    (units : List Place)
    (amounts : List Amount) :
    Prop where
  descends :
    (amounts.map Amount.place).Sublist units
  areCanonical :
    ∀ amount ∈ amounts, amount.IsCanonical

/-- The sum of amounts. -/
def amountsNanos (amounts : List Amount) : Nat :=
  (amounts.map Amount.nanos).sum

/-- The characters of amounts. -/
def amountsChars (amounts : List Amount) : List Char :=
  amounts.flatMap Amount.chars

/-- The sign in front of the amounts of a span. -/
def signChars (span : Span) : List Char :=
  if span.nanos < 0 then ['-'] else []

/-- A text gives the length of a span in mixed-radix form. -/
inductive IsWrittenAs (span : Span) (text : String) : Prop where
  | zero :
      span.nanos = 0 →
      text = "0s" →
      IsWrittenAs span text
  | amounts {amounts : List Amount} :
      span.nanos ≠ 0 →
      IsForm places amounts →
      amountsNanos amounts = span.nanos.natAbs →
      text = String.ofList (span.signChars ++ amountsChars amounts) →
      IsWrittenAs span text

/-- A length is divided into units of which each is divided into the next, down to the
nanosecond. -/
inductive Divides : Nat → List Place → Prop where
  | nanosecond :
      Divides 1 []
  | into {size radix : Nat} {unit : Place} {units : List Place} :
      unit.radix? = some radix →
      0 < radix →
      size = radix * unit.size →
      Divides unit.size units →
      Divides size (unit :: units)

/-- The units below the hour divide it one after the other. -/
theorem divides_hour : Divides hour.size places.tail :=
  .into rfl (by decide) rfl <| .into rfl (by decide) rfl <| .into rfl (by decide) rfl <|
    .into rfl (by decide) rfl <| .into rfl (by decide) rfl .nanosecond

/-- A number of a unit in front of other amounts, left out if it is zero. -/
def lead
    (count : Nat)
    (unit : Place)
    (others : List Amount) :
    List Amount :=
  if count = 0 then others else ⟨Decimal.digits count, unit⟩ :: others

section Forms

variable {unit : Place}
variable {units : List Place}
variable {amounts others : List Amount}

theorem amountsNanos_cons
    (amount : Amount)
    (others : List Amount) :
    amountsNanos (amount :: others) = amount.nanos + amountsNanos others :=
  List.sum_cons

theorem amountsChars_cons
    (amount : Amount)
    (others : List Amount) :
    amountsChars (amount :: others) = amount.chars ++ amountsChars others :=
  List.flatMap_cons

theorem amountsNanos_lead (count : Nat) :
    amountsNanos (lead count unit others) = count * unit.size + amountsNanos others := by
  unfold lead
  split
  · rename_i isZero
    rw [isZero, Nat.zero_mul, Nat.zero_add]
  · rw [amountsNanos_cons, Amount.nanos, Amount.count, Decimal.wholeValue_digits]

theorem IsForm.nil (units : List Place) : IsForm units [] :=
  ⟨List.nil_sublist _, fun _ member => nomatch member⟩

/-- Without units, there is nothing to write. -/
theorem isForm_nil_iff : IsForm [] amounts ↔ amounts = [] := by
  constructor
  · intro isForm
    exact List.map_eq_nil_iff.mp (List.sublist_nil.mp isForm.descends)
  · rintro rfl
    exact .nil []

/-- A form has a number of the first unit, which may be zero, in front of a form in the
other units. -/
theorem isForm_cons_iff :
    IsForm (unit :: units) amounts ↔
      ∃ count others,
        amounts = lead count unit others ∧
          (count ≠ 0 → ∀ radix ∈ unit.radix?, count < radix) ∧
          IsForm units others := by
  constructor
  · rintro ⟨descends, areCanonical⟩
    rcases List.sublist_cons_iff.mp descends with isLater | ⟨later, isCons, isLater⟩
    · exact ⟨0, amounts, rfl, fun nonzero => absurd rfl nonzero, isLater, areCanonical⟩
    · obtain ⟨amount, others, rfl, rfl, rfl⟩ := List.map_eq_cons_iff.mp isCons
      obtain ⟨isCanonical, othersCanonical⟩ := List.forall_mem_cons.mp areCanonical
      refine ⟨amount.count, others, ?_, fun _ => isCanonical.belowRadix, isLater,
        othersCanonical⟩
      rw [lead, if_neg (Nat.one_le_iff_ne_zero.mp isCanonical.positive), Amount.count,
        isCanonical.isNumeral.digits_eq]
  · rintro ⟨count, others, rfl, belowRadix, descends, areCanonical⟩
    unfold lead
    split
    · exact ⟨descends.cons unit, areCanonical⟩
    · rename_i nonzero
      have isCount : Amount.count ⟨Decimal.digits count, unit⟩ = count :=
        Decimal.wholeValue_digits count
      refine ⟨descends.cons_cons unit, List.forall_mem_cons.mpr ⟨?_, areCanonical⟩⟩
      refine ⟨Decimal.isNumeral_digits count, ?_, ?_⟩
      · rw [isCount]
        exact Nat.one_le_iff_ne_zero.mpr nonzero
      · rw [isCount]
        exact belowRadix nonzero

/-- Units that divide another are not empty. -/
theorem Divides.size_pos
    {size : Nat}
    (divides : Divides size units) :
    0 < size := by
  induction divides with
  | nanosecond =>
      exact Nat.one_pos
  | into _ positive isSize _ inductionHypothesis =>
      rw [isSize]
      exact Nat.mul_pos positive inductionHypothesis

/-- The units that a length is divided into do not make up this length. -/
theorem IsForm.amountsNanos_lt
    {size : Nat}
    (divides : Divides size units)
    (isForm : IsForm units amounts) :
    amountsNanos amounts < size := by
  induction divides generalizing amounts with
  | nanosecond =>
      rw [isForm_nil_iff.mp isForm]
      exact Nat.one_pos
  | @into size radix unit units isRadix positive isSize _ inductionHypothesis =>
      obtain ⟨count, others, rfl, belowRadix, isRest⟩ := isForm_cons_iff.mp isForm
      have countBelow : count < radix := by
        by_cases isZero : count = 0
        · exact isZero ▸ positive
        · exact belowRadix isZero radix isRadix
      calc
        amountsNanos (lead count unit others)
          = count * unit.size + amountsNanos others := amountsNanos_lead count
        _ < count * unit.size + unit.size :=
            Nat.add_lt_add_left (inductionHypothesis isRest) _
        _ = (count + 1) * unit.size := by ring
        _ ≤ radix * unit.size := Nat.mul_le_mul_right _ countBelow
        _ = size := isSize.symm

/-- Forms in these units are told apart by their lengths. -/
def Determined (units : List Place) : Prop :=
  ∀ first second,
    IsForm units first →
      IsForm units second →
        amountsNanos first = amountsNanos second →
          first = second

/-- Division by the first unit gives its number, and leaves over the length of the form
in the other units. -/
theorem IsForm.div_mod_lead
    (isForm : IsForm units others)
    (divides : Divides unit.size units)
    (count : Nat) :
    amountsNanos (lead count unit others) / unit.size = count ∧
      amountsNanos (lead count unit others) % unit.size = amountsNanos others := by
  refine (Nat.div_mod_unique divides.size_pos).mpr ⟨?_, isForm.amountsNanos_lt divides⟩
  rw [amountsNanos_lead, Nat.add_comm, Nat.mul_comm]

/-- With one more unit in front, amounts are determined if they were before. -/
theorem Determined.cons
    (determined : Determined units)
    (divides : Divides unit.size units) :
    Determined (unit :: units) := by
  intro first second isFirst isSecond sameLength
  obtain ⟨count, others, rfl, _, isRest⟩ := isForm_cons_iff.mp isFirst
  obtain ⟨otherCount, otherRest, rfl, _, isOtherRest⟩ := isForm_cons_iff.mp isSecond
  obtain ⟨isQuotient, isRemainder⟩ := isRest.div_mod_lead divides count
  obtain ⟨isOtherQuotient, isOtherRemainder⟩ := isOtherRest.div_mod_lead divides otherCount
  have sameCount : count = otherCount := by
    rw [← isQuotient, sameLength, isOtherQuotient]
  have sameRest : others = otherRest := by
    apply determined others otherRest isRest isOtherRest
    rw [← isRemainder, sameLength, isOtherRemainder]
  rw [sameCount, sameRest]

/-- Units that divide one after the other determine their amounts. -/
theorem Divides.determined
    {size : Nat}
    (divides : Divides size units) :
    Determined units := by
  induction divides with
  | nanosecond =>
      intro first second isFirst isSecond _
      rw [isForm_nil_iff.mp isFirst, isForm_nil_iff.mp isSecond]
  | into _ _ _ divides inductionHypothesis =>
      exact inductionHypothesis.cons divides

/-- The names and sizes of units. -/
def rows (units : List Place) : List (String × Nat) :=
  units.map fun unit => (unit.name, unit.size)

/-- A form gives a length with the characters that spans write it with. -/
structure Writes
    (units : List Place)
    (nanos : Nat)
    (amounts : List Amount) :
    Prop where
  isForm :
    IsForm units amounts
  isLength :
    amountsNanos amounts = nanos
  isChars :
    componentsText (rows units) nanos = amountsChars amounts

/--
A form of what division by a unit leaves over becomes one of the whole length with the
quotient in front of it.
-/
theorem Writes.lead
    {nanos : Nat}
    (writes : Writes units (nanos % unit.size) others)
    (positive : 0 < unit.size)
    (belowRadix : ∀ radix ∈ unit.radix?, nanos < unit.size * radix) :
    Writes (unit :: units) nanos (lead (nanos / unit.size) unit others) where
  isForm :=
    isForm_cons_iff.mpr
      ⟨nanos / unit.size, others, rfl,
        fun _ radix isRadix => Nat.div_lt_of_lt_mul (belowRadix radix isRadix), writes.isForm⟩
  isLength := by
    rw [amountsNanos_lead, writes.isLength, Nat.div_add_mod']
  isChars := by
    have isRest := writes.isChars
    rw [rows, List.map_cons, ← rows, componentsText, Span.lead]
    by_cases isLong : unit.size ≤ nanos
    · have nonzero : nanos / unit.size ≠ 0 := Nat.ne_of_gt (Nat.div_pos isLong positive)
      rw [if_pos isLong, if_neg nonzero, amountsChars_cons, isRest]
      rfl
    · have isShort := Nat.lt_of_not_le isLong
      rw [Nat.mod_eq_of_lt isShort] at isRest
      rw [if_neg isLong, if_pos (Nat.div_eq_of_lt isShort), isRest]

/--
Every length shorter than the one that is divided has a form.

The induction is on the division, for every shorter length: what a unit leaves over is
shorter than the unit.
-/
theorem Divides.exists_writes
    {size nanos : Nat}
    (divides : Divides size units)
    (isShort : nanos < size) :
    ∃ amounts, Writes units nanos amounts := by
  induction divides generalizing nanos with
  | nanosecond =>
      have isZero : nanos = 0 := Nat.lt_one_iff.mp isShort
      subst isZero
      exact ⟨[], .nil [], rfl, rfl⟩
  | @into size radix unit units isRadix _ isSize divides inductionHypothesis =>
      obtain ⟨others, writes⟩ := inductionHypothesis (Nat.mod_lt nanos divides.size_pos)
      refine ⟨_, writes.lead divides.size_pos fun other isOther => ?_⟩
      rw [← Option.some.inj (isRadix.symm.trans isOther), Nat.mul_comm, ← isSize]
      exact isShort

end Forms

/-- Every length has a form, which is the one that spans are written with. -/
theorem exists_writes (nanos : Nat) : ∃ amounts, Writes places nanos amounts := by
  obtain ⟨others, writes⟩ :=
    divides_hour.exists_writes (Nat.mod_lt nanos divides_hour.size_pos)
  exact ⟨_, writes.lead divides_hour.size_pos fun _ isRadix => nomatch isRadix⟩

/-- The units of spans determine their amounts. -/
theorem determined_places : Determined places :=
  divides_hour.determined.cons divides_hour

/-- The digits of an amount are a number, and its unit is one of those of texts. -/
structure Amount.IsReadable (amount : Amount) : Prop where
  isNumeral :
    Decimal.IsNumeral amount.digits
  isPlace :
    amount.place ∈ places

/-- Forms are read off their characters. -/
theorem IsForm.areReadable
    {amounts : List Amount}
    (isForm : IsForm places amounts) :
    ∀ amount ∈ amounts, amount.IsReadable :=
  fun amount member =>
    ⟨(isForm.areCanonical amount member).isNumeral,
      isForm.descends.subset (List.mem_map_of_mem member)⟩

/-- The names of units have no digits. -/
theorem name_of_mem_places
    {place : Place}
    (isPlace : place ∈ places) :
    place.name.toList ≠ [] ∧ ∀ char ∈ place.name.toList, char.isDigit = false := by
  have areLetters :
      places.all fun place =>
        !place.name.toList.isEmpty && place.name.toList.all fun char => !char.isDigit := by
    decide
  simpa using List.all_eq_true.mp areLetters place isPlace

/-- Units are told apart by their names. -/
theorem eq_of_name_eq
    {place other : Place}
    (isPlace : place ∈ places)
    (isOther : other ∈ places)
    (sameName : place.name.toList = other.name.toList) :
    place = other := by
  have distinct : (places.map Place.name).Nodup := by
    decide
  exact List.inj_on_of_nodup_map distinct isPlace isOther (String.toList_inj.mp sameName)

theorem not_isDigit_of_head_name
    {place : Place}
    (isPlace : place ∈ places)
    (back : List Char) :
    ∀ char ∈ (place.name.toList ++ back).head?, char.isDigit = false := by
  intro char member
  obtain ⟨nonempty, noDigits⟩ := name_of_mem_places isPlace
  rw [List.head?_append, List.head?_eq_some_head nonempty, Option.some_or] at member
  cases member
  exact noDigits _ (List.head_mem _)

/-- The digits of an amount end with the name of its unit, and the name ends where another
digit follows. -/
theorem eq_of_chars_append_eq
    {amount other : Amount}
    {back otherBack : List Char}
    (isReadable : amount.IsReadable)
    (otherReadable : other.IsReadable)
    (isBack : ∀ char ∈ back.head?, char.isDigit = true)
    (isOtherBack : ∀ char ∈ otherBack.head?, char.isDigit = true)
    (same : amount.chars ++ back = other.chars ++ otherBack) :
    amount = other ∧ back = otherBack := by
  obtain ⟨digits, place⟩ := amount
  obtain ⟨otherDigits, otherPlace⟩ := other
  simp only [Amount.chars, List.append_assoc] at same
  obtain ⟨sameDigits, sameNames⟩ :=
    append_inj_of_class Char.isDigit isReadable.isNumeral.areDigits
      (not_isDigit_of_head_name isReadable.isPlace back)
      otherReadable.isNumeral.areDigits
      (not_isDigit_of_head_name otherReadable.isPlace otherBack) same
  obtain ⟨sameName, sameBack⟩ :=
    append_inj_of_class (fun char => !char.isDigit)
      (fun char member => by simp [(name_of_mem_places isReadable.isPlace).2 char member])
      (fun char member => by simp [isBack char member])
      (fun char member => by simp [(name_of_mem_places otherReadable.isPlace).2 char member])
      (fun char member => by simp [isOtherBack char member]) sameNames
  have samePlace := eq_of_name_eq isReadable.isPlace otherReadable.isPlace sameName
  exact ⟨congrArg₂ Amount.mk sameDigits samePlace, sameBack⟩

/-- Amounts begin with a digit. -/
theorem isDigit_of_head_amountsChars
    {amounts : List Amount}
    (areReadable : ∀ amount ∈ amounts, amount.IsReadable) :
    ∀ char ∈ (amountsChars amounts).head?, char.isDigit = true := by
  cases amounts with
  | nil =>
      exact fun _ member => nomatch member
  | cons amount others =>
      intro char member
      have isNumeral := (areReadable amount List.mem_cons_self).isNumeral
      rw [amountsChars_cons, Amount.chars, List.append_assoc, List.head?_append,
        List.head?_eq_some_head isNumeral.nonempty, Option.some_or] at member
      cases member
      exact isNumeral.areDigits _ (List.head_mem _)

theorem amountsChars_eq_nil_iff
    {amounts : List Amount}
    (areReadable : ∀ amount ∈ amounts, amount.IsReadable) :
    amountsChars amounts = [] ↔ amounts = [] := by
  constructor
  · intro isNil
    cases amounts with
    | nil =>
        rfl
    | cons amount others =>
        rw [amountsChars_cons, Amount.chars, List.append_assoc] at isNil
        exact absurd (List.append_eq_nil_iff.mp isNil).1
          (areReadable amount List.mem_cons_self).isNumeral.nonempty
  · rintro rfl
    rfl

/-- Amounts are told apart by their characters. -/
theorem eq_of_amountsChars_eq
    {amounts others : List Amount}
    (areReadable : ∀ amount ∈ amounts, amount.IsReadable)
    (othersReadable : ∀ amount ∈ others, amount.IsReadable)
    (same : amountsChars amounts = amountsChars others) :
    amounts = others := by
  induction amounts generalizing others with
  | nil =>
      exact ((amountsChars_eq_nil_iff othersReadable).mp same.symm).symm
  | cons amount rest inductionHypothesis =>
      cases others with
      | nil =>
          exact (amountsChars_eq_nil_iff areReadable).mp same
      | cons other later =>
          obtain ⟨isReadable, restReadable⟩ := List.forall_mem_cons.mp areReadable
          obtain ⟨otherReadable, laterReadable⟩ := List.forall_mem_cons.mp othersReadable
          rw [amountsChars_cons, amountsChars_cons] at same
          obtain ⟨sameAmount, sameRest⟩ :=
            eq_of_chars_append_eq isReadable otherReadable
              (isDigit_of_head_amountsChars restReadable)
              (isDigit_of_head_amountsChars laterReadable) same
          rw [sameAmount, inductionHypothesis restReadable laterReadable sameRest]

/-- Spans have the same sign if both are negative or none is. -/
theorem signChars_eq_iff
    {first second : Span} :
    first.signChars = second.signChars ↔ (first.nanos < 0 ↔ second.nanos < 0) := by
  by_cases isFirst : first.nanos < 0 <;> by_cases isSecond : second.nanos < 0 <;>
    simp [signChars, isFirst, isSecond]

/-- A sign in front of amounts is no part of them. -/
theorem eq_of_signed_eq
    {first second : Span}
    {amounts others : List Amount}
    (areReadable : ∀ amount ∈ amounts, amount.IsReadable)
    (othersReadable : ∀ amount ∈ others, amount.IsReadable)
    (same :
      String.ofList (first.signChars ++ amountsChars amounts) =
        String.ofList (second.signChars ++ amountsChars others)) :
    (first.nanos < 0 ↔ second.nanos < 0) ∧ amounts = others := by
  have isSign : ∀ span : Span, ∀ char ∈ span.signChars, (char == '-') = true := by
    intro span char member
    unfold signChars at member
    split at member
    · rw [List.mem_singleton.mp member]
      rfl
    · cases member
  have noSign : ∀ amounts : List Amount,
      (∀ amount ∈ amounts, amount.IsReadable) →
        ∀ char ∈ (amountsChars amounts).head?, (char == '-') = false := by
    intro amounts areReadable char member
    have isDigit := isDigit_of_head_amountsChars areReadable char member
    refine beq_eq_false_iff_ne.mpr ?_
    rintro rfl
    exact absurd isDigit (by decide)
  obtain ⟨sameSign, sameChars⟩ :=
    append_inj_of_class (· == '-') (isSign first) (noSign amounts areReadable) (isSign second)
      (noSign others othersReadable) (String.ofList_injective same)
  exact ⟨signChars_eq_iff.mp sameSign,
    eq_of_amountsChars_eq areReadable othersReadable sameChars⟩

/-- The text of the empty span is not that of a form, as its number is zero. -/
theorem IsForm.ne_zeroText
    {amounts : List Amount}
    (isForm : IsForm places amounts)
    (span : Span) :
    String.ofList (span.signChars ++ amountsChars amounts) ≠ "0s" := by
  intro isZeroText
  let zeroSeconds : Amount := ⟨['0'], ⟨"s", 1000000000, some 60⟩⟩
  have isReadable : ∀ amount ∈ [zeroSeconds], amount.IsReadable := by
    rw [List.forall_mem_singleton]
    exact ⟨by decide, by decide⟩
  have isText : "0s" = String.ofList (zero.signChars ++ amountsChars [zeroSeconds]) := by
    decide
  have isZeroSeconds :=
    (eq_of_signed_eq isForm.areReadable isReadable (isZeroText.trans isText)).2
  have positive : 1 ≤ zeroSeconds.count :=
    (isForm.areCanonical zeroSeconds (by simp [isZeroSeconds])).positive
  exact absurd positive (by decide)

/-- No text is written for two spans. -/
theorem IsWrittenAs.unique
    {first second : Span}
    {text : String}
    (isFirst : first.IsWrittenAs text)
    (isSecond : second.IsWrittenAs text) :
    first = second := by
  suffices sameNanos : first.nanos = second.nanos by
    cases first
    cases second
    cases sameNanos
    rfl
  cases isFirst with
  | zero isZero isText =>
      cases isSecond with
      | zero isOtherZero _ =>
          rw [isZero, isOtherZero]
      | amounts _ isForm _ isOtherText =>
          exact (isForm.ne_zeroText second (isOtherText.symm.trans isText)).elim
  | amounts _ isForm isLength isText =>
      cases isSecond with
      | zero _ isOtherText =>
          exact (isForm.ne_zeroText first (isText.symm.trans isOtherText)).elim
      | amounts _ isOtherForm isOtherLength isOtherText =>
          obtain ⟨sameSign, rfl⟩ :=
            eq_of_signed_eq isForm.areReadable isOtherForm.areReadable
              (isText.symm.trans isOtherText)
          omega

/-- The text of a span is written for it. -/
theorem isWrittenAs_text (span : Span) : span.IsWrittenAs span.text := by
  by_cases isZero : span.nanos = 0
  · exact .zero isZero (if_pos isZero)
  · obtain ⟨amounts, isForm, isLength, isChars⟩ := exists_writes span.nanos.natAbs
    refine .amounts isZero isForm isLength ?_
    have areRows : textUnits = rows places := rfl
    rw [text, if_neg isZero, areRows, isChars]
    simp only [isNegative, decide_eq_true_eq, signChars]

/-- Only one text is written for a span. -/
theorem IsWrittenAs.eq_text
    {span : Span}
    {text : String}
    (isWritten : span.IsWrittenAs text) :
    text = span.text := by
  cases isWritten with
  | zero isZero isText =>
      rw [isText, Span.text, if_pos isZero]
  | amounts nonzero isForm isLength isText =>
      cases span.isWrittenAs_text with
      | zero isZero _ =>
          exact (nonzero isZero).elim
      | amounts _ isOtherForm isOtherLength isOtherText =>
          rw [isText, isOtherText,
            determined_places _ _ isForm isOtherForm (isLength.trans isOtherLength.symm)]

/--
The text of a span is the only one that gives its length in mixed-radix form, with a sign
if the span is negative: in hours, minutes and seconds, milliseconds, microseconds and
nanoseconds, each at most once, in this order, with a number that has no idle zero, is not
zero and makes no longer unit.  No length has two such forms, and no two spans have the
same text.
-/
theorem text_is_only_mixedRadix_form (span : Span) :
    (∀ text, span.IsWrittenAs text ↔ text = span.text) ∧
      (∃! amounts, IsForm places amounts ∧ amountsNanos amounts = span.nanos.natAbs) ∧
      ∀ other : Span, other.text = span.text ↔ other = span := by
  refine ⟨fun text => ⟨IsWrittenAs.eq_text, ?_⟩, ?_, fun other => ⟨fun sameText => ?_, ?_⟩⟩
  · rintro rfl
    exact span.isWrittenAs_text
  · obtain ⟨amounts, isForm, isLength, _⟩ := exists_writes span.nanos.natAbs
    exact ⟨amounts, ⟨isForm, isLength⟩, fun other ⟨isOtherForm, isOtherLength⟩ =>
      determined_places _ _ isOtherForm isForm (isOtherLength.trans isLength.symm)⟩
  · exact (sameText ▸ other.isWrittenAs_text).unique span.isWrittenAs_text
  · rintro rfl
    rfl

end AlertReceivers.Span
