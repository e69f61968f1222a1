import AlertReceivers.Proofs.Span.Written

namespace AlertReceivers.Span

/-!
# Composed texts

Whole numbers of units are written one after another, with any white space between them
and perhaps a sign in front.  Such a text is read to the exact sum of the lengths,
whatever their order and however they are spread over the units, unless the sum is no
span.
-/

open Decimal (splitSign)

/-- A component that is a whole number of a unit. -/
structure WholeComponent extends Component where
  unit : TimeUnit
  isWhole : fraction? = none
  spells : TimeUnit.ofSpelling? (String.ofList letters) = some unit

/-- White space, of which there may be none. -/
abbrev Gap :=
  { chars : List Char // AreBlank chars }

/-- What stands in front of the components. -/
inductive Sign where
  | none
  | plus
  | minus
  deriving Repr, DecidableEq

namespace Sign

/-- The character of a sign. -/
def chars : Sign → List Char
  | .none =>
      []
  | .plus =>
      ['+']
  | .minus =>
      ['-']

/-- A length in the direction of a sign. -/
def apply (sign : Sign) (nanos : Nat) : Int :=
  match sign with
  | .minus =>
      -nanos
  | _ =>
      nanos

@[simp] theorem apply_none (nanos : Nat) : apply .none nanos = nanos :=
  rfl

@[simp] theorem apply_plus (nanos : Nat) : apply .plus nanos = nanos :=
  rfl

@[simp] theorem apply_minus (nanos : Nat) : apply .minus nanos = -nanos :=
  rfl

end Sign

/-- The length of a whole number of a unit in nanoseconds. -/
def WholeComponent.nanos (component : WholeComponent) : Nat :=
  component.amount * component.unit.scale.size

/-- The characters of components with white space between them. -/
def composedChars (first : WholeComponent) : List (Gap × WholeComponent) → List Char
  | [] =>
      first.chars
  | (gap, next) :: rest =>
      first.chars ++ (gap.val ++ composedChars next rest)

/-- The sum of the lengths of components in nanoseconds. -/
def composedNanos (first : WholeComponent) : List (Gap × WholeComponent) → Nat
  | [] =>
      first.nanos
  | (_, next) :: rest =>
      first.nanos + composedNanos next rest

/-- The text of components with white space between them, after a sign. -/
def composedText
    (sign : Sign)
    (first : WholeComponent)
    (rest : List (Gap × WholeComponent)) :
    String :=
  String.ofList (sign.chars ++ composedChars first rest)

section Spellings

/-- A unit is spelled with one or more letters. -/
theorem areLetters_of_ofSpelling?
    {spelling : String}
    {unit : TimeUnit}
    (spells : TimeUnit.ofSpelling? spelling = some unit) :
    spelling.toList ≠ [] ∧ ∀ letter ∈ spelling.toList, isUnitLetter letter = true := by
  have spellings :
      ∀ row ∈ TimeUnit.spellings, ∀ spelling ∈ row.2,
        spelling.toList ≠ [] ∧ spelling.toList.all isUnitLetter = true := by
    decide
  obtain ⟨row, found, _⟩ := Option.map_eq_some_iff.mp spells
  have isSpelling : row.2.contains spelling = true := by
    simpa using List.find?_some found
  exact (spellings row (List.mem_of_find?_eq_some found) spelling
    (List.contains_iff_mem.mp isSpelling)).imp_right List.all_eq_true.mp

variable {digit : Char}
variable {digits : List Char}
variable {spelling : String}
variable {unit : TimeUnit}

/-- Digits and a spelling of a unit, with white space between them. -/
def WholeComponent.spell
    (gap : Gap)
    (isDigit : digit.isDigit = true)
    (areDigits : ∀ other ∈ digits, other.isDigit = true)
    (spells : TimeUnit.ofSpelling? spelling = some unit) :
    WholeComponent where
  digit :=
    digit
  digits :=
    digits ++ gap.val
  fraction? :=
    none
  letters :=
    spelling.toList
  isDigit :=
    isDigit
  areDigits := by
    intro char member
    exact (List.mem_append.mp member).imp (areDigits char) (gap.property char)
  areFractionDigits := by
    simp
  someFractionDigit := by
    simp
  someLetter :=
    (areLetters_of_ofSpelling? spells).1
  areLetters :=
    (areLetters_of_ofSpelling? spells).2
  unit :=
    unit
  isWhole :=
    rfl
  spells := by
    rwa [String.ofList_toList]

variable (gap : Gap)
variable (isDigit : digit.isDigit = true)
variable (areDigits : ∀ other ∈ digits, other.isDigit = true)
variable (spells : TimeUnit.ofSpelling? spelling = some unit)

/-- A component is written as its digits, a gap and its unit. -/
theorem WholeComponent.chars_spell :
    (spell gap isDigit areDigits spells).chars =
      digit :: digits ++ gap.val ++ spelling.toList := by
  simp [spell, Component.chars, Component.fractionChars]

/-- White space does not change the number that digits give. -/
theorem WholeComponent.nanos_spell :
    (spell gap isDigit areDigits spells).nanos =
      Nat.ofDigitChars 10 (digit :: digits) 0 * unit.scale.size := by
  have noDigits : gap.val.filter Char.isDigit = [] :=
    List.filter_eq_nil_iff.mpr fun char member => by
      simp [not_digit_of_isBlank (gap.property char member)]
  have allDigits : digits.filter Char.isDigit = digits := List.filter_eq_self.mpr areDigits
  rw [Nat.ofDigitChars_cons, Nat.mul_zero, Nat.zero_add, nanos, Component.amount, spell]
  simp only [appendDigits, List.filter_append, allDigits, noDigits, List.append_nil]
  rfl

end Spellings

/-- A single component gives the whole length. -/
theorem composedNanos_nil (first : WholeComponent) :
    composedNanos first [] = first.nanos :=
  rfl

/-- The first component adds to the length of the others. -/
theorem composedNanos_cons
    (first next : WholeComponent)
    (gap : Gap)
    (rest : List (Gap × WholeComponent)) :
    composedNanos first ((gap, next) :: rest) = first.nanos + composedNanos next rest :=
  rfl

theorem WholeComponent.amount_le_nanos (component : WholeComponent) :
    component.amount ≤ component.nanos :=
  Nat.le_mul_of_pos_right _ component.unit.size_pos

theorem startsNumber_composedChars
    (first : WholeComponent)
    (rest : List (Gap × WholeComponent)) :
    StartsNumber (composedChars first rest) := by
  cases rest with
  | nil =>
      rw [composedChars, ← List.append_nil first.chars]
      exact first.startsNumber []
  | cons next later =>
      exact first.startsNumber _

/-- Components end with a letter. -/
theorem composedChars_eq_concat
    (first : WholeComponent)
    (rest : List (Gap × WholeComponent)) :
    ∃ others letter,
      composedChars first rest = others ++ [letter] ∧ isUnitLetter letter = true := by
  induction rest generalizing first with
  | nil =>
      refine ⟨first.digit :: (first.digits ++
          (Component.fractionChars first.fraction? ++ first.letters.dropLast)),
        first.letters.getLast first.someLetter, ?_,
        first.areLetters _ (List.getLast_mem first.someLetter)⟩
      simp [composedChars, Component.chars, List.dropLast_concat_getLast first.someLetter]
  | cons gapNext later inductionHypothesis =>
      obtain ⟨gap, next⟩ := gapNext
      obtain ⟨others, letter, isConcat, isLetter⟩ := inductionHypothesis next
      refine ⟨first.chars ++ (gap.val ++ others), letter, ?_, isLetter⟩
      simp [composedChars, isConcat]

/--
Reading components totals their lengths with those before them.

The induction is on the components that follow.  Each of them is added when the digit of
the next one is read, or at the end of the text.
-/
theorem totals_readFrom_composedChars
    (first : WholeComponent)
    (rest : List (Gap × WholeComponent))
    (total : Elapsed)
    (isFirst : Bool)
    (mark offset : Nat) :
    Totals (total.toNanos + composedNanos first rest)
      (Progress.readFrom ⟨total, .beforeNumber isFirst mark⟩ offset
        (composedChars first rest)) := by
  induction rest generalizing first total isFirst mark offset with
  | nil =>
      have amountFits := first.amount_le_nanos
      obtain ⟨later, reads⟩ :=
        Component.readFrom_whole first.isWhole total isFirst mark offset []
      rw [List.append_nil] at reads
      rw [composedChars, composedNanos_nil, reads]
      refine .counted (by omega) ?_
      rw [readFrom_end, List.reverse_reverse]
      exact totals_addComponent first.spells total first.amount
  | cons gapNext later inductionHypothesis =>
      obtain ⟨gap, next⟩ := gapNext
      have amountFits := first.amount_le_nanos
      obtain ⟨start, reads⟩ :=
        Component.readFrom_whole first.isWhole total isFirst mark offset
          (gap.val ++ composedChars next later)
      rw [composedChars, composedNanos_cons, reads]
      refine .counted (by omega) ?_
      obtain ⟨nextMark, readsNext⟩ :=
        readFrom_next total gap.property (startsNumber_composedChars next later) start
      rw [readsNext, List.reverse_reverse]
      refine (totals_addComponent first.spells total first.amount).bind ?_
        fun sum isSum => ?_
      · rw [WholeComponent.nanos]
        omega
      · rw [← Nat.add_assoc, WholeComponent.nanos, ← isSum]
        exact inductionHypothesis next sum false nextMark _

/-- Components are read to the sum of their lengths. -/
theorem totals_readElapsed
    (first : WholeComponent)
    (rest : List (Gap × WholeComponent)) :
    Totals (composedNanos first rest) (readElapsed (composedChars first rest)) := by
  have totals := totals_readFrom_composedChars first rest .zero true 0 0
  have nothing : Elapsed.zero.toNanos = 0 := rfl
  rwa [nothing, Nat.zero_add] at totals

/-- A text that starts with a number has no sign to take off. -/
theorem splitSign_of_startsNumber
    {chars : List Char}
    (starts : StartsNumber chars) :
    splitSign chars = (false, chars) := by
  obtain ⟨digit, others, rfl, isDigit⟩ := starts
  refine Decimal.splitSign_of_noSign fun char isFirst => ?_
  cases isFirst
  exact Decimal.not_sign_of_isDigit isDigit

/-- The sign of a composed text is split off its components. -/
theorem splitSign_composedChars
    (sign : Sign)
    (first : WholeComponent)
    (rest : List (Gap × WholeComponent)) :
    splitSign (sign.chars ++ composedChars first rest) =
      (decide (sign = .minus), composedChars first rest) := by
  cases sign with
  | plus | minus =>
      rfl
  | none =>
      exact splitSign_of_startsNumber (startsNumber_composedChars first rest)

/-- Characters without white space at either end are not trimmed. -/
theorem trim_eq_self
    {chars : List Char}
    {first last : Char}
    {others butLast : List Char}
    (starts : chars = first :: others)
    (ends : chars = butLast ++ [last])
    (firstNotBlank : Text.isBlank first = false)
    (lastNotBlank : Text.isBlank last = false) :
    Text.trim chars = chars := by
  have staysReversed : chars.reverse.dropWhile Text.isBlank = chars.reverse := by
    rw [ends, List.reverse_append]
    exact List.dropWhile_cons_of_neg (by simp [lastNotBlank])
  have stays : chars.dropWhile Text.isBlank = chars := by
    rw [starts]
    exact List.dropWhile_cons_of_neg (by simp [firstNotBlank])
  rw [Text.trim, stays, staysReversed, List.reverse_reverse]

/-- A composed text begins and ends without white space. -/
theorem trim_composedChars
    (sign : Sign)
    (first : WholeComponent)
    (rest : List (Gap × WholeComponent)) :
    Text.trim (sign.chars ++ composedChars first rest) =
      sign.chars ++ composedChars first rest := by
  obtain ⟨digit, others, isCons, isDigit⟩ := startsNumber_composedChars first rest
  obtain ⟨butLast, letter, isConcat, isLetter⟩ := composedChars_eq_concat first rest
  have ends :
      sign.chars ++ composedChars first rest = (sign.chars ++ butLast) ++ [letter] := by
    rw [isConcat, List.append_assoc]
  have letterNotBlank := (not_digit_of_isUnitLetter isLetter).2
  cases sign with
  | none =>
      exact trim_eq_self isCons ends (isBlank_of_isDigit isDigit) letterNotBlank
  | plus | minus =>
      exact trim_eq_self rfl ends (by decide) letterNotBlank

/-- A text of components is read to their sum in the direction of the sign. -/
theorem readChars_composed
    (sign : Sign)
    (first : WholeComponent)
    (rest : List (Gap × WholeComponent)) :
    readChars (sign.chars ++ composedChars first rest) =
      readElapsed (composedChars first rest) >>= ofElapsed (decide (sign = .minus)) := by
  have notZero : composedChars first rest ≠ ['0'] := by
    obtain ⟨butLast, letter, isConcat, isLetter⟩ := composedChars_eq_concat first rest
    rw [isConcat]
    intro isZero
    have isZeroLetter : letter = '0' := by
      have lasts := congrArg List.getLast? isZero
      simpa using lasts
    subst isZeroLetter
    cases isLetter
  rw [readChars, trim_composedChars, splitSign_composedChars]
  dsimp only
  rw [if_neg notZero]

/-- A time is a span in either direction if it is short enough. -/
theorem ofElapsed_eq_ok_iff
    {sign : Sign}
    {elapsed : Elapsed}
    {span : Span} :
    ofElapsed (decide (sign = .minus)) elapsed = .ok span ↔
      elapsed.toNanos ≤ 9223372036854775807 ∧ span.nanos = sign.apply elapsed.toNanos := by
  obtain ⟨nanos, inRange⟩ := span
  unfold ofElapsed
  split
  · rename_i small
    have fits : elapsed.toNanos ≤ 9223372036854775807 := by omega
    cases sign <;> simp [fits, eq_comm]
  · simp only [Outcome.refuse, reduceCtorEq, false_iff]
    omega

/-- A text of components is read to a span exactly if the sum of their lengths, in the
direction of the sign, is this span. -/
theorem read_composed_eq_ok_iff
    {sign : Sign}
    {first : WholeComponent}
    {rest : List (Gap × WholeComponent)}
    {span : Span} :
    read (composedText sign first rest) = .ok span ↔
      composedNanos first rest ≤ 9223372036854775807 ∧
        span.nanos = sign.apply (composedNanos first rest) := by
  have totals := totals_readElapsed first rest
  rw [read, composedText, String.toList_ofList, Outcome.mapRefusal_eq_ok_iff,
    readChars_composed, Outcome.bind_eq_ok_iff]
  constructor
  · rintro ⟨elapsed, isTime, isSpan⟩
    rw [← totals.toNanos_eq isTime]
    exact ofElapsed_eq_ok_iff.mp isSpan
  · rintro ⟨small, isSum⟩
    obtain ⟨elapsed, isTime, isLength⟩ := totals.exists_eq_ok (by unfold counterMax; omega)
    rw [← isLength] at small isSum
    exact ⟨elapsed, isTime, ofElapsed_eq_ok_iff.mpr ⟨small, isSum⟩⟩

/--
Components with white space between them are read to a span, whatever sign is in front,
exactly if the sum of their lengths is no longer than the longest span.  The span is then
the exact sum in the direction of the sign.  So components with the same sum are read
alike, in whatever order they stand and over whatever units they are spread.
-/
theorem sum_of_composedText
    (sign : Sign)
    (first : WholeComponent)
    (rest : List (Gap × WholeComponent)) :
    ((∃ span, read (composedText sign first rest) = .ok span) ↔
      composedNanos first rest ≤ 9223372036854775807) ∧
      (∀ span, read (composedText sign first rest) = .ok span →
        span.nanos = sign.apply (composedNanos first rest)) ∧
      ∀ otherFirst otherRest,
        composedNanos otherFirst otherRest = composedNanos first rest →
          (read (composedText sign otherFirst otherRest)).value? =
            (read (composedText sign first rest)).value? := by
  refine ⟨⟨?_, ?_⟩, ?_, ?_⟩
  · rintro ⟨span, reads⟩
    exact (read_composed_eq_ok_iff.mp reads).1
  · intro small
    have inRange :
        -9223372036854775808 ≤ sign.apply (composedNanos first rest) ∧
          sign.apply (composedNanos first rest) < 9223372036854775808 := by
      cases sign <;> simp only [Sign.apply_none, Sign.apply_plus, Sign.apply_minus] <;> omega
    exact ⟨⟨_, inRange⟩, read_composed_eq_ok_iff.mpr ⟨small, rfl⟩⟩
  · intro span reads
    exact (read_composed_eq_ok_iff.mp reads).2
  · intro otherFirst otherRest sameSum
    refine Option.ext fun span => ?_
    rw [Outcome.value?_eq_some_iff, Outcome.value?_eq_some_iff, read_composed_eq_ok_iff,
      read_composed_eq_ok_iff, sameSum]

/-- An hour. -/
def hourComponent : WholeComponent :=
  have isDigit : '1'.isDigit = true := by
    decide
  have noDigits : ∀ other ∈ ([] : List Char), other.isDigit = true := by
    simp
  have spells : TimeUnit.ofSpelling? "hr" = some .hour := by
    decide
  .spell ⟨[' '], by decide⟩ isDigit noDigits spells

/-- Half an hour, with a zero in front. -/
def halfHourComponent : WholeComponent :=
  have isDigit : '0'.isDigit = true := by
    decide
  have areDigits : ∀ other ∈ ['3', '0'], other.isDigit = true :=
    List.all_eq_true.mp (by decide)
  have spells : TimeUnit.ofSpelling? "m" = some .minute := by
    decide
  .spell ⟨[], by decide⟩ isDigit areDigits spells

/-- An hour and half an hour are added up, and the sign is that of the sum. -/
theorem sum_of_composedText_halfHours :
    composedText .minus hourComponent [(⟨['\t', ' '], by decide⟩, halfHourComponent)] =
        "-1 hr\t 030m" ∧
      ∃ span, read "-1 hr\t 030m" = .ok span ∧ span.nanos = -5400000000000 := by
  have isText :
      composedText .minus hourComponent [(⟨['\t', ' '], by decide⟩, halfHourComponent)] =
        "-1 hr\t 030m" := by
    decide
  obtain ⟨isSpan, each, _⟩ :=
    sum_of_composedText .minus hourComponent
      [(⟨['\t', ' '], by decide⟩, halfHourComponent)]
  obtain ⟨span, reads⟩ := isSpan.mpr (by decide)
  have isSum := each span reads
  rw [isText] at reads
  exact ⟨isText, span, reads, isSum⟩

end AlertReceivers.Span
