import AlertReceivers.Proofs.Span.Composed

namespace AlertReceivers.Span

/-!
# Reading the texts of spans

The text of a span is composed of whole numbers of units whose lengths add up to the
span.  So it is read back as the span, unless the span is the one that has no opposite.
-/

/-- What whole numbers of units leave over of a length. -/
def leftOver : List (String × Nat) → Nat → Nat
  | [], nanos =>
      nanos
  | (_, size) :: units, nanos =>
      leftOver units (nanos % size)

/-- The spellings of a table stand for units of the lengths in the table. -/
def SpellsUnits (units : List (String × Nat)) : Prop :=
  ∀ row ∈ units, ∃ unit,
    TimeUnit.ofSpelling? row.1 = some unit ∧ unit.scale.size = row.2

/-- The units of a span's text can be read. -/
theorem spellsUnits_textUnits : SpellsUnits textUnits := by
  have hour : ∃ unit, TimeUnit.ofSpelling? "h" = some unit ∧
      unit.scale.size = 3600000000000 :=
    ⟨.hour, rfl, rfl⟩
  have minute : ∃ unit, TimeUnit.ofSpelling? "m" = some unit ∧
      unit.scale.size = 60000000000 :=
    ⟨.minute, rfl, rfl⟩
  have second : ∃ unit, TimeUnit.ofSpelling? "s" = some unit ∧
      unit.scale.size = 1000000000 :=
    ⟨.second, rfl, rfl⟩
  have millisecond : ∃ unit, TimeUnit.ofSpelling? "ms" = some unit ∧
      unit.scale.size = 1000000 :=
    ⟨.millisecond, rfl, rfl⟩
  have microsecond : ∃ unit, TimeUnit.ofSpelling? "us" = some unit ∧
      unit.scale.size = 1000 :=
    ⟨.microsecond, rfl, rfl⟩
  have nanosecond : ∃ unit, TimeUnit.ofSpelling? "ns" = some unit ∧
      unit.scale.size = 1 :=
    ⟨.nanosecond, rfl, rfl⟩
  simp only [SpellsUnits, textUnits, List.forall_mem_cons]
  exact ⟨hour, minute, second, millisecond, microsecond, nanosecond, by simp⟩

theorem componentsText_zero
    {units : List (String × Nat)}
    (areUnits : SpellsUnits units) :
    componentsText units 0 = [] := by
  induction units with
  | nil =>
      rfl
  | cons row rest inductionHypothesis =>
      obtain ⟨⟨unit, _, isSize⟩, restAreUnits⟩ := List.forall_mem_cons.mp areUnits
      have positive := unit.size_pos
      rw [componentsText, if_neg (by omega), inductionHypothesis restAreUnits]

/-- A number with a spelling of a unit is a component of its length. -/
theorem exists_wholeComponent
    {spelling : String}
    {unit : TimeUnit}
    (spells : TimeUnit.ofSpelling? spelling = some unit)
    (amount : Nat) :
    ∃ component : WholeComponent,
      component.chars = Decimal.digits amount ++ spelling.toList ∧
        component.nanos = amount * unit.scale.size := by
  have areDigits : ∀ digit ∈ Decimal.digits amount, digit.isDigit = true :=
    fun digit member => Nat.isDigit_of_mem_toDigits (by omega) (by omega) member
  have value : Nat.ofDigitChars 10 (Decimal.digits amount) 0 = amount :=
    Nat.ofDigitChars_ten_toDigits
  have someDigits : Decimal.digits amount ≠ [] := Nat.toDigits_ne_nil
  obtain ⟨digit, others, isCons⟩ := List.exists_cons_of_ne_nil someDigits
  rw [isCons] at areDigits value
  obtain ⟨isDigit, areOthers⟩ := List.forall_mem_cons.mp areDigits
  refine ⟨.spell ⟨[], by simp [AreBlank]⟩ isDigit areOthers spells, ?_, ?_⟩
  · rw [WholeComponent.chars_spell, isCons, List.append_nil]
  · rw [WholeComponent.nanos_spell, value]

/--
The text of a length is composed of components with this sum.

The induction is on the units.  What is left over after a unit is zero, and then there are
no more components, or it is composed of the units that follow.
-/
theorem exists_composedChars
    {units : List (String × Nat)}
    {nanos : Nat}
    (areUnits : SpellsUnits units)
    (nothingLeft : leftOver units nanos = 0)
    (nonzero : nanos ≠ 0) :
    ∃ first rest,
      componentsText units nanos = composedChars first rest ∧
        composedNanos first rest = nanos := by
  induction units generalizing nanos with
  | nil =>
      exact (nonzero nothingLeft).elim
  | cons row rest inductionHypothesis =>
      obtain ⟨spelling, size⟩ := row
      obtain ⟨⟨unit, spells, isSize⟩, restAreUnits⟩ := List.forall_mem_cons.mp areUnits
      simp only at spells isSize
      rw [leftOver] at nothingLeft
      rw [componentsText]
      by_cases isLong : size ≤ nanos
      · obtain ⟨component, isChars, isLength⟩ := exists_wholeComponent spells (nanos / size)
        have division := Nat.div_add_mod' nanos size
        rw [isSize] at isLength
        rw [if_pos isLong, ← isChars]
        by_cases isWhole : nanos % size = 0
        · refine ⟨component, [], ?_, ?_⟩
          · rw [isWhole, componentsText_zero restAreUnits, List.append_nil, composedChars]
          · rw [composedNanos_nil]
            omega
        · obtain ⟨next, later, isNext, isSum⟩ :=
            inductionHypothesis restAreUnits nothingLeft isWhole
          refine ⟨component, (⟨[], by simp [AreBlank]⟩, next) :: later, ?_, ?_⟩
          · rw [isNext, composedChars, List.nil_append]
          · rw [composedNanos_cons]
            omega
      · rw [if_neg isLong]
        rw [Nat.mod_eq_of_lt (by omega)] at nothingLeft
        exact inductionHypothesis restAreUnits nothingLeft nonzero

theorem isNegative_eq_true_iff
    {span : Span} :
    span.isNegative = true ↔ span.nanos < 0 := by
  simp [isNegative]

/-- The text of a span other than zero is composed of components whose sum is the span. -/
theorem exists_composedText
    {span : Span}
    (nonzero : span.nanos ≠ 0) :
    ∃ sign first rest,
      span.text = composedText sign first rest ∧
        composedNanos first rest = span.nanos.natAbs ∧
        span.nanos = sign.apply (composedNanos first rest) := by
  have nothingLeft : leftOver textUnits span.nanos.natAbs = 0 := by
    simp [leftOver, textUnits, Nat.mod_one]
  obtain ⟨first, rest, isComposed, isSum⟩ :=
    exists_composedChars spellsUnits_textUnits nothingLeft (Int.natAbs_ne_zero.mpr nonzero)
  by_cases negative : span.nanos < 0
  · refine ⟨.minus, first, rest, ?_, isSum, ?_⟩
    · rw [text, if_neg nonzero, if_pos (isNegative_eq_true_iff.mpr negative), isComposed]
      rfl
    · rw [isSum, Sign.apply_minus]
      omega
  · refine ⟨.none, first, rest, ?_, isSum, ?_⟩
    · rw [text, if_neg nonzero, if_neg (mt isNegative_eq_true_iff.mp negative), isComposed]
      rfl
    · rw [isSum, Sign.apply_none]
      omega

/-- The text of a span is read back as the span, unless the span is the one whose
opposite is none. -/
theorem read_text
    {span : Span}
    (small : span.nanos.natAbs < 9223372036854775808) :
    read span.text = .ok span := by
  by_cases isZero : span.nanos = 0
  · obtain ⟨nanos, inRange⟩ := span
    subst isZero
    have isRead : (read "0s").value? = some zero := by
      decide
    exact Outcome.value?_eq_some_iff.mp isRead
  · obtain ⟨sign, first, rest, isText, isLength, isSum⟩ := exists_composedText isZero
    rw [isText]
    exact read_composed_eq_ok_iff.mpr ⟨by omega, isSum⟩

/-- The span of a time has the length of the time. -/
theorem natAbs_of_ofElapsed
    {negative : Bool}
    {elapsed : Elapsed}
    {span : Span}
    (isSpan : ofElapsed negative elapsed = .ok span) :
    span.nanos.natAbs < 9223372036854775808 := by
  unfold ofElapsed at isSpan
  split at isSpan
  · rename_i small
    cases isSpan
    cases negative with
    | false =>
        simpa using small
    | true =>
        simpa using small
  · cases isSpan

/-- A span that is read has an opposite. -/
theorem natAbs_of_read
    {input : String}
    {span : Span}
    (reads : read input = .ok span) :
    span.nanos.natAbs < 9223372036854775808 := by
  have readsChars := Outcome.mapRefusal_eq_ok_iff.mp reads
  unfold readChars at readsChars
  dsimp only at readsChars
  split at readsChars
  · cases readsChars
    decide
  · obtain ⟨elapsed, _, isSpan⟩ := Outcome.bind_eq_ok_iff.mp readsChars
    exact natAbs_of_ofElapsed isSpan

/-- The span that goes back the furthest.  It has no opposite. -/
def least : Span where
  nanos :=
    -9223372036854775808
  inRange := by
    decide

/-- Without its sign, the text of the least span is out of range. -/
theorem readChars_text_least :
    readChars least.text.toList = .refuse .outOfRange :=
  Outcome.refusal?_eq_some_iff.mp (by decide)

/-- The text of every span is read back as exactly this span, except for the least one,
whose text is refused. -/
theorem read_text_unless_least (span : Span) :
    read span.text =
      if span = least then .refuse ⟨span.text, .outOfRange⟩ else .ok span := by
  split
  · rename_i isLeast
    rw [isLeast, read, readChars_text_least]
    rfl
  · rename_i notLeast
    have hasOpposite : span.nanos ≠ -9223372036854775808 := by
      obtain ⟨nanos, inRange⟩ := span
      rintro rfl
      exact notLeast rfl
    have inRange := span.inRange
    exact read_text (by omega)

/-- There is a span whose text is no span. -/
theorem text_least_not_read :
    least.text = "-2562047h47m16s854ms775us808ns" ∧ ∀ span, read least.text ≠ .ok span := by
  refine ⟨by decide, fun span => ?_⟩
  rw [read, readChars_text_least]
  simp [Outcome.refuse, Outcome.mapRefusal]

end AlertReceivers.Span
