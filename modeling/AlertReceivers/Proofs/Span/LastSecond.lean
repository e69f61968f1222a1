import AlertReceivers.Proofs.Span.Written

namespace AlertReceivers.Span

/-!
# The last second of the counters

Reading gives no answer for exactly one kind of texts: those in which a component fills
up the last second that the counters hold.  Every other text is a span or is refused.
-/

namespace Component

/-- A component adds its whole units to the sum of those before it, and then the part of a
unit that its fraction makes to the sum with them. -/
inductive Adds (component : Component) (total : Elapsed) : Elapsed → Elapsed → Prop where
  | whole {unit : TimeUnit} {whole : Elapsed} :
      TimeUnit.ofSpelling? (String.ofList component.letters) = some unit →
      unit.scale.whole component.amount = .ok whole →
      Adds component total total whole
  | part
      {unit : TimeUnit}
      {whole sum part : Elapsed}
      {fraction : Fraction}
      {scale : Scale} :
      TimeUnit.ofSpelling? (String.ofList component.letters) = some unit →
      unit.scale.whole component.amount = .ok whole →
      total.add whole = .ok sum →
      component.fraction = some fraction →
      unit.fractionScale? = some scale →
      scale.part fraction = .ok part →
      Adds component total sum part

/-- Added to a sum, a component fills up the last second that the counters hold. -/
def FillsUp (component : Component) (total : Elapsed) : Prop :=
  ∃ sum amount, component.Adds total sum amount ∧ sum.FillsUp amount

/-- Add a component to a sum. -/
def addTo (component : Component) (total : Elapsed) : Outcome Reason Elapsed :=
  addComponent total component.amount component.fraction component.letters

end Component

/-- The characters before a number are components with a sum, and white space. -/
inductive Sums : List Char → Elapsed → Prop where
  | nothing {gap : List Char} :
      AreBlank gap →
      Sums gap .zero
  | component
      {front gap : List Char}
      {component : Component}
      {total sum : Elapsed} :
      Sums front total →
      component.Fits →
      component.addTo total = .ok sum →
      AreBlank gap →
      Sums (front ++ (component.chars ++ gap)) sum

/-- A unit ends before the characters. -/
def EndsUnit (chars : List Char) : Prop :=
  ∀ char ∈ chars.head?, char.isDigit = true ∨ Text.isBlank char = true

/-- One of the components that characters begin with fills up the last second. -/
def FillUp (chars : List Char) : Prop :=
  ∃ front, ∃ component : Component, ∃ rest total,
    chars = front ++ (component.chars ++ rest) ∧
      Sums front total ∧
      component.Fits ∧
      EndsUnit rest ∧
      component.FillsUp total

/-- One of the components after the sign of a text fills up the last second. -/
def FillsUpLastSecond (text : String) : Prop :=
  FillUp (Decimal.splitSign (Text.trim text.toList)).2

section Adding

/-- A counter always answers. -/
theorem counted_ne_aborted (value : Nat) :
    counted value ≠ .error .aborted := by
  unfold counted
  split <;> simp [Outcome.refuse]

theorem exactly_ne_aborted (numerator denominator : Nat) :
    exactly numerator denominator ≠ .error .aborted := by
  unfold exactly
  split <;> simp [Outcome.refuse]

/-- Appending a digit always answers. -/
theorem appendDigit_ne_aborted
    (value : Nat)
    (char : Char) :
    appendDigit value char ≠ .error .aborted :=
  counted_ne_aborted _

theorem Fraction.append_ne_aborted
    (fraction : Fraction)
    (char : Char) :
    fraction.append char ≠ .error .aborted := by
  simp [append, Outcome.bind_eq_error_iff, counted_ne_aborted, appendDigit_ne_aborted]

/-- Whole units always get an answer. -/
theorem Scale.whole_ne_aborted
    (scale : Scale)
    (amount : Nat) :
    scale.whole amount ≠ .error .aborted := by
  cases scale <;> simp [whole, Outcome.bind_eq_error_iff, counted_ne_aborted]

theorem Scale.part_ne_aborted
    (scale : Scale)
    (fraction : Fraction) :
    scale.part fraction ≠ .error .aborted := by
  cases scale <;>
    simp [part, Outcome.bind_eq_error_iff, counted_ne_aborted, exactly_ne_aborted]

/-- Adding a component gives no answer exactly if it fills up the last second. -/
theorem Component.addTo_eq_aborted_iff
    {component : Component}
    {total : Elapsed} :
    component.addTo total = .error .aborted ↔ component.FillsUp total := by
  unfold addTo addComponent
  split
  · rename_i unknown
    simp only [Outcome.refuse, Except.error.injEq, reduceCtorEq, false_iff]
    rintro ⟨_, _, adds, _⟩
    cases adds with
    | whole named _ | part named _ _ _ _ _ =>
        rw [unknown] at named
        cases named
  · rename_i unit named
    constructor
    · intro aborts
      obtain isWhole | ⟨whole, isWhole, afterWhole⟩ := Outcome.bind_eq_error_iff.mp aborts
      · exact (unit.scale.whole_ne_aborted _ isWhole).elim
      obtain isSum | ⟨sum, isSum, afterSum⟩ := Outcome.bind_eq_error_iff.mp afterWhole
      · exact ⟨total, whole, .whole named isWhole, Elapsed.add_eq_aborted_iff.mp isSum⟩
      split at afterSum
      · cases afterSum
      · cases afterSum
      · rename_i fraction scale isFraction isScale
        obtain isPart | ⟨part, isPart, afterPart⟩ := Outcome.bind_eq_error_iff.mp afterSum
        · exact (scale.part_ne_aborted _ isPart).elim
        · exact ⟨sum, part, .part named isWhole isSum isFraction isScale isPart,
            Elapsed.add_eq_aborted_iff.mp afterPart⟩
    · rintro ⟨sum, amount, adds, full⟩
      have aborts := Elapsed.add_eq_aborted_iff.mpr full
      cases adds with
      | whole namedUnit isWhole =>
          obtain rfl : unit = _ := Option.some.inj (named.symm.trans namedUnit)
          simp only [isWhole, aborts, Outcome.ok_bind, Outcome.error_bind]
      | part namedUnit isWhole isSum isFraction isScale isPart =>
          obtain rfl : unit = _ := Option.some.inj (named.symm.trans namedUnit)
          simp only [isWhole, isSum, isFraction, isScale, isPart, aborts, Outcome.ok_bind]

end Adding

section Forwards

variable {chars front rest : List Char}
variable {total : Elapsed}

/-- Components with a sum are read to the sum. -/
theorem Sums.exists_readFrom
    (sums : Sums front total)
    (starts : StartsNumber rest) :
    ∃ isFirst mark offset,
      readElapsed (front ++ rest) =
        Progress.readFrom ⟨total, .beforeNumber isFirst mark⟩ offset rest := by
  induction sums generalizing rest with
  | nothing areBlank =>
      exact ⟨true, 0, _, readFrom_blanks .zero true 0 areBlank 0 rest⟩
  | @component front gap component total sum _ fits isSum areBlank inductionHypothesis =>
      obtain ⟨isFirst, mark, offset, readsFront⟩ :=
        inductionHypothesis (component.startsNumber (gap ++ rest))
      obtain ⟨later, readsComponent⟩ :=
        Component.readFrom_chars fits total isFirst mark offset (gap ++ rest)
      obtain ⟨nextMark, readsNext⟩ := readFrom_next total areBlank starts later
      refine ⟨false, nextMark, later + width gap, ?_⟩
      rw [Component.addTo] at isSum
      rw [List.append_assoc, List.append_assoc, readsFront, readsComponent, readsNext,
        List.reverse_reverse, isSum, Outcome.ok_bind]

/-- A component that fills up the last second ends reading where its unit ends. -/
theorem readFrom_eq_aborted
    {component : Component}
    (endsUnit : EndsUnit rest)
    (full : component.FillsUp total)
    (offset : Nat) :
    Progress.readFrom
        ⟨total, .inUnit component.amount component.fraction component.letters.reverse⟩ offset
        rest =
      .error .aborted := by
  have aborts : addComponent total component.amount component.fraction
      component.letters.reverse.reverse = .error .aborted := by
    rw [List.reverse_reverse]
    exact Component.addTo_eq_aborted_iff.mpr full
  cases rest with
  | nil =>
      exact aborts
  | cons char others =>
      rw [Progress.readFrom]
      cases isDigit : char.isDigit with
      | true =>
          simp only [Progress.step, isDigit, if_true, aborts, Outcome.error_bind]
      | false =>
          have isBlank : Text.isBlank char = true := by
            simpa [isDigit] using endsUnit char rfl
          simp only [Progress.step, isDigit, isBlank, if_true, Bool.false_eq_true, if_false,
            aborts, Outcome.error_bind]

/-- Where a component fills up the last second, there is no answer. -/
theorem readElapsed_eq_aborted
    (fillUp : FillUp chars) :
    readElapsed chars = .error .aborted := by
  obtain ⟨front, component, rest, total, rfl, sums, fits, endsUnit, full⟩ := fillUp
  obtain ⟨isFirst, mark, offset, readsFront⟩ :=
    sums.exists_readFrom (component.startsNumber rest)
  obtain ⟨later, readsComponent⟩ :=
    Component.readFrom_chars fits total isFirst mark offset rest
  rw [readsFront, readsComponent, readFrom_eq_aborted endsUnit full]

end Forwards

/-- What the characters are that were read so far. -/
inductive Progress.After : List Char → Progress → Prop where
  | beforeNumber
      {front : List Char}
      {total : Elapsed}
      {isFirst : Bool}
      {mark : Nat} :
      Sums front total →
      After front ⟨total, .beforeNumber isFirst mark⟩
  | inWhole
      {front digits : List Char}
      {digit : Char}
      {total : Elapsed} :
      Sums front total →
      digit.isDigit = true →
      AreDigits digits →
      appendDigits (digitOf digit) digits ≤ counterMax →
      After (front ++ digit :: digits)
        ⟨total, .inWhole (appendDigits (digitOf digit) digits)⟩
  | inFraction
      {front digits fractionDigits : List Char}
      {digit : Char}
      {total : Elapsed}
      {mark : Nat} :
      Sums front total →
      digit.isDigit = true →
      AreDigits digits →
      appendDigits (digitOf digit) digits ≤ counterMax →
      AreDigits fractionDigits →
      (Fraction.start.extend fractionDigits).denominator ≤ counterMax →
      After (front ++ digit :: (digits ++ '.' :: fractionDigits))
        ⟨total, .inFraction (appendDigits (digitOf digit) digits)
          (Fraction.start.extend fractionDigits) mark⟩
  | inUnit
      (component : Component)
      {front : List Char}
      {total : Elapsed} :
      Sums front total →
      component.Fits →
      After (front ++ component.chars)
        ⟨total, .inUnit component.amount component.fraction component.letters.reverse⟩

section Backwards

variable {front rest : List Char}
variable {char : Char}
variable {total : Elapsed}
variable {progress next : Progress}
variable {offset : Nat}

/-- Digits go on with a digit or a blank. -/
theorem AreDigits.snoc
    {digits : List Char}
    (areDigits : AreDigits digits)
    (isDigit : char.isDigit = true ∨ Text.isBlank char = true) :
    AreDigits (digits ++ [char]) :=
  List.forall_mem_append.mpr ⟨areDigits, List.forall_mem_singleton.mpr isDigit⟩

/-- A gap goes on with a blank. -/
theorem AreBlank.snoc
    {gap : List Char}
    (areBlank : AreBlank gap)
    (isBlank : Text.isBlank char = true) :
    AreBlank (gap ++ [char]) :=
  List.forall_mem_append.mpr ⟨areBlank, List.forall_mem_singleton.mpr isBlank⟩

/-- White space does not change the sum. -/
theorem Sums.blank
    (sums : Sums front total)
    (isBlank : Text.isBlank char = true) :
    Sums (front ++ [char]) total := by
  cases sums with
  | nothing areBlank =>
      exact .nothing (areBlank.snoc isBlank)
  | component earlier fits isSum areBlank =>
      rw [List.append_assoc, List.append_assoc]
      exact .component earlier fits isSum (areBlank.snoc isBlank)

/-- After a component, its sum is known. -/
theorem Sums.addComponent
    {component : Component}
    {sum : Elapsed}
    (sums : Sums front total)
    (fits : component.Fits)
    (isSum : component.addTo total = .ok sum) :
    Sums (front ++ component.chars) sum := by
  have noGap : AreBlank [] := by
    decide
  simpa using Sums.component sums fits isSum noGap

/-- A number and the first letter of its unit. -/
def Component.start
    {digit : Char}
    {digits : List Char}
    (fraction? : Option (List Char))
    (isDigit : digit.isDigit = true)
    (areDigits : AreDigits digits)
    (areFractionDigits : ∀ fraction ∈ fraction?, AreDigits fraction)
    (someFractionDigit : ∀ fraction ∈ fraction?, 0 < fraction.countP Char.isDigit)
    (isLetter : isUnitLetter char = true) :
    Component where
  digit :=
    digit
  digits :=
    digits
  fraction? :=
    fraction?
  letters :=
    [char]
  isDigit :=
    isDigit
  areDigits :=
    areDigits
  areFractionDigits :=
    areFractionDigits
  someFractionDigit :=
    someFractionDigit
  someLetter := by
    simp
  areLetters := by
    simpa using isLetter

/-- A component with a further letter. -/
def Component.addLetter
    (component : Component)
    (isLetter : isUnitLetter char = true) :
    Component :=
  { component with
    letters := component.letters ++ [char]
    someLetter := by
      simp
    areLetters :=
      List.forall_mem_append.mpr
        ⟨component.areLetters, List.forall_mem_singleton.mpr isLetter⟩ }

namespace Progress.After

/-- The step from a number that is awaited. -/
theorem step_beforeNumber
    {isFirst : Bool}
    {mark : Nat}
    (sums : Sums front total)
    (steps : step ⟨total, .beforeNumber isFirst mark⟩ offset char = .ok next) :
    After (front ++ [char]) next := by
  simp only [step] at steps
  split_ifs at steps with isDigit isBlank
  · cases steps
    exact .inWhole sums isDigit (by decide) (digitOf_le_counterMax isDigit)
  · cases steps
    exact .beforeNumber (sums.blank isBlank)
  · cases steps

/-- The step from the digits of a number. -/
theorem step_inWhole
    {digit : Char}
    {digits : List Char}
    (sums : Sums front total)
    (isNumber : digit.isDigit = true)
    (areDigits : AreDigits digits)
    (fits : appendDigits (digitOf digit) digits ≤ counterMax)
    (steps :
      step ⟨total, .inWhole (appendDigits (digitOf digit) digits)⟩ offset char = .ok next) :
    After (front ++ digit :: digits ++ [char]) next := by
  rw [List.append_assoc, List.cons_append]
  simp only [step] at steps
  split_ifs at steps with isDigit isBlank isLetter isPoint
  · obtain ⟨number, isNumberNext, isNext⟩ := Outcome.bind_eq_ok_iff.mp steps
    obtain ⟨nextFits, rfl⟩ := counted_eq_ok_iff.mp isNumberNext
    cases isNext
    rw [← appendDigits_snoc_of_isDigit isDigit] at nextFits ⊢
    exact .inWhole sums isNumber (areDigits.snoc (.inl isDigit)) nextFits
  · cases steps
    rw [← appendDigits_snoc_of_isBlank isBlank] at fits ⊢
    exact .inWhole sums isNumber (areDigits.snoc (.inr isBlank)) fits
  · cases steps
    exact .inUnit (.start none isNumber areDigits (by simp) (by simp) isLetter) sums
      ⟨fits, by simp [Component.fraction, Component.start]⟩
  · cases steps
    subst isPoint
    have noDigits : AreDigits [] := by
      decide
    have startFits : (Fraction.start.extend []).denominator ≤ counterMax := by
      decide
    exact .inFraction sums isNumber areDigits fits noDigits startFits
  · cases steps

/-- The step from the digits of a fraction. -/
theorem step_inFraction
    {digit : Char}
    {digits fractionDigits : List Char}
    {mark : Nat}
    (sums : Sums front total)
    (isNumber : digit.isDigit = true)
    (areDigits : AreDigits digits)
    (fits : appendDigits (digitOf digit) digits ≤ counterMax)
    (areFractionDigits : AreDigits fractionDigits)
    (fractionFits : (Fraction.start.extend fractionDigits).denominator ≤ counterMax)
    (steps :
      step
          ⟨total, .inFraction (appendDigits (digitOf digit) digits)
            (Fraction.start.extend fractionDigits) mark⟩
          offset char =
        .ok next) :
    After (front ++ digit :: (digits ++ '.' :: fractionDigits) ++ [char]) next := by
  have shape :
      front ++ digit :: (digits ++ '.' :: fractionDigits) ++ [char] =
        front ++ digit :: (digits ++ '.' :: (fractionDigits ++ [char])) := by
    simp
  have startBelowOne : Fraction.start.numerator < Fraction.start.denominator := by
    decide
  have belowOne := Fraction.extend_belowOne startBelowOne areFractionDigits
  simp only [step] at steps
  split_ifs at steps with isDigit isBlank isLetter
  · obtain ⟨fraction, isFraction, isNext⟩ := Outcome.bind_eq_ok_iff.mp steps
    obtain ⟨nextFits, rfl⟩ := (Fraction.append_eq_ok_iff belowOne isDigit).mp isFraction
    cases isNext
    rw [shape, ← Fraction.extend_snoc_of_isDigit isDigit]
    refine .inFraction sums isNumber areDigits fits (areFractionDigits.snoc (.inl isDigit)) ?_
    rw [Fraction.extend_snoc_of_isDigit isDigit]
    exact nextFits
  · cases steps
    have appended := Fraction.start.extend_snoc_of_isBlank isBlank fractionDigits
    rw [← appended] at fractionFits
    rw [shape, ← appended]
    exact .inFraction sums isNumber areDigits fits (areFractionDigits.snoc (.inr isBlank))
      fractionFits
  · cases steps
    obtain ⟨isUnit, notStart⟩ : isUnitLetter char = true ∧
        Fraction.start.extend fractionDigits ≠ .start := by
      simpa using isLetter
    have someDigit : 0 < fractionDigits.countP Char.isDigit :=
      Nat.pos_of_ne_zero (mt Fraction.extend_eq_start_iff.mpr notStart)
    have after := inUnit
      (.start (some fractionDigits) isNumber areDigits (by simpa using areFractionDigits)
        (by simpa using someDigit) isUnit)
      sums ⟨fits, by simpa [Component.fraction, Component.start] using fractionFits⟩
    simpa [Component.chars, Component.fractionChars, Component.start, Component.amount,
      Component.fraction] using after
  · cases steps

/-- The step from the letters of a unit. -/
theorem step_inUnit
    {component : Component}
    (sums : Sums front total)
    (fits : component.Fits)
    (steps :
      step
          ⟨total, .inUnit component.amount component.fraction component.letters.reverse⟩
          offset char =
        .ok next) :
    After (front ++ component.chars ++ [char]) next := by
  simp only [step, List.reverse_reverse] at steps
  split_ifs at steps with isDigit isBlank isLetter
  · obtain ⟨sum, isSum, isNext⟩ := Outcome.bind_eq_ok_iff.mp steps
    cases isNext
    exact .inWhole (sums.addComponent fits isSum) isDigit (by decide)
      (digitOf_le_counterMax isDigit)
  · obtain ⟨sum, isSum, isNext⟩ := Outcome.bind_eq_ok_iff.mp steps
    cases isNext
    exact .beforeNumber ((sums.addComponent fits isSum).blank isBlank)
  · cases steps
    have after := inUnit (component.addLetter isLetter) sums ⟨fits.1, fits.2⟩
    simpa [Component.chars, Component.addLetter, Component.amount, Component.fraction]
      using after
  · cases steps

/-- What was read so far is known after each step. -/
theorem stepped
    (after : After front progress)
    (steps : progress.step offset char = .ok next) :
    After (front ++ [char]) next := by
  cases after with
  | beforeNumber sums =>
      exact step_beforeNumber sums steps
  | inWhole sums isNumber areDigits fits =>
      exact step_inWhole sums isNumber areDigits fits steps
  | inFraction sums isNumber areDigits fits areFractionDigits fractionFits =>
      exact step_inFraction sums isNumber areDigits fits areFractionDigits fractionFits steps
  | inUnit _ sums fits =>
      exact step_inUnit sums fits steps

/-- A component that cannot be added where its unit ends fills up the last second. -/
theorem fillUp_of_addTo
    {component : Component}
    (sums : Sums front total)
    (fits : component.Fits)
    (endsUnit : EndsUnit rest)
    (aborts : component.addTo total = .error .aborted) :
    FillUp (front ++ component.chars ++ rest) :=
  ⟨front, component, rest, total, List.append_assoc .., sums, fits, endsUnit,
    Component.addTo_eq_aborted_iff.mp aborts⟩

/-- A step without answer ends the unit of a component that fills up the last second. -/
theorem fillUp_of_step
    (after : After front progress)
    (aborts : progress.step offset char = .error .aborted) :
    FillUp (front ++ char :: rest) := by
  cases after with
  | beforeNumber _ =>
      simp only [Progress.step] at aborts
      split_ifs at aborts
      cases aborts
  | inWhole _ _ _ _ =>
      simp only [Progress.step] at aborts
      split_ifs at aborts
      · simp [Outcome.bind_eq_error_iff, appendDigit_ne_aborted] at aborts
      · cases aborts
  | inFraction _ _ _ _ _ _ =>
      simp only [Progress.step] at aborts
      split_ifs at aborts
      · simp [Outcome.bind_eq_error_iff, Fraction.append_ne_aborted] at aborts
      · cases aborts
  | @inUnit component front total sums fits =>
      simp only [Progress.step, List.reverse_reverse] at aborts
      split_ifs at aborts with isDigit isBlank
      · have adds : component.addTo total = .error .aborted := by
          simpa [Outcome.bind_eq_error_iff, Component.addTo] using aborts
        exact fillUp_of_addTo sums fits (by simp [EndsUnit, isDigit]) adds
      · have adds : component.addTo total = .error .aborted := by
          simpa [Outcome.bind_eq_error_iff, Component.addTo] using aborts
        exact fillUp_of_addTo sums fits (by simp [EndsUnit, isBlank]) adds
      · cases aborts

/-- A number without unit is refused. -/
theorem addComponent_nil_ne_aborted
    (total : Elapsed)
    (amount : Nat)
    (fraction : Option Fraction) :
    addComponent total amount fraction [] ≠ .error .aborted := by
  have unnamed : TimeUnit.ofSpelling? (String.ofList []) = none := by
    decide
  simp [addComponent, unnamed, Outcome.refuse]

/-- At the end, a reading without answer leaves a component that fills up the last
second. -/
theorem fillUp_of_finish
    (after : After front progress)
    (aborts : progress.finish = .error .aborted) :
    FillUp front := by
  cases after with
  | beforeNumber _ =>
      simp only [Progress.finish] at aborts
      split_ifs at aborts
      cases aborts
  | inWhole _ _ _ _ =>
      simp only [Progress.finish] at aborts
      exact (addComponent_nil_ne_aborted _ _ _ aborts).elim
  | inFraction _ _ _ _ _ _ =>
      simp only [Progress.finish] at aborts
      split_ifs at aborts
      · cases aborts
      · exact (addComponent_nil_ne_aborted _ _ _ aborts).elim
  | @inUnit component front total sums fits =>
      have adds : component.addTo total = .error .aborted := by
        simpa [Progress.finish, Component.addTo] using aborts
      have endsUnit : EndsUnit [] := by
        simp [EndsUnit]
      simpa using fillUp_of_addTo sums fits endsUnit adds

/-- A reading without answer met a component that fills up the last second. -/
theorem fillUp_of_readFrom
    (after : After front progress)
    (aborts : progress.readFrom offset rest = .error .aborted) :
    FillUp (front ++ rest) := by
  induction rest generalizing front progress offset with
  | nil =>
      rw [List.append_nil]
      exact fillUp_of_finish after aborts
  | cons char others inductionHypothesis =>
      rw [Progress.readFrom, Outcome.bind_eq_error_iff] at aborts
      rcases aborts with atStep | ⟨next, steps, later⟩
      · exact fillUp_of_step after atStep
      · rw [List.append_cons]
        exact inductionHypothesis (after.stepped steps) later

end Progress.After

end Backwards

/-- Characters have no sum exactly where a component fills up the last second. -/
theorem readElapsed_eq_aborted_iff
    {chars : List Char} :
    readElapsed chars = .error .aborted ↔ FillUp chars := by
  constructor
  · have start : Progress.After [] ⟨.zero, .beforeNumber true 0⟩ :=
      .beforeNumber (.nothing (by decide))
    exact start.fillUp_of_readFrom
  · exact readElapsed_eq_aborted

/-- Narrowing a time to a span always answers. -/
theorem ofElapsed_ne_aborted
    (negative : Bool)
    (elapsed : Elapsed) :
    ofElapsed negative elapsed ≠ .error .aborted := by
  unfold ofElapsed
  split <;> simp [Outcome.refuse]

/-- A zero alone is a number without unit. -/
theorem not_fillUp_zero : ¬ FillUp ['0'] := by
  have isRefused : readElapsed ['0'] = .refuse (.unitNeeded 0) := by
    rfl
  rw [← readElapsed_eq_aborted_iff, isRefused]
  simp [Outcome.refuse]

/-- Reading a text gives no answer exactly if it fills up the last second. -/
theorem read_eq_aborted_iff
    {text : String} :
    read text = .error .aborted ↔ FillsUpLastSecond text := by
  rw [read, Outcome.mapRefusal_eq_aborted_iff, FillsUpLastSecond]
  simp only [readChars]
  split_ifs with isZero
  · simp [isZero, not_fillUp_zero]
  · simp only [Outcome.bind_eq_error_iff, readElapsed_eq_aborted_iff, ofElapsed_ne_aborted]
    simp

/-- As many seconds as a counter holds, and one second more in nanoseconds. -/
def lastSecondText : String :=
  "18446744073709551615s 1000000000ns"

/-- Reading the text gives up. -/
theorem read_lastSecondText : read lastSecondText = .error .aborted :=
  rfl

end AlertReceivers.Span
