import AlertReceivers.Proofs.Receiver.Verdict
import AlertReceivers.Proofs.Span.Numerals

namespace AlertReceivers

/-!
# Numbers given for spans

A number says nothing of its unit, so it is refused as a span.  Only the integer zero is
the empty span, which needs no unit.
-/

/-- Entries give a span of a pushover receiver a number. -/
def GivesNumber
    (number : Number)
    (entries : List (Node × Node)) :
    Prop :=
  ∃ entry ∈ entries, ∃ name,
    (name = "retry" ∨ name = "expire") ∧
      entry.1.asText? = some name ∧
      entry.2 = .number number

/-- A number is read as a span by its text. -/
theorem Setting.readSpan_number (number : Number) :
    readSpan (.number number) = (Span.read number.text).mapRefusal .badSpan :=
  rfl

/-- The integer 0 is the empty span. -/
theorem Setting.readSpan_zero :
    readSpan (.number (.integer 0)) = .ok .zero :=
  rfl

/-- Every number but the integer zero is refused. -/
theorem Setting.exists_refuse_of_ne_zero
    {number : Number}
    (notZero : number ≠ .integer 0) :
    ∃ reason, readSpan (.number number) = .refuse (.badSpan ⟨number.text, reason⟩) := by
  rcases Span.read_numberText number with ⟨isZero, _⟩ | ⟨_, reason, isRefused⟩
  · exact (notZero isZero).elim
  · refine ⟨reason, ?_⟩
    rw [readSpan_number, isRefused]
    rfl

/-- Of all numbers, only the integer 0 is a span. -/
theorem Setting.exists_readSpan_iff
    {number : Number} :
    (∃ span, readSpan (.number number) = .ok span) ↔ number = .integer 0 := by
  constructor
  · rintro ⟨span, isRead⟩
    by_contra notZero
    obtain ⟨reason, isRefused⟩ := exists_refuse_of_ne_zero notZero
    rw [isRefused] at isRead
    cases isRead
  · rintro rfl
    exact ⟨.zero, readSpan_zero⟩

/-- Entries with a number other than zero for a span are not readable. -/
theorem GivesNumber.not_readable
    {number : Number}
    {entries : List (Node × Node)}
    (givesNumber : GivesNumber number entries)
    (notZero : number ≠ .integer 0) :
    ¬ Kind.pushover.Readable entries := by
  rintro ⟨fits, _⟩
  obtain ⟨entry, member, name, isName, named, isNumber⟩ := givesNumber
  obtain ⟨field, inSchema, rfl, isSpan⟩ := Kind.exists_spanField isName
  obtain ⟨setting, isRead⟩ :=
    (Kind.fits_iff_read_ok ⟨inSchema, named⟩).mp (fits entry member)
  rw [isSpan, isNumber] at isRead
  obtain ⟨span, isReadSpan, _⟩ := Outcome.map_eq_ok_iff.mp isRead
  exact notZero (Setting.exists_readSpan_iff.mp ⟨span, isReadSpan⟩)

/--
A number, integer or not, is read as a span exactly if it is the integer zero, which is the
empty span; all others are refused.  So a pushover node that gives a span any other number
is malformed, unless decoding gives up at another value in front of the first that is
refused.
-/
theorem onlyZero_of_bareNumber (number : Number) :
    ((∃ span, Setting.readSpan (.number number) = .ok span) ↔ number = .integer 0) ∧
      (number = .integer 0 → Setting.readSpan (.number number) = .ok .zero) ∧
      (number ≠ .integer 0 →
        (∃ reason,
          Setting.readSpan (.number number) = .refuse (.badSpan ⟨number.text, reason⟩)) ∧
        ∀ node entries,
          Node.Lists node entries →
            GivesNumber number entries →
            ((∃ place cause,
                Receiver.decode .pushover node =
                  .refuse (.malformed .pushover place cause)) ↔
              ¬ Kind.pushover.GivesUp entries)) := by
  refine ⟨Setting.exists_readSpan_iff, ?_, fun notZero => ⟨?_, ?_⟩⟩
  · rintro rfl
    exact Setting.readSpan_zero
  · exact Setting.exists_refuse_of_ne_zero notZero
  · intro node entries lists givesNumber
    have verdict := (Receiver.judged_of_ofEntries .pushover entries).verdict
    rw [Receiver.decode_eq_ofEntries lists, verdict.malformed]
    exact and_iff_left (givesNumber.not_readable notZero)

/-- The entries of a node for a pushover receiver with numbers for its spans: an integer,
and ten to the power of sixteen, whose text has an exponent. -/
def numberedEntries : List (Node × Node) :=
  [(.text "user_key", .text "u"),
   (.text "token", .text "t"),
   (.text "retry", .number (.integer 0)),
   (.text "expire", .number (.real (.finite false 5000000000000000 1)))]

/-- A node with 10^16 as a span, whose text has an exponent. -/
theorem onlyZero_of_bareNumber_exponent :
    Number.text (.real (.finite false 5000000000000000 1)) = "1e16" ∧
      GivesNumber (.real (.finite false 5000000000000000 1)) numberedEntries ∧
      ¬ Kind.pushover.GivesUp numberedEntries ∧
      (∃ reason,
        Setting.readSpan (.number (.real (.finite false 5000000000000000 1))) =
          .refuse (.badSpan ⟨"1e16", reason⟩)) ∧
      ∃ place cause,
        Receiver.decode .pushover (.mapping numberedEntries) =
          .refuse (.malformed .pushover place cause) := by
  have isText : Number.text (.real (.finite false 5000000000000000 1)) = "1e16" := by
    decide +kernel
  have givesNumber :
      GivesNumber (.real (.finite false 5000000000000000 1)) numberedEntries :=
    ⟨numberedEntries[3], by simp [numberedEntries], "expire", .inr rfl, rfl, rfl⟩
  have goesOn : ¬ Kind.pushover.GivesUp numberedEntries := by
    have answers : (Receiver.ofEntries .pushover numberedEntries).isAborted = false := by
      decide +kernel
    intro givesUp
    rw [(Receiver.judged_of_ofEntries .pushover numberedEntries).verdict.abort.mpr givesUp]
      at answers
    cases answers
  obtain ⟨_, _, notZero⟩ := onlyZero_of_bareNumber (.real (.finite false 5000000000000000 1))
  obtain ⟨⟨reason, isRefused⟩, malformed⟩ := notZero nofun
  rw [isText] at isRefused
  exact ⟨isText, givesNumber, goesOn, ⟨reason, isRefused⟩,
    (malformed _ _ .mapping givesNumber).mpr goesOn⟩

/-- The entries of a node for a pushover receiver with a number for one of its spans, behind
a text that fills up the last second. -/
def numberBehindFullSpan : List (Node × Node) :=
  [(.text "user_key", .text "u"),
   (.text "token", .text "t"),
   (.text "retry", .text Span.lastSecondText),
   (.text "expire", .number (.integer 60))]

/-- A span is given a number, but the node is not malformed: decoding gives no answer. -/
theorem numberBehindFullSpan_not_malformed :
    GivesNumber (.integer 60) numberBehindFullSpan ∧
      ∀ place cause,
        Receiver.decode .pushover (.mapping numberBehindFullSpan) ≠
          .refuse (.malformed .pushover place cause) := by
  have aborts :
      Receiver.decode .pushover (.mapping numberBehindFullSpan) = .error .aborted :=
    rfl
  constructor
  · exact ⟨numberBehindFullSpan[3], by simp [numberBehindFullSpan], "expire", .inr rfl, rfl,
      rfl⟩
  · intro place cause
    rw [aborts]
    exact nofun

end AlertReceivers
