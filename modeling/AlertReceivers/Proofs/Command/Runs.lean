import AlertReceivers.Command.Run
import AlertReceivers.Proofs.Document.Decoding

namespace AlertReceivers.Command

/-!
# How runs end

A run loads and decodes the document before it looks at what to print.  So whether it
succeeds, and which errors it logs, depends on the content of the file alone.
-/

/-- The content of a file is the text of a document. -/
def Holds
    (content : Except String String)
    (document : Document) :
    Prop :=
  ∃ text, content = .ok text ∧ Document.read text = .ok document

/-- The content of a file is the text of a document of receivers. -/
def HoldsReceivers (content : Except String String) : Prop :=
  ∃ document receivers, Holds content document ∧ document.decode = .ok receivers

/-- The content of a file is the text of a document on which decoding gives up. -/
def HoldsAbandoned (content : Except String String) : Prop :=
  ∃ document, Holds content document ∧ document.GivesUp

/-- The entries of a log about errors. -/
def errorsOf (log : List LogEntry) : List LogEntry :=
  log.filter fun entry => entry.level = .error

/-- The entry about a node that is no receiver. -/
def invalidEntry (invalid : InvalidReceiver) : LogEntry :=
  ⟨.error, programTarget, "Receiver validation error", [("error", .shown invalid.message)]⟩

/-- The entry with the number of nodes that are no receivers. -/
def errorCountEntry (count : Nat) : LogEntry :=
  ⟨.error, programTarget, "Receiver validation failed", [("error_count", .count count)]⟩

/-- What a run leaves behind, with all entries of its log. -/
inductive Ended
    (options : Options)
    (content : Except String String) :
    Result → Prop where
  | unloaded {message : String} :
      (∀ document, ¬ Holds content document) →
      Ended options content
        { exitCode := 1
          output := ""
          log := [loadingEntry options, unloadedEntry options message] }
  | decoded {document : Document} {receivers : Dict Receiver} :
      Holds content document →
      document.decode = .ok receivers →
      Ended options content
        { exitCode := 0
          output := printed options receivers
          log :=
            loadingEntry options :: loadedEntry options document ::
              (decodingEntries document ++ [decodedEntry receivers]) }
  | refused {document : Document} {errors : List InvalidReceiver} :
      Holds content document →
      document.decode = .refuse errors →
      Ended options content
        { exitCode := 1
          output := ""
          log :=
            loadingEntry options :: loadedEntry options document ::
              (decodingEntries document ++ invalidEntries errors) }
  | abandoned {document : Document} :
      Holds content document →
      document.decode = .abort →
      Ended options content
        { exitCode := 101
          output := ""
          log :=
            loadingEntry options :: loadedEntry options document ::
              decodingEntries document }

variable {options : Options} {content : Except String String} {document : Document}

theorem loadDocument_eq_ok_iff :
    loadDocument options content = .ok document ↔ Holds content document := by
  unfold loadDocument Holds
  cases content with
  | error message =>
      simp
  | ok text =>
      cases isRead : Document.read text with
      | error error =>
          simp [isRead]
      | ok other =>
          simp [isRead]

/-- A file holds one document only. -/
theorem Holds.unique
    {other : Document}
    (holds : Holds content document)
    (holdsOther : Holds content other) :
    document = other := by
  obtain ⟨text, rfl, isRead⟩ := holds
  obtain ⟨_, ⟨⟩, isReadOther⟩ := holdsOther
  exact Except.ok.inj (isRead.symm.trans isReadOther)

/-- Every run ends in one of four ways. -/
theorem ended_runContent
    (options : Options)
    (content : Except String String) :
    Ended options content (runContent options content) := by
  unfold runContent
  cases loaded : loadDocument options content with
  | error message =>
      refine .unloaded fun document holds => ?_
      rw [loadDocument_eq_ok_iff.mpr holds] at loaded
      cases loaded
  | ok document =>
      have holds := loadDocument_eq_ok_iff.mp loaded
      cases outcome : document.decode with
      | ok receivers =>
          simpa only [runDocument, outcome] using .decoded holds outcome
      | error failure =>
          cases failure with
          | refused errors =>
              simpa only [runDocument, outcome] using .refused holds outcome
          | aborted =>
              simpa only [runDocument, outcome] using .abandoned holds outcome

theorem directivesOf_empty : directivesOf "" = [] := by
  have onePart : "".splitOn "," = [""] := by
    rw [String.splitOn, String.splitOnAux]
    rfl
  rw [directivesOf, directiveTexts, onePart]
  rfl

/-- Without directives the general one counts. -/
theorem deciding_nil (entry : LogEntry) : deciding [] entry = Directive.general := by
  have fits : Directive.general.fits entry = true := by
    simp [Directive.fits, Directive.general]
  simp [deciding, fits, Directive.moreSpecific]

/-- Without a filter, entries up to the level of information pass. -/
theorem passes_none (entry : LogEntry) :
    passes none entry = decide (entry.level.rank ≤ Level.info.rank) := by
  unfold passes
  rw [Option.getD_none, directivesOf_empty, deciding_nil]
  rfl

/-- Without a filter, all errors are logged. -/
theorem errorsOf_filtered (result : Result) :
    errorsOf (result.filtered none).log = errorsOf result.log := by
  unfold errorsOf Result.filtered
  rw [List.filter_filter]
  refine List.filter_congr fun entry _ => ?_
  rw [passes_none]
  cases entry.level <;> rfl

/-- Decoding a node logs no errors by itself. -/
theorem level_of_mem_verdictEntries
    {name : String}
    {outcome : Outcome DecodeError Receiver}
    {entry : LogEntry}
    (member : entry ∈ verdictEntries name outcome) :
    entry.level ≠ .error := by
  unfold verdictEntries at member
  split at member
  · simp only [List.mem_cons, List.not_mem_nil, or_false] at member
    rcases member with rfl | rfl <;> simp
  · rw [List.mem_singleton] at member
    subst member
    simp
  · cases member

theorem errorsOf_decodingEntries (document : Document) :
    errorsOf (decodingEntries document) = [] := by
  refine List.filter_eq_nil_iff.mpr fun entry member => ?_
  obtain ⟨_, _, inEntries⟩ := List.mem_flatMap.mp member
  simpa using level_of_mem_verdictEntries inEntries

/-- The entries for invalid nodes are one for each of them, and then their number. -/
theorem errorsOf_invalidEntries (errors : List InvalidReceiver) :
    errorsOf (invalidEntries errors) =
      errors.map invalidEntry ++ [errorCountEntry errors.length] := by
  refine List.filter_eq_self.mpr fun entry member => ?_
  unfold invalidEntries at member
  rcases List.mem_append.mp member with isInvalid | isCount
  · obtain ⟨invalid, _, rfl⟩ := List.mem_map.mp isInvalid
    rfl
  · rw [List.mem_singleton] at isCount
    subst isCount
    rfl

/-- What is logged before a document is reported on is no error. -/
theorem errorsOf_loaded
    (options : Options)
    (document : Document)
    (log : List LogEntry) :
    errorsOf
        (loadingEntry options :: loadedEntry options document ::
          (decodingEntries document ++ log)) =
      errorsOf log := by
  have noErrors := errorsOf_decodingEntries document
  unfold errorsOf at noErrors ⊢
  rw [List.filter_cons_of_neg (by simp [loadingEntry]),
    List.filter_cons_of_neg (by simp [loadedEntry]), List.filter_append, noErrors,
    List.nil_append]

/-- A filter does not change how a run exits. -/
theorem exitCode_run
    (environment : Environment)
    (options : Options)
    (content : Except String String) :
    (run environment options content).exitCode = (runContent options content).exitCode :=
  rfl

/-- What is logged of a run and how it exits depends on the path of the document, but not
on the other options. -/
theorem runContent_of_sameConfig
    {other : Options}
    (sameConfig : other.config = options.config)
    (content : Except String String) :
    (runContent other content).exitCode = (runContent options content).exitCode ∧
      (runContent other content).log = (runContent options content).log := by
  have sameLoading : loadDocument other content = loadDocument options content := by
    simp only [loadDocument, sameConfig]
  unfold runContent
  rw [sameLoading]
  cases loadDocument options content with
  | error message =>
      simp only [loadingEntry, unloadedEntry, sameConfig, and_self]
  | ok document =>
      simp only [loadingEntry, loadedEntry, sameConfig, runDocument]
      cases document.decode with
      | ok receivers =>
          exact ⟨rfl, rfl⟩
      | error failure =>
          cases failure <;> exact ⟨rfl, rfl⟩

theorem Holds.holdsReceivers_iff
    (holds : Holds content document) :
    HoldsReceivers content ↔ ∃ receivers, document.decode = .ok receivers := by
  constructor
  · rintro ⟨other, receivers, holdsOther, decoded⟩
    exact ⟨receivers, holds.unique holdsOther ▸ decoded⟩
  · rintro ⟨receivers, decoded⟩
    exact ⟨document, receivers, holds, decoded⟩

theorem Holds.holdsAbandoned_iff
    (holds : Holds content document) :
    HoldsAbandoned content ↔ document.decode = .abort := by
  rw [Document.decode_eq_abort_iff]
  constructor
  · rintro ⟨other, holdsOther, givesUp⟩
    exact holds.unique holdsOther ▸ givesUp
  · exact fun givesUp => ⟨document, holds, givesUp⟩

namespace Ended

variable {result : Result}

/-- A run exits with zero exactly if every node is a receiver. -/
theorem exitCode_eq_zero_iff
    (ended : Ended options content result) :
    result.exitCode = 0 ↔ HoldsReceivers content := by
  cases ended with
  | unloaded noDocument =>
      have notZero : (1 : UInt32) ≠ 0 := by
        decide
      exact iff_of_false notZero fun ⟨document, _, holds, _⟩ => noDocument document holds
  | decoded holds decoded =>
      exact iff_of_true rfl (holds.holdsReceivers_iff.mpr ⟨_, decoded⟩)
  | refused holds refused =>
      rw [holds.holdsReceivers_iff, refused]
      simp [Outcome.refuse]
  | abandoned holds abandoned =>
      rw [holds.holdsReceivers_iff, abandoned]
      simp [Outcome.abort]

/-- A run exits with one exactly if it gives an answer that is not zero. -/
theorem exitCode_eq_one_iff
    (ended : Ended options content result) :
    result.exitCode = 1 ↔ ¬ HoldsReceivers content ∧ ¬ HoldsAbandoned content := by
  rw [← ended.exitCode_eq_zero_iff]
  cases ended with
  | unloaded noDocument =>
      have goesOn : ¬ HoldsAbandoned content :=
        fun ⟨document, holds, _⟩ => noDocument document holds
      simp [goesOn]
  | decoded _ _ =>
      simp
  | refused holds refused =>
      rw [holds.holdsAbandoned_iff, refused]
      simp [Outcome.refuse, Outcome.abort]
  | abandoned holds abandoned =>
      rw [holds.holdsAbandoned_iff, abandoned]
      simp

/-- Only a run that exits with zero prints something. -/
theorem output_eq_empty
    (ended : Ended options content result)
    (fails : result.exitCode ≠ 0) :
    result.output = "" := by
  cases ended with
  | decoded _ _ =>
      exact (fails rfl).elim
  | unloaded _ | refused _ _ | abandoned _ _ =>
      rfl

/-- The errors of a refused document are those of its invalid nodes and their number. -/
theorem errorsOf_log
    {errors : List InvalidReceiver}
    (ended : Ended options content result)
    (holds : Holds content document)
    (refused : document.decode = .refuse errors) :
    errorsOf result.log = errors.map invalidEntry ++ [errorCountEntry errors.length] := by
  cases ended with
  | unloaded noDocument =>
      exact (noDocument document holds).elim
  | decoded holdsOther decoded =>
      cases holds.unique holdsOther
      rw [refused] at decoded
      cases decoded
  | refused holdsOther refusedOther =>
      cases holds.unique holdsOther
      cases refused.symm.trans refusedOther
      rw [errorsOf_loaded, errorsOf_invalidEntries]
  | abandoned holdsOther abandoned =>
      cases holds.unique holdsOther
      rw [refused] at abandoned
      cases abandoned

end Ended

/--
Whatever its options are, a run exits with zero exactly if the file is read, its content is
a document, and all nodes of the document are receivers.  Otherwise it exits with one,
unless decoding gives up, and prints nothing.  Of a document with nodes that are no
receivers it logs one error for each of them, in the order of their names, and then their
number.  Options that name the same file change neither the exit code nor the log.
-/
theorem run_regardless_of_mode
    {environment : Environment}
    (unfiltered : environment.logFilter? = none)
    (options : Options)
    (content : Except String String) :
    ((run environment options content).exitCode = 0 ↔ HoldsReceivers content) ∧
      ((run environment options content).exitCode = 1 ↔
        ¬ HoldsReceivers content ∧ ¬ HoldsAbandoned content) ∧
      ((run environment options content).exitCode ≠ 0 →
        (run environment options content).output = "") ∧
      (∀ document errors,
        Holds content document →
          document.decode = .refuse errors →
          document.RefusedWith errors ∧
            errorsOf (run environment options content).log =
              errors.map invalidEntry ++ [errorCountEntry errors.length]) ∧
      ∀ other : Options,
        other.config = options.config →
          (run environment other content).exitCode =
              (run environment options content).exitCode ∧
            (run environment other content).log = (run environment options content).log := by
  have ended := ended_runContent options content
  unfold run
  rw [unfiltered]
  refine ⟨ended.exitCode_eq_zero_iff, ended.exitCode_eq_one_iff, ended.output_eq_empty,
    fun document errors holds refused => ⟨?_, ?_⟩, fun other sameConfig => ?_⟩
  · exact (Document.decode_eq_refuse_iff.mp refused).2
  · rw [errorsOf_filtered]
    exact ended.errorsOf_log holds refused
  · obtain ⟨sameCode, sameLog⟩ := runContent_of_sameConfig sameConfig content
    exact ⟨sameCode, congrArg (List.filter (passes none)) sameLog⟩

/-- A text with two nodes that are no receivers, and one that is. -/
def mixedText : String :=
  "receivers:\n  b: \x7btype: webhook\x7d\n  a: \x7btype: sms\x7d\n  c: \x7btype: slack\x7d\n"

/-- The options of a run that only says whether a document is valid. -/
def validation : Options where
  config :=
    "receivers.yaml"
  validate :=
    true
  logFormat :=
    .text
  exportFormat :=
    .yaml

/-- Both nodes are reported in the order of their names, and the run exits with one. -/
theorem run_regardless_of_mode_mixedText :
    (run {} validation (.ok mixedText)).exitCode = 1 ∧
      (run {} validation (.ok mixedText)).output = "" ∧
      errorsOf (run {} validation (.ok mixedText)).log =
        [invalidEntry ⟨"a", .unknownKind "sms"⟩,
         invalidEntry ⟨"b", .missingField .webhook "url"⟩,
         errorCountEntry 2] := by
  have refusal :
      (Document.read mixedText).toOption.map (fun document => document.decode.refusal?) =
        some (some [⟨"a", .unknownKind "sms"⟩, ⟨"b", .missingField .webhook "url"⟩]) := by
    decide +kernel
  obtain ⟨document, isRead, isRefused⟩ := Option.map_eq_some_iff.mp refusal
  have refused := Outcome.refusal?_eq_some_iff.mp isRefused
  have holds : Holds (.ok mixedText) document :=
    ⟨mixedText, rfl, Outcome.toOption_eq_some_iff.mp isRead⟩
  have unfiltered : ({} : Environment).logFilter? = none := rfl
  obtain ⟨_, isOne, printsNothing, tells, _⟩ :=
    run_regardless_of_mode unfiltered validation (.ok mixedText)
  have noReceivers : ¬ HoldsReceivers (.ok mixedText) := by
    rw [holds.holdsReceivers_iff, refused]
    simp [Outcome.refuse]
  have goesOn : ¬ HoldsAbandoned (.ok mixedText) := by
    rw [holds.holdsAbandoned_iff, refused]
    simp [Outcome.refuse, Outcome.abort]
  have exitsWithOne := isOne.mpr ⟨noReceivers, goesOn⟩
  refine ⟨exitsWithOne, printsNothing ?_, (tells document _ holds refused).2⟩
  rw [exitsWithOne]
  decide

/-- The text of a document with a receiver on which decoding gives up. -/
def abandonedText : String :=
  "receivers:\n  p:\n    type: pushover\n    user_key: u\n    token: t\n" ++
    "    retry: " ++ Span.lastSecondText ++ "\n"

/-- The nodes of the document are not all receivers, but the run does not exit with one. -/
theorem abandonedText_exits_otherwise :
    Options.read {} ["--validate", "-c", "receivers.yaml"] = .ok validation ∧
      ¬ HoldsReceivers (.ok abandonedText) ∧
      (run {} validation (.ok abandonedText)).exitCode = 101 := by
  have exitCode : (run {} validation (.ok abandonedText)).exitCode = 101 := by
    decide +kernel
  refine ⟨by decide, fun holdsReceivers => ?_, exitCode⟩
  have isZero :=
    (ended_runContent validation (.ok abandonedText)).exitCode_eq_zero_iff.mpr holdsReceivers
  rw [← exitCode_run {}, exitCode] at isZero
  exact absurd isZero (by decide)

end AlertReceivers.Command
