import AlertReceivers.Command.Filter
import AlertReceivers.Command.Usage
import AlertReceivers.Document.Reading
import AlertReceivers.Export.Block
import AlertReceivers.Receiver.Tally

namespace AlertReceivers.Command

/-!
# Runs

What the program does with the content of a document: it decodes all receivers, and
then prints them, or a summary, or logs all errors.
-/

/-- What a run leaves behind. -/
structure Result where
  exitCode : UInt32
  output : String
  log : List LogEntry
  /-- What is told before the log. -/
  notices : List String := []
  deriving Repr, DecidableEq

/-- The name of the program, which is also that of its main part. -/
def programTarget : String :=
  "notifier_schema"

/-- The part of the program that loads documents. -/
def documentTarget : String :=
  "notifier_schema::config::document"

/-- The part of the program that decodes receivers. -/
def decodeTarget : String :=
  "notifier_schema::config::decode"

/-- The tally of the kinds of receivers. -/
def countByKind (receivers : Dict Receiver) : Tally :=
  .ofKinds (receivers.entries.map fun entry => entry.2.kind)

/-- The line of a summary about the receivers of a kind. -/
def countLine (count : Kind × Nat) : String :=
  "    " ++ count.1.name ++ ": " ++ toString count.2 ++ "\n"

/-- What is printed of a valid document that is not exported. -/
def summary
    (config : String)
    (receivers : Dict Receiver) :
    String :=
  "Configuration is valid: " ++ config ++ "\n" ++
    "  Receivers: " ++ toString receivers.size ++ "\n" ++
    String.join ((countByKind receivers).counts.map countLine)

/-- What is printed of a valid document. -/
def printed
    (options : Options)
    (receivers : Dict Receiver) :
    String :=
  if options.exports then
    match options.exportFormat with
    | .yaml =>
        (Receiver.exportAll receivers).yaml
    | .json =>
        (Receiver.exportAll receivers).prettyJson ++ "\n"
  else
    summary options.config receivers

/-- The first entry of every run. -/
def loadingEntry (options : Options) : LogEntry :=
  ⟨.info, programTarget, "Loading receivers document",
    [("config_path", .shown options.config)]⟩

/-- The entry for a document that cannot be read. -/
def unloadedEntry
    (options : Options)
    (message : String) :
    LogEntry :=
  ⟨.error, programTarget, "Failed to load receivers document",
    [("error", .shown message), ("path", .shown options.config)]⟩

/-- The entry for a document that was read. -/
def loadedEntry
    (options : Options)
    (document : Document) :
    LogEntry :=
  ⟨.debug, documentTarget, "loaded receivers document",
    [("path", .shown options.config), ("receivers", .count document.receivers.size)]⟩

/-- The entries for the decoding of a named node. -/
def verdictEntries
    (name : String) :
    Outcome DecodeError Receiver → List LogEntry
  | .ok receiver =>
      [⟨.debug, decodeTarget, "decoded receiver config",
         [("receiver", .quoted receiver.kind.label)]⟩,
       ⟨.debug, documentTarget, "receiver is valid",
         [("receiver", .shown name), ("kind", .shown receiver.kind.name)]⟩]
  | .error (.refused (.unknownFields kind keys)) =>
      [⟨.warning, decodeTarget, "rejecting unknown receiver fields",
         [("receiver", .quoted kind.label), ("keys", .shown (Text.quotedList keys))]⟩]
  | .error _ =>
      []

/-- The entries for the decoding of all nodes, up to one that gives no answer. -/
def decodingEntries (document : Document) : List LogEntry :=
  (document.verdicts.entries.takeWhile fun entry => !Outcome.isAborted entry.2).flatMap
    fun entry => verdictEntries entry.1 entry.2

/-- The entry for a document in which every node is a receiver. -/
def decodedEntry (receivers : Dict Receiver) : LogEntry :=
  ⟨.info, documentTarget, "all receivers decoded", [("receivers", .count receivers.size)]⟩

/-- The entries for nodes that are no receivers. -/
def invalidEntries (errors : List InvalidReceiver) : List LogEntry :=
  (errors.map fun invalid =>
    ⟨.error, programTarget, "Receiver validation error", [("error", .shown invalid.message)]⟩) ++
    [⟨.error, programTarget, "Receiver validation failed",
      [("error_count", .count errors.length)]⟩]

/-- What a run does with a document. -/
def runDocument
    (options : Options)
    (document : Document) :
    Result :=
  match document.decode with
  | .ok receivers =>
      { exitCode := 0
        output := printed options receivers
        log := decodingEntries document ++ [decodedEntry receivers] }
  | .error (.refused errors) =>
      { exitCode := 1
        output := ""
        log := decodingEntries document ++ invalidEntries errors }
  | .error .aborted =>
      { exitCode := 101, output := "", log := decodingEntries document }

/-- The document in the content of a file, or the message that says why there is
none.  Files that cannot be read come with the message of the system. -/
def loadDocument
    (options : Options)
    (content : Except String String) :
    Except String Document :=
  match content with
  | .error message =>
      .error ("failed to load config file: " ++ options.config ++ ": " ++ message)
  | .ok text =>
      match Document.read text with
      | .ok document =>
          .ok document
      | .error error =>
          .error error.message

/-- What a run does with the content of a file, with all its log entries. -/
def runContent
    (options : Options)
    (content : Except String String) :
    Result :=
  match loadDocument options content with
  | .error message =>
      { exitCode := 1
        output := ""
        log := [loadingEntry options, unloadedEntry options message] }
  | .ok document =>
      let result := runDocument options document
      { result with log := loadingEntry options :: loadedEntry options document :: result.log }

/-- A result with the wanted log entries, after what is told of the filter. -/
def Result.filtered
    (result : Result)
    (filter? : Option String) :
    Result :=
  { result with
    log := result.log.filter (passes filter?)
    notices := filterNotices filter? }

/-- What a run does with the content of the file that its options name. -/
def run
    (environment : Environment)
    (options : Options)
    (content : Except String String) :
    Result :=
  (runContent options content).filtered environment.logFilter?

/-- What a run does that has no options to follow. -/
def runUsage (environment : Environment) : UsageError → Result
  | .version =>
      { exitCode := 0, output := versionText, log := [] }
  | .briefHelp =>
      { exitCode := 0, output := briefHelp environment, log := [] }
  | .fullHelp =>
      { exitCode := 0, output := fullHelp environment, log := [] }
  | _ =>
      { exitCode := 2, output := "", log := [] }

end AlertReceivers.Command
