namespace AlertReceivers.Command

/-!
# Command-line options

The program reads one document and either exports its receivers or only says whether
they are valid.  Options are given as arguments, at most once each; two of them can
be given by the environment instead.
-/

/-- How log entries are written. -/
inductive LogFormat where
  | text
  | json
  deriving Repr, DecidableEq

/-- How receivers are exported. -/
inductive ExportFormat where
  | yaml
  | json
  deriving Repr, DecidableEq

/-- What the program is asked to do. -/
structure Options where
  /-- The path of the document. -/
  config : String
  /-- Whether to say only that the document is valid. -/
  validate : Bool
  logFormat : LogFormat
  exportFormat : ExportFormat
  deriving Repr, DecidableEq

/-- Why there is nothing to do. -/
inductive UsageError where
  | unknownArgument
  | invalidValue
  | argumentConflict
  | tooManyValues
  | briefHelp
  | fullHelp
  | version
  deriving Repr, DecidableEq

/-- The path of the document if none is given. -/
def defaultConfig : String :=
  "/etc/notifier-schema/receivers.yaml"

namespace LogFormat

/-- The log format with a name. -/
def ofName? : String → Option LogFormat
  | "text" =>
      some .text
  | "json" =>
      some .json
  | _ =>
      none

end LogFormat

namespace ExportFormat

/-- The export format with a name. -/
def ofName? : String → Option ExportFormat
  | "yaml" =>
      some .yaml
  | "json" =>
      some .json
  | _ =>
      none

end ExportFormat

/-- An option that takes a value. -/
inductive ValueOption where
  | config
  | logFormat
  | output
  deriving Repr, DecidableEq

/-- An option without a value. -/
inductive Switch where
  | validate
  | briefHelp
  | fullHelp
  | version
  deriving Repr, DecidableEq

/-- An option. -/
inductive AnyOption where
  | value (option : ValueOption)
  | switch (switch : Switch)
  deriving Repr, DecidableEq

namespace AnyOption

/-- The option with a long name. -/
def ofLong? : List Char → Option AnyOption
  | chars =>
      match String.ofList chars with
      | "config" =>
          some (.value .config)
      | "log-format" =>
          some (.value .logFormat)
      | "output" =>
          some (.value .output)
      | "validate" =>
          some (.switch .validate)
      | "help" =>
          some (.switch .fullHelp)
      | "version" =>
          some (.switch .version)
      | _ =>
          none

/-- The option with a name of one letter. -/
def ofShort? : Char → Option AnyOption
  | 'c' =>
      some (.value .config)
  | 'o' =>
      some (.value .output)
  | 'h' =>
      some (.switch .briefHelp)
  | 'V' =>
      some (.switch .version)
  | _ =>
      none

end AnyOption

/-- The options that were given. -/
structure Given where
  config? : Option String := none
  logFormat? : Option LogFormat := none
  exportFormat? : Option ExportFormat := none
  validate : Bool := false
  deriving Repr, DecidableEq

/-- A value that has to be there. -/
def require (value? : Option α) : Except UsageError α :=
  match value? with
  | some value =>
      .ok value
  | none =>
      .error .invalidValue

/-- A path, which is not empty. -/
def pathOf? (text : String) : Option String :=
  if text.isEmpty then none else some text

namespace Given

/-- Whether an option with a value was given. -/
def has (given : Given) : ValueOption → Bool
  | .config =>
      given.config?.isSome
  | .logFormat =>
      given.logFormat?.isSome
  | .output =>
      given.exportFormat?.isSome

/-- Set an option to a value. -/
def set
    (given : Given)
    (option : ValueOption)
    (text : String) :
    Except UsageError Given :=
  match option with
  | .config => do
      let path ← require (pathOf? text)
      .ok { given with config? := some path }
  | .logFormat => do
      let format ← require (LogFormat.ofName? text)
      .ok { given with logFormat? := some format }
  | .output => do
      let format ← require (ExportFormat.ofName? text)
      .ok { given with exportFormat? := some format }

/-- Give an option on the command line. -/
def give
    (given : Given)
    (option : ValueOption)
    (text : String) :
    Except UsageError Given :=
  if given.has option then .error .argumentConflict else given.set option text

/-- Give a switch on the command line. -/
def turnOn (given : Given) : Switch → Except UsageError Given
  | .briefHelp =>
      .error .briefHelp
  | .fullHelp =>
      .error .fullHelp
  | .version =>
      .error .version
  | .validate =>
      if given.validate then
        .error .argumentConflict
      else
        .ok { given with validate := true }

/-- Take an option from the environment if it was not given. -/
def orElse
    (given : Given)
    (option : ValueOption)
    (text? : Option String) :
    Except UsageError Given :=
  match text? with
  | some text =>
      if given.has option then .ok given else given.set option text
  | none =>
      .ok given

end Given

/-- An option whose value stands in an argument of its own.  The value is checked only
when the next option or the end is reached. -/
structure Pending where
  option : ValueOption
  text? : Option String
  deriving Repr, DecidableEq

/-- The arguments read so far. -/
structure Progress where
  given : Given
  pending? : Option Pending
  deriving Repr, DecidableEq

namespace Progress

/-- Give the pending option. -/
def settle (progress : Progress) : Except UsageError Given :=
  match progress.pending? with
  | none =>
      .ok progress.given
  | some pending => do
      let text ← require pending.text?
      progress.given.give pending.option text

/-- Read an option, with the value that is attached to it. -/
def readOption
    (progress : Progress)
    (option : ValueOption)
    (attached? : Option (List Char)) :
    Except UsageError Progress := do
  let given ← progress.settle
  match attached? with
  | some text => do
      let given ← given.give option (String.ofList text)
      .ok ⟨given, none⟩
  | none =>
      .ok ⟨given, some ⟨option, none⟩⟩

/-- Read a switch. -/
def readSwitch
    (progress : Progress)
    (switch : Switch) :
    Except UsageError Progress := do
  let given ← progress.settle
  let given ← given.turnOn switch
  .ok ⟨given, none⟩

/-- Read an argument that starts with two dashes, without them. -/
def readLong
    (progress : Progress)
    (chars : List Char) :
    Except UsageError Progress :=
  let name := chars.takeWhile (· != '=')
  let attached? :=
    match chars.dropWhile (· != '=') with
    | _ :: text =>
        some text
    | [] =>
        none
  match AnyOption.ofLong? name with
  | some (.value option) =>
      progress.readOption option attached?
  | some (.switch switch) =>
      if attached?.isSome then .error .tooManyValues else progress.readSwitch switch
  | none =>
      .error .unknownArgument

/-- The value that is attached to an option of one letter. -/
def attachedShort? : List Char → Option (List Char)
  | [] =>
      none
  | '=' :: text =>
      some text
  | text =>
      some text

/-- Read an argument that starts with one dash, without it. -/
def readShort (progress : Progress) : List Char → Except UsageError Progress
  | [] =>
      .ok progress
  | char :: rest =>
      match AnyOption.ofShort? char with
      | some (.value option) =>
          progress.readOption option (attachedShort? rest)
      | some (.switch switch) => do
          let next ← progress.readSwitch switch
          next.readShort rest
      | none =>
          .error .unknownArgument

/-- Read an argument that is no option: the value of the option before it. -/
def readValue
    (progress : Progress)
    (text : String) :
    Except UsageError Progress :=
  match progress.pending? with
  | some ⟨option, none⟩ =>
      .ok { progress with pending? := some ⟨option, some text⟩ }
  | _ =>
      .error .unknownArgument

/-- Read an argument. -/
def readArgument
    (progress : Progress)
    (text : String) :
    Except UsageError Progress :=
  match text.toList with
  | '-' :: '-' :: rest =>
      progress.readLong rest
  | '-' :: char :: rest =>
      progress.readShort (char :: rest)
  | _ =>
      progress.readValue text

/-- Read arguments.  Two dashes alone end the options, and nothing may follow
them. -/
def readArguments (progress : Progress) : List String → Except UsageError Progress
  | [] =>
      .ok progress
  | argument :: rest =>
      if argument = "--" then
        if rest.isEmpty then .ok progress else .error .unknownArgument
      else do
        let next ← progress.readArgument argument
        next.readArguments rest

end Progress

/-- What the environment says. -/
structure Environment where
  config? : Option String := none
  logFormat? : Option String := none
  /-- Which log entries are wanted. -/
  logFilter? : Option String := none
  deriving Repr, DecidableEq

/-- The options of given arguments.  An export format has no meaning for a document
that is only validated. -/
def Options.read
    (environment : Environment)
    (arguments : List String) :
    Except UsageError Options := do
  let progress ← Progress.readArguments ⟨{}, none⟩ arguments
  let given ← progress.settle
  let given ← given.orElse .config environment.config?
  let given ← given.orElse .logFormat environment.logFormat?
  if given.validate && given.exportFormat?.isSome then
    .error .argumentConflict
  else
    .ok {
      config := given.config?.getD defaultConfig
      validate := given.validate
      logFormat := given.logFormat?.getD .text
      exportFormat := given.exportFormat?.getD .yaml }

namespace Options

/-- Whether receivers are exported. -/
def exports (options : Options) : Bool :=
  !options.validate

end Options

end AlertReceivers.Command
