import AlertReceivers.Command.Options

namespace AlertReceivers.Command

/-!
# Usage

What the program says of itself and of the options it takes.  The brief help has a
line for each option, the full help a paragraph.  Both show what the environment says.
-/

/-- What is printed if the version is asked for. -/
def versionText : String :=
  "notifier-schema 0.1.0\n"

/-- What the program is for, and how it is called. -/
def usageHeader : String :=
  "Validate and export alert receiver configurations\n\n" ++
    "Usage: notifier-schema [OPTIONS]\n\n" ++
    "Options:\n"

/-- What the environment says of an option. -/
def environmentNote
    (name : String)
    (value? : Option String) :
    String :=
  "[env: " ++ name ++ "=" ++ value?.getD "" ++ "]"

namespace Environment

/-- The note on the path of the document. -/
def configNote (environment : Environment) : String :=
  environmentNote "NOTIFIER_SCHEMA_CONFIG" environment.config?

/-- The note on the format of log entries. -/
def logFormatNote (environment : Environment) : String :=
  environmentNote "LOG_FORMAT" environment.logFormat?

end Environment

/-- What is printed if brief help is asked for. -/
def briefHelp (environment : Environment) : String :=
  usageHeader ++
    "  -c, --config <CONFIG>          Receivers document to read " ++
    environment.configNote ++ " [default: " ++ defaultConfig ++ "]\n" ++
    "      --validate                 Only report whether every receiver decodes; " ++
    "print nothing else\n" ++
    "      --log-format <LOG_FORMAT>  " ++
    environment.logFormatNote ++ " [default: text] [possible values: text, json]\n" ++
    "  -o, --output <OUTPUT>          Export format. " ++
    "Has no meaning together with --validate [default: yaml] [possible values: yaml, json]\n" ++
    "  -h, --help                     Print help (see more with '--help')\n" ++
    "  -V, --version                  Print version\n"

/-- What is printed if full help is asked for.  The line between a text and its notes
is as far indented as they are. -/
def fullHelp (environment : Environment) : String :=
  usageHeader ++
    "  -c, --config <CONFIG>\n" ++
    "          Receivers document to read\n" ++
    "          \n" ++
    "          " ++ environment.configNote ++ "\n" ++
    "          [default: " ++ defaultConfig ++ "]\n\n" ++
    "      --validate\n" ++
    "          Only report whether every receiver decodes; print nothing else\n\n" ++
    "      --log-format <LOG_FORMAT>\n" ++
    "          " ++ environment.logFormatNote ++ "\n" ++
    "          [default: text]\n\n" ++
    "          Possible values:\n" ++
    "          - text\n" ++
    "          - json: One JSON object per event, for log shippers\n\n" ++
    "  -o, --output <OUTPUT>\n" ++
    "          Export format. Has no meaning together with --validate\n" ++
    "          \n" ++
    "          [default: yaml]\n" ++
    "          [possible values: yaml, json]\n\n" ++
    "  -h, --help\n" ++
    "          Print help (see a summary with '-h')\n\n" ++
    "  -V, --version\n" ++
    "          Print version\n"

/-- What is told of arguments that cannot be followed. -/
def UsageError.message : UsageError → String
  | .unknownArgument =>
      "unexpected argument found"
  | .invalidValue =>
      "invalid value for an option"
  | .argumentConflict =>
      "an option cannot be used together with another one, or twice"
  | .tooManyValues =>
      "unexpected value for an option that takes none"
  | .briefHelp | .fullHelp =>
      "help was asked for"
  | .version =>
      "the version was asked for"

end AlertReceivers.Command
