import AlertReceivers.Command.Options
import AlertReceivers.Export.Json
import AlertReceivers.Text.Quoted

namespace AlertReceivers.Command

/-!
# Log entries

What the program tells of its work.  Entries have a level, the part of the program
they come from, a message and named values.
-/

/-- How important an entry is. -/
inductive Level where
  | error
  | warning
  | info
  | debug
  | trace
  deriving Repr, DecidableEq

namespace Level

/-- The name of a level. -/
def name : Level → String
  | .error =>
      "ERROR"
  | .warning =>
      "WARN"
  | .info =>
      "INFO"
  | .debug =>
      "DEBUG"
  | .trace =>
      "TRACE"

/-- The number of levels up to this one, from the most important one on. -/
def rank : Level → Nat
  | .error =>
      1
  | .warning =>
      2
  | .info =>
      3
  | .debug =>
      4
  | .trace =>
      5

end Level

/-- A named value of an entry. -/
inductive LogValue where
  /-- A text that is shown as it is. -/
  | shown (text : String)
  /-- A text that is shown between quotes. -/
  | quoted (text : String)
  | count (number : Nat)
  deriving Repr, DecidableEq

/-- A log entry. -/
structure LogEntry where
  level : Level
  /-- The part of the program. -/
  target : String
  message : String
  values : List (String × LogValue)
  deriving Repr, DecidableEq

namespace LogValue

/-- A value in a line of text. -/
def text : LogValue → String
  | .shown text =>
      text
  | .quoted text =>
      Text.quoted text
  | .count number =>
      toString number

/-- A value in a JSON object. -/
def json : LogValue → String
  | .shown text =>
      String.ofList (Export.jsonQuoted text)
  | .quoted text =>
      String.ofList (Export.jsonQuoted text)
  | .count number =>
      toString number

end LogValue

namespace LogEntry

/-- An entry as a line of text.  Levels are right-aligned. -/
def text (entry : LogEntry) : String :=
  String.ofList (List.replicate (5 - entry.level.name.length) ' ') ++ entry.level.name ++ " " ++
    entry.target ++ ": " ++ entry.message ++
    String.join (entry.values.map fun value => " " ++ value.1 ++ "=" ++ value.2.text)

/-- A member of a JSON object. -/
def member (name value : String) : String :=
  String.ofList (Export.jsonQuoted name) ++ ":" ++ value

/-- An entry as a JSON object. -/
def json (entry : LogEntry) : String :=
  "\x7b" ++
    ",".intercalate
      ([member "level" (LogValue.shown entry.level.name).json,
        member "message" (LogValue.shown entry.message).json] ++
        (entry.values.map fun value => member value.1 value.2.json) ++
        [member "target" (LogValue.shown entry.target).json]) ++
    "\x7d"

/-- An entry as it is written. -/
def render (entry : LogEntry) : LogFormat → String
  | .text =>
      entry.text
  | .json =>
      entry.json

end LogEntry

end AlertReceivers.Command
