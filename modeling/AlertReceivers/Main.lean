import AlertReceivers.Command.Run

namespace AlertReceivers.Command

/-!
# The program

Reads the environment and the document, and hands out what a run leaves behind: its
output, its log entries on the error stream, and its exit code.
-/

/-- The number of a system error, which some calls report with a minus sign. -/
def systemNumber (code : UInt32) : UInt32 :=
  if code < 2147483648 then code else 0 - code

/-- The message of the system with its number. -/
def systemMessage
    (code : UInt32)
    (details : String) :
    String :=
  details.capitalize ++ " (os error " ++ toString (systemNumber code) ++ ")"

/-- Why the system did not do what it was asked for. -/
def failureMessage : IO.Error → String
  | .alreadyExists _ code details | .invalidArgument _ code details
  | .permissionDenied _ code details | .resourceExhausted _ code details
  | .inappropriateType _ code details | .noSuchThing _ code details
  | .interrupted _ code details | .noFileOrDirectory _ code details =>
      systemMessage code details
  | .otherError code details | .resourceBusy code details
  | .resourceVanished code details | .unsupportedOperation code details
  | .hardwareFault code details | .unsatisfiedConstraints code details
  | .illegalOperation code details | .protocolError code details
  | .timeExpired code details =>
      systemMessage code details
  | .unexpectedEof =>
      "unexpected end of file"
  | .userError message =>
      message

/-- The text of bytes. -/
def decodedText (bytes : ByteArray) : Except String String :=
  match String.fromUTF8? bytes with
  | some text =>
      .ok text
  | none =>
      .error "stream did not contain valid UTF-8"

/-- The content of a file, or the reason why there is none. -/
def fileContent (path : String) : BaseIO (Except String String) := do
  match ← (IO.FS.readBinFile path).toBaseIO with
  | .ok bytes =>
      return decodedText bytes
  | .error failure =>
      return .error (failureMessage failure)

/-- The environment of the program. -/
def currentEnvironment : BaseIO Environment := do
  return {
    config? := ← IO.getEnv "NOTIFIER_SCHEMA_CONFIG"
    logFormat? := ← IO.getEnv "LOG_FORMAT"
    logFilter? := ← IO.getEnv "RUST_LOG" }

/-- Print what a run leaves behind, and tell its exit code. -/
def Result.report
    (result : Result)
    (format : LogFormat) :
    IO UInt32 := do
  for notice in result.notices do
    IO.eprintln notice
  for entry in result.log do
    IO.eprintln (entry.render format)
  IO.print result.output
  return result.exitCode

end AlertReceivers.Command

open AlertReceivers.Command

/-- The program. -/
def main (arguments : List String) : IO UInt32 := do
  let environment ← currentEnvironment
  match Options.read environment arguments with
  | .ok options => do
      let content ← fileContent options.config
      (run environment options content).report options.logFormat
  | .error error => do
      let result := runUsage environment error
      if result.exitCode ≠ 0 then
        IO.eprintln ("error: " ++ error.message)
      result.report .text
