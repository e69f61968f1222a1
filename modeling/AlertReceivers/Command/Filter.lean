import AlertReceivers.Command.Log
import AlertReceivers.Decimal.Digits
import AlertReceivers.Text.Alphanumeric
import AlertReceivers.Text.Blank

namespace AlertReceivers.Command

/-!
# Log filters

A filter is a list of directives between commas: `part=level`, `part[{value}]=level`,
a part alone or a level alone.  A directive names a part of the program, a value that
an entry must have, and the least important level that is wanted.  Of all directives
that fit an entry the most specific one counts; every entry that no directive fits is
logged up to the level of information.  Directives that cannot be read are left out,
and those about stretches of work, which this program has none of, have no effect.
-/

/-- A directive for entries. -/
structure Directive where
  /-- The start of the names of the parts it is for. -/
  target : String
  /-- The name of a value that the entries have. -/
  value? : Option String
  /-- The greatest rank of a level that is wanted. -/
  rank : Nat
  deriving Repr, DecidableEq

/-- Why a text is no directive. -/
inductive DirectiveError where
  | malformed
  | unknownLevel
  deriving Repr, DecidableEq

/-- The message of a text that is no directive. -/
def DirectiveError.message : DirectiveError → String
  | .malformed =>
      "invalid filter directive"
  | .unknownLevel =>
      "error parsing level filter: expected one of \"off\", \"error\", \"warn\", \"info\", " ++
        "\"debug\", \"trace\", or a number 0-5"

/-- A text with ASCII letters in lower case. -/
def lowerCase (chars : List Char) : List Char :=
  chars.map Char.toLower

/-- The names of levels, with their ranks.  Rank zero is for no entries at all. -/
def levelNames : List (String × Nat) :=
  [("off", 0), ("error", 1), ("warn", 2), ("info", 3), ("debug", 4), ("trace", 5)]

/-- The rank that digits after an optional plus give. -/
def numberedRank? : List Char → Option Nat
  | '+' :: digits =>
      (Decimal.read? 10 digits).filter (· ≤ Level.trace.rank)
  | digits =>
      (Decimal.read? 10 digits).filter (· ≤ Level.trace.rank)

/-- The rank that a text names. -/
def rankOf? (chars : List Char) : Option Nat :=
  match numberedRank? chars with
  | some rank =>
      some rank
  | none =>
      levelNames.lookup (String.ofList (lowerCase chars))

namespace Directive

/-- The directive for the whole program. -/
def general : Directive :=
  ⟨"", none, Level.info.rank⟩

/-- The rank that the text after an equals sign asks for.  If there is none, all
entries are wanted. -/
def readRank (chars : List Char) : Except DirectiveError Nat :=
  if chars.isEmpty then
    .ok Level.trace.rank
  else
    match rankOf? chars with
    | some rank =>
        .ok rank
    | none =>
        .error .unknownLevel

/-- Part of a text, from one position up to another. -/
def cut (whole : List Char) (start stop : Nat) : List Char :=
  (whole.drop start).take (stop - start)

/-- Read what comes after the part and the conditions of a directive. -/
def readTail
    (whole : List Char)
    (position : Nat) :
    List Char → Except DirectiveError Nat
  | [] =>
      .ok Level.trace.rank
  | '=' :: _ =>
      readRank (whole.drop (position + 1))
  | _ =>
      .error .malformed

/-- Whether a character ends the name of a stretch of work. -/
def endsSpanName (char : Char) : Bool :=
  char == ']' || char == '\x7b'

/-- Read the conditions of a directive after the opening bracket.  Only one that asks
for the name of a value and for nothing else is for entries. -/
def readConditions
    (whole : List Char)
    (target : String)
    (position : Nat)
    (rest : List Char) :
    Except DirectiveError (Option Directive) :=
  let name := rest.takeWhile fun char => !endsSpanName char
  let nameEnd := position + name.length
  match rest.dropWhile fun char => !endsSpanName char with
  | ']' :: after => do
      let _ ← readTail whole (nameEnd + 1) after
      .ok none
  | _ :: inner =>
      let shown := inner.takeWhile (· != '\x7d')
      let valueEnd := nameEnd + 1 + shown.length
      let value := cut whole (nameEnd + 1) valueEnd
      match inner.dropWhile (· != '\x7d') with
      | _ :: ']' :: after =>
          if value.isEmpty then
            .error .malformed
          else do
            let rank ← readTail whole (valueEnd + 2) after
            if nameEnd = position && !value.contains '=' then
              .ok (some ⟨target, some (String.ofList value), rank⟩)
            else
              .ok none
      | _ =>
          .error .malformed
  | [] =>
      .error .malformed

/-- Whether a directive may start with a character. -/
def startsName (char : Char) : Bool :=
  ['-', ':', '_'].contains char || Text.isAlphanumeric char

/-- Whether a character ends the name of a part of the program. -/
def endsTarget (char : Char) : Bool :=
  char == '=' || char == '['

/-- Read a directive that starts with a name.  A name alone that is no level asks for
all entries of a part. -/
def readNamed
    (whole rest : List Char) :
    Except DirectiveError (Option Directive) :=
  let length := (rest.takeWhile fun char => !endsTarget char).length
  let target := String.ofList (whole.take length)
  match rest.dropWhile fun char => !endsTarget char with
  | [] =>
      match rankOf? whole with
      | some rank =>
          .ok (some ⟨"", none, rank⟩)
      | none =>
          .ok (some ⟨String.ofList whole, none, Level.trace.rank⟩)
  | '=' :: _ => do
      let rank ← readRank (whole.drop (length + 1))
      .ok (some ⟨target, none, rank⟩)
  | _ :: conditions =>
      readConditions whole target (length + 1) conditions

/-- Read a directive.  White space around it is passed over, but the positions of its
parts are counted from the start of the whole text. -/
def read (whole : List Char) : Except DirectiveError (Option Directive) :=
  match Text.trim whole with
  | [] =>
      .error .malformed
  | '[' :: conditions =>
      readConditions whole "" 1 conditions
  | char :: rest =>
      if startsName char then readNamed whole (char :: rest) else .error .malformed

/-- Whether a directive is for an entry.  Its message counts as a value. -/
def fits (directive : Directive) (entry : LogEntry) : Bool :=
  directive.target.toList.isPrefixOf entry.target.toList &&
    directive.value?.all fun name =>
      name == "message" || entry.values.any fun value => value.1 == name

/-- Whether the second of two directives that fit one entry is as specific as the
first: it names a longer part, or the same part and a value, or a later value. -/
def yieldsTo (first second : Directive) : Bool :=
  if first.target.length = second.target.length then
    match first.value?, second.value? with
    | none, _ =>
        true
    | some _, none =>
        false
    | some firstName, some secondName =>
        firstName ≤ secondName
  else
    first.target.length < second.target.length

/-- The more specific of two directives, or the second one. -/
def moreSpecific (first second : Directive) : Directive :=
  if first.yieldsTo second then second else first

end Directive

/-- The texts of the directives of a filter. -/
def directiveTexts (filter : String) : List String :=
  (filter.splitOn ",").filter fun text => !text.isEmpty

/-- The directives of a filter that are for entries.  What a filter says of the whole
program yields to the general directive. -/
def directivesOf (filter : String) : List Directive :=
  (directiveTexts filter).filterMap fun text =>
    match Directive.read text.toList with
    | .ok directive? =>
        directive?
    | .error _ =>
        none

/-- The directive that counts for an entry. -/
def deciding (directives : List Directive) (entry : LogEntry) : Directive :=
  ((directives ++ [Directive.general]).filter fun directive => directive.fits entry).foldl
    Directive.moreSpecific Directive.general

/-- Whether a filter lets an entry pass. -/
def passes
    (filter? : Option String)
    (entry : LogEntry) :
    Bool :=
  entry.level.rank ≤ (deciding (directivesOf (filter?.getD "")) entry).rank

/-- What is told of a directive that cannot be read. -/
def notice? (text : String) : Option String :=
  match Directive.read text.toList with
  | .ok _ =>
      none
  | .error error =>
      some ("ignoring `" ++ text ++ "`: " ++ error.message)

/-- What is told of the directives of a filter that cannot be read. -/
def filterNotices (filter? : Option String) : List String :=
  (directiveTexts (filter?.getD "")).filterMap notice?

end AlertReceivers.Command
