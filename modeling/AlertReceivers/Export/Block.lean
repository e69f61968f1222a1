import AlertReceivers.Export.Basic
import AlertReceivers.Export.Style

namespace AlertReceivers.Export

open Yaml (isBreak isSpace)

/-!
# YAML exports

An export is written as a YAML document in block form: each entry on a line of its
own, and the entries of an inner table indented by two more blanks.  A key that is
long or has several lines stands after a question mark.
-/

/-- Where a line stands. -/
inductive Cursor where
  | lineStart
  /-- After something on the line. -/
  | midLine
  /-- After a mark that stands one blank before the wanted column. -/
  | afterMark
  deriving Repr, DecidableEq

namespace Cursor

/-- Move to a column. -/
def moveTo
    (cursor : Cursor)
    (indent : Nat) :
    List Char :=
  match cursor with
  | .lineStart =>
      List.replicate indent ' '
  | .midLine =>
      '\n' :: List.replicate indent ' '
  | .afterMark =>
      [' ']

end Cursor

/-- A part of a document and where it ends. -/
structure Written where
  chars : List Char
  cursor : Cursor

/-- A character between single quotes. -/
def escapeSingle (char : Char) : List Char :=
  if char = '\'' then ['\'', '\''] else [char]

/-- Write characters line by line.  Before the first character of each line that is
not empty stand the blanks of the indent. -/
def writeLines
    (indent : Nat)
    (write : Char → List Char)
    (startsLine : Bool) :
    List Char → List Char
  | [] =>
      []
  | char :: rest =>
      if isBreak char then
        char :: writeLines indent write true rest
      else
        (if startsLine then List.replicate indent ' ' else []) ++ write char ++
          writeLines indent write false rest

/-- Whether a text ends with a break. -/
def endsLine (chars : List Char) : Bool :=
  chars.getLast?.any isBreak

/-- A text between single quotes. -/
def singleQuotedChars (indent : Nat) (chars : List Char) : List Char :=
  ['\''] ++ writeLines indent escapeSingle false chars ++
    (if endsLine chars then List.replicate indent ' ' else []) ++ ['\'']

/-- The digits of a code point with base sixteen, filled up with zeros. -/
def hexDigits (width : Nat) (char : Char) : List Char :=
  let shown := (Nat.toDigits 16 char.toNat).map Char.toUpper
  List.replicate (width - shown.length) '0' ++ shown

/-- A character between double quotes. -/
def escapeDouble (char : Char) : List Char :=
  match char with
  | '\x00' =>
      ['\\', '0']
  | '\x07' =>
      ['\\', 'a']
  | '\x08' =>
      ['\\', 'b']
  | '\t' =>
      ['\\', 't']
  | '\n' =>
      ['\\', 'n']
  | '\x0b' =>
      ['\\', 'v']
  | '\x0c' =>
      ['\\', 'f']
  | '\r' =>
      ['\\', 'r']
  | '\x1b' =>
      ['\\', 'e']
  | '"' =>
      ['\\', '"']
  | '\\' =>
      ['\\', '\\']
  | '\x85' =>
      ['\\', 'N']
  | '\u2028' =>
      ['\\', 'L']
  | '\u2029' =>
      ['\\', 'P']
  | _ =>
      if isOpen char then
        [char]
      else if char.toNat < 0x100 then
        ['\\', 'x'] ++ hexDigits 2 char
      else
        ['\\', 'u'] ++ hexDigits 4 char

/-- A text between double quotes. -/
def doubleQuotedChars (chars : List Char) : List Char :=
  ['"'] ++ chars.flatMap escapeDouble ++ ['"']

/-- How deep a text over several lines is indented, if its first line does not
show that. -/
def indentHint (chars : List Char) : List Char :=
  if chars.head?.any fun char => isSpace char || isBreak char then ['2'] else []

/-- How many breaks at the end of a text over several lines belong to it: none, one,
or all. -/
def breaksHint (chars : List Char) : List Char :=
  match chars.reverse with
  | [] =>
      ['-']
  | [last] =>
      if isBreak last then ['+'] else ['-']
  | last :: former :: _ =>
      if isBreak last then
        if isBreak former then ['+'] else []
      else
        ['-']

/-- A text over several lines. -/
def literalWritten (indent : Nat) (chars : List Char) : Written where
  chars :=
    ['|'] ++ indentHint chars ++ breaksHint chars ++ ['\n'] ++ writeLines indent ([·]) true chars
  cursor :=
    if endsLine chars then .lineStart else .midLine

/-- A text whose further lines are indented. -/
def textWritten (indent : Nat) (value : String) : Written :=
  match styleOf value.toList with
  | .plain =>
      ⟨value.toList, .midLine⟩
  | .singleQuoted =>
      ⟨singleQuotedChars indent value.toList, .midLine⟩
  | .doubleQuoted =>
      ⟨doubleQuotedChars value.toList, .midLine⟩
  | .literal =>
      literalWritten indent value.toList

/-- The greatest number of bytes of a key that stands before its colon without a
question mark. -/
def simpleKeyBytes : Nat :=
  128

/-- Whether a key stands before its colon without a question mark. -/
def isSimpleKey (key : String) : Bool :=
  !key.toList.any isBreak && key.utf8ByteSize ≤ simpleKeyBytes

/-- A key and its colon at an indent. -/
def keyWritten
    (indent : Nat)
    (cursor : Cursor)
    (key : String) :
    List Char :=
  if isSimpleKey key then
    cursor.moveTo indent ++ (textWritten (indent + 2) key).chars ++ [':']
  else
    let written := textWritten (indent + 2) key
    cursor.moveTo indent ++ ['?', ' '] ++ written.chars ++ written.cursor.moveTo indent ++ [':']

mutual

/-- The value of a key at an indent.  After a question mark the first entry of an
inner table stands on the line of the colon. -/
def valueWritten
    (indent : Nat)
    (key : String) :
    Export → Written
  | .flag on =>
      ⟨if on then " true".toList else " false".toList, .midLine⟩
  | .text value =>
      let written := textWritten (indent + 2) value
      ⟨' ' :: written.chars, written.cursor⟩
  | .table [] =>
      ⟨[' ', '\x7b', '\x7d'], .midLine⟩
  | .table (entry :: rest) =>
      entriesWritten (indent + 2) (if isSimpleKey key then .midLine else .afterMark)
        (entry :: rest)

/-- Entries at an indent. -/
def entriesWritten
    (indent : Nat)
    (cursor : Cursor) :
    List (String × Export) → Written
  | [] =>
      ⟨[], cursor⟩
  | (key, value) :: rest =>
      let first := valueWritten indent key value
      let others := entriesWritten indent first.cursor rest
      ⟨keyWritten indent cursor key ++ first.chars ++ others.chars, others.cursor⟩

end

/-- An export as a YAML document. -/
def yaml (tree : Export) : String :=
  match tree with
  | .flag on =>
      if on then "true\n" else "false\n"
  | .text value =>
      let written := textWritten 2 value
      String.ofList (written.chars ++ written.cursor.moveTo 0)
  | .table [] =>
      "\x7b\x7d\n"
  | .table (entry :: rest) =>
      let written := entriesWritten 0 .lineStart (entry :: rest)
      String.ofList (written.chars ++ written.cursor.moveTo 0)

end AlertReceivers.Export
