import AlertReceivers.Text.Ranges
import AlertReceivers.Yaml.Character
import AlertReceivers.Yaml.Plain

namespace AlertReceivers.Export

open Yaml (isBreak isSpace isSeparator endsWord)

/-!
# Styles of texts

How a text is written in a YAML document, so that it reads back as the same text:
plain where that is possible, otherwise between single quotes, over several lines,
or between double quotes.
-/

/-- A way of writing a text. -/
inductive Style where
  | plain
  | singleQuoted
  | doubleQuoted
  | literal
  deriving Repr, DecidableEq

/-- The ranges of characters that need no escape. -/
def openRanges : List (Nat × Nat) :=
  [(0x000A, 0x000A), (0x0020, 0x007E), (0x00A0, 0xD7FF), (0xE000, 0xFEFE), (0xFF00, 0xFFFD),
   (0x10000, 0x10FFFF)]

/-- Whether a character needs no escape. -/
def isOpen (char : Char) : Bool :=
  Text.inRanges openRanges char.toNat

/-- Whether a character of one class stands right before one of another class. -/
def hasAdjacent (first second : Char → Bool) : List Char → Bool
  | char :: next :: rest =>
      (first char && second next) || hasAdjacent first second (next :: rest)
  | _ =>
      false

/-- The characters that have a meaning in front of a scalar. -/
def leadingMarks : List Char :=
  ['#', ',', '[', ']', '\x7b', '\x7d', '&', '*', '!', '|', '>', '\'', '"', '%', '@', '\x60']

/-- The characters that have a meaning in front of a scalar if a word ends after
them. -/
def leadingWordMarks : List Char :=
  ['?', ':', '-']

/-- Whether a text starts like something else than a plain scalar. -/
def startsMarked : List Char → Bool
  | [] =>
      false
  | char :: rest =>
      leadingMarks.contains char || (leadingWordMarks.contains char && endsWord rest)

/-- Whether a text starts like a boundary of documents. -/
def startsLikeBoundary : List Char → Bool
  | '-' :: '-' :: '-' :: _ =>
      true
  | '.' :: '.' :: '.' :: _ =>
      true
  | _ =>
      false

/-- Whether a colon ends a word, or a hash starts one. -/
def hasInnerMark (chars : List Char) : Bool :=
  hasAdjacent (· == ':') isSeparator chars || chars.getLast? == some ':' ||
    hasAdjacent isSeparator (· == '#') chars

/-- Whether a text starts or ends with a character of a class. -/
def hasAtEdge (chars : List Char) (matching : Char → Bool) : Bool :=
  chars.head?.any matching || chars.getLast?.any matching

/-- Whether a text has characters, or spaces before breaks, that only double quotes
keep. -/
def needsEscapes (chars : List Char) : Bool :=
  chars.any (fun char => !isOpen char) || hasAdjacent isSpace isBreak chars

/-- Whether a text can be written plain. -/
def allowsPlain (chars : List Char) : Bool :=
  !(startsLikeBoundary chars || startsMarked chars || hasInnerMark chars ||
    hasAtEdge chars isSpace || chars.any isBreak || needsEscapes chars)

/-- Whether a text can be written between single quotes. -/
def allowsSingleQuotes (chars : List Char) : Bool :=
  !(hasAdjacent isBreak isSpace chars || needsEscapes chars)

/-- Whether a text can be written over several lines. -/
def allowsLiteral (chars : List Char) : Bool :=
  !(chars.getLast?.any isSpace || needsEscapes chars)

/-- Whether a plain scalar of these characters is no text, or looks like a
number. -/
def readsOtherwise (chars : List Char) : Bool :=
  Yaml.Plain.read chars != .text || Yaml.Plain.hasIdleZero chars

/-- The style of a text. -/
def styleOf (chars : List Char) : Style :=
  if chars.contains '\n' then
    if allowsLiteral chars then .literal else .doubleQuoted
  else if allowsPlain chars && !readsOtherwise chars then
    .plain
  else if allowsSingleQuotes chars then
    .singleQuoted
  else
    .doubleQuoted

end AlertReceivers.Export
