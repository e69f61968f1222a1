namespace AlertReceivers.Yaml

/-!
# Characters of YAML texts

The classes of characters that the grammar of YAML speaks of.
-/

/-- Whether a character ends a line. -/
def isBreak (char : Char) : Bool :=
  char == '\n' || char == '\r' || char == '\x85' || char == '\u2028' || char == '\u2029'

/-- Whether a character is the space. -/
def isSpace (char : Char) : Bool :=
  char == ' '

/-- Whether a character is a blank. -/
def isBlank (char : Char) : Bool :=
  char == ' ' || char == '\t'

/-- Whether a character is a blank or ends a line. -/
def isWhite (char : Char) : Bool :=
  isBlank char || isBreak char

/-- Whether a character separates words. -/
def isSeparator (char : Char) : Bool :=
  isWhite char || char == '\x00'

/-- Whether a character may stand in a name. -/
def isNameChar (char : Char) : Bool :=
  char.isAlphanum || char == '-' || char == '_'

/-- Whether a word ends here. -/
def endsWord : List Char → Bool
  | [] =>
      true
  | char :: _ =>
      isSeparator char

/-- Whether a document starts or ends here, if this is the start of a line. -/
def startsBoundary : List Char → Bool
  | '-' :: '-' :: '-' :: rest =>
      endsWord rest
  | '.' :: '.' :: '.' :: rest =>
      endsWord rest
  | _ =>
      false

/-- A break as it counts in a text: most breaks are one, but the separators of
lines and paragraphs stay what they are. -/
def normalBreak (char : Char) : Char :=
  if char = '\u2028' ∨ char = '\u2029' then char else '\n'

/-- The breaks in a text. -/
def lineBreaks : List Char → List Char
  | '\r' :: '\n' :: rest =>
      '\n' :: lineBreaks rest
  | char :: rest =>
      if isBreak char then normalBreak char :: lineBreaks rest else lineBreaks rest
  | [] =>
      []

/-- Breaks between two words of one scalar.  A single break is a space, and the
first of several is dropped. -/
def foldBreaks : List Char → List Char
  | [] =>
      []
  | first :: more =>
      if first = '\n' then
        if more.isEmpty then [' '] else more
      else
        first :: more

/-- What white space between two words of one scalar stands for.  Blanks count only
if there is no break. -/
def foldWhite (white : List Char) : List Char :=
  if white.any isBreak then foldBreaks (lineBreaks white) else white

/-- The ranges of characters that may stand in a document. -/
def allowedRanges : List (Nat × Nat) :=
  [(0x0009, 0x000A), (0x000D, 0x000D), (0x0020, 0x007E), (0x0085, 0x0085), (0x00A0, 0xD7FF),
   (0xE000, 0xFFFD), (0x10000, 0x10FFFF)]

end AlertReceivers.Yaml
