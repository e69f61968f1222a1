import AlertReceivers.Text.Ranges
import AlertReceivers.Yaml.Directive
import AlertReceivers.Yaml.Scalar.Block
import AlertReceivers.Yaml.Scalar.Quoted
import AlertReceivers.Yaml.Scalar.Words

namespace AlertReceivers.Yaml

/-!
# Tokens of a text

A text is cut into tokens from left to right.  Blocks start and end by indentation.
A key in front of a colon is known as one only when the colon is reached, so the
tokens that announce it are put in front of it then.
-/

/-- The start of what may turn out to be a key. -/
structure KeyStart where
  /-- The number of tokens before it. -/
  number : Nat
  mark : Mark
  /-- Whether nothing but a key may stand there. -/
  required : Bool
  deriving Repr, DecidableEq

/-- The state between two tokens. -/
structure Lexer where
  source : Source
  /-- The tokens so far, the last one first. -/
  tokens : List Token
  /-- The number of tokens so far. -/
  count : Nat
  /-- Whether a key may start here. -/
  keyAllowed : Bool
  /-- The possible key between the innermost brackets. -/
  key : Option KeyStart
  /-- The possible keys between outer brackets and outside of all. -/
  outerKeys : List (Option KeyStart)
  /-- The column of the innermost block, or one less than zero outside of all. -/
  indent : Int
  /-- The columns of outer blocks. -/
  outerIndents : List Int
  deriving Repr

namespace Lexer

/-- The state before the first token. -/
def start (chars : List Char) : Lexer where
  source :=
    ⟨.start, chars⟩
  tokens :=
    []
  count :=
    0
  keyAllowed :=
    true
  key :=
    none
  outerKeys :=
    []
  indent :=
    -1
  outerIndents :=
    []

/-- Whether the source is between brackets. -/
def inFlow (lexer : Lexer) : Bool :=
  !lexer.outerKeys.isEmpty

/-- The column of the source. -/
def column (lexer : Lexer) : Nat :=
  lexer.source.mark.column

/-- Add a token at the end. -/
def emit (lexer : Lexer) (token : Token) : Lexer :=
  { lexer with tokens := token :: lexer.tokens, count := lexer.count + 1 }

/-- Put a token in front of those after the first few. -/
def emitAt
    (lexer : Lexer)
    (number : Nat)
    (token : Token) :
    Lexer :=
  let later := lexer.count - number
  { lexer with
    tokens := lexer.tokens.take later ++ token :: lexer.tokens.drop later
    count := lexer.count + 1 }

/-- Add a token that ends where another source starts, and go there. -/
def emitTo
    (lexer : Lexer)
    (kind : TokenKind)
    (next : Source) :
    Lexer :=
  { lexer.emit ⟨kind, lexer.source.mark, next.mark⟩ with source := next }

/-- Add a token of some characters. -/
def emitMark
    (lexer : Lexer)
    (kind : TokenKind)
    (width : Nat) :
    Lexer :=
  lexer.emitTo kind (lexer.source.skip width)

/-- A key starts on the line of its colon and at most this many bytes before it. -/
def longestKey : Nat :=
  1024

/-- Give up a possible key that ended too long ago.  A required key may not be given
up. -/
def dropStale
    (mark : Mark) :
    Option KeyStart → Option (Option KeyStart)
  | none =>
      some none
  | some key =>
      if key.mark.line < mark.line ∨ key.mark.offset + longestKey < mark.offset then
        if key.required then none else some none
      else
        some (some key)

/-- Give up all possible keys that ended too long ago. -/
def dropStaleKeys (lexer : Lexer) : Option Lexer := do
  let key ← dropStale lexer.source.mark lexer.key
  let outerKeys ← lexer.outerKeys.mapM (dropStale lexer.source.mark)
  some { lexer with key, outerKeys }

/-- Give up the innermost possible key. -/
def removeKey (lexer : Lexer) : Option Lexer :=
  match lexer.key with
  | some key =>
      if key.required then none else some { lexer with key := none }
  | none =>
      some lexer

/-- Note that a key may start here. -/
def saveKey (lexer : Lexer) : Option Lexer :=
  if lexer.keyAllowed then do
    let cleared ← lexer.removeKey
    some {
      cleared with
      key := some {
        number := lexer.count
        mark := lexer.source.mark
        required := !lexer.inFlow && lexer.indent == lexer.column } }
  else
    some lexer

/-- The number of blocks that end at a column, and the blocks that are left. -/
def unwind (column : Int) : Int → List Int → Nat × Int × List Int
  | indent, [] =>
      (0, indent, [])
  | indent, outer :: rest =>
      if column < indent then
        let (count, left) := unwind column outer rest
        (count + 1, left)
      else
        (0, indent, outer :: rest)

/-- End the blocks that are indented more than a column. -/
def closeBlocks (lexer : Lexer) (column : Int) : Lexer :=
  if lexer.inFlow then
    lexer
  else
    let (count, indent, outerIndents) := unwind column lexer.indent lexer.outerIndents
    let token : Token := ⟨.blockEnd, lexer.source.mark, lexer.source.mark⟩
    { lexer with
      tokens := List.replicate count token ++ lexer.tokens
      count := lexer.count + count
      indent
      outerIndents }

/-- Start a block if a column is more indented than the innermost one. -/
def openBlock
    (lexer : Lexer)
    (column number : Nat)
    (kind : TokenKind)
    (mark : Mark) :
    Lexer :=
  if !lexer.inFlow && lexer.indent < column then
    { lexer.emitAt number ⟨kind, mark, mark⟩ with
      indent := column
      outerIndents := lexer.indent :: lexer.outerIndents }
  else
    lexer

/-- The mark that tells the order of the bytes of a text. -/
def byteOrderMark : Char :=
  '\ufeff'

/-- Pass over blanks, comments and breaks.  Where a key may start, tabs are no
blanks.  A byte order mark may stand at the start of any line, and a key may start on
every new line outside brackets. -/
def passWhite
    (inFlow : Bool)
    (keyAllowed inComment : Bool)
    (mark : Mark) :
    List Char → Bool × Source
  | '\r' :: '\n' :: rest =>
      passWhite inFlow (keyAllowed || !inFlow) false (mark.down 2) rest
  | char :: rest =>
      if isBreak char then
        passWhite inFlow (keyAllowed || !inFlow) false (mark.down char.utf8Size) rest
      else if inComment || isSpace char || (char == '\t' && (inFlow || !keyAllowed)) ||
          (mark.column == 0 && char == byteOrderMark) then
        passWhite inFlow keyAllowed inComment (mark.pass char) rest
      else if char = '#' then
        passWhite inFlow keyAllowed true (mark.pass char) rest
      else
        (keyAllowed, ⟨mark, char :: rest⟩)
  | [] =>
      (keyAllowed, ⟨mark, []⟩)

/-- Go to the start of the next token. -/
def approach (lexer : Lexer) : Option Lexer := do
  let (keyAllowed, source) :=
    passWhite lexer.inFlow lexer.keyAllowed false lexer.source.mark lexer.source.rest
  let ready ← { lexer with source, keyAllowed }.dropStaleKeys
  some (ready.closeBlocks source.mark.column)

/-- Add the token at the end of the text, which counts as the end of a line. -/
def finish (lexer : Lexer) : Option Lexer := do
  let mark :=
    if lexer.column = 0 then lexer.source.mark else lexer.source.mark.down 0
  let closed := { lexer with source := ⟨mark, []⟩ }.closeBlocks (-1)
  let ended ← closed.removeKey
  some (ended.emitMark .streamEnd 0)

/-- End all blocks in front of a directive or a boundary. -/
def leaveBlocks (lexer : Lexer) : Option Lexer := do
  let left ← (lexer.closeBlocks (-1)).removeKey
  some { left with keyAllowed := false }

/-- Add a directive. -/
def addDirective (lexer : Lexer) : Option Lexer := do
  let left ← lexer.leaveBlocks
  let (kind, next) ← readDirective? left.source
  some (left.emitTo kind next)

/-- Add the boundary of a document. -/
def addBoundary (lexer : Lexer) (kind : TokenKind) : Option Lexer := do
  let left ← lexer.leaveBlocks
  some (left.emitMark kind 3)

/-- Add an opening bracket. -/
def openFlow (lexer : Lexer) (kind : TokenKind) : Option Lexer := do
  let saved ← lexer.saveKey
  some
    ({ saved with
        key := none
        outerKeys := saved.key :: saved.outerKeys
        keyAllowed := true }.emitMark kind 1)

/-- Add a closing bracket. -/
def closeFlow (lexer : Lexer) (kind : TokenKind) : Option Lexer := do
  let cleared ← lexer.removeKey
  let left :=
    match cleared.outerKeys with
    | key :: outerKeys =>
        { cleared with key, outerKeys }
    | [] =>
        cleared
  some ({ left with keyAllowed := false }.emitMark kind 1)

/-- Add a comma between brackets. -/
def addFlowEntry (lexer : Lexer) : Option Lexer := do
  let cleared ← lexer.removeKey
  some ({ cleared with keyAllowed := true }.emitMark .flowEntry 1)

/-- Add the dash of an entry. -/
def addBlockEntry (lexer : Lexer) : Option Lexer :=
  if lexer.inFlow || lexer.keyAllowed then do
    let opened :=
      lexer.openBlock lexer.column lexer.count .blockSequenceStart lexer.source.mark
    let cleared ← opened.removeKey
    some ({ cleared with keyAllowed := true }.emitMark .blockEntry 1)
  else
    none

/-- Add the question mark of a key. -/
def addKey (lexer : Lexer) : Option Lexer :=
  if lexer.inFlow || lexer.keyAllowed then do
    let opened :=
      lexer.openBlock lexer.column lexer.count .blockMappingStart lexer.source.mark
    let cleared ← opened.removeKey
    some ({ cleared with keyAllowed := !lexer.inFlow }.emitMark .key 1)
  else
    none

/-- Add the colon of a value.  If something that can be a key stands before it, that
is one. -/
def addValue (lexer : Lexer) : Option Lexer :=
  match lexer.key with
  | some key =>
      let keyed := lexer.emitAt key.number ⟨.key, key.mark, key.mark⟩
      let opened := keyed.openBlock key.mark.column key.number .blockMappingStart key.mark
      some ({ opened with key := none, keyAllowed := false }.emitMark .value 1)
  | none =>
      if lexer.inFlow || lexer.keyAllowed then
        let opened :=
          lexer.openBlock lexer.column lexer.count .blockMappingStart lexer.source.mark
        some ({ opened with keyAllowed := !lexer.inFlow }.emitMark .value 1)
      else
        none

/-- The characters that may follow the name of an anchor, other than white space. -/
def afterAnchor : List Char :=
  ['?', ':', ',', ']', '\x7d', '%', '@', '\x60']

/-- Add a name after a mark, which defines an anchor or refers to one. -/
def addAnchor (lexer : Lexer) (kind : String → TokenKind) : Option Lexer := do
  let saved ← lexer.saveKey
  let name := (saved.source.rest.drop 1).takeWhile isNameChar
  let next := saved.source.skip (name.length + 1)
  let ended := next.rest.head?.all fun char => isWhite char || afterAnchor.contains char
  if !name.isEmpty && ended then
    some ({ saved with keyAllowed := false }.emitTo (kind (String.ofList name)) next)
  else
    none

/-- Add a tag. -/
def addTag (lexer : Lexer) : Option Lexer := do
  let saved ← lexer.saveKey
  let (kind, next) ← readTag? saved.inFlow saved.source
  some ({ saved with keyAllowed := false }.emitTo kind next)

/-- Add a scalar over several lines. -/
def addBlockScalar
    (lexer : Lexer)
    (fuel : Nat)
    (isFolded : Bool) :
    Option Lexer := do
  let cleared ← lexer.removeKey
  let (text, next) ← readBlock isFolded cleared.indent fuel (cleared.source.skip 1)
  some ({ cleared with keyAllowed := true }.emitTo (.scalar false (String.ofList text)) next)

/-- Add a scalar between quotes. -/
def addQuoted
    (lexer : Lexer)
    (fuel : Nat)
    (quote : Char) :
    Option Lexer := do
  let saved ← lexer.saveKey
  let (text, next) ← readQuoted quote fuel false (saved.source.skip 1)
  some ({ saved with keyAllowed := false }.emitTo (.scalar false (String.ofList text)) next)

/-- Add a scalar without quotes. -/
def addWords (lexer : Lexer) (fuel : Nat) : Option Lexer := do
  let saved ← lexer.saveKey
  let words ← readWords saved.inFlow (saved.indent + 1).toNat fuel [] saved.source
  some
    ({ saved with keyAllowed := words.broken }.emitTo
      (.scalar true (String.ofList words.text)) words.after)

/-- The characters that no scalar without quotes starts with. -/
def leadingMarks : List Char :=
  ['-', '?', ':', ',', '[', ']', '\x7b', '\x7d', '#', '&', '*', '!', '|', '>', '\'', '"', '%',
   '@', '\x60']

/-- Whether a scalar without quotes starts here.  Some marks may start one if a word
does not end after them. -/
def startsWords
    (inFlow : Bool)
    (char : Char)
    (rest : List Char) :
    Bool :=
  !(isWhite char || leadingMarks.contains char) ||
    (char == '-' && !rest.head?.any isBlank) ||
    (!inFlow && (char == '?' || char == ':') && !endsWord rest)

/-- Add the token that starts with a character. -/
def add
    (lexer : Lexer)
    (fuel : Nat)
    (char : Char)
    (rest : List Char) :
    Option Lexer :=
  if lexer.column = 0 ∧ char = '%' then
    lexer.addDirective
  else if lexer.source.atBoundary then
    lexer.addBoundary (if char = '-' then .documentStart else .documentEnd)
  else if char = '[' then
    lexer.openFlow .flowSequenceStart
  else if char = '\x7b' then
    lexer.openFlow .flowMappingStart
  else if char = ']' then
    lexer.closeFlow .flowSequenceEnd
  else if char = '\x7d' then
    lexer.closeFlow .flowMappingEnd
  else if char = ',' then
    lexer.addFlowEntry
  else if char = '-' ∧ endsWord rest then
    lexer.addBlockEntry
  else if char = '?' ∧ (lexer.inFlow ∨ endsWord rest) then
    lexer.addKey
  else if char = ':' ∧ (lexer.inFlow ∨ endsWord rest) then
    lexer.addValue
  else if char = '*' then
    lexer.addAnchor .reference
  else if char = '&' then
    lexer.addAnchor .anchor
  else if char = '!' then
    lexer.addTag
  else if (char = '|' ∨ char = '>') ∧ !lexer.inFlow then
    lexer.addBlockScalar fuel (char == '>')
  else if char = '\'' ∨ char = '"' then
    lexer.addQuoted fuel char
  else if startsWords lexer.inFlow char rest then
    lexer.addWords fuel
  else
    none

/-- Add tokens up to the end of the text.  Every token but the last takes at least one
character. -/
def run : Nat → Lexer → Option (List Token)
  | 0, _ =>
      none
  | fuel + 1, lexer => do
      let ready ← lexer.approach
      match ready.source.rest with
      | [] =>
          let ended ← ready.finish
          some ended.tokens.reverse
      | char :: rest =>
          let next ← ready.add (fuel + 1) char rest
          next.run fuel

end Lexer

/-- The tokens of a text. -/
def tokens? (chars : List Char) : Option (List Token) :=
  if chars.all fun char => Text.inRanges allowedRanges char.toNat then
    (Lexer.start chars).run (chars.length + 1)
  else
    none

end AlertReceivers.Yaml
