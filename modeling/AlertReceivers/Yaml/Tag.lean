import AlertReceivers.Decimal.Digits
import AlertReceivers.Yaml.Token

namespace AlertReceivers.Yaml

/-!
# Tags

A tag is a handle and a suffix.  Characters of the suffix may be given by the bytes
that encode them, so tags are kept as bytes.
-/

/-- Whether a character may stand in a tag. -/
def isTagChar (char : Char) : Bool :=
  isNameChar char ||
    [';', '/', '?', ':', '@', '&', '=', '+', '$', '.', '!', '~', '*', '\'', '(', ')'].contains char

/-- Whether a character may stand in a tag between angle brackets. -/
def isWideTagChar (char : Char) : Bool :=
  isTagChar char || [',', '[', ']'].contains char

/-- The number of bytes after the first one of a character. -/
def furtherBytes? (first : Nat) : Option Nat :=
  if first < 0x80 then
    some 0
  else if first < 0xC0 then
    none
  else if first < 0xE0 then
    some 1
  else if first < 0xF0 then
    some 2
  else if first < 0xF8 then
    some 3
  else
    none

/-- The number of bytes that are still due after a byte. -/
def dueAfter? (due byte : Nat) : Option Nat :=
  if due = 0 then
    furtherBytes? byte
  else if 0x80 ≤ byte ∧ byte < 0xC0 then
    some (due - 1)
  else
    none

/-- Read the characters of a tag as bytes.  After the escape of a first byte, those
of the further bytes of its character are due. -/
def readTagBytes
    (allowed : Char → Bool)
    (due : Nat)
    (mark : Mark) :
    List Char → Option (List UInt8 × Source)
  | '%' :: high :: low :: rest => do
      let byte ← Decimal.read? 16 [high, low]
      let due ← dueAfter? due byte
      let (bytes, after) ← readTagBytes allowed due (mark.passAll ['%', high, low]) rest
      some (UInt8.ofNat byte :: bytes, after)
  | chars =>
      if due ≠ 0 then
        none
      else
        match chars with
        | [] =>
            some ([], ⟨mark, []⟩)
        | char :: rest =>
            if char = '%' then
              none
            else if allowed char then do
              let (bytes, after) ← readTagBytes allowed 0 (mark.pass char) rest
              some (String.utf8EncodeChar char ++ bytes, after)
            else
              some ([], ⟨mark, char :: rest⟩)

/-- Bytes up to the first zero. -/
def upToZero (bytes : List UInt8) : List UInt8 :=
  bytes.takeWhile (· != 0)

/-- Read one or more characters of a tag. -/
def readSuffix?
    (allowed : Char → Bool)
    (source : Source) :
    Option (List UInt8 × Source) := do
  let (bytes, after) ← readTagBytes allowed 0 source.mark source.rest
  if bytes.isEmpty then none else some (upToZero bytes, after)

/-- Read a handle: an exclamation mark, or a name between two of them.  The second
mark may be missing. -/
def readHandle? (source : Source) : Option (List Char × Source) :=
  match source.rest with
  | '!' :: rest =>
      let name := rest.takeWhile isNameChar
      let afterName := source.skip (name.length + 1)
      if afterName.rest.head? = some '!' then
        some ('!' :: name ++ ['!'], afterName.skip 1)
      else
        some ('!' :: name, afterName)
  | _ =>
      none

/-- Whether a handle is closed by a second exclamation mark. -/
def isClosed (handle : List Char) : Bool :=
  1 < handle.length && handle.getLast? == some '!'

/-- The bytes of a text. -/
def textBytes (chars : List Char) : List UInt8 :=
  chars.flatMap String.utf8EncodeChar

/-- Read a tag that is written out between angle brackets. -/
def readVerbatimTag? (source : Source) : Option (TokenKind × Source) := do
  let (suffix, after) ← readSuffix? isWideTagChar (source.skip 2)
  if after.rest.head? = some '>' then some (.tag "" suffix, after.skip 1) else none

/-- Read a tag of a handle and a suffix.  A name after a mark that is not closed is
the start of the suffix, and a single mark is a suffix without a handle. -/
def readShorthandTag? (source : Source) : Option (TokenKind × Source) := do
  let (handle, afterHandle) ← readHandle? source
  if isClosed handle then
    let (suffix, after) ← readSuffix? isTagChar afterHandle
    some (.tag (String.ofList handle) suffix, after)
  else
    let (bytes, after) ← readTagBytes isTagChar 0 afterHandle.mark afterHandle.rest
    let suffix := upToZero (textBytes handle.tail ++ bytes)
    some (if suffix.isEmpty then .tag "" (textBytes ['!']) else .tag "!" suffix, after)

/-- Whether a tag ends here. -/
def endsTag (inFlow : Bool) (source : Source) : Bool :=
  source.rest.head?.all isWhite || (inFlow && source.rest.head? == some ',')

/-- Read a tag. -/
def readTag? (inFlow : Bool) (source : Source) : Option (TokenKind × Source) := do
  let (kind, after) ←
    if (source.rest.drop 1).head? = some '<' then
      readVerbatimTag? source
    else
      readShorthandTag? source
  if endsTag inFlow after then some (kind, after) else none

end AlertReceivers.Yaml
