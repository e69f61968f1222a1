import AlertReceivers.Yaml.Tag

namespace AlertReceivers.Yaml

/-!
# Directives

Lines in front of a document that name its version and its handles for tags.
-/

/-- Read a number of up to nine digits. -/
def readVersionNumber? (source : Source) : Option (Nat × Source) :=
  let digits := source.rest.takeWhile Char.isDigit
  if 9 < digits.length then
    none
  else
    (Decimal.read? 10 digits).map fun number => (number, source.skip digits.length)

/-- Read a version. -/
def readVersion? (source : Source) : Option (TokenKind × Source) := do
  let (major, afterMajor) ← readVersionNumber? (source.skipWhile isBlank)
  if afterMajor.rest.head? = some '.' then
    let (minor, afterMinor) ← readVersionNumber? (afterMajor.skip 1)
    some (.version major minor, afterMinor)
  else
    none

/-- Read a handle and its meaning. -/
def readTagHandle? (source : Source) : Option (TokenKind × Source) := do
  let (handle, afterHandle) ← readHandle? (source.skipWhile isBlank)
  if (isClosed handle || handle == ['!']) && afterHandle.rest.head?.any isBlank then
    let (meaning, after) ← readSuffix? isWideTagChar (afterHandle.skipWhile isBlank)
    if after.rest.head?.all isWhite then
      some (.tagHandle (String.ofList handle) meaning, after)
    else
      none
  else
    none

/-- Read a directive from its percent sign to the start of the next line. -/
def readDirective? (source : Source) : Option (TokenKind × Source) := do
  let start := source.skip 1
  let name := start.rest.takeWhile isNameChar
  let afterName := start.skip name.length
  if !afterName.rest.head?.all isWhite then
    none
  else
    let (kind, after) ←
      if name = "YAML".toList then
        readVersion? afterName
      else if name = "TAG".toList then
        readTagHandle? afterName
      else
        none
    let next ← after.finishLine?
    some (kind, next)

end AlertReceivers.Yaml
