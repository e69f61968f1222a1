import AlertReceivers.Yaml.Character

namespace AlertReceivers.Yaml

/-!
# Sources

A source is what is left of a text that is being read, with the place where it
starts.
-/

/-- A place in a text.  All three numbers start at zero. -/
structure Mark where
  /-- The number of bytes before the place. -/
  offset : Nat
  line : Nat
  /-- The number of characters before the place on its line. -/
  column : Nat
  deriving Repr, DecidableEq

namespace Mark

/-- The start of a text. -/
def start : Mark :=
  ⟨0, 0, 0⟩

/-- The place after a character of the line. -/
def pass (mark : Mark) (char : Char) : Mark :=
  ⟨mark.offset + char.utf8Size, mark.line, mark.column + 1⟩

/-- The place after some characters of the line. -/
def passAll (mark : Mark) (chars : List Char) : Mark :=
  chars.foldl pass mark

/-- The start of the next line, after a break of some bytes. -/
def down (mark : Mark) (width : Nat) : Mark :=
  ⟨mark.offset + width, mark.line + 1, 0⟩

/-- The place after a text. -/
def beyond (mark : Mark) : List Char → Mark
  | '\r' :: '\n' :: rest =>
      (mark.down 2).beyond rest
  | char :: rest =>
      (if isBreak char then mark.down char.utf8Size else mark.pass char).beyond rest
  | [] =>
      mark

/-- A place as messages name it. -/
def phrase (mark : Mark) : String :=
  "line " ++ toString (mark.line + 1) ++ " column " ++ toString (mark.column + 1)

end Mark

/-- The rest of a text. -/
structure Source where
  mark : Mark
  rest : List Char
  deriving Repr, DecidableEq

namespace Source

/-- Go some characters further on the same line. -/
def skip (source : Source) (count : Nat) : Source :=
  ⟨source.mark.passAll (source.rest.take count), source.rest.drop count⟩

/-- Go to the first character of a line that is not of a class. -/
def skipWhile (source : Source) (matching : Char → Bool) : Source :=
  source.skip (source.rest.takeWhile matching).length

/-- Go to the end of a text that stands here. -/
def beyond (source : Source) (text : List Char) : Source :=
  ⟨source.mark.beyond text, source.rest.drop text.length⟩

/-- The white space that stands here. -/
def white (source : Source) : List Char :=
  source.rest.takeWhile isWhite

/-- Go to the next line, if this is the end of one. -/
def skipBreak (source : Source) : Source :=
  match source.rest with
  | '\r' :: '\n' :: rest =>
      ⟨source.mark.down 2, rest⟩
  | char :: rest =>
      if isBreak char then ⟨source.mark.down char.utf8Size, rest⟩ else source
  | [] =>
      source

/-- Whether a document starts or ends here. -/
def atBoundary (source : Source) : Bool :=
  source.mark.column == 0 && startsBoundary source.rest

/-- Go to the next line, if there is nothing but a comment on this one. -/
def finishLine? (source : Source) : Option Source :=
  let blanks := source.skipWhile isBlank
  let comment := fun char => !isBreak char
  let finished := if blanks.rest.head? = some '#' then blanks.skipWhile comment else blanks
  if finished.rest.head?.all isBreak then some finished.skipBreak else none

end Source

end AlertReceivers.Yaml
