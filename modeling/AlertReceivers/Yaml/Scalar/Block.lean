import AlertReceivers.Yaml.Source

namespace AlertReceivers.Yaml

/-!
# Scalars over several lines

A literal scalar keeps its lines as they are.  A folded scalar joins lines that do
not start with a blank.  A header says how deep the lines are indented and which of
the breaks at the end belong to the text.
-/

/-- Which breaks at the end of a text belong to it: none, the first one or all. -/
inductive Chomping where
  | strip
  | clip
  | keep
  deriving Repr, DecidableEq

/-- The chomping that a sign asks for. -/
def chomping? : Char → Option Chomping
  | '+' =>
      some .keep
  | '-' =>
      some .strip
  | _ =>
      none

/-- The header of a scalar.  The indent is zero if it is not given. -/
structure BlockHeader where
  chomping : Chomping
  indent : Nat
  deriving Repr, DecidableEq

/-- Read the indent of a header, which may be missing but not be zero. -/
def readIndent? (source : Source) : Option (Nat × Source) :=
  match source.rest with
  | char :: _ =>
      if char.isDigit then
        if char = '0' then none else some (char.toNat - '0'.toNat, source.skip 1)
      else
        some (0, source)
  | [] =>
      some (0, source)

/-- Read the chomping of a header. -/
def readChomping (source : Source) : Chomping × Source :=
  match source.rest.head?.bind chomping? with
  | some chomping =>
      (chomping, source.skip 1)
  | none =>
      (.clip, source)

/-- Read a header, in which indent and chomping stand in either order. -/
def readHeader? (source : Source) : Option (BlockHeader × Source) :=
  if (source.rest.head?.bind chomping?).isSome then do
    let (chomping, afterChomping) := readChomping source
    let (indent, afterIndent) ← readIndent? afterChomping
    let next ← afterIndent.finishLine?
    some (⟨chomping, indent⟩, next)
  else do
    let (indent, afterIndent) ← readIndent? source
    let (chomping, afterChomping) := readChomping afterIndent
    let next ← afterChomping.finishLine?
    some (⟨chomping, indent⟩, next)

/-- Lines without text. -/
structure EmptyLines where
  breaks : List Char
  /-- The greatest column that blanks on these lines, or before the next text, go
  up to. -/
  widest : Nat
  after : Source
  deriving Repr, DecidableEq

/-- Pass over empty lines and over the indent of the next line.  An indent that is
not known yet is given as zero. -/
def readEmptyLines
    (indent widest : Nat)
    (mark : Mark) :
    List Char → Option EmptyLines
  | '\r' :: '\n' :: rest => do
      let lines ← readEmptyLines indent (max widest mark.column) (mark.down 2) rest
      some { lines with breaks := '\n' :: lines.breaks }
  | char :: rest =>
      let isShallow := indent == 0 || mark.column < indent
      if isShallow && isSpace char then
        readEmptyLines indent widest (mark.pass char) rest
      else if isShallow && char == '\t' then
        none
      else if isBreak char then do
        let lines ← readEmptyLines indent (max widest mark.column) (mark.down char.utf8Size) rest
        some { lines with breaks := normalBreak char :: lines.breaks }
      else
        some ⟨[], max widest mark.column, ⟨mark, char :: rest⟩⟩
  | [] =>
      some ⟨[], max widest mark.column, ⟨mark, []⟩⟩

/-- What stands between two lines with text.  The first break between two lines of a
folded scalar that do not start with a blank is dropped, or is a space. -/
def joint
    (isFolded afterBlank beforeBlank : Bool)
    (lineEnd breaks : List Char) :
    List Char :=
  if isFolded && lineEnd == ['\n'] && !afterBlank && !beforeBlank then
    if breaks.isEmpty then [' '] else breaks
  else
    lineEnd ++ breaks

/-- The breaks at the end of a scalar that belong to its text. -/
def finalBreaks
    (chomping : Chomping)
    (lineEnd breaks : List Char) :
    List Char :=
  match chomping with
  | .strip =>
      []
  | .clip =>
      lineEnd
  | .keep =>
      lineEnd ++ breaks

/-- Read lines with text.  The end of the line before, and the breaks of the empty
lines since, are given. -/
def readLines
    (isFolded : Bool)
    (chomping : Chomping)
    (indent : Nat) :
    Nat → List Char → List Char → Bool → Source → Option (List Char × Source)
  | 0, _, _, _, _ =>
      none
  | fuel + 1, lineEnd, breaks, afterBlank, source =>
      if source.mark.column = indent ∧ source.rest ≠ [] then do
        let beforeBlank := source.rest.head?.any isBlank
        let line := source.rest.takeWhile fun char => !isBreak char
        let ended := source.skip line.length
        let next := ended.skipBreak
        let empty ← readEmptyLines indent 0 next.mark next.rest
        let (text, after) ←
          readLines isFolded chomping indent fuel (ended.rest.head?.map normalBreak).toList
            empty.breaks beforeBlank empty.after
        some (joint isFolded afterBlank beforeBlank lineEnd breaks ++ line ++ text, after)
      else
        some (finalBreaks chomping lineEnd breaks, source)

/-- The indent of the lines of a scalar inside a block with an indent. -/
def lineIndent
    (outer : Int)
    (header : BlockHeader)
    (widest : Nat) :
    Nat :=
  if header.indent = 0 then
    max (max widest (outer + 1).toNat) 1
  else
    (max outer 0).toNat + header.indent

/-- Read a scalar after the mark that starts it. -/
def readBlock
    (isFolded : Bool)
    (outer : Int)
    (fuel : Nat)
    (source : Source) :
    Option (List Char × Source) := do
  let (header, start) ← readHeader? source
  let given := if header.indent = 0 then 0 else lineIndent outer header 0
  let empty ← readEmptyLines given 0 start.mark start.rest
  readLines isFolded header.chomping (lineIndent outer header empty.widest) fuel []
    empty.breaks false empty.after

end AlertReceivers.Yaml
