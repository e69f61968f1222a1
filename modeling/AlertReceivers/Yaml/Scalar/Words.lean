import AlertReceivers.Yaml.Source

namespace AlertReceivers.Yaml

/-!
# Scalars without quotes

A scalar without quotes is a row of words.  It goes on over lines that are indented
deeply enough, and ends at a comment or at the boundary of a document.
-/

/-- The characters that brackets and the commas between them are made of. -/
def flowMarks : List Char :=
  [',', '[', ']', '\x7b', '\x7d']

/-- The word that stands at the start of a text.  Between brackets a colon is not
followed by a mark. -/
def word? (inFlow : Bool) : List Char → Option (List Char)
  | [] =>
      some []
  | char :: rest =>
      if isWhite char then
        some []
      else if inFlow && char == ':' && rest.head?.any ('?' :: flowMarks).contains then
        none
      else if (char == ':' && endsWord rest) || (inFlow && flowMarks.contains char) then
        some []
      else
        (word? inFlow rest).map fun word => char :: word

/-- Whether a tab stands before a column after a break. -/
def hasShallowTab
    (indent : Nat)
    (mark : Mark)
    (broken : Bool) :
    List Char → Bool
  | [] =>
      false
  | char :: rest =>
      if isBreak char then
        hasShallowTab indent (mark.down char.utf8Size) true rest
      else
        (broken && char == '\t' && mark.column < indent) ||
          hasShallowTab indent (mark.pass char) broken rest

/-- The text of a scalar, where its reading ended, and whether there was a break
before that place. -/
structure Words where
  text : List Char
  after : Source
  broken : Bool
  deriving Repr, DecidableEq

/-- Read words up to the end of a scalar.  White space before the source was passed
over already; it counts if a word follows. -/
def readWords
    (inFlow : Bool)
    (indent : Nat) :
    Nat → List Char → Source → Option Words
  | 0, _, _ =>
      none
  | fuel + 1, white, source =>
      if source.atBoundary || source.rest.head? == some '#' then
        some ⟨[], source, white.any isBreak⟩
      else do
        let word ← word? inFlow source.rest
        if word.isEmpty then
          some ⟨[], source, white.any isBreak⟩
        else
          let afterWord := source.skip word.length
          let after := afterWord.beyond afterWord.white
          if hasShallowTab indent afterWord.mark false afterWord.white then
            none
          else if afterWord.white.isEmpty || (!inFlow && after.mark.column < indent) then
            some ⟨foldWhite white ++ word, after, afterWord.white.any isBreak⟩
          else do
            let others ← readWords inFlow indent fuel afterWord.white after
            some { others with text := foldWhite white ++ word ++ others.text }

end AlertReceivers.Yaml
