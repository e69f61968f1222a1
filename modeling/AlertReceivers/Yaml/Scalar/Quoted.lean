import AlertReceivers.Decimal.Digits
import AlertReceivers.Yaml.Source

namespace AlertReceivers.Yaml

/-!
# Scalars between quotes

Between single quotes only the quote itself is written twice.  Between double
quotes a backslash starts an escape, and one at the end of a line joins that line
with the next.
-/

/-- The character of an escape of one letter. -/
def letterEscape? : Char → Option Char
  | '0' =>
      some '\x00'
  | 'a' =>
      some '\x07'
  | 'b' =>
      some '\x08'
  | 't' =>
      some '\t'
  | '\t' =>
      some '\t'
  | 'n' =>
      some '\n'
  | 'v' =>
      some '\x0b'
  | 'f' =>
      some '\x0c'
  | 'r' =>
      some '\r'
  | 'e' =>
      some '\x1b'
  | ' ' =>
      some ' '
  | '"' =>
      some '"'
  | '/' =>
      some '/'
  | '\\' =>
      some '\\'
  | 'N' =>
      some '\x85'
  | '_' =>
      some '\xa0'
  | 'L' =>
      some '\u2028'
  | 'P' =>
      some '\u2029'
  | _ =>
      none

/-- The number of digits of an escape that gives a code point. -/
def escapeDigits? : Char → Option Nat
  | 'x' =>
      some 2
  | 'u' =>
      some 4
  | 'U' =>
      some 8
  | _ =>
      none

/-- The character with a code point. -/
def charOfCode? (code : Nat) : Option Char :=
  if code.isValidChar then some (Char.ofNat code) else none

/-- The character of the escape that stands after a backslash, and the number of
characters that the escape takes. -/
def escape? : List Char → Option (Char × Nat)
  | [] =>
      none
  | letter :: rest =>
      match escapeDigits? letter with
      | some count => do
          let digits := rest.take count
          let code ← Decimal.read? 16 digits
          let char ← charOfCode? code
          if digits.length = count then some (char, count + 1) else none
      | none =>
          (letterEscape? letter).map fun char => (char, 1)

/-- The text before the closing quote, and what comes after that quote.  A boundary
of documents may not follow white space. -/
def readQuoted
    (quote : Char) :
    Nat → Bool → Source → Option (List Char × Source)
  | 0, _, _ =>
      none
  | fuel + 1, afterWhite, source =>
      match source.rest with
      | [] =>
          none
      | char :: rest =>
          if isWhite char then do
            let (text, after) ← readQuoted quote fuel true (source.beyond source.white)
            some (foldWhite source.white ++ text, after)
          else if afterWhite && source.atBoundary then
            none
          else if char = quote then
            if quote = '\'' ∧ rest.head? = some quote then do
              let (text, after) ← readQuoted quote fuel false (source.skip 2)
              some (quote :: text, after)
            else
              some ([], source.skip 1)
          else if quote = '"' ∧ char = '\\' then
            if rest.head?.any isBreak then do
              let line := (source.skip 1).skipBreak
              let (text, after) ← readQuoted quote fuel true (line.beyond line.white)
              some (lineBreaks line.white ++ text, after)
            else do
              let (escaped, width) ← escape? rest
              let (text, after) ← readQuoted quote fuel false (source.skip (width + 1))
              some (escaped :: text, after)
          else do
            let (text, after) ← readQuoted quote fuel false (source.skip 1)
            some (char :: text, after)

end AlertReceivers.Yaml
