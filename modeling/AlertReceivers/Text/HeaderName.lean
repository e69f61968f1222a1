import AlertReceivers.Text.Alphanumeric
import AlertReceivers.Text.CaseMap

namespace AlertReceivers.Text

/-!
# Header names

Mail header names are the same name whatever the case of their letters.  The
canonical form of a name gives each word, a run of letters and digits, an
upper-case first character and a lower-case remainder, and keeps every other
character.
-/

/-- Canonical form of the rest of a name, which starts a new word or goes on
with the current one. -/
def canonicalFrom
    (startsWord : Bool) :
    List Char → List Char
  | [] =>
      []
  | char :: rest =>
      if isAlphanumeric char then
        (if startsWord then upper char else lower char) ++ canonicalFrom false rest
      else
        char :: canonicalFrom true rest

/-- The canonical form of a header name. -/
def canonicalHeaderName (name : String) : String :=
  String.ofList (canonicalFrom true name.toList)

end AlertReceivers.Text
