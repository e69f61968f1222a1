import AlertReceivers.Export.Basic

namespace AlertReceivers.Export

/-!
# JSON exports

An export is written as JSON, either on one line without blanks or with each entry
on a line of its own.
-/

/-- A character as it is written between the quotes of a JSON text. -/
def jsonEscape (char : Char) : List Char :=
  match char with
  | '"' =>
      ['\\', '"']
  | '\\' =>
      ['\\', '\\']
  | '\x08' =>
      ['\\', 'b']
  | '\x0c' =>
      ['\\', 'f']
  | '\n' =>
      ['\\', 'n']
  | '\r' =>
      ['\\', 'r']
  | '\t' =>
      ['\\', 't']
  | _ =>
      if char.toNat < 32 then
        ['\\', 'u', '0', '0', (char.toNat / 16).digitChar, (char.toNat % 16).digitChar]
      else
        [char]

/-- A text between quotes. -/
def jsonQuoted (text : String) : List Char :=
  ['"'] ++ text.toList.flatMap jsonEscape ++ ['"']

/-- The text of a flag. -/
def flagText (on : Bool) : List Char :=
  if on then "true".toList else "false".toList

mutual

/-- An export on one line. -/
def compactChars : Export → List Char
  | .flag on =>
      flagText on
  | .text value =>
      jsonQuoted value
  | .table entries =>
      ['\x7b'] ++ compactEntries true entries ++ ['\x7d']

/-- Entries on one line, the first of which has no comma before it. -/
def compactEntries (isFirst : Bool) : List (String × Export) → List Char
  | [] =>
      []
  | (key, value) :: rest =>
      (if isFirst then [] else [',']) ++ jsonQuoted key ++ [':'] ++ value.compactChars ++
        compactEntries false rest

end

/-- A new line that is indented by two blanks for each level. -/
def newLine (level : Nat) : List Char :=
  '\n' :: List.replicate (2 * level) ' '

mutual

/-- An export with each entry on a line of its own. -/
def prettyChars (level : Nat) : Export → List Char
  | .flag on =>
      flagText on
  | .text value =>
      jsonQuoted value
  | .table [] =>
      ['\x7b', '\x7d']
  | .table (entry :: rest) =>
      ['\x7b'] ++ prettyEntries (level + 1) true (entry :: rest) ++ newLine level ++ ['\x7d']

/-- Entries, each on a line of its own. -/
def prettyEntries
    (level : Nat)
    (isFirst : Bool) :
    List (String × Export) → List Char
  | [] =>
      []
  | (key, value) :: rest =>
      (if isFirst then [] else [',']) ++ newLine level ++ jsonQuoted key ++ [':', ' '] ++
        value.prettyChars level ++ prettyEntries level false rest

end

/-- An export as JSON on one line. -/
def compactJson (tree : Export) : String :=
  String.ofList tree.compactChars

/-- An export as JSON over several lines. -/
def prettyJson (tree : Export) : String :=
  String.ofList (tree.prettyChars 0)

end AlertReceivers.Export
