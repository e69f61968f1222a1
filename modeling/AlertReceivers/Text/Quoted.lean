import AlertReceivers.Text.Printable

namespace AlertReceivers.Text

/-!
# Quoted texts

Messages show a text between double quotes.  Quotes, backslashes and the common
control characters are written with a backslash; combining and unprintable
characters are written as their code point in hexadecimal digits.
-/

/-- A code point as `\u`, followed by its hexadecimal digits in braces. -/
def escapeCodePoint (char : Char) : List Char :=
  ['\\', 'u', '\x7b'] ++ Nat.toDigits 16 char.toNat ++ ['\x7d']

/-- A character as it is written between double quotes. -/
def escapeQuoted (char : Char) : List Char :=
  match char with
  | '\x00' =>
      ['\\', '0']
  | '\t' =>
      ['\\', 't']
  | '\n' =>
      ['\\', 'n']
  | '\r' =>
      ['\\', 'r']
  | '"' =>
      ['\\', '"']
  | '\\' =>
      ['\\', '\\']
  | _ =>
      if isCombining char || !isPrintable char then
        escapeCodePoint char
      else
        [char]

/-- A text between double quotes. -/
def quoted (text : String) : String :=
  String.ofList (['"'] ++ text.toList.flatMap escapeQuoted ++ ['"'])

/-- A list of quoted texts between square brackets. -/
def quotedList (texts : List String) : String :=
  "[" ++ ", ".intercalate (texts.map quoted) ++ "]"

end AlertReceivers.Text
