import Readout.Text.Visible

/-!
# Quoted text

A text is quoted by putting it between double quotes.  Quotes, backslashes and
the common control characters are escaped by a backslash, every other character
that does not show by itself by its code point in lower-case hexadecimal.
-/

namespace Readout.Text

def escaped (character : Char) : List Char :=
  match character with
  | '\x00' => ['\\', '0']
  | '\t' => ['\\', 't']
  | '\r' => ['\\', 'r']
  | '\n' => ['\\', 'n']
  | '\\' => ['\\', '\\']
  | '"' => ['\\', '"']
  | _ =>
      if isVisible character then [character]
      else "\\u\x7b".toList ++ Nat.toDigits 16 character.toNat ++ ['\x7d']

def quoted (text : String) : String :=
  String.ofList ('"' :: text.toList.flatMap escaped ++ ['"'])

def quotedList (texts : List String) : String :=
  "[" ++ String.intercalate ", " (texts.map quoted) ++ "]"

end Readout.Text
