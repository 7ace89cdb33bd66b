import Readout.Text.Numeral

/-!
# Escapes in double-quoted text

Between double quotes a character stands for itself unless it is a quote, a
backslash or a control character other than the tab.  A backslash starts an
escape: one letter for a common control character, or a code point of four or
eight hexadecimal digits.
-/

namespace Readout.Text

/-- Whether a character is a control character that text may not hold. -/
def isForbiddenControl (character : Char) : Bool :=
  (character.toNat < 0x20 && character != '\t') || character.toNat == 0x7F

def isPlain (character : Char) : Bool :=
  !isForbiddenControl character && character != '"' && character != '\\'

/-- A code point of a number of hexadecimal digits; surrogates are refused. -/
def codePoint (digits : Nat) : Scan Char := do
  let code := numberOfDigits 16 (← Scan.exactCount isHexDigit digits)
  if code.isValidChar then return Char.ofNat code else failure

def escapeTail : Scan Char := do
  match ← Scan.charWhere fun _ => true with
  | 'b' => return '\x08'
  | 't' => return '\t'
  | 'n' => return '\n'
  | 'f' => return '\x0c'
  | 'r' => return '\r'
  | '"' => return '"'
  | '\\' => return '\\'
  | 'u' => codePoint 4
  | 'U' => codePoint 8
  | _ => failure

def quotedChar : Scan Char :=
  Scan.charWhere isPlain <|> (Scan.char '\\' *> escapeTail)

def quotedText : Scan String := do
  let _ ← Scan.char '"'
  let characters ← Scan.many quotedChar
  let _ ← Scan.char '"'
  return String.ofList characters

end Readout.Text
