import Readout.Binary64.Decimal
import Readout.Settings.Value
import Readout.Text.Numeral

/-!
# Numbers of a TOML document

Whole numbers are decimal, or hexadecimal, octal or binary with a prefix, and
must fit 64 bits with a sign.  Floating point numbers have a fraction, an
exponent or both, or are `inf` or `nan`.  Single underscores may stand between
digits.
-/

namespace Readout.Toml

open Settings (Value)
open Text

/-- Digits that satisfy a test, with single underscores between them. -/
def digitRun (test : Char → Bool) : Scan (List Char) := do
  let first ← Scan.charWhere test
  let others ← Scan.many (Scan.optional (Scan.char '_') *> Scan.charWhere test)
  return first :: others

/-- Decimal digits without a needless leading zero. -/
def wholeDigits : Scan (List Char) :=
  (Scan.char '0' *> pure ['0']) <|> digitRun Char.isDigit

/-- The whole number with a sign and digits, if it fits 64 bits. -/
def wholeNumber (isNegative : Bool) (base : Nat) (digits : List Char) : Scan Value :=
  let number := numberOfDigits base digits
  if isNegative then
    if number ≤ Settings.signedLimit then pure (.integer (-(number : Int))) else failure
  else if number < Settings.signedLimit then pure (.integer number)
  else failure

def basedNumber (letter : Char) (base : Nat) (test : Char → Bool) : Scan Value := do
  let _ ← Scan.char '0'
  let _ ← Scan.char letter
  let digits ← digitRun test
  wholeNumber false base digits

def fraction : Scan (List Char) :=
  Scan.char '.' *> digitRun Char.isDigit

def specialNumber : Scan Value := do
  let isNegative ← sign
  (do
    Scan.text "inf"
    return .real (Binary64.ofMagnitude isNegative Binary64.infinityMagnitude))
  <|> (do
    Scan.text "nan"
    return .real (Binary64.ofMagnitude isNegative Binary64.quietNaNMagnitude))

/-- A decimal number.  One that is too large to be finite is refused, but not one
that is too small. -/
def decimalNumber : Scan Value := do
  let isNegative ← sign
  let whole ← wholeDigits
  let fractionDigits ← Scan.optional fraction
  let power ← Scan.optional (exponent (digitRun Char.isDigit))
  match fractionDigits, power with
  | none, none => wholeNumber isNegative 10 whole
  | _, _ =>
      let places := fractionDigits.getD []
      let number := Binary64.ofDecimal isNegative
        (numberOfDigits 10 (whole ++ places)) (power.getD 0 - (places.length : Int))
      if number = Binary64.ofMagnitude false Binary64.infinityMagnitude then failure
      else return .real number

def number : Scan Value :=
  basedNumber 'x' 16 isHexDigit
    <|> basedNumber 'o' 8 (fun digit => '0' ≤ digit && digit ≤ '7')
    <|> basedNumber 'b' 2 (fun digit => digit == '0' || digit == '1')
    <|> specialNumber
    <|> decimalNumber

end Readout.Toml
