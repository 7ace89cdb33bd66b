import Readout.Text.Scan

/-!
# Digits, signs and exponents

The parts of written numbers that do not depend on the form of the whole.
-/

namespace Readout.Text

def hexValue? (digit : Char) : Option Nat :=
  if '0' ≤ digit ∧ digit ≤ '9' then some (digit.toNat - '0'.toNat)
  else if 'a' ≤ digit ∧ digit ≤ 'f' then some (digit.toNat - 'a'.toNat + 10)
  else if 'A' ≤ digit ∧ digit ≤ 'F' then some (digit.toNat - 'A'.toNat + 10)
  else none

def isHexDigit (digit : Char) : Bool :=
  (hexValue? digit).isSome

/-- The number with the given digits, the most significant first. -/
def numberOfDigits (base : Nat) (digits : List Char) : Nat :=
  digits.foldl (fun number digit => base * number + (hexValue? digit).getD 0) 0

/-- A sign, perhaps none; whether it is a minus. -/
def sign : Scan Bool := do
  match ← Scan.optional (Scan.charWhere fun character => character == '+' || character == '-') with
  | some '-' => return true
  | _ => return false

/-- An exponent with its letter, of digits in a given form. -/
def exponent (digits : Scan (List Char)) : Scan Int := do
  let _ ← Scan.charWhere fun character => character == 'e' || character == 'E'
  let isNegative ← sign
  let number := numberOfDigits 10 (← digits)
  return if isNegative then -(number : Int) else number

end Readout.Text
