import Readout.Toml.Number

/-!
# Dates and times of a TOML document

A moment is a date, a time of day, or both with or without an offset from
universal time.  No setting is a moment, so its reading only decides where it
ends; as a value it counts as a table without entries.
-/

namespace Readout.Toml

open Settings (Value)
open Text

/-- A number of a fixed count of digits between two bounds. -/
def fixedDigits (count low high : Nat) : Scan Nat := do
  let number := numberOfDigits 10 (← Scan.exactCount Char.isDigit count)
  if low ≤ number ∧ number ≤ high then return number else failure

def isLeapYear (year : Nat) : Bool :=
  year % 4 == 0 && (year % 100 != 0 || year % 400 == 0)

def daysOfMonth (year month : Nat) : Nat :=
  if month = 2 then if isLeapYear year then 29 else 28
  else if month = 4 ∨ month = 6 ∨ month = 9 ∨ month = 11 then 30
  else 31

def date : Scan Unit := do
  let year ← fixedDigits 4 0 9999
  let _ ← Scan.char '-'
  let month ← fixedDigits 2 1 12
  let _ ← Scan.char '-'
  let _ ← fixedDigits 2 1 (daysOfMonth year month)

/-- A time of day; a minute may have a leap second. -/
def time : Scan Unit := do
  let _ ← fixedDigits 2 0 23
  let _ ← Scan.char ':'
  let _ ← fixedDigits 2 0 59
  let _ ← Scan.char ':'
  let _ ← fixedDigits 2 0 60
  let _ ← Scan.optional (Scan.char '.' *> Scan.spanOne Char.isDigit)

def offset : Scan Unit :=
  (do let _ ← Scan.charWhere fun character => character == 'Z' || character == 'z')
  <|> (do
    let _ ← Scan.charWhere fun character => character == '+' || character == '-'
    let _ ← fixedDigits 2 0 23
    let _ ← Scan.char ':'
    let _ ← fixedDigits 2 0 59)

def timeBehindDate : Scan Unit := do
  let _ ← Scan.charWhere fun character =>
    character == 'T' || character == 't' || character == ' '
  time
  let _ ← Scan.optional offset

def moment : Scan Value := do
  (do
    date
    let _ ← Scan.optional timeBehindDate)
  <|> time
  return .table []

end Readout.Toml
