import Readout.Binary64

/-!
# Decimal numbers and binary floating point

`ofDecimal` rounds a decimal number to the nearest floating point number, a
number half way between two going to the one with the even fraction.
`shortest?` finds the shortest decimal number that rounds to a given one.  All
arithmetic is exact.
-/

namespace Readout.Binary64

/-- The quotient of two numbers, rounded to the nearest number and half-way
cases to the even one. -/
def nearestQuotient (numerator denominator : Nat) : Nat :=
  let quotient := numerator / denominator
  let rest := numerator % denominator
  if 2 * rest < denominator then quotient
  else if denominator < 2 * rest then quotient + 1
  else quotient + quotient % 2

def power (base : Nat) (exponent : Int) : Nat :=
  Nat.pow base exponent.toNat

/-- The exponent of the largest power of two that is not above a positive
fraction. -/
def binaryExponent (numerator denominator : Nat) : Int :=
  let estimate : Int := (Nat.log2 numerator : Int) - (Nat.log2 denominator : Int)
  if numerator * power 2 (-estimate) < denominator * power 2 estimate then estimate - 1
  else estimate

def minExponent : Int := -1074

def fractionBits : Nat := 52

def fractionCount : Nat := 0x10000000000000

/-- The magnitude nearest to a positive fraction.  With the exponent of the last
fraction bit fixed, consecutive magnitudes are consecutive multiples of that
bit, also where the exponent changes. -/
def nearestMagnitude (numerator denominator : Nat) : Nat :=
  let exponent := max (binaryExponent numerator denominator - fractionBits) minExponent
  let multiple :=
    nearestQuotient (numerator * power 2 (-exponent)) (denominator * power 2 exponent)
  min infinityMagnitude ((exponent - minExponent).toNat * fractionCount + multiple)

def digitCount (number : Nat) : Nat :=
  (Nat.toDigits 10 number).length

/-- The floating point number nearest to `digits * 10 ^ exponent`.  Numbers of
more than 310 places are infinite, and those below the 330th decimal place are
zero. -/
def ofDecimal (isNegative : Bool) (digits : Nat) (exponent : Int) : Binary64 :=
  let places := (digitCount digits : Int) + exponent
  let magnitude :=
    if digits = 0 ∨ places < -330 then 0
    else if 310 < places then infinityMagnitude
    else nearestMagnitude (digits * power 10 exponent) (power 10 (-exponent))
  ofMagnitude isNegative magnitude

/-- The multiple of the last fraction bit, and the exponent of that bit, of a
finite number. -/
def decompose (number : Binary64) : Nat × Int :=
  let exponentField := number.magnitude / fractionCount
  let fraction := number.magnitude % fractionCount
  if exponentField = 0 then (fraction, minExponent)
  else (fractionCount + fraction, (exponentField : Int) - 1 + minExponent)

/-- The multiple of `10 ^ grid` nearest to a positive finite number, if it rounds
to that number.  The numbers that do lie between the midpoints to the two
neighbours, which are included for an even fraction; the lower neighbour of a
power of two is half as far away. -/
def onGrid? (number : Binary64) (grid : Int) : Option Nat :=
  let (multiple, exponent) := number.decompose
  let scale := power 2 (exponent - 2) * power 10 (-grid)
  let step := power 2 (2 - exponent) * power 10 grid
  let below :=
    if multiple = fractionCount ∧ exponent ≠ minExponent then 1 else 2
  let value := 4 * multiple * scale
  let low := (4 * multiple - below) * scale
  let high := (4 * multiple + 2) * scale
  let inside (candidate : Nat) : Bool :=
    if multiple % 2 = 0 then
      decide (low ≤ candidate * step) && decide (candidate * step ≤ high)
    else decide (low < candidate * step) && decide (candidate * step < high)
  let lower := value / step
  let upper := lower + 1
  let upperIsNearer := decide (upper * step - value ≤ value - lower * step)
  if inside upper && (upperIsNearer || !inside lower) then some upper
  else if inside lower then some lower
  else none

/-- The shortest decimal number `digits * 10 ^ exponent` that rounds to a positive
finite number: the nearest multiple on the coarsest grid that has one, and the upper
one of two equally near multiples. -/
def shortest? (number : Binary64) : Option (Nat × Int) :=
  (List.range 640).findSome? fun (step : Nat) =>
    let grid : Int := 309 - (step : Int)
    (number.onGrid? grid).map fun digits => (digits, grid)

/-- Writes `digits * 10 ^ exponent` without an exponent. -/
def positional (digits : Nat) (exponent : Int) : List Char :=
  let written := Nat.toDigits 10 digits
  let places := (-exponent).toNat
  if places = 0 then written ++ List.replicate exponent.toNat '0'
  else
    let padded := List.replicate (places + 1 - written.length) '0' ++ written
    padded.take (padded.length - places) ++ '.' :: padded.drop (padded.length - places)

/-- The shortest text of a number that is never written with an exponent; a whole
number has no point. -/
def text (number : Binary64) : String :=
  if number.isNaN then "NaN"
  else
    let sign := if number.negative then "-" else ""
    if number.magnitude = infinityMagnitude then sign ++ "inf"
    else if number.magnitude = 0 then sign ++ "0"
    else
      match number.shortest? with
      | some (digits, exponent) =>
          sign ++ String.ofList (positional digits exponent)
      | none => sign ++ "0"

end Readout.Binary64
