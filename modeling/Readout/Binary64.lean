/-!
# Binary floating point numbers

A 64-bit floating point number is kept as its bit pattern: a sign, eleven bits of
exponent and 52 bits of fraction.  Patterns with a full exponent are the two
infinities and the many forms of "not a number".  All other numbers are compared
as signed magnitudes, which makes the two zeros equal.
-/

namespace Readout

structure Binary64 where
  bits : UInt64
deriving DecidableEq

namespace Binary64

def infinityMagnitude : Nat := 0x7FF0000000000000

/-- The pattern of the usual form of "not a number". -/
def quietNaNMagnitude : Nat := 0x7FF8000000000000

def signWeight : Nat := 0x8000000000000000

def negative (number : Binary64) : Bool :=
  decide (signWeight ≤ number.bits.toNat)

def magnitude (number : Binary64) : Nat :=
  number.bits.toNat % signWeight

def isNaN (number : Binary64) : Bool :=
  decide (infinityMagnitude < number.magnitude)

/-- The signed magnitude, which orders all patterns that are numbers. -/
def orderKey (number : Binary64) : Int :=
  if number.negative then -(number.magnitude : Int) else (number.magnitude : Int)

/-- The larger of two numbers; a pattern that is not a number gives way to the
other one. -/
def larger (left right : Binary64) : Binary64 :=
  if left.isNaN then right
  else if right.isNaN then left
  else if left.orderKey < right.orderKey then right
  else left

def ofMagnitude (isNegative : Bool) (magnitude : Nat) : Binary64 :=
  ⟨UInt64.ofNat (if isNegative then signWeight + magnitude else magnitude)⟩

def zero : Binary64 := ⟨0⟩

end Binary64

end Readout
