import Readout.Word

/-!
# Bit fields

A field is a set of bits of a word that together hold one number, the lowest
selected bit being the least significant.  A field whose bits lie side by side
is read with one mask and one shift, a scattered one by gathering its bits.
-/

namespace Readout

structure Field where
  mask : Word
  /-- Position of the lowest bit, 0 for a field without bits. -/
  shift : Nat
  width : Nat
  /-- Whether the bits do not form one contiguous run. -/
  scattered : Bool
deriving DecidableEq

namespace Field

def empty : Field :=
  { mask := 0, shift := 0, width := 0, scattered := false }

/-- The field of the bits that a mask selects.  Shifted down to position 0, a
contiguous run of ones has no bit in common with its successor. -/
def ofMask (mask : Word) : Field :=
  let run := mask >>> UInt32.ofNat (Word.lowest mask)
  { mask
    shift := Word.lowest mask
    width := Word.popcount mask
    scattered := decide (run &&& (run + 1) ≠ 0) }

/-- The number that a field holds in a word; a field without bits holds 0. -/
def extract (field : Field) (word : Word) : Word :=
  if field.scattered then Word.gather word field.mask
  else (word &&& field.mask) >>> UInt32.ofNat field.shift

end Field

end Readout
