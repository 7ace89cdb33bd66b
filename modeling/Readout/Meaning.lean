import Readout.Filter

/-!
# What a pattern says about a word

A pattern shows a word as text, the described bits from left to right and bit 0 last.  A
digit says what its bit is.  The bits under one marker, read in the order of the text,
are the binary digits of a number.
-/

namespace Readout

namespace Filter

/-- The described bits of a word are as the digits of the pattern say.  The last character
describes bit 0. -/
def Shows (pattern : String) (word : Word) : Prop :=
  ∀ (index : Nat) (inside : index < (described pattern).length),
    ((described pattern)[index] = '0' →
      Word.bit word ((described pattern).length - 1 - index) = false) ∧
    ((described pattern)[index] = '1' →
      Word.bit word ((described pattern).length - 1 - index) = true)

instance (pattern : String) (word : Word) : Decidable (Shows pattern word) :=
  inferInstanceAs (Decidable (∀ (index : Nat) (_ : index < _), _ ∧ _))

/-- Reads the bits under a marker from left to right behind the digits of `number`.  A
character describes the bit with as many bits below it as characters follow. -/
def readFrom (marker : Char) (word : Word) : List Char → (number : Nat) → Nat
  | [], number => number
  | character :: rest, number =>
      if Text.fold character = Text.fold marker then
        readFrom marker word rest (2 * number + (Word.bit word rest.length).toNat)
      else readFrom marker word rest number

/-- The number under a marker of a pattern, upper and lower case being the same marker. -/
def reading (pattern : String) (marker : Char) (word : Word) : Nat :=
  readFrom marker word (described pattern) 0

end Filter

end Readout
