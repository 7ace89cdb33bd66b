/-!
# Classes of characters given by ranges

A character class is a list of ranges of code points in ascending order that do
not touch.
-/

namespace Readout.Text

/-- The code points from `first` to `last`, both included. -/
structure CodeRange where
  first : Nat
  last : Nat
deriving DecidableEq

namespace CodeRange

/-- Whether a code point lies in one of the ranges; the search ends at the first
range above the code point. -/
def containsCode : List CodeRange → Nat → Bool
  | [], _ => false
  | range :: ranges, code =>
      if code < range.first then false
      else if code ≤ range.last then true
      else containsCode ranges code

def covers (ranges : List CodeRange) (character : Char) : Bool :=
  containsCode ranges character.toNat

end CodeRange

end Readout.Text
