import Readout.Field
import Readout.Text.Blank
import Readout.Text.UpperCase

/-!
# Bit filters

A filter is compiled from a pattern that shows a word from its most significant
described bit down to bit 0.  The characters `0` and `1` fix their bit.  Every
other character is a marker: the bit is free, and it belongs to the field named
by the character, upper and lower case naming the same field.  Blanks only
space the pattern out.

A filter may also demand that the word stands at a certain position of its
buffer.
-/

namespace Readout

inductive FilterError where
  /-- The pattern, as written, has more bit characters than a word has bits. -/
  | patternTooLong (pattern : String) (bits limit : Nat)
  | tooManyFilters (count limit : Nat)
deriving DecidableEq

namespace FilterError

def message : FilterError → String
  | patternTooLong pattern bits limit =>
      "filter pattern '" ++ pattern ++ "' has " ++ toString bits ++
        " bits, maximum is " ++ toString limit
  | tooManyFilters count limit =>
      "multi-word filter takes at most " ++ toString limit ++
        " filters, got " ++ toString count

end FilterError

structure Filter where
  /-- The folded pattern character of each described bit, bit 0 first. -/
  letters : List Char
  /-- The bits with a fixed value. -/
  fixedMask : Word
  /-- The values of the fixed bits. -/
  fixedValue : Word
  /-- The demanded position of the word, if any. -/
  position : Option Nat
deriving DecidableEq

namespace Filter

def maxBits : Nat := 32

def isFixed (letter : Char) : Bool :=
  letter == '0' || letter == '1'

def maskWhere (test : Char → Bool) (letters : List Char) : Word :=
  Word.ofBits (letters.map test)

/-- The filter with the given letters, bit 0 first. -/
def ofLetters (letters : List Char) (position : Option Nat) : Filter :=
  { letters
    fixedMask := maskWhere isFixed letters
    fixedValue := maskWhere (· == '1') letters
    position }

/-- The characters of a pattern that describe bits, most significant first. -/
def described (pattern : String) : List Char :=
  Text.withoutBlanks pattern.toList

/-- Whether a pattern describes no more bits than a word has. -/
def IsShort (pattern : String) : Prop :=
  (described pattern).length ≤ maxBits

instance (pattern : String) : Decidable (IsShort pattern) :=
  inferInstanceAs (Decidable (_ ≤ _))

/-- Compiles a pattern; a pattern without bits matches every word. -/
def compile (pattern : String) (position : Option Nat) : Except FilterError Filter :=
  let characters := described pattern
  if characters.length ≤ maxBits then
    .ok (ofLetters (characters.map Text.fold).reverse position)
  else
    .error (.patternTooLong pattern characters.length maxBits)

def width (filter : Filter) : Nat :=
  filter.letters.length

/-- Whether no bit is fixed, so that every word at an admitted position matches. -/
def alwaysMatches (filter : Filter) : Bool :=
  filter.fixedMask == 0

/-- Whether a word found at a position, or at an unknown one, is admitted by the
position that the filter demands. -/
def admits (filter : Filter) (position : Option Nat) : Bool :=
  match filter.position with
  | none => true
  | some demanded => position == some demanded

def matchesAt (filter : Filter) (word : Word) (position : Option Nat) : Bool :=
  filter.admits position && (word &&& filter.fixedMask) == filter.fixedValue

def matchesWord (filter : Filter) (word : Word) : Bool :=
  filter.matchesAt word none

/-- The bits tagged with a marker, in either case. -/
def fieldMask (filter : Filter) (marker : Char) : Word :=
  maskWhere (· == Text.fold marker) filter.letters

def field (filter : Filter) (marker : Char) : Field :=
  Field.ofMask (filter.fieldMask marker)

/-- The canonical pattern: folded characters and no blanks. -/
def pattern (filter : Filter) : String :=
  String.ofList filter.letters.reverse

def display (filter : Filter) : String :=
  match filter.position with
  | none => filter.pattern
  | some demanded => filter.pattern ++ "@" ++ toString demanded

end Filter

end Readout
