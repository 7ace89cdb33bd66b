import Readout.Filter

/-!
# Values spread over several words

Some modules split a wide value over two words with different headers.  A
collector has one part per word.  Every part keeps the first word offered to it
that its filter accepts; a word is offered to the parts in order and only one of
them keeps it.  Once every part holds a word the fields of the parts are joined,
the first part supplying the least significant bits.
-/

namespace Readout

/-- One part of a collector and the word it keeps. -/
structure Part where
  filter : Filter
  word : Option Word
deriving DecidableEq

namespace Part

def accepts (part : Part) (word : Word) (position : Option Nat) : Bool :=
  part.word.isNone && part.filter.matchesAt word position

end Part

/-- The parts of a value spread over several words. -/
structure Collector where
  parts : List Part
deriving DecidableEq

/-- The fields to read from the words of a collector, in the order of the parts. -/
abbrev WideField := List Field

namespace WideField

def totalBits : WideField → Nat
  | [] => 0
  | field :: fields => field.width + totalBits fields

end WideField

namespace Collector

/-- Largest number of parts; two words always fit a value of 64 bits. -/
def maxFilters : Nat := 2

def ofFilters (filters : List Filter) : Except FilterError Collector :=
  if filters.length ≤ maxFilters then
    .ok ⟨filters.map fun filter => ⟨filter, none⟩⟩
  else
    .error (.tooManyFilters filters.length maxFilters)

def filters (collector : Collector) : List Filter :=
  collector.parts.map Part.filter

def words (collector : Collector) : List (Option Word) :=
  collector.parts.map Part.word

/-- Gives a word to the first part that accepts it. -/
def keepFirst (word : Word) (position : Option Nat) : List Part → List Part
  | [] => []
  | part :: parts =>
      if part.accepts word position then { part with word := some word } :: parts
      else part :: keepFirst word position parts

def offer (collector : Collector) (word : Word) (position : Option Nat) : Collector :=
  ⟨keepFirst word position collector.parts⟩

def isComplete (collector : Collector) : Bool :=
  !collector.parts.isEmpty && collector.parts.all fun part => part.word.isSome

def reset (collector : Collector) : Collector :=
  ⟨collector.parts.map fun part => { part with word := none }⟩

def field (collector : Collector) (marker : Char) : WideField :=
  collector.filters.map (·.field marker)

/-- Joins the fields of the words on top of the `shift` bits of `joined`, as far
as there are both words and fields. -/
def join : List Word → WideField → (shift : Nat) → (joined : UInt64) → UInt64
  | word :: words, field :: fields, shift, joined =>
      join words fields (shift + field.width)
        (joined ||| ((field.extract word).toUInt64 <<< UInt64.ofNat shift))
  | _, _, _, joined => joined

def extract (collector : Collector) (fields : WideField) : Option UInt64 :=
  if collector.isComplete then
    some (join (collector.words.filterMap id) fields 0 0)
  else none

end Collector

end Readout
