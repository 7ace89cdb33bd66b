import Readout.Word

/-!
# The regions of a module

In one readout cycle a module delivers three regions: fixed words in front, the
dynamic region with its sub-events, and fixed words behind.
-/

namespace Readout

/-- The regions of a module in readout order. -/
inductive Region where
  /-- The fixed words in front. -/
  | leading
  /-- The words that hold zero or more sub-events. -/
  | dynamic
  /-- The fixed words behind. -/
  | trailing
deriving DecidableEq

/-- The words recorded for the regions of one module. -/
structure Regions where
  leading : List Word
  dynamic : List Word
  trailing : List Word
deriving DecidableEq

namespace Regions

def empty : Regions :=
  { leading := [], dynamic := [], trailing := [] }

def isEmpty (regions : Regions) : Bool :=
  regions.leading.isEmpty && regions.dynamic.isEmpty && regions.trailing.isEmpty

def get (regions : Regions) : Region → List Word
  | .leading => regions.leading
  | .dynamic => regions.dynamic
  | .trailing => regions.trailing

def set (regions : Regions) (region : Region) (words : List Word) : Regions :=
  match region with
  | .leading => { regions with leading := words }
  | .dynamic => { regions with dynamic := words }
  | .trailing => { regions with trailing := words }

@[simp]
theorem get_set (regions : Regions) (region other : Region) (words : List Word) :
    (regions.set region words).get other =
      if other = region then words else regions.get other := by
  cases region <;> cases other <;> rfl

end Regions

end Readout
