/-!
# Running statistics

A tally counts, for every event slot and every module, what the splitter has
seen and delivered since it was built or since the tally was last cleared.
-/

namespace Readout

structure ModuleTally where
  /-- Sub-events begun, whether complete or not. -/
  headerMatches : Nat
  /-- Dynamic regions or sub-events delivered. -/
  subEvents : Nat
  /-- Sub-events dropped because they need more words than remain. -/
  truncated : Nat
  /-- Dynamic words never delivered. -/
  unconsumedWords : Nat
deriving DecidableEq

namespace ModuleTally

def zero : ModuleTally :=
  { headerMatches := 0, subEvents := 0, truncated := 0, unconsumedWords := 0 }

end ModuleTally

structure EventTally where
  inputEvents : Nat
  outputEvents : Nat
  modules : List ModuleTally
deriving DecidableEq

namespace EventTally

def zero (moduleCount : Nat) : EventTally :=
  { inputEvents := 0
    outputEvents := 0
    modules := List.replicate moduleCount ModuleTally.zero }

def subEvents (tally : EventTally) : Nat :=
  tally.modules.foldr (fun module total => module.subEvents + total) 0

def clear (tally : EventTally) : EventTally :=
  zero tally.modules.length

end EventTally

structure Tally where
  events : List EventTally
deriving DecidableEq

namespace Tally

def zero (moduleCounts : List Nat) : Tally :=
  ⟨moduleCounts.map EventTally.zero⟩

def clear (tally : Tally) : Tally :=
  ⟨tally.events.map EventTally.clear⟩

def totalSubEvents (tally : Tally) : Nat :=
  tally.events.foldr (fun event total => event.subEvents + total) 0

def module? (tally : Tally) (event module : Nat) : Option ModuleTally :=
  tally.events[event]?.bind fun counted => counted.modules[module]?

def layout (tally : Tally) : List Nat :=
  tally.events.map fun event => event.modules.length

theorem clear_eq_zero_layout (tally : Tally) : tally.clear = zero tally.layout := by
  simp [clear, zero, layout, EventTally.clear, Function.comp_def]

end Tally

end Readout
