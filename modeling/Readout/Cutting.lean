import Readout.Slot

/-!
# Cutting one module at a time

Splitting a slot in lockstep treats all modules together.  Here every module is
cut on its own into a list of steps, and the steps of all modules are then laid
side by side: the bracket number `n` holds step `n` of every module that has
one.
-/

namespace Readout

/-- One step of cutting the dynamic words of a module. -/
inductive Cut where
  | subEvent (words : List Word)
  /-- A header whose sub-event needs more words than remain; it ends the steps. -/
  | truncated
deriving DecidableEq

namespace Cut

def delivered? : Cut → Option (List Word)
  | subEvent words => some words
  | truncated => none

end Cut

namespace Header

def cuts (header : Header) : List Word → List Cut
  | [] => []
  | word :: words =>
      if header.filter.alwaysMatches then [.subEvent (word :: words)]
      else if header.filter.matchesWord word then
        let size := (header.size.extract word).toNat
        if size ≤ words.length then
          .subEvent (word :: words.take size) :: header.cuts (words.drop size)
        else [.truncated]
      else []
termination_by words => words.length
decreasing_by
  rw [List.length_drop, List.length_cons]
  omega

def delivered (header : Header) (words : List Word) : List (List Word) :=
  (header.cuts words).filterMap Cut.delivered?

/-- The words behind the last sub-event. -/
def remainder (header : Header) (words : List Word) : List Word :=
  words.drop (header.delivered words).flatten.length

/-- The statistics of a module after its dynamic words are cut. -/
def settle (header : Header) (words : List Word) (tally : ModuleTally) : ModuleTally :=
  { headerMatches := tally.headerMatches + (header.cuts words).length
    subEvents := tally.subEvents + (header.delivered words).length
    truncated := tally.truncated + (header.cuts words).count .truncated
    unconsumedWords := tally.unconsumedWords + (header.remainder words).length }

end Header

namespace Cutting

/-- The calls of step `number` of a module, if it has that step. -/
def moduleCalls (event number module : Nat) (header : Header) (recorded : Regions) :
    List Call :=
  match (header.cuts recorded.dynamic)[number]? with
  | some (.subEvent words) =>
      Call.forWords .leading event module recorded.leading ++
        Call.dynamic event module words ::
          Call.forWords .trailing event module recorded.trailing
  | _ => []

def callsFrom (event number : Nat) : (module : Nat) → List (Header × Regions) → List Call
  | _, [] => []
  | module, (header, recorded) :: modules =>
      moduleCalls event number module header recorded ++
        callsFrom event number (module + 1) modules

def bracket (event : Nat) (modules : List (Header × Regions)) (number : Nat) : List Call :=
  Call.beginEvent event :: callsFrom event number 0 modules ++ [Call.endEvent event]

def stepCount (modules : List (Header × Regions)) : Nat :=
  (modules.map fun entry => (entry.1.cuts entry.2.dynamic).length).foldl max 0

def brackets (event : Nat) (modules : List (Header × Regions)) : List (List Call) :=
  (List.range (stepCount modules)).map (bracket event modules)

end Cutting

end Readout
