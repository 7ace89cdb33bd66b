import Readout.Header
import Readout.Notice
import Readout.Regions
import Readout.Tally

/-!
# Event slots

An event slot has a list of modules.  When a decode cycle of the slot ends, the
recorded words are delivered as calls to the receiver of events, in brackets of
a begin and an end that are one logical event each.

A slot none of whose modules can tell headers delivers everything in one
bracket.  Any other slot is split in lockstep: every round opens a bracket in
which each module whose remaining words start a sub-event delivers that one
sub-event, and the rounds end when no module starts one.
-/

namespace Readout

inductive Call where
  | beginEvent (event : Nat)
  | leading (event module : Nat) (words : List Word)
  | dynamic (event module : Nat) (words : List Word)
  | trailing (event module : Nat) (words : List Word)
  | endEvent (event : Nat)
deriving DecidableEq

namespace Call

def ofRegion (region : Region) (event module : Nat) (words : List Word) : Call :=
  match region with
  | .leading => leading event module words
  | .dynamic => dynamic event module words
  | .trailing => trailing event module words

/-- The calls for the words of a region: none if there are no words. -/
def forWords (region : Region) (event module : Nat) (words : List Word) : List Call :=
  if words.isEmpty then [] else [ofRegion region event module words]

end Call

/-- What the end of a decode cycle leaves behind. -/
structure Delivery where
  calls : List Call
  notices : List Notice
  brackets : Nat
  tallies : List ModuleTally
deriving DecidableEq

/-- One module while its slot is split. -/
structure Lane where
  index : Nat
  header : Header
  /-- The recorded words, of the dynamic region those that remain. -/
  regions : Regions
  tally : ModuleTally
deriving DecidableEq

namespace Lane

def starts (lane : Lane) : Bool :=
  lane.header.starts lane.regions.dynamic

def remaining (lane : Lane) : Nat :=
  lane.regions.dynamic.length

def drop (lane : Lane) : Lane :=
  { lane with
    regions := { lane.regions with dynamic := [] }
    tally :=
      { lane.tally with
        unconsumedWords := lane.tally.unconsumedWords + lane.remaining } }

def advance (lane : Lane) : Lane :=
  match lane.header.front lane.regions.dynamic with
  | .unmatched => lane
  | .truncated _ =>
      let dropped := lane.drop
      { dropped with
        tally :=
          { dropped.tally with
            headerMatches := lane.tally.headerMatches + 1
            truncated := lane.tally.truncated + 1 } }
  | .subEvent _ rest =>
      { lane with
        regions := { lane.regions with dynamic := rest }
        tally :=
          { lane.tally with
            headerMatches := lane.tally.headerMatches + 1
            subEvents := lane.tally.subEvents + 1 } }

def calls (event : Nat) (lane : Lane) : List Call :=
  match lane.header.front lane.regions.dynamic with
  | .subEvent words _ =>
      Call.forWords .leading event lane.index lane.regions.leading ++
        Call.dynamic event lane.index words ::
          Call.forWords .trailing event lane.index lane.regions.trailing
  | _ => []

def notices (event : Nat) (lane : Lane) : List Notice :=
  match lane.header.front lane.regions.dynamic with
  | .truncated length => [.truncated event lane.index length lane.remaining]
  | _ => []

def finalNotices (event : Nat) (lane : Lane) : List Notice :=
  if lane.regions.dynamic.isEmpty then []
  else [.unmatched event lane.index lane.remaining]

theorem remaining_advance_le (lane : Lane) : lane.advance.remaining ≤ lane.remaining := by
  unfold advance
  split
  · exact Nat.le_refl _
  · exact Nat.zero_le _
  · rename_i front_eq
    exact Nat.le_of_lt (Header.front_rest_length_lt front_eq)

theorem remaining_advance_lt (lane : Lane) (starting : lane.starts = true) :
    lane.advance.remaining < lane.remaining := by
  unfold advance
  split
  · rename_i front_eq
    rw [starts, (Header.starts_eq_false_iff _ _).mpr front_eq] at starting
    exact absurd starting (by decide)
  · rename_i front_eq
    exact Header.front_truncated_length_pos front_eq
  · rename_i front_eq
    exact Header.front_rest_length_lt front_eq

end Lane

namespace Lanes

def remaining : List Lane → Nat
  | [] => 0
  | lane :: lanes => lane.remaining + remaining lanes

def advance (lanes : List Lane) : List Lane :=
  lanes.map Lane.advance

theorem remaining_advance_le (lanes : List Lane) :
    remaining (advance lanes) ≤ remaining lanes := by
  induction lanes with
  | nil => exact Nat.le_refl _
  | cons lane lanes induction =>
      simp only [advance, remaining, List.map_cons] at induction ⊢
      exact Nat.add_le_add lane.remaining_advance_le induction

theorem remaining_advance_lt (lanes : List Lane)
    (starting : lanes.any Lane.starts = true) :
    remaining (advance lanes) < remaining lanes := by
  induction lanes with
  | nil => simp at starting
  | cons lane lanes induction =>
      have rest := remaining_advance_le lanes
      simp only [List.any_cons, Bool.or_eq_true] at starting
      simp only [advance, remaining, List.map_cons] at rest induction ⊢
      rcases starting with here | later
      · exact Nat.add_lt_add_of_lt_of_le (lane.remaining_advance_lt here) rest
      · exact Nat.add_lt_add_of_le_of_lt lane.remaining_advance_le (induction later)

def bracket (event : Nat) (lanes : List Lane) : List Call :=
  Call.beginEvent event :: lanes.flatMap (Lane.calls event) ++ [Call.endEvent event]

/-- Runs rounds until no module starts a sub-event, then drops what remains. -/
def split (event : Nat) (lanes : List Lane) : Delivery :=
  if _starting : lanes.any Lane.starts = true then
    let later := split event (advance lanes)
    { calls := bracket event lanes ++ later.calls
      notices := lanes.flatMap (Lane.notices event) ++ later.notices
      brackets := later.brackets + 1
      tallies := later.tallies }
  else
    { calls := []
      notices := lanes.flatMap (Lane.finalNotices event)
      brackets := 0
      tallies := lanes.map fun lane => lane.drop.tally }
termination_by remaining lanes
decreasing_by exact remaining_advance_lt lanes _starting

/-- The lanes of modules with the given headers, regions and statistics, the first
module having the given index. -/
def ofModules (index : Nat) : List Header → List Regions → List ModuleTally → List Lane
  | header :: headers, recorded :: regions, tally :: tallies =>
      { index, header, regions := recorded, tally } ::
        ofModules (index + 1) headers regions tallies
  | _, _, _ => []

end Lanes

structure Slot where
  headers : List Header
  /-- Whether the slot is split. -/
  splitting : Bool
deriving DecidableEq

namespace Slot

/-- The slot of modules with the given headers; it is split if some header filter
can tell headers from other words. -/
def ofHeaders (headers : List Header) : Slot :=
  { headers, splitting := headers.any Header.marksBoundaries }

def compileHeaders : List String → Except FilterError (List Header)
  | [] => .ok []
  | pattern :: patterns =>
      match Header.compile pattern with
      | .error error => .error error
      | .ok header =>
          match compileHeaders patterns with
          | .error error => .error error
          | .ok headers => .ok (header :: headers)

def compile (patterns : List String) : Except FilterError Slot :=
  match compileHeaders patterns with
  | .error error => .error error
  | .ok headers => .ok (ofHeaders headers)

def moduleCount (slot : Slot) : Nat :=
  slot.headers.length

def notice (event : Nat) (slot : Slot) : Notice :=
  .compiled event slot.moduleCount slot.splitting
    (slot.headers.map fun header => header.filter.pattern)

/-- The calls for everything recorded for the modules from an index on. -/
def wholeCalls (event : Nat) : (module : Nat) → List Regions → List Call
  | _, [] => []
  | module, recorded :: regions =>
      Call.forWords .leading event module recorded.leading ++
        (Call.forWords .dynamic event module recorded.dynamic ++
          (Call.forWords .trailing event module recorded.trailing ++
            wholeCalls event (module + 1) regions))

def countWhole (regions : Regions) (tally : ModuleTally) : ModuleTally :=
  if regions.dynamic.isEmpty then tally
  else { tally with subEvents := tally.subEvents + 1 }

def passThrough (event : Nat) (regions : List Regions)
    (tallies : List ModuleTally) : Delivery :=
  { calls := Call.beginEvent event :: wholeCalls event 0 regions ++ [Call.endEvent event]
    notices := []
    brackets := 1
    tallies := List.zipWith countWhole regions tallies }

def deliver (slot : Slot) (event : Nat) (regions : List Regions)
    (tallies : List ModuleTally) : Delivery :=
  if slot.splitting then
    Lanes.split event (Lanes.ofModules 0 slot.headers regions tallies)
  else
    passThrough event regions tallies

end Slot

end Readout
