import Readout.Slot

/-!
# The multi-event splitter

A splitter is built once from the header patterns of every event slot.  It then
runs decode cycles: a cycle belongs to one slot, collects the words of the
regions of its modules, and is finished by delivering the events found in them.
-/

namespace Readout

inductive IndexError where
  | event
  | module
deriving DecidableEq

namespace IndexError

def all : List IndexError :=
  [event, module]

/-- The number of an index error; 0 stands for success. -/
def code : IndexError → Nat
  | event => 1
  | module => 2

def name : IndexError → String
  | event => "EventIndexOutOfRange"
  | module => "ModuleIndexOutOfRange"

def message : IndexError → String
  | event => "event index out of range"
  | module => "module index out of range"

end IndexError

/-- The compiled event slots and their statistics. -/
structure Splitter where
  slots : List Slot
  /-- Number of modules of the largest slot. -/
  widest : Nat
  tally : Tally
deriving DecidableEq

/-- A decode cycle: its event slot and what was recorded for each module. -/
structure Cycle where
  event : Nat
  regions : List Regions
deriving DecidableEq

structure Report where
  calls : List Call
  notices : List Notice
  brackets : Nat
deriving DecidableEq

namespace Cycle

/-- Records the words of a region of a module in place of earlier ones. -/
def record (cycle : Cycle) (region : Region) (module : Nat) (words : List Word) :
    Except IndexError Cycle :=
  match cycle.regions[module]? with
  | some regions =>
      .ok { cycle with regions := cycle.regions.set module (regions.set region words) }
  | none => .error .module

def recorded? (cycle : Cycle) (module : Nat) : Option Regions :=
  cycle.regions[module]?

def reset (cycle : Cycle) : Cycle :=
  { cycle with regions := cycle.regions.map fun _ => Regions.empty }

end Cycle

namespace Splitter

/-- Compiles the slots one after the other, the first having index `event`, and
logs each compiled slot. -/
def compileSlots (event : Nat) :
    List (List String) → List Notice × Except FilterError (List Slot)
  | [] => ([], .ok [])
  | patterns :: rest =>
      match Slot.compile patterns with
      | .error error => ([], .error error)
      | .ok slot =>
          let (notices, slots) := compileSlots (event + 1) rest
          (slot.notice event :: notices, slots.map (slot :: ·))

def widestOf (slots : List Slot) : Nat :=
  (slots.map Slot.moduleCount).foldl max 0

def ofSlots (slots : List Slot) : Splitter :=
  { slots
    widest := widestOf slots
    tally := Tally.zero (slots.map Slot.moduleCount) }

def readyNotice (splitter : Splitter) : Notice :=
  .ready splitter.slots.length splitter.widest
    (splitter.slots.countP fun slot => slot.splitting)

/-- Builds a splitter from one list of header patterns per event slot, with what
is logged meanwhile; the first pattern that does not compile ends it. -/
def build (patterns : List (List String)) : List Notice × Except FilterError Splitter :=
  match compileSlots 0 patterns with
  | (notices, .ok slots) =>
      let splitter := ofSlots slots
      (notices ++ [splitter.readyNotice], .ok splitter)
  | (notices, .error error) => (notices, .error error)

def eventCount (splitter : Splitter) : Nat :=
  splitter.slots.length

def moduleCount? (splitter : Splitter) (event : Nat) : Option Nat :=
  splitter.slots[event]?.map Slot.moduleCount

def splitting? (splitter : Splitter) (event : Nat) : Option Bool :=
  splitter.slots[event]?.map fun slot => slot.splitting

def filter? (splitter : Splitter) (event module : Nat) : Option Filter :=
  splitter.slots[event]?.bind fun slot =>
    slot.headers[module]?.map fun header => header.filter

def clearTally (splitter : Splitter) : Splitter :=
  { splitter with tally := splitter.tally.clear }

def start (splitter : Splitter) (event : Nat) : Except IndexError Cycle :=
  match splitter.moduleCount? event with
  | some count => .ok { event, regions := List.replicate count Regions.empty }
  | none => .error .event

def finish (splitter : Splitter) (cycle : Cycle) : Splitter × Report :=
  match splitter.slots[cycle.event]?, splitter.tally.events[cycle.event]? with
  | some slot, some tally =>
      let delivery := slot.deliver cycle.event cycle.regions tally.modules
      let counted : EventTally :=
        { inputEvents := tally.inputEvents + 1
          outputEvents := tally.outputEvents + delivery.brackets
          modules := delivery.tallies }
      ({ splitter with tally := ⟨splitter.tally.events.set cycle.event counted⟩ },
        { calls := delivery.calls
          notices := delivery.notices
          brackets := delivery.brackets })
  | _, _ => (splitter, { calls := [], notices := [], brackets := 0 })

end Splitter

end Readout
