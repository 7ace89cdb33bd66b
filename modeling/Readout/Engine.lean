import Readout.Session

/-!
# The splitter at work

A session says what a splitter answers.  An engine works the answers out in
storage that it keeps: one list of match flags, as long as the largest slot has
modules and written anew in every round of every slot, and one list of regions,
which a cycle takes when it starts and gives back when it ends.

Nothing here demands that these lists fit the modules of a slot.  Lists that are
walked together are walked as far as all of them reach, so a list that is too
short leaves modules out, and what cannot be carried out at all is a fault.
-/

namespace Readout

inductive Fault where
  /-- The first `count` flags, of which only `available` exist. -/
  | flags (count available : Nat)
  /-- The first `count` words, of which only `available` exist. -/
  | words (count available : Nat)
  /-- Rounds that use up no words and so go on forever. -/
  | endless
deriving DecidableEq

namespace Header

/-- Number of words of the sub-event that the remaining words begin with. -/
def frontLength (header : Header) : List Word → Nat
  | [] => 0
  | word :: words => header.subEventLength word (words.length + 1)

end Header

/-- The splitter, the storage that it reuses, and the open decode cycle. -/
structure Engine where
  slots : List Slot
  /-- For every module of the slot at work, whether it starts a sub-event. -/
  flags : List Bool
  /-- The storage for regions, while no cycle has taken it. -/
  pool : List Regions
  tally : Tally
  cycle : Option Cycle
deriving DecidableEq

namespace Engine

def splitWords (count : Nat) (words : List Word) : Except Fault (List Word × List Word) :=
  if count ≤ words.length then .ok (words.take count, words.drop count)
  else .error (.words count words.length)

def takeFront (count : Nat) (words : List Word) :
    Except Fault (Option (List Word × List Word)) :=
  if words.length < count then .ok none
  else (splitWords count words).map some

/-- Sets the flag of every module that has one, and says whether some module starts a
sub-event. -/
def mark : List Bool → List Header → List Regions → List Bool × Bool
  | _ :: flags, header :: headers, recorded :: regions =>
      let (later, starting) := mark flags headers regions
      (header.starts recorded.dynamic :: later,
        header.starts recorded.dynamic || starting)
  | flags, _, _ => (flags, false)

structure Turn where
  calls : List Call
  notices : List Notice
  recorded : Regions
  tally : ModuleTally

/-- The turn of a module whose remaining words start a sub-event. -/
def turn (event module : Nat) (header : Header) (recorded : Regions)
    (tally : ModuleTally) : Except Fault Turn := do
  let length := header.frontLength recorded.dynamic
  match ← takeFront length recorded.dynamic with
  | none =>
      return {
        calls := []
        notices := [.truncated event module length recorded.dynamic.length]
        recorded := { recorded with dynamic := [] }
        tally :=
          { tally with
            headerMatches := tally.headerMatches + 1
            truncated := tally.truncated + 1
            unconsumedWords := tally.unconsumedWords + recorded.dynamic.length } }
  | some (words, rest) =>
      return {
        calls :=
          Call.forWords .leading event module recorded.leading ++
            Call.dynamic event module words ::
              Call.forWords .trailing event module recorded.trailing
        notices := []
        recorded := { recorded with dynamic := rest }
        tally :=
          { tally with
            headerMatches := tally.headerMatches + 1
            subEvents := tally.subEvents + 1 } }

structure Round where
  calls : List Call
  notices : List Notice
  regions : List Regions
  tallies : List ModuleTally

/-- The turns of the flagged modules from an index on. -/
def round (event : Nat) : (module : Nat) → List Header → List Regions →
    List ModuleTally → List Bool → Except Fault Round
  | module, header :: headers, recorded :: regions, tally :: tallies, flag :: flags => do
      let here ←
        (if flag then turn event module header recorded tally
        else .ok { calls := [], notices := [], recorded, tally })
      let later ← round event (module + 1) headers regions tallies flags
      return {
        calls := here.calls ++ later.calls
        notices := here.notices ++ later.notices
        regions := here.recorded :: later.regions
        tallies := here.tally :: later.tallies }
  | _, _, regions, tallies, _ => return { calls := [], notices := [], regions, tallies }

structure Stage where
  flags : List Bool
  regions : List Regions
  tallies : List ModuleTally

def Stage.remaining (stage : Stage) : Nat :=
  stage.regions.foldr (fun recorded total => recorded.dynamic.length + total) 0

/-- What the end of a decode cycle leaves behind, and the storage it used. -/
structure Outcome where
  calls : List Call
  notices : List Notice
  brackets : Nat
  stage : Stage

/-- Reports and counts the words that remain for the modules from an index on. -/
def sweep (event : Nat) : (module : Nat) → List Regions → List ModuleTally →
    List Notice × List ModuleTally
  | module, recorded :: regions, tally :: tallies =>
      let (notices, counted) := sweep event (module + 1) regions tallies
      if recorded.dynamic.isEmpty then (notices, tally :: counted)
      else
        (.unmatched event module recorded.dynamic.length :: notices,
          { tally with
            unconsumedWords := tally.unconsumedWords + recorded.dynamic.length } ::
            counted)
  | _, _, tallies => ([], tallies)

/-- Runs rounds until no flag is set, then sweeps up what remains. -/
def rounds (event : Nat) (headers : List Header) (stage : Stage) : Except Fault Outcome :=
  let (flags, starting) := mark stage.flags headers stage.regions
  if starting then do
    let next ← round event 0 headers stage.regions stage.tallies flags
    let following : Stage := { flags, regions := next.regions, tallies := next.tallies }
    -- A round with a set flag takes words from its module, unless the storage does not fit.
    if _shorter : following.remaining < stage.remaining then
      let later ← rounds event headers following
      return {
        calls := Call.beginEvent event :: next.calls ++ Call.endEvent event :: later.calls
        notices := next.notices ++ later.notices
        brackets := later.brackets + 1
        stage := later.stage }
    else .error .endless
  else
    let (notices, tallies) := sweep event 0 stage.regions stage.tallies
    return { calls := [], notices, brackets := 0, stage := { stage with flags, tallies } }
termination_by stage.remaining

def split (event : Nat) (headers : List Header) (stage : Stage) : Except Fault Outcome := do
  let count := stage.regions.length
  if count ≤ stage.flags.length then
    let outcome ← rounds event headers { stage with flags := stage.flags.take count }
    return { outcome with
      stage.flags := outcome.stage.flags ++ stage.flags.drop count }
  else .error (.flags count stage.flags.length)

/-- Delivers and counts everything recorded for the modules from an index on. -/
def whole (event : Nat) : (module : Nat) → List Regions → List ModuleTally →
    List Call × List ModuleTally
  | module, recorded :: regions, tally :: tallies =>
      let (calls, counted) := whole event (module + 1) regions tallies
      (Call.forWords .leading event module recorded.leading ++
          (Call.forWords .dynamic event module recorded.dynamic ++
            (Call.forWords .trailing event module recorded.trailing ++ calls)),
        Slot.countWhole recorded tally :: counted)
  | _, _, tallies => ([], tallies)

def passThrough (event : Nat) (stage : Stage) : Outcome :=
  let (calls, tallies) := whole event 0 stage.regions stage.tallies
  { calls := Call.beginEvent event :: calls ++ [Call.endEvent event]
    notices := []
    brackets := 1
    stage := { stage with tallies } }

def deliver (slot : Slot) (event : Nat) (stage : Stage) : Except Fault Outcome :=
  if slot.splitting then split event slot.headers stage
  else .ok (passThrough event stage)

/-- Clears storage; whatever it should still hold is emptied. -/
def recycle (regions : List Regions) : List Regions :=
  (regions.take 0).map fun _ => Regions.empty

def resize (count : Nat) (regions : List Regions) : List Regions :=
  regions.take count ++ List.replicate (count - regions.length) Regions.empty

def release (engine : Engine) : Engine :=
  match engine.cycle with
  | none => engine
  | some cycle => { engine with pool := recycle cycle.regions, cycle := none }

/-- Ends a cycle; a cycle whose slot or statistics are missing ends without effect. -/
def finish (engine : Engine) (cycle : Cycle) : Except Fault (Engine × Report) :=
  match engine.slots[cycle.event]?, engine.tally.events[cycle.event]? with
  | some slot, some counted => do
      let outcome ← deliver slot cycle.event
        { flags := engine.flags, regions := cycle.regions, tallies := counted.modules }
      let tally : EventTally :=
        { inputEvents := counted.inputEvents + 1
          outputEvents := counted.outputEvents + outcome.brackets
          modules := outcome.stage.tallies }
      return (
        { engine with
          flags := outcome.stage.flags
          pool := recycle outcome.stage.regions
          tally := ⟨engine.tally.events.set cycle.event tally⟩
          cycle := none },
        { calls := outcome.calls
          notices := outcome.notices
          brackets := outcome.brackets })
  | _, _ => return (engine.release, { calls := [], notices := [], brackets := 0 })

def start (engine : Engine) (event : Nat) : Engine × Reply :=
  match engine.slots[event]? with
  | some slot =>
      let regions := resize slot.moduleCount (recycle engine.pool)
      ({ engine with pool := [], cycle := some { event, regions } }, .started event)
  | none => (engine, .refused .event)

def step (engine : Engine) : Action → Except Fault (Engine × Reply)
  | .start event => .ok (engine.release.start event)
  | .record region module words =>
      match engine.cycle with
      | none => .ok (engine, .noCycle)
      | some cycle =>
          match cycle.record region module words with
          | .ok recorded => .ok ({ engine with cycle := some recorded }, .done)
          | .error error => .ok (engine, .refused error)
  | .recorded module =>
      match engine.cycle with
      | none => .ok (engine, .noCycle)
      | some cycle => .ok (engine, .recorded (cycle.recorded? module))
  | .reset =>
      match engine.cycle with
      | none => .ok (engine, .noCycle)
      | some cycle => .ok ({ engine with cycle := some cycle.reset }, .done)
  | .finish =>
      match engine.cycle with
      | none => .ok (engine, .noCycle)
      | some cycle => do
          let (ended, report) ← engine.finish cycle
          return (ended, .finished report)
  | .abandon => .ok (engine.release, .done)
  | .clearTally => .ok ({ engine.release with tally := engine.tally.clear }, .done)

def run (engine : Engine) : List Action → Except Fault (Engine × List Reply)
  | [] => .ok (engine, [])
  | action :: actions => do
      let (next, reply) ← engine.step action
      let (last, replies) ← next.run actions
      return (last, reply :: replies)

def ofSplitter (splitter : Splitter) : Engine :=
  { slots := splitter.slots
    flags := List.replicate splitter.widest false
    pool := []
    tally := splitter.tally
    cycle := none }

def build (patterns : List (List String)) : List Notice × Except FilterError Engine :=
  let (notices, built) := Splitter.build patterns
  (notices, built.map ofSplitter)

def splitter (engine : Engine) : Splitter :=
  { slots := engine.slots
    widest := engine.flags.length
    tally := engine.tally }

/-- What can be seen of an engine from outside. -/
def session (engine : Engine) : Session :=
  { splitter := engine.splitter
    cycle := engine.cycle }

end Engine

end Readout
