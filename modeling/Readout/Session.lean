import Readout.Splitter

/-!
# Sessions

A session drives one splitter through any sequence of actions.  At most one
decode cycle is open at a time: starting a cycle abandons the open one even if
the start is refused, and so does clearing the statistics.  Actions on a cycle
change nothing when none is open.
-/

namespace Readout

inductive Action where
  | start (event : Nat)
  | record (region : Region) (module : Nat) (words : List Word)
  | recorded (module : Nat)
  | reset
  | finish
  | abandon
  | clearTally
deriving DecidableEq

inductive Reply where
  | started (event : Nat)
  | done
  /-- What is recorded for a module, if there is such a module. -/
  | recorded (regions : Option Regions)
  | finished (report : Report)
  | noCycle
  | refused (error : IndexError)
deriving DecidableEq

/-- A splitter and its open decode cycle. -/
structure Session where
  splitter : Splitter
  cycle : Option Cycle
deriving DecidableEq

namespace Session

def ofSplitter (splitter : Splitter) : Session :=
  { splitter, cycle := none }

def abandon (session : Session) : Session :=
  { session with cycle := none }

def step (session : Session) : Action → Session × Reply
  | .start event =>
      match session.splitter.start event with
      | .ok cycle => ({ session with cycle := some cycle }, .started cycle.event)
      | .error error => (session.abandon, .refused error)
  | .record region module words =>
      match session.cycle with
      | none => (session, .noCycle)
      | some cycle =>
          match cycle.record region module words with
          | .ok recorded => ({ session with cycle := some recorded }, .done)
          | .error error => (session, .refused error)
  | .recorded module =>
      match session.cycle with
      | none => (session, .noCycle)
      | some cycle => (session, .recorded (cycle.recorded? module))
  | .reset =>
      match session.cycle with
      | none => (session, .noCycle)
      | some cycle => ({ session with cycle := some cycle.reset }, .done)
  | .finish =>
      match session.cycle with
      | none => (session, .noCycle)
      | some cycle =>
          let (splitter, report) := session.splitter.finish cycle
          ({ splitter, cycle := none }, .finished report)
  | .abandon => (session.abandon, .done)
  | .clearTally => (ofSplitter session.splitter.clearTally, .done)

def run (session : Session) : List Action → Session × List Reply
  | [] => (session, [])
  | action :: actions =>
      let (next, reply) := session.step action
      let (last, replies) := next.run actions
      (last, reply :: replies)

end Session

namespace Reply

def notices : Reply → List Notice
  | finished report => report.notices
  | _ => []

end Reply

end Readout
