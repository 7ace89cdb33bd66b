import Readout.Session

/-!
# What an observer sees

An observer follows the actions and the replies of a run, without looking at any state.
It remembers which event slot the open decode cycle was started for, and writes the
report of every finished cycle into a journal, which is begun anew whenever the
statistics are cleared.
-/

namespace Readout

namespace Call

def isDynamic : Call → Bool
  | dynamic .. => true
  | _ => false

end Call

/-- The finished decode cycles, each with the event slot it was started for. -/
structure Journal where
  cycles : List (Option Nat × Report)

namespace Journal

def empty : Journal :=
  ⟨[]⟩

def add (journal : Journal) (event : Option Nat) (report : Report) : Journal :=
  ⟨journal.cycles ++ [(event, report)]⟩

def calls (journal : Journal) : List Call :=
  journal.cycles.flatMap fun cycle => cycle.2.calls

def inputs (journal : Journal) (event : Nat) : Nat :=
  journal.cycles.countP fun cycle => cycle.1 = some event

/-- Sum of the numbers of brackets that the finished cycles of an event slot report. -/
def brackets (journal : Journal) (event : Nat) : Nat :=
  journal.cycles.foldl
    (fun total cycle => if cycle.1 = some event then total + cycle.2.brackets else total) 0

@[simp]
theorem calls_add (journal : Journal) (event : Option Nat) (report : Report) :
    (journal.add event report).calls = journal.calls ++ report.calls := by
  simp [calls, add]

@[simp]
theorem inputs_add (journal : Journal) (finished : Option Nat) (report : Report)
    (event : Nat) :
    (journal.add finished report).inputs event =
      journal.inputs event + if finished = some event then 1 else 0 := by
  simp [inputs, add, List.countP_singleton]

@[simp]
theorem brackets_add (journal : Journal) (finished : Option Nat) (report : Report)
    (event : Nat) :
    (journal.add finished report).brackets event =
      journal.brackets event + if finished = some event then report.brackets else 0 := by
  rw [brackets, add, List.foldl_append]
  split <;> simp_all [brackets]

end Journal

/-- What an observer of a run remembers. -/
structure Observer where
  /-- The event slot of the open decode cycle. -/
  event : Option Nat
  journal : Journal

namespace Observer

def fresh : Observer :=
  { event := none, journal := .empty }

def note (observer : Observer) : Action → Reply → Observer
  | .start _, .started event => { observer with event := some event }
  | .start _, _ => { observer with event := none }
  | .finish, .finished report =>
      { event := none, journal := observer.journal.add observer.event report }
  | .abandon, _ => { observer with event := none }
  | .clearTally, _ => fresh
  | _, _ => observer

def watch (observer : Observer) : List Action → List Reply → Observer
  | action :: actions, reply :: replies => (observer.note action reply).watch actions replies
  | _, _ => observer

end Observer

end Readout
