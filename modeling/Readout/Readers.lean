import Readout.History

/-!
# Readers of a history

Samples are pushed and readers are opened, anew or as copies of others, in any order.
`History.Shows` says what a reader finds in a history to which samples have been pushed.
-/

namespace Readout

namespace Display

inductive Action where
  | push (samples : List Binary64)
  | openReader
  /-- Opens a reader as a copy of another one. -/
  | copyReader (original : Nat)
deriving DecidableEq

/-- The reply is the number of a new reader; a reader that is not there cannot be copied. -/
def step (display : Display) : Action → Display × Option Nat
  | .push samples => (display.push samples, none)
  | .openReader =>
      let (reader, next) := display.openReader
      (next, some reader)
  | .copyReader original =>
      match display.reader? original with
      | none => (display, none)
      | some _ =>
          let (reader, next) := display.openReader
          (next, some reader)

def run (display : Display) : List Action → Display × List (Option Nat)
  | [] => (display, [])
  | action :: actions =>
      let (next, reply) := display.step action
      let (last, replies) := next.run actions
      (last, reply :: replies)

namespace Action

def samples : Action → List Binary64
  | push samples => samples
  | openReader => []
  | copyReader _ => []

def pushed (actions : List Action) : List Binary64 :=
  actions.flatMap samples

end Action

end Display

/-- What is to be seen in a history of a capacity once some samples have been pushed: the
most recent ones that it has room for, the oldest first. -/
structure History.Shows (history : History) (capacity : Nat) (pushed : List Binary64) :
    Prop where
  toList_eq : history.toList = pushed.drop (pushed.length - capacity)
  length_toList : history.toList.length = min pushed.length capacity
  size_eq : history.size = history.toList.length
  isEmpty_iff : history.isEmpty = true ↔ pushed.length = 0
  last?_eq : history.last? = history.toList.getLast?
  written_eq : history.written = pushed.length
  capacity_eq : history.capacity = capacity
  max?_eq_none_iff : history.max? = none ↔ pushed.length = 0

end Readout
