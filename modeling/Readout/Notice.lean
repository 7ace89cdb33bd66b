import Readout.LogLevel
import Readout.Text.Quoted

/-!
# Log events

The splitter reports two stages of its construction and the two ways in which
it drops dynamic words.
-/

namespace Readout

inductive Notice where
  | compiled (event modules : Nat) (splitting : Bool) (patterns : List String)
  | ready (events widest splittingEvents : Nat)
  /-- A sub-event of `length` words needs more than the `remaining` words. -/
  | truncated (event module length remaining : Nat)
  /-- The `remaining` words begin with no header. -/
  | unmatched (event module remaining : Nat)
deriving DecidableEq

/-- The value of a field of a log event. -/
inductive NoticeValue where
  | number (value : Nat)
  | flag (value : Bool)
  | text (value : String)
deriving DecidableEq

namespace Notice

def level : Notice → LogLevel
  | compiled .. => .debug
  | ready .. => .info
  | truncated .. => .trace
  | unmatched .. => .trace

def message : Notice → String
  | compiled .. => "compiled event header filters"
  | ready .. => "multi-event splitter ready"
  | truncated .. => "sub-event exceeds module data, dropping remainder"
  | unmatched .. => "no header match, dropping remaining module data"

def fields : Notice → List (String × NoticeValue)
  | compiled event modules splitting patterns =>
      [("event_index", .number event), ("modules", .number modules),
        ("splitting_enabled", .flag splitting),
        ("filters", .text (Text.quotedList patterns))]
  | ready events widest splittingEvents =>
      [("events", .number events), ("max_modules", .number widest),
        ("splitting_events", .number splittingEvents)]
  | truncated event module length remaining =>
      [("event_index", .number event), ("module_index", .number module),
        ("sub_event_len", .number length), ("remaining", .number remaining)]
  | unmatched event module remaining =>
      [("event_index", .number event), ("module_index", .number module),
        ("remaining", .number remaining)]

end Notice

end Readout
