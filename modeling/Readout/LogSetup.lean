import Readout.LogLevel

/-!
# Log set-up

How a program that embeds the splitter writes its log.
-/

namespace Readout

inductive LogFormat where
  | pretty
  | compact
  | json
deriving DecidableEq

namespace LogFormat

def all : List LogFormat :=
  [pretty, compact, json]

def name : LogFormat → String
  | pretty => "pretty"
  | compact => "compact"
  | json => "json"

end LogFormat

structure LogSetup where
  level : LogLevel
  format : LogFormat
  spanEvents : Bool
  fileAndLine : Bool
  threadIds : Bool
  threadNames : Bool
  ansi : Bool
deriving DecidableEq

namespace LogSetup

def ofLevel (level : LogLevel) : LogSetup :=
  { level
    format := .pretty
    spanEvents := false
    fileAndLine := true
    threadIds := false
    threadNames := true
    ansi := true }

def standard : LogSetup :=
  ofLevel .info

def withFormat (setup : LogSetup) (format : LogFormat) : LogSetup :=
  { setup with format }

def withSpanEvents (setup : LogSetup) (enabled : Bool) : LogSetup :=
  { setup with spanEvents := enabled }

def withAnsi (setup : LogSetup) (enabled : Bool) : LogSetup :=
  { setup with ansi := enabled }

end LogSetup

end Readout
