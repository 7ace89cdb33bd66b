import Readout.LogSetup
import Readout.Settings.Standard
import Readout.Splitter
import Readout.Text.LowerCase

/-!
# Setting up a session

A configuration is checked, and a splitter and a log are set up from it.  The
check looks at the log level first and then at the event slots in order: at the
name of a slot, and then, module by module, at the name of the module and at the
width of its header pattern.
-/

namespace Readout

inductive Violation where
  | configuredLevel (level : String)
  /-- A text that should name a log level names none. -/
  | unknownLevel (level : String)
  | duplicateEvent (event : String)
  | duplicateModule (module event : String)
  /-- A rule of the embedding program, in its own words. -/
  | custom (reason : String)
deriving DecidableEq

inductive SetupError where
  | unreadable (error : Settings.LoadError)
  | invalid (violation : Violation)
  | filter (error : FilterError)
  | splitter (error : IndexError)
  /-- The log cannot be installed, for a reason in the words of the program that
  embeds the splitter. -/
  | logging (reason : String)

/-- The log levels that a configuration may ask for. -/
def Config.validLevels : List String :=
  ["trace", "debug", "info", "warn", "error"]

namespace Violation

def message : Violation → String
  | configuredLevel level =>
      "Invalid log_level '" ++ level ++ "'. Must be one of: " ++
        String.intercalate ", " Config.validLevels
  | unknownLevel level =>
      "Invalid log level '" ++ level ++ "'. Must be one of: trace, debug, info, warn, error"
  | duplicateEvent event => "Duplicate event name: " ++ event
  | duplicateModule module event =>
      "Duplicate module name '" ++ module ++ "' in event '" ++ event ++ "'"
  | custom reason => reason

end Violation

namespace SetupError

def message : SetupError → String
  | unreadable error => "Configuration error: " ++ error.message
  | invalid violation => "Configuration validation error: " ++ violation.message
  | filter error => "Filter error: " ++ error.message
  | splitter error => "Splitter error: " ++ error.message
  | logging reason => "Tracing initialization failed: " ++ reason

end SetupError

namespace LogLevel

def parse (text : String) : Except SetupError LogLevel :=
  match Text.lowered text with
  | "trace" => .ok .trace
  | "debug" => .ok .debug
  | "info" => .ok .info
  | "warn" => .ok .warn
  | "error" => .ok .error
  | _ => .error (.invalid (.unknownLevel text))

end LogLevel

namespace Config

/-- Checks the modules of an event slot, of which some have been seen. -/
def validateModules (event : String) :
    (seen : List String) → List ModuleDefinition → Except SetupError Unit
  | _, [] => .ok ()
  | seen, module :: modules =>
      if module.name ∈ seen then .error (.invalid (.duplicateModule module.name event))
      else
        match Filter.compile module.headerPattern none with
        | .error error => .error (.filter error)
        | .ok _ => validateModules event (module.name :: seen) modules

def validateEvents : (seen : List String) → List EventDefinition → Except SetupError Unit
  | _, [] => .ok ()
  | seen, event :: events =>
      if event.name ∈ seen then .error (.invalid (.duplicateEvent event.name))
      else
        match validateModules event.name [] event.modules with
        | .error error => .error error
        | .ok () => validateEvents (event.name :: seen) events

def validate (config : Config) : Except SetupError Unit :=
  if Text.lowered config.application.logLevel ∈ validLevels then
    validateEvents [] config.events
  else .error (.invalid (.configuredLevel config.application.logLevel))

/-- Checks a configuration and builds its splitter, with what is logged
meanwhile. -/
def buildSplitter (config : Config) : List Notice × Except SetupError Splitter :=
  match config.validate with
  | .error error => ([], .error error)
  | .ok () =>
      let (notices, built) := Splitter.build config.headerPatterns
      (notices, built.mapError SetupError.filter)

end Config

namespace LogSetup

def ofConfig (config : Config) : Except SetupError LogSetup :=
  (LogLevel.parse config.application.logLevel).map ofLevel

end LogSetup

end Readout
