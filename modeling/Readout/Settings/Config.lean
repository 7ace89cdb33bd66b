/-!
# Configurations

What a program that reads out modules can configure: its own name and log level,
and the event slots with their modules.
-/

namespace Readout

structure Application where
  name : String
  logLevel : String
deriving DecidableEq

namespace Application

def defaultName : String := "daq-splitter"

def defaultLogLevel : String := "info"

def standard : Application :=
  { name := defaultName, logLevel := defaultLogLevel }

end Application

structure ModuleDefinition where
  name : String
  /-- The header pattern; the empty pattern fixes no bit. -/
  headerPattern : String
deriving DecidableEq

structure EventDefinition where
  name : String
  modules : List ModuleDefinition
deriving DecidableEq

structure Config where
  application : Application
  events : List EventDefinition
deriving DecidableEq

namespace Config

/-- The header patterns of the modules, one list per event slot. -/
def headerPatterns (config : Config) : List (List String) :=
  config.events.map fun event => event.modules.map ModuleDefinition.headerPattern

end Config

end Readout
