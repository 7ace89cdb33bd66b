import Readout.Setup

/-!
# The rules of configurations

`Config.Valid` states the rules, and `Config.violations` lists everything in a configuration
that is against them, in the order in which a configuration is looked through.
`Splitter.Realizes` relates a configuration to the splitter that it asks for.
-/

namespace Readout

/-- What is wrong with items that should have different names: an item with the name of an
earlier one comes up as repeated, before everything that is wrong with the item itself. -/
def namedViolations (name : Item → String) (repeated : Item → SetupError)
    (within : Item → List SetupError) (items : List Item) : List SetupError :=
  items.zipIdx.flatMap fun (item, index) =>
    (if name item ∈ (items.take index).map name then [repeated item] else []) ++ within item

/-- The outcome of a check that stops at the first violation. -/
def firstViolation : List SetupError → Except SetupError Unit
  | [] => .ok ()
  | violation :: _ => .error violation

namespace ModuleDefinition

def violations (module : ModuleDefinition) : List SetupError :=
  if Filter.IsShort module.headerPattern then []
  else
    [.filter (.patternTooLong module.headerPattern
      (Filter.described module.headerPattern).length Filter.maxBits)]

end ModuleDefinition

namespace EventDefinition

def violations (event : EventDefinition) : List SetupError :=
  namedViolations ModuleDefinition.name
    (fun module => .invalid (.duplicateModule module.name event.name))
    ModuleDefinition.violations event.modules

def fixesBit (event : EventDefinition) : Bool :=
  event.modules.any fun module => module.headerPattern.toList.any Filter.isFixed

end EventDefinition

namespace Config

/-- Only letters of ASCII matter here: no others have a level as their lower case. -/
def loweredLevel (config : Config) : String :=
  config.application.logLevel.map Char.toLower

def levelViolations (config : Config) : List SetupError :=
  if config.loweredLevel ∈ LogLevel.all.map LogLevel.name then []
  else [.invalid (.configuredLevel config.application.logLevel)]

def violations (config : Config) : List SetupError :=
  config.levelViolations ++
    namedViolations EventDefinition.name (fun event => .invalid (.duplicateEvent event.name))
      EventDefinition.violations config.events

structure Valid (config : Config) : Prop where
  level_known : config.loweredLevel ∈ LogLevel.all.map LogLevel.name
  events_nodup : (config.events.map EventDefinition.name).Nodup
  modules_nodup : ∀ event ∈ config.events, (event.modules.map ModuleDefinition.name).Nodup
  patterns_short : ∀ event ∈ config.events, ∀ module ∈ event.modules,
    Filter.IsShort module.headerPattern

end Config

/-- A splitter with a slot for each event and a filter for each module of it. -/
structure Splitter.Realizes (splitter : Splitter) (config : Config) : Prop where
  eventCount_eq : splitter.eventCount = config.events.length
  moduleCount?_eq : ∀ index, splitter.moduleCount? index =
    config.events[index]?.map fun event => event.modules.length
  splitting?_eq : ∀ index, splitter.splitting? index =
    config.events[index]?.map EventDefinition.fixesBit
  filter?_eq : ∀ index place, (splitter.filter? index place).map Except.ok =
    (config.events[index]?.bind fun event => event.modules[place]?).map fun module =>
      Filter.compile module.headerPattern none

end Readout
