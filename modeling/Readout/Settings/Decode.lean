import Readout.Binary64.Decimal
import Readout.Settings.Config
import Readout.Settings.Value
import Readout.Text.Quoted

/-!
# From values to a configuration

A configuration is a table of tables and lists.  Fields that are missing have
defaults, apart from the names of events and modules; entries that are no fields
are ignored.  Apart from the whole configuration, a group of fields may also be
a list of their values in order.

The first mismatch is reported with the path of the value at fault.  Fields of a
table are read in the order of their names, and a missing one is noticed after
all others.
-/

namespace Readout.Settings

inductive Expected where
  | text
  | list
  | application
  | event
  | module
deriving DecidableEq

inductive Mismatch where
  | wrongKind (found : Value) (expected : Expected)
  | tooShort (length : Nat) (expected : Expected)
  | missingField (field : String)

namespace Expected

def describe : Expected → String
  | text => "a string"
  | list => "a sequence"
  | application => "struct ApplicationConfig"
  | event => "struct EventDefinition"
  | module => "struct ModuleDefinition"

end Expected

namespace Value

/-- The words for a value that was found in the wrong place. -/
def describe : Value → String
  | .text content => "string " ++ Text.quoted content
  | .integer number => "signed int \x60" ++ toString number ++ "\x60"
  | .natural number => "unsigned int \x60" ++ toString number ++ "\x60"
  | .real number => "float \x60" ++ number.text ++ "\x60"
  | .flag value => "bool " ++ toString value
  | .list _ => "sequence"
  | .table _ => "map"

end Value

namespace Mismatch

def message : Mismatch → String
  | wrongKind found expected =>
      "invalid type: found " ++ found.describe ++ ", expected " ++ expected.describe
  | tooShort length expected =>
      "invalid length " ++ toString length ++ ", expected " ++ expected.describe ++
        " with 2 elements"
  | missingField field => "missing field \x60" ++ field ++ "\x60"

end Mismatch

/-- The result of reading a value: what it means, or what is wrong with it and
where. -/
abbrev Decoded (α : Type) := Except (Path × Mismatch) α

namespace Decoded

/-- Places a mismatch of a part in the whole. -/
def within (step : Step) : Decoded α → Decoded α
  | .ok value => .ok value
  | .error (path, mismatch) => .error (step :: path, mismatch)

end Decoded

def mismatch (mismatch : Mismatch) : Decoded α :=
  .error ([], mismatch)

def decodeText : Value → Decoded String
  | .text text => .ok text
  | other => mismatch (.wrongKind other .text)

def decodeItems (item : Value → Decoded α) : (index : Nat) → List Value → Decoded (List α)
  | _, [] => .ok []
  | index, value :: values => do
      let first ← (item value).within (.index index)
      let others ← decodeItems item (index + 1) values
      return first :: others

def decodeList (item : Value → Decoded α) : Value → Decoded (List α)
  | .list values => decodeItems item 0 values
  | other => mismatch (.wrongKind other .list)

def decodeEntry (entries : Table) (field : String) (decode : Value → Decoded α) :
    Decoded (Option α) :=
  match find? field entries with
  | some value => do
      let decoded ← (decode value).within (.key field)
      return some decoded
  | none => .ok none

def decodeItem (items : List Value) (index : Nat) (decode : Value → Decoded α) :
    Decoded (Option α) :=
  match items[index]? with
  | some value => do
      let decoded ← (decode value).within (.index index)
      return some decoded
  | none => .ok none

def decodeApplication : Value → Decoded Application
  | .table entries => do
      let logLevel ← decodeEntry entries "log_level" decodeText
      let name ← decodeEntry entries "name" decodeText
      return {
        name := name.getD Application.defaultName
        logLevel := logLevel.getD Application.defaultLogLevel }
  | .list items => do
      let name ← decodeItem items 0 decodeText
      let logLevel ← decodeItem items 1 decodeText
      return {
        name := name.getD Application.defaultName
        logLevel := logLevel.getD Application.defaultLogLevel }
  | other => mismatch (.wrongKind other .application)

def decodeModule : Value → Decoded ModuleDefinition
  | .table entries => do
      let headerPattern ← decodeEntry entries "header_filter" decodeText
      match ← decodeEntry entries "name" decodeText with
      | some name => return { name, headerPattern := headerPattern.getD "" }
      | none => mismatch (.missingField "name")
  | .list items => do
      match ← decodeItem items 0 decodeText with
      | some name =>
          let headerPattern ← decodeItem items 1 decodeText
          return { name, headerPattern := headerPattern.getD "" }
      | none => mismatch (.tooShort items.length .module)
  | other => mismatch (.wrongKind other .module)

def decodeEvent : Value → Decoded EventDefinition
  | .table entries => do
      let modules ← decodeEntry entries "modules" (decodeList decodeModule)
      match ← decodeEntry entries "name" decodeText with
      | some name => return { name, modules := modules.getD [] }
      | none => mismatch (.missingField "name")
  | .list items => do
      match ← decodeItem items 0 decodeText with
      | some name =>
          let modules ← decodeItem items 1 (decodeList decodeModule)
          return { name, modules := modules.getD [] }
      | none => mismatch (.tooShort items.length .event)
  | other => mismatch (.wrongKind other .event)

def decodeConfig (entries : Table) : Decoded Config := do
  let application ← decodeEntry entries "application" decodeApplication
  let events ← decodeEntry entries "events" (decodeList decodeEvent)
  return {
    application := application.getD Application.standard
    events := events.getD [] }

end Readout.Settings
