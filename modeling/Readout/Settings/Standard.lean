import Readout.Settings.Environment
import Readout.Settings.Load
import Readout.Toml.Reader

/-!
# The sources of a program

A program reads documents in the form of `Toml` and variables as `Environment` does.
-/

namespace Readout.Settings

def Sources.standard : Sources where
  readDocument := Toml.read?
  readVariables := Environment.read
  path? := Environment.path?
  value := Environment.ofText
  merge := Value.mergeEntries

def load (text : Option String) (environment : List (String × String)) :
    Except LoadError Config :=
  Sources.standard.load text environment

end Readout.Settings
