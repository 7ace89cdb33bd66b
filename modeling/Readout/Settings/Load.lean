import Readout.Settings.Decode
import Readout.Settings.Sources

/-!
# Loading a configuration

A configuration is loaded from a document, which may be missing, and from
environment variables.  The values of the variables are put over those of the
document, and what neither gives has a default.  A mismatch is reported with the
path of the value at fault, as the source of that value writes paths.
-/

namespace Readout.Settings

inductive Source where
  | document
  | environment
deriving DecidableEq

inductive LoadError where
  | malformed
  | mismatch (source : Source) (path : Path) (cause : Mismatch)

namespace Source

def describe : Source → String
  | document => "TOML source string"
  | environment => "\x60DAQ_SPLIT_\x60 environment variable(s)"

def writePath (source : Source) (path : Path) : String :=
  let steps := path.map fun step =>
    match step with
    | .key key => key
    | .index index => toString index
  match source with
  | document => String.intercalate "." ("default" :: steps)
  | environment => (String.intercalate "." steps).map Char.toUpper

end Source

namespace LoadError

def message : LoadError → String
  | .malformed => "malformed document"
  | .mismatch source path cause =>
      cause.message ++ " for key \"" ++ source.writePath path ++ "\" in " ++
        source.describe

end LoadError

/-- Where the merged value at a path came from: a value that the variables set, or
whose parts they set, counts as theirs. -/
def sourceOf (overrides : Table) (path : Path) : Source :=
  match (Value.table overrides).at? path with
  | some _ => .environment
  | none => .document

namespace Sources

/-- The settings of a document; one that is missing has none. -/
def document (sources : Sources) : Option String → Except LoadError Table
  | none => .ok []
  | some text =>
      match sources.readDocument text with
      | some table => .ok table
      | none => .error .malformed

def load (sources : Sources) (text : Option String) (environment : List (String × String)) :
    Except LoadError Config :=
  match sources.document text with
  | .error error => .error error
  | .ok document =>
      let overrides := sources.readVariables environment
      match decodeConfig (sources.merge document overrides) with
      | .ok config => .ok config
      | .error (path, mismatch) =>
          .error (.mismatch (sourceOf overrides path) path mismatch)

end Sources

end Readout.Settings
