import Readout.Settings.Value
import Readout.Text.Blank

/-!
# Sources of settings

Settings are read from a document and from environment variables, and those of one source
are put over those of the other.  `Sources` leaves open how all this is done.
`Sources.Lawful` is what a program relies on: which names stand for which paths, what is
found in the table of the variables, and what is found where tables have been merged.
-/

namespace Readout.Settings

/-! ## Names of variables -/

def nameStart : String := "DAQ_SPLIT_"

/-- Whether a text starts with another one, in any case of its ASCII letters. -/
def startsWithAnyCase : List Char → List Char → Bool
  | _, [] => true
  | [], _ :: _ => false
  | character :: rest, wanted :: others =>
      character.toLower == wanted.toLower && startsWithAnyCase rest others

/-- Blanks around a name do not count. -/
def isForSettings (name : String) : Bool :=
  startsWithAnyCase (Text.trimBlanks name.toList) nameStart.toList

/-- A part of a path as a name can spell it: without the marks that end a part. -/
structure IsKey (key : String) : Prop where
  nonempty : key ≠ ""
  no_point : ∀ character ∈ key.toList, character ≠ '.'
  no_blank : ∀ character ∈ key.toList, Text.isBlank character = false
  no_pair : ¬ ['_', '_'] <:+: key.toList
  no_end : key.toList.getLast? ≠ some '_'

/-! ## Settings -/

/-- A value and the path of keys that leads to it. -/
abbrev Setting := List String × Value

/-- No setting is set twice or goes on beyond another one. -/
def Apart (settings : List Setting) : Prop :=
  settings.Pairwise fun first second => ¬ first.1 <+: second.1 ∧ ¬ second.1 <+: first.1

def AwayFrom (settings : List Setting) (path : List String) : Prop :=
  ∀ setting ∈ settings, ¬ setting.1 <+: path ∧ ¬ path <+: setting.1

/-- Every setting is found in the table, and nothing is found away from all of them. -/
structure Holds (table : Table) (settings : List Setting) : Prop where
  found : ∀ setting ∈ settings, (Value.table table).at? (setting.1.map .key) = some setting.2
  nothing_else : ∀ path, path ≠ [] → AwayFrom settings path →
    (Value.table table).at? (path.map .key) = none

/-- What is found under a key of a table that was put over another one.  Two tables are
merged, and any other value replaces what was there. -/
def Value.overlaid (merge : Table → Table → Table) : (earlier later : Option Value) → Option Value
  | earlier, none => earlier
  | some (.table before), some (.table after) => some (.table (merge before after))
  | _, some value => some value

def MergesByKey (merge : Table → Table → Table) : Prop :=
  ∀ earlier later key,
    find? key (merge earlier later) = Value.overlaid merge (find? key earlier) (find? key later)

/-! ## Sources -/

structure Sources where
  /-- The table in the text of a document, unless the document is malformed. -/
  readDocument : String → Option Table
  /-- The table of what variables set, given their names and texts. -/
  readVariables : List (String × String) → Table
  /-- The path of keys that the name of a variable stands for, if it is one for settings. -/
  path? : String → Option (List String)
  /-- What the text of a variable stands for. -/
  value : String → Value
  /-- Puts a later table over an earlier one. -/
  merge : (earlier later : Table) → Table

namespace Sources

/-- The paths that variables set, with the values they set there. -/
def settings (sources : Sources) (environment : List (String × String)) : List Setting :=
  environment.filterMap fun entry =>
    (sources.path? entry.1).map fun path => (path, sources.value entry.2)

/-- No two variables have the same name or touch each other's path. -/
structure Independent (sources : Sources) (environment : List (String × String)) : Prop where
  names : (environment.map Prod.fst).Nodup
  apart : Apart (sources.settings environment)

structure Lawful (sources : Sources) : Prop where
  path_ne_nil : ∀ name path, sources.path? name = some path → path ≠ []
  isForSettings_of_path : ∀ name path,
    sources.path? name = some path → isForSettings name = true
  /-- The start of a name is dropped, two underscores separate its keys, and the keys are
  taken in lower case. -/
  path?_intercalate : ∀ keys, keys ≠ [] → (∀ key ∈ keys, IsKey key) →
    sources.path? (nameStart ++ "__".intercalate keys) =
      some (keys.map fun key => key.map Char.toLower)
  holds_readVariables : ∀ environment, sources.Independent environment →
    Holds (sources.readVariables environment) (sources.settings environment)
  mergesByKey : MergesByKey sources.merge

end Sources

end Readout.Settings
