import Readout.Text.Scan

/-!
# Bare keys

A key without quotes consists of letters and digits of ASCII, underscores and
hyphens.
-/

namespace Readout.Text

def isBareKey (character : Char) : Bool :=
  character.isAlphanum || character == '_' || character == '-'

def bareKey : Scan String := do
  return String.ofList (← Scan.spanOne isBareKey)

end Readout.Text
