import Readout.Binary64.Decimal
import Readout.Settings.Merge
import Readout.Settings.Sources
import Readout.Text.Escape
import Readout.Text.Key

/-!
# Settings in environment variables

A variable whose name starts with a fixed start, in any case, sets the value at
a path of keys: two underscores separate the keys, which are taken in lower
case.  The text of a variable is read as a value if all of it has the form of
one, and otherwise stands for itself.
-/

namespace Readout.Settings.Environment

open Text

/-! ## Values -/

def isGap (character : Char) : Bool :=
  character == ' ' || character == '\t' || character == '\n' || character == '\x0c' ||
    character == '\r'

def gaps : Scan Unit := do
  let _ ← Scan.span isGap

def isBare (character : Char) : Bool :=
  character != ',' && character != '\x7b' && character != '\x7d' &&
    character != '[' && character != ']'

def digits : Scan (List Char) :=
  Scan.span Char.isDigit

/-- A number with a point, with digits on at least one side of it. -/
def real : Scan Binary64 := do
  let isNegative ← sign
  let whole ← digits
  let _ ← Scan.char '.'
  let places ← digits
  let power ← Scan.optional (exponent (Scan.spanOne Char.isDigit))
  if whole.isEmpty && places.isEmpty then failure
  else
    return Binary64.ofDecimal isNegative (numberOfDigits 10 (whole ++ places))
      (power.getD 0 - (places.length : Int))

/-- A number without a sign or with a plus that fits 64 bits. -/
def natural : Scan Nat := do
  let _ ← Scan.optional (Scan.char '+')
  let number := numberOfDigits 10 (← Scan.spanOne Char.isDigit)
  if number < unsignedLimit then return number else failure

def negative : Scan Int := do
  let _ ← Scan.char '-'
  let number := numberOfDigits 10 (← Scan.spanOne Char.isDigit)
  if number ≤ signedLimit then return -(number : Int) else failure

/-- The value of a text without quotes: a number if it has the form of one. -/
def ofBareText (characters : List Char) : Value :=
  match Scan.whole? real characters with
  | some number => .real number
  | none =>
      match Scan.whole? natural characters with
      | some number => .natural number
      | none =>
          match Scan.whole? negative characters with
          | some number => .integer number
          | none => .text (String.ofList characters)

def bareValue : Scan Value := do
  return ofBareText (trimBlanks (← Scan.span isBare))

/-- Succeeds where the given character comes next, or where it does not. -/
def nextIs (expected : Bool) (character : Char) : Scan Unit := do
  if ((← Scan.peek?) == some character) == expected then return () else failure

/-- Items between two brackets, with a comma between any two and perhaps another
one behind the last. -/
def delimited (opening closing : Char) (item : Scan α) : Scan (List α) := do
  let _ ← Scan.char opening
  let items ← Scan.many (do
    nextIs false closing
    let value ← item
    (do let _ ← Scan.char ',') <|> nextIs true closing
    return value)
  let _ ← Scan.char closing
  return items

/-- The leading characters that fit into a number of bytes of UTF-8. -/
def fitting : (bytes : Nat) → List Char → List Char
  | _, [] => []
  | bytes, character :: rest =>
      if character.utf8Size ≤ bytes then
        character :: fitting (bytes - character.utf8Size) rest
      else []

/-- What a text between double quotes stands for, given its characters before the
first escape and those from there on.  A text without escapes stands for itself;
otherwise the characters before the first escape are kept as far as they fit into
as many bytes as they are characters, which is all of them in plain ASCII. -/
def unescaped (front escapes : List Char) : List Char :=
  if escapes.isEmpty then front else fitting front.length front ++ escapes

def quotedValue : Scan String := do
  let _ ← Scan.char '"'
  let front ← Scan.span isPlain
  let escapes ← Scan.many quotedChar
  let _ ← Scan.char '"'
  return String.ofList (unescaped front escapes)

def key : Scan String :=
  quotedValue <|> bareKey

def entry (item : Scan Value) : Scan (String × Value) := do
  let name ← gaps *> key <* gaps
  let _ ← Scan.char '='
  let value ← gaps *> item <* gaps
  return (name, value)

def tableOf (entries : List (String × Value)) : Value :=
  .table (entries.foldl (fun table (name, value) => put name value table) [])

def character : Scan Value := do
  let _ ← Scan.char '\''
  let character ← Scan.charWhere fun _ => true
  let _ ← Scan.char '\''
  return .text (String.singleton character)

def unquotedValue : Scan Value :=
  (do Scan.text "true"; return .flag true)
    <|> (do Scan.text "false"; return .flag false)
    <|> bareValue

/-- A value of which the first character tells the form; `item` reads the values
that it contains. -/
def valueWith (item : Scan Value) : Scan Value := do
  match ← Scan.peek? with
  | some '\x7b' => return tableOf (← delimited '\x7b' '\x7d' (entry item))
  | some '[' => return .list (← delimited '[' ']' item)
  | some '"' => return .text (← quotedValue)
  | some '\'' => character
  | _ => unquotedValue

/-- A value between gaps; the number bounds how deep it may contain other values. -/
def value : (levels : Nat) → Scan Value
  | 0 => failure
  | levels + 1 => gaps *> valueWith (value levels) <* gaps

def ofText (text : String) : Value :=
  (Scan.whole? (value (text.length + 1)) text.toList).getD (.text text)

/-! ## Names -/

/-- Splits a text at points and at pairs of underscores, which are found from the
left. -/
def splitName : List Char → List (List Char)
  | [] => [[]]
  | '.' :: rest => [] :: splitName rest
  | '_' :: '_' :: rest => [] :: splitName rest
  | character :: rest =>
      match splitName rest with
      | [] => [[character]]
      | part :: parts => (character :: part) :: parts

def path? (name : String) : Option (List String) :=
  if isForSettings name then
    let spelled := (trimBlanks name.toList).drop nameStart.length
    let parts := splitName (trimBlanks spelled)
    if parts.any List.isEmpty then none
    else some (parts.map fun part => (String.ofList part).map Char.toLower)
  else none

def nest (value : Value) : List String → Value
  | [] => value
  | key :: path => .table [(key, nest value path)]

def ofVariable (name text : String) : Table :=
  match (path? name).map (nest (ofText text)) with
  | some (.table entries) => entries
  | _ => []

/-- The variables after each one is set in turn; setting one again keeps its
place. -/
def assign (environment : List (String × String)) : List (String × String) :=
  environment.foldl (fun assigned (name, text) => put name text assigned) []

/-- The settings of all variables, later ones being put over earlier ones. -/
def read (environment : List (String × String)) : Table :=
  (assign environment).foldl
    (fun table (name, text) => Value.mergeEntries table (ofVariable name text)) []

end Readout.Settings.Environment
