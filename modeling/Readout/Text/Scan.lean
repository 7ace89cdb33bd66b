/-!
# Scanning text

A scanner takes a piece from the front of a list of characters, or fails.
Scanners are chained as a state over the characters not yet taken; `<|>` tries
its second scanner at the place where the first one started.
-/

namespace Readout.Text

/-- A scanner of an item. -/
abbrev Scan (α : Type) := StateT (List Char) Option α

namespace Scan

def charWhere (test : Char → Bool) : Scan Char
  | [] => none
  | character :: rest => if test character then some (character, rest) else none

/-- The next character, which is not taken. -/
def peek? : Scan (Option Char) := fun input =>
  some (input.head?, input)

def char (character : Char) : Scan Char :=
  charWhere (· == character)

def exactly : List Char → Scan Unit
  | [] => pure ()
  | character :: characters => do
      let _ ← char character
      exactly characters

def text (wanted : String) : Scan Unit :=
  exactly wanted.toList

def span (test : Char → Bool) : Scan (List Char) := fun input =>
  some (input.takeWhile test, input.dropWhile test)

/-- Takes the longest run of characters that satisfy a test, at least one. -/
def spanOne (test : Char → Bool) : Scan (List Char) := do
  let first ← charWhere test
  let others ← span test
  return first :: others

def exactCount (test : Char → Bool) : Nat → Scan (List Char)
  | 0 => pure []
  | count + 1 => do
      let first ← charWhere test
      let others ← exactCount test count
      return first :: others

def optional (item : Scan α) : Scan (Option α) := fun input =>
  match item input with
  | some (value, rest) => some (some value, rest)
  | none => some (none, input)

/-- Takes items as long as there are some and each of them takes a character. -/
def takeMany (item : Scan α) (input : List Char) : List α × List Char :=
  match item input with
  | none => ([], input)
  | some (value, rest) =>
      if _shorter : rest.length < input.length then
        let (values, last) := takeMany item rest
        (value :: values, last)
      else ([], input)
termination_by input.length

def many (item : Scan α) : Scan (List α) := fun input =>
  some (takeMany item input)

/-- Takes one or more items with a separator between any two. -/
def separated (item : Scan α) (separator : Scan β) : Scan (List α) := do
  let first ← item
  let others ← many (separator *> item)
  return first :: others

def atEnd : Scan Unit
  | [] => some ((), [])
  | _ :: _ => none

def whole? (item : Scan α) (input : List Char) : Option α :=
  match item input with
  | some (value, []) => some value
  | _ => none

end Scan

end Readout.Text
