import Readout.Binary64

/-!
# Values of settings

Settings files and environment variables are both read into one kind of value
before they are merged.  Of entries with one key, the first one is found.
-/

namespace Readout.Settings

inductive Value where
  | text (text : String)
  /-- A whole number that may be negative. -/
  | integer (number : Int)
  /-- A whole number that cannot be negative. -/
  | natural (number : Nat)
  | real (number : Binary64)
  | flag (value : Bool)
  | list (items : List Value)
  | table (entries : List (String × Value))

abbrev Table := List (String × Value)

/-- What whole numbers of 64 bits with a sign stay below, and the size of the
smallest one. -/
def signedLimit : Nat := 0x8000000000000000

/-- What whole numbers of 64 bits without a sign stay below. -/
def unsignedLimit : Nat := 0x10000000000000000

/-- A step from a value into one of its parts. -/
inductive Step where
  | key (key : String)
  | index (index : Nat)
deriving DecidableEq

abbrev Path := List Step

def find? (key : String) : List (String × α) → Option α
  | [] => none
  | (name, value) :: entries => if name = key then some value else find? key entries

def put (key : String) (value : α) : List (String × α) → List (String × α)
  | [] => [(key, value)]
  | (name, old) :: entries =>
      if name = key then (key, value) :: entries else (name, old) :: put key value entries

@[simp]
theorem find?_put (key other : String) (value : α) (entries : List (String × α)) :
    find? other (put key value entries) =
      if key = other then some value else find? other entries := by
  induction entries with
  | nil => simp [put, find?]
  | cons entry entries induction =>
      obtain ⟨name, old⟩ := entry
      by_cases same : name = key
      · subst same
        by_cases sought : name = other <;> simp [put, find?, sought]
      · by_cases sought : name = other
        · subst sought
          simp [put, find?, same, Ne.symm same]
        · simp [put, find?, same, sought, induction]

namespace Value

def at? : Value → Path → Option Value
  | value, [] => some value
  | table entries, .key key :: path => (find? key entries).bind (at? · path)
  | list items, .index index :: path => items[index]?.bind (at? · path)
  | _, _ :: _ => none

end Value

end Readout.Settings
