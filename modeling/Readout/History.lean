import Readout.Binary64

/-!
# Histories of rates

A history retains the most recent samples of a rate for display.  Its samples
lie in a ring: the sample pushed as number `n`, counting from 0, is stored in
slot `n` modulo the capacity, where it stays until that slot is used again.
Readers see the same history however and whenever they were opened.
-/

namespace Readout

/-- A ring of samples and the number of samples ever pushed. -/
structure History where
  samples : Array Binary64
  written : Nat
  nonempty : 0 < samples.size

namespace History

/-- A history that retains a number of samples, at least one. -/
def ofCapacity (capacity : Nat) : History :=
  { samples := Array.replicate (max capacity 1) Binary64.zero
    written := 0
    nonempty := by
      rw [Array.size_replicate]
      omega }

def capacity (history : History) : Nat :=
  history.samples.size

def slot (history : History) (number : Nat) : Fin history.samples.size :=
  ⟨number % history.samples.size, Nat.mod_lt _ history.nonempty⟩

/-- Appends a sample in place of the oldest one of a full history. -/
def push (history : History) (sample : Binary64) : History :=
  { samples :=
      history.samples.set (history.slot history.written) sample
        (history.slot history.written).isLt
    written := history.written + 1
    nonempty := by simpa using history.nonempty }

def sample (history : History) (number : Nat) : Binary64 :=
  history.samples[history.slot number]

def size (history : History) : Nat :=
  min history.written history.capacity

def isEmpty (history : History) : Bool :=
  history.size == 0

def last? (history : History) : Option Binary64 :=
  if history.written = 0 then none
  else some (history.sample (history.written - 1))

/-- The samples retained, the oldest first. -/
def toList (history : History) : List Binary64 :=
  (List.range' (history.written - history.size) history.size).map history.sample

def max? (history : History) : Option Binary64 :=
  match history.toList with
  | [] => none
  | sample :: samples => some (samples.foldl Binary64.larger sample)

end History

/-- A history with numbered readers, of which reader 0 is there from the start. -/
structure Display where
  history : History
  readers : Nat

namespace Display

def ofCapacity (capacity : Nat) : Display :=
  { history := History.ofCapacity capacity, readers := 1 }

def push (display : Display) (samples : List Binary64) : Display :=
  { display with history := samples.foldl History.push display.history }

def openReader (display : Display) : Nat × Display :=
  (display.readers, { display with readers := display.readers + 1 })

def reader? (display : Display) (reader : Nat) : Option History :=
  if reader < display.readers then some display.history else none

end Display

end Readout
