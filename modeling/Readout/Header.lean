import Readout.Filter

/-!
# Sub-event headers

The first word of a sub-event is its header.  A header filter tells headers
from other words, and its size field holds the number of words that follow the
header.  A filter without fixed bits cannot tell headers from other words; a
module with such a filter delivers its dynamic region as a whole.
-/

namespace Readout

def sizeMarker : Char := 'S'

structure Header where
  filter : Filter
  size : Field
deriving DecidableEq

/-- What the remaining dynamic words of a module begin with. -/
inductive Front where
  | unmatched
  /-- A sub-event of `length` words, of which not all remain. -/
  | truncated (length : Nat)
  | subEvent (words rest : List Word)
deriving DecidableEq

namespace Header

def compile (pattern : String) : Except FilterError Header :=
  match Filter.compile pattern none with
  | .ok filter => .ok { filter, size := filter.field sizeMarker }
  | .error error => .error error

/-- Whether the filter can tell headers from other words. -/
def marksBoundaries (header : Header) : Bool :=
  !header.filter.alwaysMatches

def accepts (header : Header) (word : Word) : Bool :=
  !header.marksBoundaries || header.filter.matchesWord word

/-- Number of words of the sub-event that a word starts, when `remaining` words
are left including this one. -/
def subEventLength (header : Header) (word : Word) (remaining : Nat) : Nat :=
  if header.marksBoundaries then (header.size.extract word).toNat + 1
  else remaining

def front (header : Header) : List Word → Front
  | [] => .unmatched
  | word :: words =>
      if header.accepts word then
        let length := header.subEventLength word (words.length + 1)
        if length ≤ words.length + 1 then
          .subEvent ((word :: words).take length) ((word :: words).drop length)
        else .truncated length
      else .unmatched

/-- Whether the remaining words begin with a sub-event, complete or not. -/
def starts (header : Header) (words : List Word) : Bool :=
  match words with
  | [] => false
  | word :: _ => header.accepts word

theorem subEventLength_pos (header : Header) (word : Word) (remaining : Nat)
    (nonempty : 0 < remaining) : 0 < header.subEventLength word remaining := by
  unfold subEventLength
  split
  · exact Nat.succ_pos _
  · exact nonempty

theorem starts_eq_false_iff (header : Header) (words : List Word) :
    header.starts words = false ↔ header.front words = .unmatched := by
  cases words with
  | nil => simp [starts, front]
  | cons word words =>
      by_cases accepted : header.accepts word
      · simp only [starts, front, accepted, if_true]
        split <;> simp
      · simp [starts, front, accepted]

theorem front_append {header : Header} {words taken rest : List Word}
    (front_eq : header.front words = .subEvent taken rest) : taken ++ rest = words := by
  cases words with
  | nil => simp [front] at front_eq
  | cons word words =>
      simp only [front] at front_eq
      split at front_eq
      · split at front_eq
        · cases front_eq
          exact List.take_append_drop _ _
        · cases front_eq
      · cases front_eq

theorem front_taken_ne_nil {header : Header} {words taken rest : List Word}
    (front_eq : header.front words = .subEvent taken rest) : taken ≠ [] := by
  cases words with
  | nil => simp [front] at front_eq
  | cons word words =>
      simp only [front] at front_eq
      split at front_eq
      · split at front_eq
        · cases front_eq
          have positive := subEventLength_pos header word (words.length + 1)
            (Nat.succ_pos _)
          intro empty
          have length := congrArg List.length empty
          simp only [List.length_take, List.length_nil, List.length_cons] at length
          omega
        · cases front_eq
      · cases front_eq

theorem front_rest_length_lt {header : Header} {words taken rest : List Word}
    (front_eq : header.front words = .subEvent taken rest) :
    rest.length < words.length := by
  have joined := congrArg List.length (front_append front_eq)
  have positive := List.length_pos_iff.mpr (front_taken_ne_nil front_eq)
  simp only [List.length_append] at joined
  omega

theorem front_truncated_length_pos {header : Header} {words : List Word} {length : Nat}
    (front_eq : header.front words = .truncated length) : 0 < words.length := by
  cases words with
  | nil => simp [front] at front_eq
  | cons word words => exact Nat.succ_pos _

end Header

end Readout
