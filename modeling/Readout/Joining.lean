import Mathlib.Algebra.BigOperators.Group.Finset.Defs
import Readout.Offers

/-!
# What a joined value is made of

The fields of a collector are laid side by side, the first one lowest.  `WideField.number`
puts the readings of the fields at their places without following the join.  `Joins` says
which states the join passes through, so that every shift it carries out can be looked at.
-/

namespace Readout

namespace WideField

/-- Number of bits below the field at an index. -/
def offset (fields : WideField) (index : Nat) : Nat :=
  totalBits (fields.take index)

/-- The number that the field at an index holds in the word at the same index, 0 if there
is no such field or no such word. -/
def reading (fields : WideField) (words : List Word) (index : Nat) : Nat :=
  match fields[index]?, words[index]? with
  | some field, some word => (field.extract word).toNat
  | _, _ => 0

/-- The reading at an index, at its place in the joined value. -/
def placed (fields : WideField) (words : List Word) (index : Nat) : Nat :=
  fields.reading words index * 2 ^ fields.offset index

def number (fields : WideField) (words : List Word) : Nat :=
  ∑ index ∈ Finset.range (min words.length fields.length), fields.placed words index

end WideField

namespace Collector

/-- The rounds of a join.  The remaining words and fields are joined on top of the `shift`
bits of `joined`. -/
inductive Joins (words : List Word) (fields : WideField) :
    List Word → WideField → (shift : Nat) → (joined : UInt64) → Prop where
  | start : Joins words fields words fields 0 0
  | round {word : Word} {restWords : List Word} {field : Field} {restFields : WideField}
      {shift : Nat} {joined : UInt64} :
      Joins words fields (word :: restWords) (field :: restFields) shift joined →
      Joins words fields restWords restFields (shift + field.width)
        (joined ||| ((field.extract word).toUInt64 <<< UInt64.ofNat shift))

/-- A value that joins some words has room for all fields, is the sum of their readings, each
shifted past the fields before it, and holds every reading in bits of its own. -/
structure IsJoinOf (value : UInt64) (words : List Word) (fields : WideField) : Prop where
  toNat_eq : value.toNat = fields.number words
  toNat_lt : value.toNat < 2 ^ fields.totalBits
  totalBits_le : fields.totalBits ≤ 64
  joins : Joins words fields (words.drop (min words.length fields.length))
    (fields.drop (min words.length fields.length))
    (fields.offset (min words.length fields.length)) value
  shift_lt : ∀ word restWords field restFields shift joined,
    Joins words fields (word :: restWords) (field :: restFields) shift joined → shift < 64
  placed_and_placed : ∀ first second, first < second →
    fields.placed words first &&& fields.placed words second = 0
  part_eq : ∀ index field word, fields[index]? = some field → words[index]? = some word →
    ((value >>> UInt64.ofNat (fields.offset index)) &&&
      UInt64.ofNat (2 ^ field.width - 1)).toNat = (field.extract word).toNat

/-- Some run leads to the collector from empty parts. -/
def Reachable (collector : Collector) : Prop :=
  ∃ filters built actions,
    ofFilters filters = .ok built ∧ (built.run actions).1 = collector

end Collector

/-- The fields of a marker in the filters of some collector, not necessarily of the one
whose words are read. -/
def WideField.Made (fields : WideField) : Prop :=
  ∃ (maker : Collector) (marker : Char), maker.Reachable ∧ fields = maker.field marker

end Readout
