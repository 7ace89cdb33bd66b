import Readout.Readers

/-!
# Peaks

The peak of some samples is the highest of those that are numbers; in which order the samples
come does not matter to it.  `Reduces` compares them one after the other.  It leaves open what
the comparison of two patterns leaves open: which of two equal numbers is taken, such as the
two zeros, and which form of "not a number" stands for two of them.
-/

namespace Readout

namespace Binary64

/-- What may be taken for the larger of two patterns.  One that is not a number gives way to
a number. -/
inductive MayBeLarger (left right : Binary64) : Binary64 → Prop where
  | noNumber {result : Binary64} :
      left.isNaN = true → right.isNaN = true → result.isNaN = true →
      MayBeLarger left right result
  | onlyLeft : left.isNaN = false → right.isNaN = true → MayBeLarger left right left
  | onlyRight : left.isNaN = true → right.isNaN = false → MayBeLarger left right right
  | left :
      left.isNaN = false → right.isNaN = false → right.orderKey ≤ left.orderKey →
      MayBeLarger left right left
  | right :
      left.isNaN = false → right.isNaN = false → left.orderKey ≤ right.orderKey →
      MayBeLarger left right right

/-- What may be left of some samples once each has been compared with what the samples before
it have left. -/
inductive Reduces : List Binary64 → Binary64 → Prop where
  | single (sample : Binary64) : Reduces [sample] sample
  | next {samples : List Binary64} {highest sample result : Binary64} :
      Reduces samples highest → MayBeLarger highest sample result →
      Reduces (samples ++ [sample]) result

/-- A pattern is not a number if no sample is one, and otherwise it is a sample that is a
number and that no sample exceeds. -/
structure IsPeakOf (peak : Binary64) (samples : List Binary64) : Prop where
  isNaN_iff : peak.isNaN = true ↔ ∀ sample ∈ samples, sample.isNaN = true
  mem : peak.isNaN = false → peak ∈ samples
  orderKey_le : ∀ sample ∈ samples, sample.isNaN = false → sample.orderKey ≤ peak.orderKey

end Binary64

/-- The samples that are still to be seen in a display of a requested capacity: the last ones
that actions have pushed. -/
def Display.Action.retained (requested : Nat) (actions : List Action) : List Binary64 :=
  (pushed actions).drop ((pushed actions).length - max requested 1)

end Readout
