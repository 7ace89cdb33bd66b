import Mathlib.Data.Nat.Bitwise
import Mathlib.Tactic.Ring
import Readout.Proofs.Extraction

/-!
# Fields keep the order of words

Of two words the larger one has the highest bit in which they differ.  Gathering moves
this bit and those above it down without changing their order, so words that differ in
the selected bits are gathered into words of the same order.  Every number that fits is
gathered from exactly one word without other bits.
-/

namespace Readout

namespace Word

theorem numeral_append_single (bits : List Bool) (last : Bool) :
    numeral (bits ++ [last]) = numeral bits + 2 ^ bits.length * last.toNat := by
  induction bits with
  | nil => simp
  | cons bit bits induction =>
      rw [List.cons_append, numeral_cons, numeral_cons, induction, List.length_cons,
        Nat.pow_succ]
      ring

theorem toNat_gather (value mask : Word) :
    (gather value mask).toNat = numeral ((positions mask).map (bit value)) := by
  have bounded := numeral_lt ((positions mask).map (bit value))
  rw [List.length_map] at bounded
  have fits : numeral ((positions mask).map (bit value)) < 2 ^ 32 :=
    Nat.lt_of_lt_of_le bounded (Nat.pow_le_pow_right (by decide) (popcount_le mask))
  exact UInt32.toNat_ofNat_of_lt' fits

theorem toNat_gather_lt (value mask : Word) :
    (gather value mask).toNat < 2 ^ popcount mask := by
  have bounded := numeral_lt ((positions mask).map (bit value))
  rw [List.length_map] at bounded
  rw [toNat_gather]
  exact bounded

theorem lt_of_bit {left right : Word} {position : Nat} (unset : bit left position = false)
    (set : bit right position = true)
    (agree : ∀ above, position < above → bit left above = bit right above) :
    left < right :=
  UInt32.lt_iff_toNat_lt.mpr (Nat.lt_of_testBit position unset set agree)

/-- The larger of two words has the highest bit in which they differ. -/
theorem exists_highest_difference {left right : Word} (less : left < right) :
    ∃ position, bit left position = false ∧ bit right position = true ∧
      ∀ above, position < above → bit left above = bit right above := by
  have different : left.toNat ^^^ right.toNat ≠ 0 :=
    Nat.xor_ne_zero_iff.mpr (Nat.ne_of_lt (UInt32.lt_iff_toNat_lt.mp less))
  obtain ⟨position, differs, same⟩ := Nat.exists_most_significant_bit different
  have agree : ∀ above, position < above → bit left above = bit right above := by
    intro above higher
    simpa [bit] using same above higher
  have apart : bit left position ≠ bit right position := by
    simpa [bit] using differs
  cases left_bit : bit left position with
  | true =>
      have right_bit : bit right position = false := by simpa [left_bit] using apart
      have greater := lt_of_bit right_bit left_bit fun above higher => (agree above higher).symm
      exact absurd less (UInt32.lt_asymm greater)
  | false =>
      have right_bit : bit right position = true := by simpa [left_bit] using apart
      exact ⟨position, left_bit, right_bit, agree⟩

theorem gather_eq_of_and_eq {left right mask : Word} (same : left &&& mask = right &&& mask) :
    gather left mask = gather right mask := by
  apply gather_congr
  intro position set
  simpa [set] using congrArg (bit · position) same

/-- Gathering keeps the highest difference the highest one. -/
theorem gather_lt_gather {left right mask : Word} (less : left &&& mask < right &&& mask) :
    gather left mask < gather right mask := by
  obtain ⟨position, unset, set, agree⟩ := exists_highest_difference less
  rw [bit_and] at unset set
  obtain ⟨right_set, selected⟩ := Bool.and_eq_true_iff.mp set
  have left_unset : bit left position = false := by simpa [selected] using unset
  have low_bit : bit (gather left mask) (rank mask position) = false := by
    rw [bit_gather_rank left mask selected, left_unset]
  have high_bit : bit (gather right mask) (rank mask position) = true := by
    rw [bit_gather_rank right mask selected, right_set]
  refine lt_of_bit low_bit high_bit ?_
  intro index higher
  by_cases small : index < popcount mask
  · obtain ⟨other, other_selected, rank_eq⟩ := exists_rank_eq small
    have above : position < other := by
      apply Nat.lt_of_not_le
      intro below
      have ordered := rank_mono mask below
      omega
    have other_agrees := agree other above
    rw [bit_and, bit_and, other_selected, Bool.and_true, Bool.and_true] at other_agrees
    rw [← rank_eq, bit_gather_rank left mask other_selected,
      bit_gather_rank right mask other_selected, other_agrees]
  · have beyond := Nat.le_of_not_lt small
    rw [bit_gather_of_popcount_le left mask beyond,
      bit_gather_of_popcount_le right mask beyond]

theorem gather_lt_gather_iff (left right mask : Word) :
    gather left mask < gather right mask ↔ left &&& mask < right &&& mask := by
  constructor
  · intro less
    have different : left &&& mask ≠ right &&& mask := by
      intro same
      rw [gather_eq_of_and_eq same] at less
      exact UInt32.lt_irrefl _ less
    rcases UInt32.lt_or_lt_of_ne different with smaller | greater
    · exact smaller
    · exact absurd less (UInt32.lt_asymm (gather_lt_gather greater))
  · exact gather_lt_gather

theorem and_eq_of_gather_eq {left right mask : Word}
    (same : gather left mask = gather right mask) : left &&& mask = right &&& mask := by
  apply Classical.byContradiction
  intro different
  rcases UInt32.lt_or_lt_of_ne different with smaller | greater
  · exact UInt32.ne_of_lt (gather_lt_gather smaller) same
  · exact UInt32.ne_of_lt (gather_lt_gather greater) same.symm

theorem deposit_and (number mask : Word) : deposit number mask &&& mask = deposit number mask := by
  apply eq_of_bit_eq
  intro position inside
  rw [bit_and, bit_deposit_rank number mask inside]
  cases bit mask position with
  | true => rw [Bool.and_true]
  | false => rfl

end Word

namespace Field

/-- What a field reads depends on the selected bits only, and its values are in the order
of the words cut down to these bits.  The values are the numbers that fit into the field,
each read from exactly one word without other bits. -/
theorem extract_keeps_order (mask : Word) :
    (∀ word other, word &&& mask = other &&& mask →
      (ofMask mask).extract word = (ofMask mask).extract other) ∧
    (∀ word other, (ofMask mask).extract word < (ofMask mask).extract other ↔
      word &&& mask < other &&& mask) ∧
    (∀ word, ((ofMask mask).extract word).toNat < 2 ^ Word.popcount mask) ∧
    (∀ number, number < 2 ^ Word.popcount mask →
      ∃! word, word &&& mask = word ∧ ((ofMask mask).extract word).toNat = number) := by
  simp only [extract_ofMask]
  refine ⟨fun _ _ => Word.gather_eq_of_and_eq,
    fun word other => Word.gather_lt_gather_iff word other mask,
    fun word => Word.toNat_gather_lt word mask, ?_⟩
  intro number fits
  have small : number < 2 ^ 32 :=
    Nat.lt_of_lt_of_le fits (Nat.pow_le_pow_right (by decide) (Word.popcount_le mask))
  have number_eq : (UInt32.ofNat number).toNat = number := UInt32.toNat_ofNat_of_lt' small
  have gathered : Word.gather (Word.deposit (UInt32.ofNat number) mask) mask =
      UInt32.ofNat number := by
    apply Word.gather_deposit
    rw [number_eq]
    exact fits
  refine ⟨Word.deposit (UInt32.ofNat number) mask, ⟨Word.deposit_and _ _, ?_⟩, ?_⟩
  · rw [gathered, number_eq]
  · rintro other ⟨inside, other_eq⟩
    have same : Word.gather other mask =
        Word.gather (Word.deposit (UInt32.ofNat number) mask) mask := by
      apply UInt32.toNat_inj.mp
      rw [gathered, number_eq, other_eq]
    rw [← inside, Word.and_eq_of_gather_eq same, Word.deposit_and]

end Field

end Readout
