import Mathlib.Algebra.Group.Nat.Defs
import Readout.Word

/-!
# Words as their bits

A word is determined by its bits, and the rank of a set bit of a mask, which is
the number of set bits below it, is its index among the positions of the mask.
Gathering reads the bits at these positions by rank and depositing writes them,
so the two undo each other.
-/

namespace Readout

namespace Word

theorem eq_of_bit_eq {left right : Word}
    (same : ∀ position, position < size → bit left position = bit right position) :
    left = right := by
  apply UInt32.toNat_inj.mp
  apply Nat.eq_of_testBit_eq
  intro position
  by_cases inside : position < size
  · exact same position inside
  · have above := Nat.le_of_not_lt inside
    exact (bit_eq_false_of_size_le left position above).trans
      (bit_eq_false_of_size_le right position above).symm

theorem toNat_of_low_ones {word : Word} {width : Nat}
    (ones : ∀ position, bit word position = decide (position < width)) :
    word.toNat = 2 ^ width - 1 := by
  apply Nat.eq_of_testBit_eq
  intro position
  rw [Nat.testBit_two_pow_sub_one]
  exact ones position

@[simp]
theorem bit_zero (position : Nat) : bit 0 position = false := by
  simp [bit]

@[simp]
theorem bit_and (left right : Word) (position : Nat) :
    bit (left &&& right) position = (bit left position && bit right position) := by
  simp [bit]

@[simp]
theorem bit_or (left right : Word) (position : Nat) :
    bit (left ||| right) position = (bit left position || bit right position) := by
  simp [bit]

theorem bit_complement (word : Word) {position : Nat} (inside : position < size) :
    bit (~~~word) position = !bit word position := by
  have bound : word.toNat < 2 ^ 32 := word.toNat_lt
  have complement : (~~~word).toNat = 2 ^ 32 - (word.toNat + 1) := by
    rw [UInt32.toNat_not]
    simp only [UInt32.size]
    omega
  have small : position < 32 := inside
  rw [bit, complement, Nat.testBit_two_pow_sub_succ bound, decide_eq_true small]
  rfl

theorem shift_amount {shift : Nat} (small : shift < size) :
    (UInt32.ofNat shift).toNat % 32 = shift := by
  have below : shift < 32 := small
  rw [UInt32.toNat_ofNat_of_lt' (Nat.lt_trans below (by decide))]
  exact Nat.mod_eq_of_lt below

theorem bit_shiftRight (word : Word) {shift : Nat} (small : shift < size)
    (position : Nat) :
    bit (word >>> UInt32.ofNat shift) position = bit word (shift + position) := by
  rw [bit, UInt32.toNat_shiftRight, shift_amount small, Nat.testBit_shiftRight]
  rfl

theorem ne_zero_of_bit {word : Word} {position : Nat} (set : bit word position = true) :
    word ≠ 0 := by
  intro zero
  rw [zero, bit_zero] at set
  cases set

theorem inside_of_bit {word : Word} {position : Nat} (set : bit word position = true) :
    position < size := by
  by_cases inside : position < size
  · exact inside
  · rw [bit_eq_false_of_size_le word position (Nat.le_of_not_lt inside)] at set
    cases set

def rank (mask : Word) (position : Nat) : Nat :=
  ((List.range position).filter (bit mask)).length

@[simp]
theorem rank_zero (mask : Word) : rank mask 0 = 0 := rfl

theorem rank_succ (mask : Word) (position : Nat) :
    rank mask (position + 1) = rank mask position + (bit mask position).toNat := by
  rw [rank, List.range_succ, List.filter_append, List.length_append]
  cases set : bit mask position with
  | true => simp [rank, set]
  | false => simp [rank, set]

theorem rank_mono (mask : Word) {low high : Nat} (ordered : low ≤ high) :
    rank mask low ≤ rank mask high :=
  ((List.range_sublist.mpr ordered).filter _).length_le

theorem getElem?_positions (mask : Word) (index position : Nat) :
    (positions mask)[index]? = some position ↔
      bit mask position = true ∧ rank mask position = index := by
  have listed : ∀ position, bit mask position = true →
      (positions mask)[rank mask position]? = some position := by
    intro position set
    obtain ⟨above, size_eq⟩ := Nat.exists_eq_add_of_lt (inside_of_bit set)
    have parts : positions mask =
        (List.range position).filter (bit mask) ++
          position :: (((List.range above).map Nat.succ).map (position + ·)).filter
            (bit mask) := by
      rw [positions, size_eq, Nat.add_assoc, List.range_add, List.filter_append,
        List.range_succ_eq_map, List.map_cons, List.filter_cons, Nat.add_zero, if_pos set]
    rw [parts, rank, List.getElem?_append_right (Nat.le_refl _), Nat.sub_self]
    rfl
  constructor
  · intro found
    have set := (mem_positions mask position).mp (List.mem_of_getElem? found)
    have distinct : (positions mask).Nodup := List.nodup_range.filter _
    have inside := (List.getElem?_eq_some_iff.mp found).1
    refine ⟨set, ?_⟩
    exact ((List.getElem?_inj inside distinct).mp
      (found.trans (listed position set).symm)).symm
  · rintro ⟨set, rfl⟩
    exact listed position set

theorem bit_gather_rank (value mask : Word) {position : Nat}
    (set : bit mask position = true) :
    bit (gather value mask) (rank mask position) = bit value position := by
  have found := (getElem?_positions mask (rank mask position) position).mpr ⟨set, rfl⟩
  simp [bit_gather, found]

theorem bit_gather_of_popcount_le (value mask : Word) {index : Nat}
    (beyond : popcount mask ≤ index) : bit (gather value mask) index = false := by
  have missing : (positions mask)[index]? = none := List.getElem?_eq_none beyond
  simp [bit_gather, missing]

theorem exists_rank_eq {mask : Word} {index : Nat} (small : index < popcount mask) :
    ∃ position, bit mask position = true ∧ rank mask position = index := by
  have found := List.getElem?_eq_getElem (l := positions mask) small
  exact ⟨_, (getElem?_positions mask index _).mp found⟩

theorem rank_lt_popcount {mask : Word} {position : Nat} (set : bit mask position = true) :
    rank mask position < popcount mask := by
  have found := (getElem?_positions mask (rank mask position) position).mpr ⟨set, rfl⟩
  exact (List.getElem?_eq_some_iff.mp found).1

theorem gather_congr {left right mask : Word}
    (same : ∀ position, bit mask position = true → bit left position = bit right position) :
    gather left mask = gather right mask := by
  rw [gather, gather]
  congr 1
  apply List.map_congr_left
  intro position member
  exact same position ((mem_positions mask position).mp member)

theorem bit_deposit_rank (number mask : Word) {position : Nat}
    (inside : position < size) :
    bit (deposit number mask) position =
      (bit mask position && bit number (rank mask position)) :=
  bit_deposit number mask position inside

/-- A word that has the digits of a number at the selected bits is gathered into this
number, if it fits. -/
theorem toNat_gather_of_bits {value mask : Word} {number : Nat}
    (fits : number < 2 ^ popcount mask)
    (digits : ∀ position, bit mask position = true →
      bit value position = number.testBit (rank mask position)) :
    (gather value mask).toNat = number := by
  apply Nat.eq_of_testBit_eq
  intro index
  show bit (gather value mask) index = number.testBit index
  by_cases small : index < popcount mask
  · obtain ⟨position, set, rank_eq⟩ := exists_rank_eq small
    rw [← rank_eq, bit_gather_rank value mask set, digits position set]
  · have beyond := Nat.le_of_not_lt small
    rw [bit_gather_of_popcount_le value mask beyond]
    symm
    apply Nat.testBit_lt_two_pow
    exact Nat.lt_of_lt_of_le fits (Nat.pow_le_pow_right (by decide) beyond)

theorem gather_deposit {number mask : Word}
    (short : number.toNat < 2 ^ popcount mask) :
    gather (deposit number mask) mask = number := by
  apply UInt32.toNat_inj.mp
  apply toNat_gather_of_bits short
  intro position set
  rw [bit_deposit_rank number mask (inside_of_bit set), set, Bool.true_and]
  rfl

end Word

end Readout
