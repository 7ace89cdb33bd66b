/-!
# Data words and their bits

A readout buffer is a list of 32-bit words.  This module reads the bits of a
word by position, position 0 being the least significant, and packs a list of
bits back into a word.  `gather` collects the bits that a mask selects;
`gatherWalk` reaches the same word by walking the set bits of the mask with
word arithmetic, and `deposit` puts a packed number back under a mask.
-/

namespace Readout

abbrev Word := UInt32

namespace Word

def size : Nat := 32

/-- The bit at a position; there are none above the word. -/
def bit (word : Word) (position : Nat) : Bool :=
  word.toNat.testBit position

/-- The number whose binary digits are `bits`, least significant first. -/
def numeral : List Bool → Nat
  | [] => 0
  | bit :: bits => bit.toNat + 2 * numeral bits

/-- The word holding `bits` from position 0 upwards. -/
def ofBits (bits : List Bool) : Word :=
  UInt32.ofNat (numeral bits)

def positions (mask : Word) : List Nat :=
  (List.range size).filter (bit mask)

def popcount (mask : Word) : Nat :=
  (positions mask).length

def lowest (mask : Word) : Nat :=
  (positions mask).headD 0

/-- The bits of `value` that `mask` selects, packed from position 0 upwards in
their order. -/
def gather (value mask : Word) : Word :=
  ofBits ((positions mask).map (bit value))

/-- Clearing the lowest set bit makes a mask smaller, so the walk ends. -/
theorem clearLowest_lt (mask : Word) (nonzero : mask ≠ 0) :
    (mask &&& (mask - 1)).toNat < mask.toNat := by
  have positive : 0 < mask.toNat := by
    rcases Nat.eq_zero_or_pos mask.toNat with zero | positive
    · exact absurd (UInt32.toNat_inj.mp (by simpa using zero)) nonzero
    · exact positive
  have bounded : (1 : Word) ≤ mask := by
    rw [UInt32.le_iff_toNat_le]
    exact positive
  have cleared : (mask &&& (mask - 1)).toNat ≤ (mask - 1).toNat := by
    rw [UInt32.toNat_and]
    exact Nat.and_le_right
  rw [UInt32.toNat_sub_of_le _ _ bounded] at cleared
  have one : (1 : Word).toNat = 1 := rfl
  omega

/-- Packs the bits that `remaining` selects above the `count` bits already
packed, taking the lowest set bit of `remaining` at each step. -/
def gatherWalkFrom (value remaining : Word) (count : Nat) (packed : Word) : Word :=
  if finished : remaining = 0 then packed
  else
    let lowestBit := remaining &&& (0 - remaining)
    let packed :=
      if value &&& lowestBit = 0 then packed
      else packed ||| ((1 : Word) <<< UInt32.ofNat count)
    gatherWalkFrom value (remaining &&& (remaining - 1)) (count + 1) packed
termination_by remaining.toNat
decreasing_by exact clearLowest_lt remaining finished

/-- `gather`, by walking the set bits of the mask from the lowest one. -/
def gatherWalk (value mask : Word) : Word :=
  gatherWalkFrom value mask 0 0

/-- The bits of `number`, lowest first, put at the positions that `mask`
selects, in ascending order; every other bit is 0. -/
def deposit (number mask : Word) : Word :=
  ofBits ((List.range size).map fun position =>
    bit mask position &&
      bit number (((List.range position).filter (bit mask)).length))

@[simp]
theorem numeral_nil : numeral [] = 0 := rfl

@[simp]
theorem numeral_cons (bit : Bool) (bits : List Bool) :
    numeral (bit :: bits) = bit.toNat + 2 * numeral bits := rfl

theorem numeral_lt (bits : List Bool) : numeral bits < Nat.pow 2 bits.length := by
  induction bits with
  | nil => exact Nat.one_pos
  | cons bit bits induction =>
      have digit : bit.toNat ≤ 1 := by cases bit <;> decide
      have doubled : Nat.pow 2 (bits.length + 1) = Nat.pow 2 bits.length * 2 := rfl
      rw [numeral_cons, List.length_cons, doubled]
      omega

theorem testBit_numeral (bits : List Bool) (position : Nat) :
    (numeral bits).testBit position = bits.getD position false := by
  induction bits generalizing position with
  | nil => simp
  | cons bit bits induction =>
      cases position with
      | zero =>
          rw [numeral_cons, Nat.testBit_zero, Nat.add_mul_mod_self_left]
          cases bit <;> rfl
      | succ position =>
          have halved : (bit.toNat + 2 * numeral bits) / 2 = numeral bits := by
            rw [Nat.add_mul_div_left _ _ (by decide)]
            cases bit <;> simp
          simp [Nat.testBit_succ, halved, induction]

theorem bit_ofBits (bits : List Bool) (short : bits.length ≤ size) (position : Nat) :
    bit (ofBits bits) position = bits.getD position false := by
  have bounded : numeral bits < 2 ^ 32 :=
    Nat.lt_of_lt_of_le (numeral_lt bits) (Nat.pow_le_pow_right (by decide) short)
  rw [bit, ofBits, UInt32.toNat_ofNat_of_lt' bounded, testBit_numeral]

theorem bit_eq_false_of_size_le (word : Word) (position : Nat) (above : size ≤ position) :
    bit word position = false := by
  have bounded : word.toNat < 2 ^ position :=
    Nat.lt_of_lt_of_le word.toNat_lt (Nat.pow_le_pow_right (by decide) above)
  exact Nat.testBit_lt_two_pow bounded

@[simp]
theorem mem_positions (mask : Word) (position : Nat) :
    position ∈ positions mask ↔ bit mask position = true := by
  rw [positions, List.mem_filter, List.mem_range]
  constructor
  · intro listed
    exact listed.2
  · intro set
    refine ⟨?_, set⟩
    by_cases inside : position < size
    · exact inside
    · rw [bit_eq_false_of_size_le mask position (Nat.le_of_not_lt inside)] at set
      exact absurd set (by decide)

theorem popcount_le (mask : Word) : popcount mask ≤ size := by
  exact Nat.le_trans (List.length_filter_le _ _) (by simp)

/-- Bit `position` of a gathered word is the bit of `value` at the set position
of `mask` with that rank. -/
theorem bit_gather (value mask : Word) (position : Nat) :
    bit (gather value mask) position =
      ((positions mask).map (bit value)).getD position false := by
  refine bit_ofBits _ ?_ position
  rw [List.length_map]
  exact popcount_le mask

/-- A set bit of the mask receives the bit of `number` with its rank. -/
theorem bit_deposit (number mask : Word) (position : Nat) (inside : position < size) :
    bit (deposit number mask) position =
      (bit mask position &&
        bit number (((List.range position).filter (bit mask)).length)) := by
  rw [deposit, bit_ofBits _ (by simp)]
  simp [inside]

end Word

end Readout
