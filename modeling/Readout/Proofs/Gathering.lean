import Mathlib.Data.List.GetD
import Mathlib.Data.Nat.Bitwise
import Readout.Proofs.Extraction

/-!
# Gathering by a walk

The walk over a mask isolates the lowest set bit with `mask &&& (0 - mask)` and clears it
with `mask &&& (mask - 1)`.  Both are read off the predecessor of the mask, which has all
its set bits but the lowest one.  So a round moves one position from the front of those
that remain to the end of those that are packed, and when none remains the walk has
gathered the word.

A mask is read without gathering exactly if it is empty or its set bits are one run.
-/

namespace Readout

/-- The predecessor of a number keeps the set bits that have a set bit below them. -/
private theorem testBit_sub_one {number position : Nat}
    (set : number.testBit position = true) :
    (number - 1).testBit position = true ↔
      ∃ lower, lower < position ∧ number.testBit lower = true := by
  induction position generalizing number with
  | zero =>
      have odd : number % 2 = 1 := by simpa [Nat.testBit_zero] using set
      have even : (number - 1) % 2 = 0 := by omega
      simp [Nat.testBit_zero, even]
  | succ position induction =>
      rw [Nat.testBit_succ] at set ⊢
      -- Taking one off an even number takes one off its half, an odd one only loses bit 0.
      rcases Nat.mod_two_eq_zero_or_one number with even | odd
      · have halves : (number - 1) / 2 = number / 2 - 1 := by omega
        rw [halves, induction set]
        constructor
        · rintro ⟨lower, below, lower_set⟩
          exact ⟨lower + 1, by omega, by rwa [Nat.testBit_succ]⟩
        · rintro ⟨lower, below, lower_set⟩
          cases lower with
          | zero => simp [Nat.testBit_zero, even] at lower_set
          | succ lower =>
              rw [Nat.testBit_succ] at lower_set
              exact ⟨lower, by omega, lower_set⟩
      · have halves : (number - 1) / 2 = number / 2 := by omega
        rw [halves]
        exact iff_of_true set ⟨0, by omega, by simp [Nat.testBit_zero, odd]⟩

/-- One more bit in a list of bits, seen from a position. -/
private theorem getD_append_single (bits : List Bool) (last : Bool) (position : Nat) :
    (bits ++ [last]).getD position false =
      (bits.getD position false || (decide (position = bits.length) && last)) := by
  rcases Nat.lt_trichotomy position bits.length with below | rfl | above
  · rw [List.getD_append _ _ _ _ below, decide_eq_false (Nat.ne_of_lt below), Bool.false_and,
      Bool.or_false]
  · rw [List.getD_append_right _ _ _ _ (Nat.le_refl _), Nat.sub_self, List.getD_cons_zero,
      List.getD_eq_default _ _ (Nat.le_refl _), decide_eq_true rfl, Bool.true_and, Bool.false_or]
  · have beyond : (bits ++ [last]).length ≤ position := by
      rw [List.length_append]
      exact above
    rw [List.getD_eq_default _ _ beyond, List.getD_eq_default _ _ (Nat.le_of_lt above),
      decide_eq_false (Nat.ne_of_gt above), Bool.false_and, Bool.or_false]

namespace Word

theorem bit_sub_one {mask : Word} {position : Nat} (set : bit mask position = true) :
    bit (mask - 1) position = true ↔
      ∃ lower, lower < position ∧ bit mask lower = true := by
  have positive : 0 < mask.toNat := by
    apply Nat.pos_of_ne_zero
    intro zero
    exact ne_zero_of_bit set (UInt32.toNat_inj.mp zero)
  have predecessor : (mask - 1).toNat = mask.toNat - 1 :=
    UInt32.toNat_sub_of_le _ _ (UInt32.le_iff_toNat_le.mpr positive)
  rw [bit, predecessor]
  exact testBit_sub_one set

theorem bit_neg (mask : Word) {position : Nat} (inside : position < size) :
    bit (0 - mask) position = !bit (mask - 1) position := by
  have complement : 0 - mask = ~~~(mask - 1) := by
    apply UInt32.toNat_inj.mp
    have bound : mask.toNat < 2 ^ 32 := mask.toNat_lt
    rw [UInt32.toNat_not, UInt32.toNat_sub, UInt32.toNat_sub, UInt32.toNat_zero,
      UInt32.toNat_one, UInt32.size]
    omega
  rw [complement, bit_complement _ inside]

theorem bit_one_shiftLeft {shift position : Nat} (small : shift < size)
    (inside : position < size) :
    bit ((1 : Word) <<< UInt32.ofNat shift) position = decide (position = shift) := by
  have below : position < 32 := inside
  rw [bit, UInt32.toNat_shiftLeft, shift_amount small, UInt32.toNat_one, Nat.one_shiftLeft,
    Nat.testBit_mod_two_pow, decide_eq_true below, Nat.testBit_two_pow, Bool.true_and]
  exact decide_eq_decide.mpr eq_comm

theorem pairwise_positions (mask : Word) : (positions mask).Pairwise (· < ·) :=
  List.pairwise_lt_range.filter _

theorem eq_zero_of_positions_eq_nil {mask : Word} (none_set : positions mask = []) :
    mask = 0 := by
  apply eq_of_bit_eq
  intro position _
  rw [bit_zero, Bool.eq_false_iff]
  intro set
  have member := (mem_positions mask position).mpr set
  rw [none_set] at member
  cases member

section Lowest

variable {mask : Word} {low : Nat} {later : List Nat}
  (positions_eq : positions mask = low :: later)
include positions_eq

theorem bit_low : bit mask low = true :=
  (mem_positions mask low).mp (positions_eq ▸ List.mem_cons_self)

theorem lt_of_mem_later {position : Nat} (member : position ∈ later) : low < position := by
  have sorted := pairwise_positions mask
  rw [positions_eq] at sorted
  exact (List.pairwise_cons.mp sorted).1 position member

theorem bit_sub_one_iff {position : Nat} (set : bit mask position = true) :
    bit (mask - 1) position = true ↔ position ≠ low := by
  have listed (other : Nat) (other_set : bit mask other = true) :
      other = low ∨ other ∈ later := by
    rw [← List.mem_cons, ← positions_eq]
    exact (mem_positions mask other).mpr other_set
  rw [bit_sub_one set]
  constructor
  · rintro ⟨lower, below, lower_set⟩ rfl
    rcases listed lower lower_set with rfl | member
    · exact Nat.lt_irrefl _ below
    · exact Nat.lt_asymm below (lt_of_mem_later positions_eq member)
  · intro different
    have member := (listed position set).resolve_left different
    exact ⟨low, lt_of_mem_later positions_eq member, bit_low positions_eq⟩

theorem positions_clearLowest : positions (mask &&& (mask - 1)) = later := by
  have filtered : positions (mask &&& (mask - 1)) =
      (positions mask).filter (bit (mask - 1)) := by
    rw [positions, positions, List.filter_filter]
    apply List.filter_congr
    intro position _
    rw [bit_and, Bool.and_comm]
  have low_cleared : ¬ bit (mask - 1) low = true := by
    rw [bit_sub_one_iff positions_eq (bit_low positions_eq)]
    exact fun different => different rfl
  have later_kept : ∀ position ∈ later, bit (mask - 1) position = true := by
    intro position member
    have set : bit mask position = true :=
      (mem_positions mask position).mp (positions_eq ▸ List.mem_cons_of_mem _ member)
    rw [bit_sub_one_iff positions_eq set]
    exact Nat.ne_of_gt (lt_of_mem_later positions_eq member)
  rw [filtered, positions_eq, List.filter_cons_of_neg low_cleared,
    List.filter_eq_self.mpr later_kept]

theorem bit_and_neg {position : Nat} (inside : position < size) :
    bit (mask &&& (0 - mask)) position = decide (position = low) := by
  rw [bit_and, bit_neg mask inside]
  cases set : bit mask position with
  | true =>
      rw [Bool.true_and, Bool.eq_iff_iff, Bool.not_eq_true', decide_eq_true_iff,
        ← Bool.not_eq_true, bit_sub_one_iff positions_eq set, Classical.not_not]
  | false =>
      have different : position ≠ low := by
        rintro rfl
        rw [bit_low positions_eq] at set
        cases set
      simp [different]

theorem and_lowestBit_eq_zero_iff (value : Word) :
    value &&& (mask &&& (0 - mask)) = 0 ↔ bit value low = false := by
  have inside := inside_of_bit (bit_low positions_eq)
  have shared : bit (value &&& (mask &&& (0 - mask))) low = bit value low := by
    rw [bit_and, bit_and_neg positions_eq inside, decide_eq_true rfl, Bool.and_true]
  constructor
  · intro zero
    rw [← shared, zero, bit_zero]
  · intro unset
    apply eq_of_bit_eq
    intro position position_inside
    rw [bit_and, bit_and_neg positions_eq position_inside, bit_zero]
    by_cases same : position = low
    · rw [same, unset, Bool.false_and]
    · rw [decide_eq_false same, Bool.and_false]

end Lowest

/-- The packed bits after a round that takes the lowest set bit of `remaining`. -/
def packLowest (value remaining : Word) (count : Nat) (packed : Word) : Word :=
  if value &&& (remaining &&& (0 - remaining)) = 0 then packed
  else packed ||| ((1 : Word) <<< UInt32.ofNat count)

/-- What the walk holds in front of a round or at its end: the mask that remains, the
number of bits that are packed, and these bits.  There is a round as long as the mask is
not empty. -/
inductive Walks (value mask : Word) : Word → Nat → Word → Prop where
  | start : Walks value mask mask 0 0
  | round {remaining packed : Word} {count : Nat} :
      Walks value mask remaining count packed → remaining ≠ 0 →
      Walks value mask (remaining &&& (remaining - 1)) (count + 1)
        (packLowest value remaining count packed)

theorem gatherWalkFrom_zero (value packed : Word) (count : Nat) :
    gatherWalkFrom value 0 count packed = packed := by
  rw [gatherWalkFrom, dif_pos rfl]

theorem gatherWalkFrom_of_ne_zero {value remaining packed : Word} {count : Nat}
    (nonzero : remaining ≠ 0) :
    gatherWalkFrom value remaining count packed =
      gatherWalkFrom value (remaining &&& (remaining - 1)) (count + 1)
        (packLowest value remaining count packed) := by
  rw [gatherWalkFrom, dif_neg nonzero]
  rfl

/-- A round puts one more bit on top of those already packed. -/
theorem packLowest_ofBits {remaining : Word} {low : Nat} {later : List Nat}
    (positions_eq : positions remaining = low :: later) (value : Word) {bits : List Bool}
    (short : bits.length < size) :
    packLowest value remaining bits.length (ofBits bits) =
      ofBits (bits ++ [bit value low]) := by
  have longer : (bits ++ [bit value low]).length ≤ size := by
    rw [List.length_append]
    exact short
  apply eq_of_bit_eq
  intro position inside
  rw [bit_ofBits _ longer, packLowest]
  cases selected : bit value low with
  | false =>
      rw [if_pos ((and_lowestBit_eq_zero_iff positions_eq value).mpr selected),
        bit_ofBits _ (Nat.le_of_lt short), getD_append_single, Bool.and_false, Bool.or_false]
  | true =>
      have shared : ¬ value &&& (remaining &&& (0 - remaining)) = 0 := by
        rw [and_lowestBit_eq_zero_iff positions_eq, selected]
        decide
      rw [if_neg shared, bit_or, bit_one_shiftLeft short inside,
        bit_ofBits _ (Nat.le_of_lt short), getD_append_single, Bool.and_true]

namespace Walks

variable {value mask remaining packed : Word} {count : Nat}

/-- The positions of the mask are packed from the front, and the others remain. -/
theorem state (walks : Walks value mask remaining count packed) :
    count ≤ popcount mask ∧
      positions remaining = (positions mask).drop count ∧
      packed = ofBits (((positions mask).take count).map (bit value)) := by
  induction walks with
  | start => exact ⟨Nat.zero_le _, rfl, rfl⟩
  | @round remaining packed count walks nonzero induction =>
      obtain ⟨bounded, rest_eq, packed_eq⟩ := induction
      have more : count < popcount mask := by
        apply Nat.lt_of_not_le
        intro finished
        rw [List.drop_of_length_le finished] at rest_eq
        exact nonzero (eq_zero_of_positions_eq_nil rest_eq)
      have front_length : (((positions mask).take count).map (bit value)).length = count := by
        rw [List.length_map, List.length_take]
        exact Nat.min_eq_left bounded
      have short : (((positions mask).take count).map (bit value)).length < size := by
        rw [front_length]
        exact Nat.lt_of_lt_of_le more (popcount_le mask)
      rw [List.drop_eq_getElem_cons more] at rest_eq
      refine ⟨more, positions_clearLowest rest_eq, ?_⟩
      have packs := packLowest_ofBits rest_eq value short
      rw [front_length, ← packed_eq] at packs
      rw [packs, List.take_succ_eq_append_getElem more, List.map_append]
      rfl

theorem count_lt (walks : Walks value mask remaining count packed)
    (nonzero : remaining ≠ 0) : count < size := by
  obtain ⟨bounded, -, -⟩ := (walks.round nonzero).state
  exact Nat.lt_of_lt_of_le bounded (popcount_le mask)

theorem result (walks : Walks value mask remaining count packed) :
    gatherWalkFrom value remaining count packed = gatherWalk value mask := by
  induction walks with
  | start => rfl
  | round _ nonzero induction => rw [← induction, gatherWalkFrom_of_ne_zero nonzero]

/-- The walk goes on until every set bit of the mask is packed. -/
theorem exists_of_le (value : Word) {mask : Word} {count : Nat}
    (bounded : count ≤ popcount mask) :
    ∃ remaining packed, Walks value mask remaining count packed := by
  induction count with
  | zero => exact ⟨mask, 0, .start⟩
  | succ count induction =>
      obtain ⟨remaining, packed, walks⟩ := induction (Nat.le_of_lt bounded)
      obtain ⟨-, rest_eq, -⟩ := walks.state
      have nonzero : remaining ≠ 0 := by
        rintro rfl
        have exhausted : (positions mask).length ≤ count := List.drop_eq_nil_iff.mp rest_eq.symm
        exact Nat.not_le_of_lt bounded exhausted
      exact ⟨_, _, walks.round nonzero⟩

theorem finish (value mask : Word) :
    Walks value mask 0 (popcount mask) (gather value mask) := by
  obtain ⟨remaining, packed, walks⟩ := exists_of_le value (Nat.le_refl (popcount mask))
  obtain ⟨-, rest_eq, packed_eq⟩ := walks.state
  rw [popcount, List.drop_length] at rest_eq
  rw [popcount, List.take_length] at packed_eq
  cases eq_zero_of_positions_eq_nil rest_eq
  cases packed_eq
  exact walks

end Walks

theorem gatherWalk_eq_gather (value mask : Word) : gatherWalk value mask = gather value mask := by
  rw [← (Walks.finish value mask).result, gatherWalkFrom_zero]

theorem bit_lowest {mask : Word} (nonzero : mask ≠ 0) : bit mask (lowest mask) = true := by
  cases positions_eq : positions mask with
  | nil => exact absurd (eq_zero_of_positions_eq_nil positions_eq) nonzero
  | cons low later =>
      rw [lowest, positions_eq, List.headD_cons]
      exact bit_low positions_eq

def IsRun (mask : Word) (first last : Nat) : Prop :=
  first ≤ last ∧ ∀ position, bit mask position = true ↔ first ≤ position ∧ position ≤ last

/-- Low ones have no bit in common with their successor, not even if that wraps. -/
theorem and_add_one_of_low_ones {run : Word} {width : Nat} (fits : width ≤ size)
    (ones : ∀ position, bit run position = decide (position < width)) :
    run &&& (run + 1) = 0 := by
  have run_eq : run.toNat = 2 ^ width - 1 := toNat_of_low_ones ones
  apply UInt32.toNat_inj.mp
  rw [UInt32.toNat_and, UInt32.toNat_add, run_eq, UInt32.toNat_one,
    Nat.sub_add_cancel Nat.one_le_two_pow, UInt32.toNat_zero]
  rcases Nat.lt_or_eq_of_le fits with narrow | full
  · have small : 2 ^ width < 2 ^ 32 := Nat.pow_lt_pow_right (by decide) narrow
    rw [Nat.mod_eq_of_lt small, Nat.and_two_pow, Nat.testBit_two_pow_sub_one,
      decide_eq_false (Nat.lt_irrefl width)]
    exact Nat.zero_mul _
  · have wrapped : 2 ^ width % 2 ^ 32 = 0 := by
      rw [full]
      rfl
    rw [wrapped, Nat.and_zero]

end Word

namespace Field

theorem isRun_of_not_scattered {mask : Word} (nonzero : mask ≠ 0)
    (contiguous : (ofMask mask).scattered = false) :
    Word.IsRun mask (Word.lowest mask) (Word.lowest mask + (Word.popcount mask - 1)) := by
  refine ⟨Nat.le_add_right _ _, ?_⟩
  intro position
  constructor
  · intro set
    have rank_eq := lowest_add_rank contiguous set
    have bound := Word.rank_lt_popcount set
    omega
  · rintro ⟨above, below⟩
    have positive := Word.rank_lt_popcount (Word.bit_lowest nonzero)
    have small : position - Word.lowest mask < Word.popcount mask := by omega
    obtain ⟨found, set, rank_eq⟩ := Word.exists_rank_eq small
    have found_eq := lowest_add_rank contiguous set
    rw [rank_eq, Nat.add_sub_cancel' above] at found_eq
    rw [found_eq]
    exact set

theorem not_scattered_of_isRun {mask : Word} {first last : Nat}
    (run : Word.IsRun mask first last) : (ofMask mask).scattered = false := by
  obtain ⟨ordered, listed⟩ := run
  have first_set : Word.bit mask first = true := (listed first).mpr ⟨Nat.le_refl _, ordered⟩
  have last_set : Word.bit mask last = true := (listed last).mpr ⟨ordered, Nat.le_refl _⟩
  have lowest_eq : Word.lowest mask = first := by
    apply Nat.le_antisymm (Word.lowest_le first_set)
    exact ((listed _).mp (Word.bit_lowest (Word.ne_zero_of_bit first_set))).1
  have ones : ∀ position, Word.bit (mask >>> UInt32.ofNat first) position =
      decide (position < last - first + 1) := by
    intro position
    rw [Word.bit_shiftRight mask (Word.inside_of_bit first_set), Bool.eq_iff_iff, listed,
      decide_eq_true_iff]
    omega
  have fits : last - first + 1 ≤ Word.size := by
    have inside := Word.inside_of_bit last_set
    omega
  rw [ofMask, lowest_eq]
  exact decide_eq_false (not_not_intro (Word.and_add_one_of_low_ones fits ones))

theorem scattered_eq_false_iff (mask : Word) :
    (ofMask mask).scattered = false ↔ mask = 0 ∨ ∃ first last, Word.IsRun mask first last := by
  constructor
  · intro contiguous
    by_cases zero : mask = 0
    · exact .inl zero
    · exact .inr ⟨_, _, isRun_of_not_scattered zero contiguous⟩
  · rintro (rfl | ⟨first, last, run⟩)
    · rfl
    · exact not_scattered_of_isRun run

/-- Reading a field, gathering its bits and walking them give the same word.  It holds the
selected bits in their order from bit 0 upwards and nothing above them.  Exactly an empty
mask and a single run are read without gathering.  The walk reaches its end after one round
for each set bit, and no round on the way shifts by the size of a word or more. -/
theorem extract_eq_gatherWalk (mask value : Word) :
    (ofMask mask).extract value = Word.gatherWalk value mask ∧
    Word.gather value mask = Word.gatherWalk value mask ∧
    (∀ index, index < Word.popcount mask →
      ∃ position, Word.bit mask position = true ∧ Word.rank mask position = index ∧
        Word.bit (Word.gatherWalk value mask) index = Word.bit value position) ∧
    (∀ index, Word.popcount mask ≤ index →
      Word.bit (Word.gatherWalk value mask) index = false) ∧
    ((ofMask mask).scattered = false ↔
      mask = 0 ∨ ∃ first last, Word.IsRun mask first last) ∧
    Word.Walks value mask 0 (Word.popcount mask) (Word.gatherWalk value mask) ∧
    (∀ remaining count packed, Word.Walks value mask remaining count packed →
      Word.gatherWalkFrom value remaining count packed = Word.gatherWalk value mask ∧
      (remaining ≠ 0 → count < Word.size)) := by
  have walked := Word.gatherWalk_eq_gather value mask
  refine ⟨?_, walked.symm, ?_, ?_, scattered_eq_false_iff mask, ?_, ?_⟩
  · rw [walked, extract_ofMask]
  · intro index small
    obtain ⟨position, set, rank_eq⟩ := Word.exists_rank_eq small
    refine ⟨position, set, rank_eq, ?_⟩
    rw [walked, ← rank_eq]
    exact Word.bit_gather_rank value mask set
  · intro index beyond
    rw [walked]
    exact Word.bit_gather_of_popcount_le value mask beyond
  · rw [walked]
    exact Word.Walks.finish value mask
  · intro remaining count packed walks
    exact ⟨walks.result, walks.count_lt⟩

end Field

end Readout
