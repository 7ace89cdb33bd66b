import Readout.Field
import Readout.Proofs.Bits

/-!
# Fields are gathered bits

A contiguous field is read with one mask and one shift.  The result is the same as
that of gathering its bits one by one, because in a contiguous mask the rank of a
set bit is its distance from the lowest one.
-/

namespace Readout

/-- An even number has its higher bits in common with its successor. -/
private theorem odd_of_testBit_succ {number position : Nat}
    (run : number &&& (number + 1) = 0) (set : number.testBit (position + 1) = true) :
    number % 2 = 1 := by
  rcases Nat.mod_two_eq_zero_or_one number with even | odd
  · have halves : (number + 1) / 2 = number / 2 := by omega
    have shared : (number &&& (number + 1)).testBit (position + 1) = true := by
      rw [Nat.testBit_and, set, Nat.testBit_succ, halves, ← Nat.testBit_succ, set]
      rfl
    rw [run, Nat.zero_testBit] at shared
    cases shared
  · exact odd

/-- A number that shares no bit with its successor has all bits below its highest
one. -/
private theorem testBit_of_testBit_succ {number position : Nat}
    (run : number &&& (number + 1) = 0) (set : number.testBit (position + 1) = true) :
    number.testBit position = true := by
  have odd := odd_of_testBit_succ run set
  induction position generalizing number with
  | zero => simp [Nat.testBit_zero, odd]
  | succ position induction =>
      have halves : (number + 1) / 2 = number / 2 + 1 := by omega
      have half_run : number / 2 &&& (number / 2 + 1) = 0 := by
        rw [← halves, ← Nat.and_div_two, run]
      rw [Nat.testBit_succ] at set ⊢
      exact induction half_run set (odd_of_testBit_succ half_run set)

namespace Word

theorem bit_of_bit_succ {run : Word} (contiguous : run &&& (run + 1) = 0)
    {position : Nat} (set : bit run (position + 1) = true) : bit run position = true := by
  have inside := inside_of_bit set
  by_cases full : run.toNat + 1 < 2 ^ 32
  · have successor : (run + 1).toNat = run.toNat + 1 := by
      rw [UInt32.toNat_add]
      exact Nat.mod_eq_of_lt full
    have disjoint := congrArg UInt32.toNat contiguous
    rw [UInt32.toNat_and, successor] at disjoint
    exact testBit_of_testBit_succ disjoint set
  · have bound : run.toNat < 2 ^ 32 := run.toNat_lt
    have ones : run.toNat = 2 ^ 32 - 1 := by omega
    have small : position < 32 := Nat.lt_of_succ_lt inside
    rw [bit, ones, Nat.testBit_two_pow_sub_one, decide_eq_true small]

theorem lowest_lt (mask : Word) : lowest mask < size := by
  cases positions_eq : positions mask with
  | nil => simp [lowest, positions_eq, size]
  | cons position later =>
      have set := (mem_positions mask position).mp (positions_eq ▸ List.mem_cons_self)
      simpa [lowest, positions_eq] using inside_of_bit set

theorem rank_lowest (mask : Word) : rank mask (lowest mask) = 0 := by
  cases positions_eq : positions mask with
  | nil => simp [lowest, positions_eq]
  | cons position later =>
      have first : (positions mask)[0]? = some (lowest mask) := by
        simp [lowest, positions_eq]
      exact ((getElem?_positions mask 0 _).mp first).2

theorem lowest_le {mask : Word} {position : Nat} (set : bit mask position = true) :
    lowest mask ≤ position := by
  apply Nat.le_of_not_lt
  intro below
  have bound := rank_mono mask (Nat.succ_le_of_lt below)
  rw [rank_lowest, Nat.succ_eq_add_one, rank_succ, set] at bound
  simp at bound

end Word

namespace Field

/-- In a contiguous field a bit has its distance from the lowest bit as rank. -/
theorem lowest_add_rank {mask : Word} (contiguous : (ofMask mask).scattered = false)
    {position : Nat} (set : Word.bit mask position = true) :
    Word.lowest mask + Word.rank mask position = position := by
  have run : (mask >>> UInt32.ofNat (Word.lowest mask)) &&&
      (mask >>> UInt32.ofNat (Word.lowest mask) + 1) = 0 := by
    simpa [ofMask] using contiguous
  have closed : ∀ distance, Word.bit mask (Word.lowest mask + (distance + 1)) = true →
      Word.bit mask (Word.lowest mask + distance) = true := by
    intro distance later
    rw [← Word.bit_shiftRight mask (Word.lowest_lt mask)] at later ⊢
    exact Word.bit_of_bit_succ run later
  obtain ⟨distance, rfl⟩ := Nat.exists_eq_add_of_le (Word.lowest_le set)
  congr 1
  induction distance with
  | zero => exact Word.rank_lowest mask
  | succ distance induction =>
      have below := closed distance set
      rw [← Nat.add_assoc, Word.rank_succ, below, induction below]
      rfl

theorem extract_ofMask (mask word : Word) :
    (ofMask mask).extract word = Word.gather word mask := by
  rw [extract]
  cases contiguous : (ofMask mask).scattered with
  | true => rfl
  | false =>
      apply Word.eq_of_bit_eq
      intro index _
      have shifted : Word.bit ((word &&& mask) >>> UInt32.ofNat (Word.lowest mask)) index =
          (Word.bit word (Word.lowest mask + index) &&
            Word.bit mask (Word.lowest mask + index)) := by
        rw [Word.bit_shiftRight _ (Word.lowest_lt mask), Word.bit_and]
      refine shifted.trans ?_
      cases set : Word.bit mask (Word.lowest mask + index) with
      | true =>
          have rank_eq := lowest_add_rank contiguous set
          have gathered := Word.bit_gather_rank word mask set
          rw [Nat.add_left_cancel rank_eq] at gathered
          rw [Bool.and_true, gathered]
      | false =>
          have missing : (Word.positions mask)[index]? = none := by
            rw [← Option.not_isSome_iff_eq_none]
            intro found
            obtain ⟨position, found⟩ := Option.isSome_iff_exists.mp found
            obtain ⟨there, rank_eq⟩ := (Word.getElem?_positions mask index position).mp found
            have position_eq := lowest_add_rank contiguous there
            rw [rank_eq] at position_eq
            rw [position_eq, there] at set
            cases set
          simp [Word.bit_gather, missing]

end Field

end Readout
