import Mathlib.Data.List.Basic
import Readout.Proofs.Canonical

/-!
# Fields and fixed bits tile a pattern

Every described bit has one letter, and every mask of a filter collects the bits whose
letter passes a test.  The tests of two markers exclude each other, and the letters of the
pattern leave no described bit out.  So the fields are apart from one another, the fields
of the digits are the fixed bits, and all fields together are the described bits.
-/

namespace Readout

namespace Filter

def fieldBits (filter : Filter) : Word :=
  (filter.pattern.toList.map filter.fieldMask).foldr (· ||| ·) 0

namespace Formed

variable {filter : Filter} (formed : filter.Formed)
include formed

theorem bit_fieldMask (marker : Char) (position : Nat) :
    Word.bit (filter.fieldMask marker) position =
      filter.letters[position]?.any (· == Text.fold marker) :=
  bit_maskWhere _ formed.short position

theorem fieldMask_eq_zero_iff (marker : Char) :
    filter.fieldMask marker = 0 ↔ Text.fold marker ∉ filter.letters := by
  have zero_iff := maskWhere_eq_zero_iff formed.short (· == Text.fold marker)
  simp only [beq_eq_false_iff_ne] at zero_iff
  refine zero_iff.trans ⟨?_, ?_⟩
  · intro different member
    exact different (Text.fold marker) member rfl
  · intro absent letter member same
    rw [same] at member
    exact absent member

theorem fieldMask_and_maskWhere {marker : Char} {test : Char → Bool}
    (fails : test (Text.fold marker) = false) :
    filter.fieldMask marker &&& maskWhere test filter.letters = 0 := by
  refine (maskWhere_and formed.short _ test).trans ?_
  apply (maskWhere_eq_zero_iff formed.short _).mpr
  intro letter _
  apply Bool.and_eq_false_iff.mpr
  by_cases named : letter = Text.fold marker
  · right
    rw [named]
    exact fails
  · left
    exact beq_eq_false_iff_ne.mpr named

theorem fieldMask_and_fieldMask {marker other : Char}
    (different : Text.fold marker ≠ Text.fold other) :
    filter.fieldMask marker &&& filter.fieldMask other = 0 :=
  formed.fieldMask_and_maskWhere (beq_eq_false_iff_ne.mpr different)

theorem fieldMask_and_fixedMask {marker : Char} (free : isFixed (Text.fold marker) = false) :
    filter.fieldMask marker &&& filter.fixedMask = 0 := by
  rw [formed.fixedMask_eq]
  exact formed.fieldMask_and_maskWhere free

theorem fieldMask_one : filter.fieldMask '1' = filter.fixedValue :=
  formed.fixedValue_eq.symm

theorem fieldMask_zero : filter.fieldMask '0' = filter.fixedMask &&& ~~~filter.fixedValue := by
  rw [formed.fixedMask_eq, formed.fixedValue_eq, maskWhere_and_complement formed.short]
  have same (letter : Char) : (letter == '0') = (isFixed letter && !(letter == '1')) := by
    by_cases zero : letter = '0'
    · rw [zero]
      rfl
    · rw [isFixed, beq_eq_false_iff_ne.mpr zero, Bool.false_or, Bool.and_not_self]
  exact congrArg (maskWhere · filter.letters) (funext same)

/-- Every described bit belongs to the field of its own letter. -/
theorem toNat_fieldBits : filter.fieldBits.toNat = 2 ^ filter.width - 1 := by
  have union := foldr_maskWhere formed.short
    (filter.pattern.toList.map fun marker letter => letter == Text.fold marker)
  rw [List.map_map] at union
  have union_eq : filter.fieldBits = _ := union
  rw [union_eq]
  apply toNat_maskWhere_of_all formed.short
  intro letter member
  apply List.any_eq_true.mpr
  refine ⟨fun other => other == Text.fold letter, List.mem_map_of_mem ?_, ?_⟩
  · rw [Filter.pattern, String.toList_ofList, List.mem_reverse]
    exact member
  · exact beq_iff_eq.mpr (formed.folded letter member).symm

end Formed

/-- Markers with different folded forms have fields apart from each other.  The fields of
the digits are the fixed bits with their values, and no other field has a fixed bit.  All
fields that the canonical pattern names are together the low bits, as many as the pattern
is wide.  A blank has no field, and any other marker has one exactly if the pattern has
it. -/
theorem fields_tile_pattern {pattern : String} {demanded : Option Nat} {filter : Filter}
    (compiled : compile pattern demanded = .ok filter) :
    (∀ marker other, Text.fold marker ≠ Text.fold other →
      filter.fieldMask marker &&& filter.fieldMask other = 0) ∧
    filter.fieldMask '1' = filter.fixedValue ∧
    filter.fieldMask '0' = filter.fixedMask &&& ~~~filter.fixedValue ∧
    (∀ marker, Text.fold marker ≠ '0' → Text.fold marker ≠ '1' →
      filter.fieldMask marker &&& filter.fixedMask = 0) ∧
    filter.fieldBits.toNat = 2 ^ filter.width - 1 ∧
    (∀ marker, Text.isBlank marker = true → filter.fieldMask marker = 0) ∧
    (∀ marker, filter.fieldMask marker = 0 ↔
      ∀ character ∈ described pattern, Text.fold character ≠ Text.fold marker) := by
  have formed := formed_of_compile compiled
  refine ⟨fun _ _ => formed.fieldMask_and_fieldMask, formed.fieldMask_one,
    formed.fieldMask_zero, ?_, formed.toNat_fieldBits, ?_, ?_⟩
  · intro marker not_zero not_one
    apply formed.fieldMask_and_fixedMask
    rw [isFixed, beq_eq_false_iff_ne.mpr not_zero, beq_eq_false_iff_ne.mpr not_one]
    rfl
  · intro marker blank
    apply (formed.fieldMask_eq_zero_iff marker).mpr
    intro member
    have visible := formed.visible _ member
    rw [Text.isBlank_fold, blank] at visible
    cases visible
  · intro marker
    rw [formed.fieldMask_eq_zero_iff, mem_letters_of_compile compiled]
    constructor
    · intro absent character found same
      exact absent ⟨character, found, same⟩
    · rintro different ⟨character, found, same⟩
      exact different character found same

/-- Two fields in pieces between digits, with markers in both cases. -/
theorem fields_tile_pattern_interleaved :
    ∃ filter,
      compile "sä0 SÄ1s" (some 3) = .ok filter ∧
      filter.fieldMask 'S' = 0x49 ∧ filter.fieldMask 'ä' = 0x24 ∧ filter.fixedMask = 0x12 ∧
      filter.fieldMask 'S' &&& filter.fieldMask 'ä' = 0 ∧
      filter.fieldMask '1' = filter.fixedValue ∧
      filter.fieldMask '0' = filter.fixedMask &&& ~~~filter.fixedValue ∧
      filter.fieldMask 'S' &&& filter.fixedMask = 0 ∧
      filter.fieldBits.toNat = 2 ^ filter.width - 1 ∧
      filter.fieldMask ' ' = 0 ∧
      filter.fieldMask 'x' = 0 := by
  obtain ⟨apart, one, zero, free, union, blank, missing⟩ :=
    fields_tile_pattern (show compile "sä0 SÄ1s" (some 3) = .ok _ from rfl)
  exact ⟨_, rfl, by decide, by decide, by decide, apart 'S' 'ä' (by decide), one, zero,
    free 'S' (by decide) (by decide), union, blank ' ' (by decide),
    (missing 'x').mpr (List.forall_iff_forall_mem.mp (by decide))⟩

end Filter

end Readout
