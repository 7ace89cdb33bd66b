import Readout.Header
import Readout.Proofs.Extraction

/-!
# The masks of a compiled pattern

Every mask of a compiled filter collects the bits whose letter passes a test.  So
what the masks have to do with each other is decided letter by letter.
-/

namespace Readout

namespace Filter

theorem bit_maskWhere (test : Char → Bool) {letters : List Char}
    (short : letters.length ≤ maxBits) (position : Nat) :
    Word.bit (maskWhere test letters) position = letters[position]?.any test := by
  have bounded : (letters.map test).length ≤ Word.size := by
    rw [List.length_map]
    exact short
  rw [maskWhere, Word.bit_ofBits _ bounded]
  cases letter_at : letters[position]? with
  | none => simp [letter_at]
  | some letter => simp [letter_at]

section Tests

variable {letters : List Char} (short : letters.length ≤ maxBits)
include short

theorem maskWhere_and (first second : Char → Bool) :
    maskWhere first letters &&& maskWhere second letters =
      maskWhere (fun letter => first letter && second letter) letters := by
  apply Word.eq_of_bit_eq
  intro position _
  rw [Word.bit_and, bit_maskWhere first short, bit_maskWhere second short,
    bit_maskWhere _ short]
  cases letters[position]? with
  | none => rfl
  | some letter => rfl

theorem maskWhere_or (first second : Char → Bool) :
    maskWhere first letters ||| maskWhere second letters =
      maskWhere (fun letter => first letter || second letter) letters := by
  apply Word.eq_of_bit_eq
  intro position _
  rw [Word.bit_or, bit_maskWhere first short, bit_maskWhere second short,
    bit_maskWhere _ short]
  cases letters[position]? with
  | none => rfl
  | some letter => rfl

theorem maskWhere_and_complement (first second : Char → Bool) :
    maskWhere first letters &&& ~~~maskWhere second letters =
      maskWhere (fun letter => first letter && !second letter) letters := by
  apply Word.eq_of_bit_eq
  intro position inside
  rw [Word.bit_and, Word.bit_complement _ inside, bit_maskWhere first short,
    bit_maskWhere second short, bit_maskWhere _ short]
  cases letters[position]? with
  | none => rfl
  | some letter => rfl

theorem maskWhere_eq_zero_iff (test : Char → Bool) :
    maskWhere test letters = 0 ↔ ∀ letter ∈ letters, test letter = false := by
  constructor
  · intro zero letter member
    obtain ⟨position, letter_at⟩ := List.mem_iff_getElem?.mp member
    have unset := bit_maskWhere test short position
    rw [zero, Word.bit_zero, letter_at] at unset
    exact unset.symm
  · intro unset
    apply Word.eq_of_bit_eq
    intro position _
    rw [bit_maskWhere test short, Word.bit_zero, Option.any_eq_false]
    intro letter letter_at
    exact unset letter (List.mem_of_getElem? letter_at)

theorem toNat_maskWhere_of_all {test : Char → Bool}
    (all : ∀ letter ∈ letters, test letter = true) :
    (maskWhere test letters).toNat = 2 ^ letters.length - 1 := by
  apply Word.toNat_of_low_ones
  intro position
  rw [bit_maskWhere test short]
  cases letter_at : letters[position]? with
  | none =>
      have beyond := List.getElem?_eq_none_iff.mp letter_at
      exact (decide_eq_false (Nat.not_lt_of_le beyond)).symm
  | some letter =>
      have inside := (List.getElem?_eq_some_iff.mp letter_at).1
      exact (all letter (List.mem_of_getElem? letter_at)).trans (decide_eq_true inside).symm

/-- The union of masks collects the letters that pass one of the tests. -/
theorem foldr_maskWhere (tests : List (Char → Bool)) :
    (tests.map fun test => maskWhere test letters).foldr (· ||| ·) 0 =
      maskWhere (fun letter => tests.any fun test => test letter) letters := by
  induction tests with
  | nil =>
      symm
      exact (maskWhere_eq_zero_iff short _).mpr fun _ _ => rfl
  | cons test tests induction =>
      rw [List.map_cons, List.foldr_cons, induction, maskWhere_or short]
      rfl

end Tests

theorem ofLetters_of_compile {pattern : String} {position : Option Nat}
    {filter : Filter} (compiled : compile pattern position = .ok filter) :
    filter = ofLetters ((described pattern).map Text.fold).reverse position ∧
      filter.letters.length ≤ maxBits := by
  rw [compile] at compiled
  split at compiled
  · rename_i short
    cases compiled
    refine ⟨rfl, ?_⟩
    simpa [ofLetters] using short
  · cases compiled

theorem matchesWord_ofLetters (letters : List Char) (word : Word) :
    (ofLetters letters none).matchesWord word =
      ((word &&& maskWhere isFixed letters) == maskWhere (· == '1') letters) := rfl

theorem alwaysMatches_eq_false_of_digit {pattern : String} {position : Option Nat}
    {filter : Filter} (compiled : compile pattern position = .ok filter)
    (fixed : '0' ∈ pattern.toList ∨ '1' ∈ pattern.toList) :
    filter.alwaysMatches = false := by
  obtain ⟨filter_eq, short⟩ := ofLetters_of_compile compiled
  have described_digit : ∃ digit ∈ described pattern, isFixed (Text.fold digit) = true := by
    rcases fixed with zero | one
    · exact ⟨'0', List.mem_filter.mpr ⟨zero, by decide⟩, by decide⟩
    · exact ⟨'1', List.mem_filter.mpr ⟨one, by decide⟩, by decide⟩
  obtain ⟨digit, member, digit_fixed⟩ := described_digit
  have letter_member : Text.fold digit ∈ filter.letters := by
    rw [filter_eq]
    exact List.mem_reverse.mpr (List.mem_map_of_mem member)
  have mask_eq : filter.fixedMask = maskWhere isFixed filter.letters := by
    rw [filter_eq]
    rfl
  rw [alwaysMatches, mask_eq]
  apply beq_eq_false_iff_ne.mpr
  intro zero
  have unfixed := (maskWhere_eq_zero_iff short isFixed).mp zero _ letter_member
  exact Bool.false_ne_true (unfixed.symm.trans digit_fixed)

end Filter

namespace Header

theorem of_compile {pattern : String} {header : Header}
    (compiled : compile pattern = .ok header) :
    Filter.compile pattern none = .ok header.filter ∧
      header.size = header.filter.field sizeMarker := by
  rw [compile] at compiled
  split at compiled
  · rename_i filter filter_eq
    cases compiled
    exact ⟨filter_eq, rfl⟩
  · cases compiled

theorem marksBoundaries_of_digit {pattern : String} {header : Header}
    (compiled : compile pattern = .ok header)
    (fixed : '0' ∈ pattern.toList ∨ '1' ∈ pattern.toList) :
    header.marksBoundaries = true := by
  rw [marksBoundaries,
    Filter.alwaysMatches_eq_false_of_digit (of_compile compiled).1 fixed]
  rfl

section Masks

variable {pattern : String} {header : Header} (compiled : compile pattern = .ok header)
include compiled

/-- The masks of a header collect the letters of one and the same list. -/
theorem masks_of_compile :
    ∃ letters : List Char, letters.length ≤ Filter.maxBits ∧
      header.filter = Filter.ofLetters letters none ∧
      header.size =
        Field.ofMask (Filter.maskWhere (· == Text.fold sizeMarker) letters) := by
  obtain ⟨filter_compiled, size_eq⟩ := of_compile compiled
  obtain ⟨filter_eq, short⟩ := Filter.ofLetters_of_compile filter_compiled
  refine ⟨header.filter.letters, short, ?_, size_eq⟩
  rw [filter_eq]
  rfl

theorem size_eq_ofMask : header.size = Field.ofMask header.size.mask := by
  obtain ⟨letters, -, -, size_eq⟩ := masks_of_compile compiled
  rw [size_eq]
  rfl

theorem bit_fixedMask_of_fixedValue {position : Nat}
    (set : Word.bit header.filter.fixedValue position = true) :
    Word.bit header.filter.fixedMask position = true := by
  obtain ⟨letters, short, filter_eq, -⟩ := masks_of_compile compiled
  rw [filter_eq] at set ⊢
  simp only [Filter.ofLetters, Filter.bit_maskWhere _ short] at set ⊢
  obtain ⟨letter, letter_at, one⟩ := (Option.any_eq_true _ _).mp set
  have letter_eq : letter = '1' := by simpa using one
  simp [letter_at, letter_eq, Filter.isFixed]

theorem bit_fixedMask_of_size {position : Nat}
    (set : Word.bit header.size.mask position = true) :
    Word.bit header.filter.fixedMask position = false := by
  obtain ⟨letters, short, filter_eq, size_eq⟩ := masks_of_compile compiled
  rw [size_eq] at set
  rw [filter_eq]
  simp only [Field.ofMask, Filter.ofLetters, Filter.bit_maskWhere _ short] at set ⊢
  obtain ⟨letter, letter_at, marked⟩ := (Option.any_eq_true _ _).mp set
  have letter_eq : letter = Text.fold sizeMarker := by simpa using marked
  rw [letter_at, letter_eq]
  decide

end Masks

end Header

end Readout
