import Readout.Proofs.Building

/-!
# Canonical patterns

Compiling forgets the blanks of a pattern and the case of its markers, and nothing else.
The letters that remain are visible and fold to themselves.  So the canonical pattern, in
which they are written down again, compiles to the filter that it comes from, and with the
demanded position it tells compiled filters apart.
-/

namespace Readout

namespace Filter

/-- A pattern without its blanks and with every character folded. -/
def canonical (pattern : String) : String :=
  String.ofList ((described pattern).map Text.fold)

/-- What holds of every compiled filter, whatever its pattern.  The letters are what
folding leaves of visible characters, and the masks are those of the letters. -/
structure Formed (filter : Filter) : Prop where
  short : filter.letters.length ≤ maxBits
  folded : ∀ letter ∈ filter.letters, Text.fold letter = letter
  visible : ∀ letter ∈ filter.letters, Text.isBlank letter = false
  fixedMask_eq : filter.fixedMask = maskWhere isFixed filter.letters
  fixedValue_eq : filter.fixedValue = maskWhere (· == '1') filter.letters

section Compiled

variable {pattern : String} {demanded : Option Nat} {filter : Filter}
  (compiled : compile pattern demanded = .ok filter)
include compiled

theorem letters_of_compile :
    filter.letters = ((described pattern).map Text.fold).reverse := by
  rw [(ofLetters_of_compile compiled).1]
  rfl

theorem position_of_compile : filter.position = demanded := by
  rw [(ofLetters_of_compile compiled).1]
  rfl

theorem mem_letters_of_compile {letter : Char} :
    letter ∈ filter.letters ↔
      ∃ character ∈ described pattern, Text.fold character = letter := by
  rw [letters_of_compile compiled, List.mem_reverse, List.mem_map]

theorem formed_of_compile : filter.Formed := by
  obtain ⟨filter_eq, short⟩ := ofLetters_of_compile compiled
  refine ⟨short, ?_, ?_, ?_, ?_⟩
  · intro letter member
    obtain ⟨character, -, rfl⟩ := (mem_letters_of_compile compiled).mp member
    exact Text.fold_fold character
  · intro letter member
    obtain ⟨character, found, rfl⟩ := (mem_letters_of_compile compiled).mp member
    rw [Text.isBlank_fold]
    exact Text.not_isBlank_of_mem_withoutBlanks found
  · rw [filter_eq]
    rfl
  · rw [filter_eq]
    rfl

theorem pattern_of_compile : filter.pattern = canonical pattern := by
  rw [Filter.pattern, letters_of_compile compiled, List.reverse_reverse]
  rfl

end Compiled

theorem pattern_eq_iff (filter other : Filter) :
    filter.pattern = other.pattern ↔ filter.letters = other.letters := by
  rw [Filter.pattern, Filter.pattern, String.ofList_inj, List.reverse_inj]

namespace Formed

variable {filter : Filter} (formed : filter.Formed)
include formed

theorem ofLetters_eq : ofLetters filter.letters filter.position = filter := by
  rw [ofLetters, ← formed.fixedMask_eq, ← formed.fixedValue_eq]

theorem described_pattern : described filter.pattern = filter.letters.reverse := by
  rw [described, Filter.pattern, String.toList_ofList, Text.withoutBlanks, List.filter_eq_self]
  intro letter member
  rw [formed.visible letter (List.mem_reverse.mp member)]
  rfl

theorem map_fold_letters : filter.letters.map Text.fold = filter.letters := by
  have kept : filter.letters.map Text.fold = filter.letters.map id :=
    List.map_congr_left formed.folded
  exact kept.trans (List.map_id filter.letters)

theorem compile_pattern : compile filter.pattern filter.position = .ok filter := by
  have short : IsShort filter.pattern := by
    rw [IsShort, formed.described_pattern, List.length_reverse]
    exact formed.short
  rw [compile_of_short short, ofPattern, formed.described_pattern, List.map_reverse,
    List.reverse_reverse, formed.map_fold_letters, formed.ofLetters_eq]

theorem eq_iff {other : Filter} (otherFormed : other.Formed) :
    filter = other ↔ filter.pattern = other.pattern ∧ filter.position = other.position := by
  constructor
  · rintro rfl
    exact ⟨rfl, rfl⟩
  · rintro ⟨pattern_eq, position_eq⟩
    have letters_eq := (pattern_eq_iff filter other).mp pattern_eq
    calc
      filter = ofLetters filter.letters filter.position := formed.ofLetters_eq.symm
      _ = ofLetters other.letters other.position := by rw [letters_eq, position_eq]
      _ = other := otherFormed.ofLetters_eq

end Formed

/-- The canonical pattern of a compiled filter is its pattern without blanks and with
every character folded.  It compiles to the same filter and is canonical again.  Two
filters are equal exactly if their canonical patterns and demanded positions are, and the
canonical patterns are equal exactly if the patterns agree without blanks and with every
character folded. -/
theorem compile_canonical_pattern {pattern other : String} {demanded otherDemanded : Option Nat}
    {filter otherFilter : Filter} (compiled : compile pattern demanded = .ok filter)
    (otherCompiled : compile other otherDemanded = .ok otherFilter) :
    filter.pattern = canonical pattern ∧
    filter.position = demanded ∧
    (∃ again, compile filter.pattern demanded = .ok again ∧
      again = filter ∧ again.pattern = filter.pattern) ∧
    (filter = otherFilter ↔
      filter.pattern = otherFilter.pattern ∧ filter.position = otherFilter.position) ∧
    (filter.pattern = otherFilter.pattern ↔ canonical pattern = canonical other) ∧
    (filter = otherFilter ↔ canonical pattern = canonical other ∧ demanded = otherDemanded) := by
  have formed := formed_of_compile compiled
  have otherFormed := formed_of_compile otherCompiled
  have pattern_eq := pattern_of_compile compiled
  have otherPattern_eq := pattern_of_compile otherCompiled
  have position_eq := position_of_compile compiled
  have otherPosition_eq := position_of_compile otherCompiled
  have again := formed.compile_pattern
  rw [position_eq] at again
  refine ⟨pattern_eq, position_eq, ⟨filter, again, rfl, rfl⟩, formed.eq_iff otherFormed, ?_, ?_⟩
  · rw [pattern_eq, otherPattern_eq]
  · rw [formed.eq_iff otherFormed, pattern_eq, otherPattern_eq, position_eq, otherPosition_eq]

/-- Blanks inside and in front, markers in both cases and not written in ASCII, and a
letter that has no capital of its own. -/
theorem compile_canonical_pattern_respaced :
    ∃ filter,
      compile "sä0 \u00DFÄ1s" (some 3) = .ok filter ∧
      compile "\u2003SÄ 0\u00DFä1S" (some 3) = .ok filter ∧
      filter.pattern = "SÄ0\u00DFÄ1S" ∧
      compile "SÄ0\u00DFÄ1S" (some 3) = .ok filter := by
  obtain ⟨pattern_eq, -, ⟨again, again_compiled, rfl, -⟩, -, -, same⟩ :=
    compile_canonical_pattern
      (show compile "sä0 \u00DFÄ1s" (some 3) = .ok _ from rfl)
      (show compile "\u2003SÄ 0\u00DFä1S" (some 3) = .ok _ from rfl)
  have filters_eq := same.mpr ⟨by decide, rfl⟩
  refine ⟨_, rfl, ?_, pattern_eq, ?_⟩
  · rw [filters_eq]
    rfl
  · exact again_compiled

end Filter

end Readout
