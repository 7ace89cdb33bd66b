import Readout.Proofs.Letters
import Readout.Proofs.Patterns
import Readout.Splitter

/-!
# Building from patterns that are short enough

A pattern that describes no more bits than a word has compiles, and it fixes a bit
exactly if it has a digit.  From patterns of this kind every slot compiles and the
splitter is built, and header, slot and splitter are the same functions of their patterns
everywhere.
-/

namespace Readout

namespace Filter

def ofPattern (pattern : String) (position : Option Nat) : Filter :=
  ofLetters ((described pattern).map Text.fold).reverse position

@[simp]
theorem length_letters_ofPattern (pattern : String) (position : Option Nat) :
    (ofPattern pattern position).letters.length = (described pattern).length := by
  simp [ofPattern, ofLetters]

theorem compile_of_short {pattern : String} (short : IsShort pattern)
    (position : Option Nat) : compile pattern position = .ok (ofPattern pattern position) :=
  if_pos short

theorem compile_of_not_short {pattern : String} (long : ¬ IsShort pattern)
    (position : Option Nat) : compile pattern position =
      .error (.patternTooLong pattern (described pattern).length maxBits) :=
  if_neg long

theorem isShort_of_compile {pattern : String} {position : Option Nat} {filter : Filter}
    (compiled : compile pattern position = .ok filter) : IsShort pattern := by
  obtain ⟨filter_eq, short⟩ := ofLetters_of_compile compiled
  rw [filter_eq] at short
  simpa [ofLetters, IsShort] using short

theorem isFixed_iff (letter : Char) : isFixed letter = true ↔ letter = '0' ∨ letter = '1' := by
  simp [isFixed]

theorem isFixed_fold (character : Char) : isFixed (Text.fold character) = isFixed character := by
  rw [Bool.eq_iff_iff]
  simp [isFixed, Text.fold_eq_zero_iff, Text.fold_eq_one_iff]

theorem alwaysMatches_ofPattern_of_free {pattern : String} (short : IsShort pattern)
    (free : pattern.toList.any isFixed = false) :
    (ofPattern pattern none).alwaysMatches = true := by
  have described_free : ∀ letter ∈ (ofPattern pattern none).letters, isFixed letter = false := by
    intro letter member
    obtain ⟨character, found, rfl⟩ := List.mem_map.mp (List.mem_reverse.mp member)
    rw [isFixed_fold]
    simpa using List.any_eq_false.mp free character (List.mem_filter.mp found).1
  have letters_short : (ofPattern pattern none).letters.length ≤ maxBits := by
    rw [length_letters_ofPattern]
    exact short
  have mask_eq : (ofPattern pattern none).fixedMask = 0 :=
    (maskWhere_eq_zero_iff letters_short isFixed).mpr described_free
  rw [alwaysMatches, mask_eq]
  rfl

end Filter

namespace Header

def ofPattern (pattern : String) : Header :=
  let filter := Filter.ofPattern pattern none
  { filter, size := filter.field sizeMarker }

theorem compile_of_short {pattern : String} (short : Filter.IsShort pattern) :
    compile pattern = .ok (ofPattern pattern) := by
  rw [compile, Filter.compile_of_short short]
  rfl

theorem marksBoundaries_ofPattern {pattern : String} (short : Filter.IsShort pattern) :
    (ofPattern pattern).marksBoundaries = pattern.toList.any Filter.isFixed := by
  cases fixed : pattern.toList.any Filter.isFixed with
  | true =>
      apply marksBoundaries_of_digit (compile_of_short short)
      obtain ⟨digit, member, digit_fixed⟩ := List.any_eq_true.mp fixed
      rcases (Filter.isFixed_iff digit).mp digit_fixed with rfl | rfl
      · exact .inl member
      · exact .inr member
  | false =>
      rw [marksBoundaries]
      exact congrArg not (Filter.alwaysMatches_ofPattern_of_free short fixed)

end Header

namespace Slot

def ofPatterns (patterns : List String) : Slot :=
  ofHeaders (patterns.map Header.ofPattern)

theorem compileHeaders_of_short {patterns : List String}
    (short : ∀ pattern ∈ patterns, Filter.IsShort pattern) :
    compileHeaders patterns = .ok (patterns.map Header.ofPattern) := by
  induction patterns with
  | nil => rfl
  | cons pattern patterns induction =>
      obtain ⟨here, others⟩ := List.forall_mem_cons.mp short
      rw [compileHeaders, Header.compile_of_short here, induction others]
      rfl

theorem compile_of_short {patterns : List String}
    (short : ∀ pattern ∈ patterns, Filter.IsShort pattern) :
    compile patterns = .ok (ofPatterns patterns) := by
  rw [compile, compileHeaders_of_short short]
  rfl

end Slot

namespace Splitter

def ofPatterns (patterns : List (List String)) : Splitter :=
  ofSlots (patterns.map Slot.ofPatterns)

end Splitter

end Readout
