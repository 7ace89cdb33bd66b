import Readout.Meaning
import Readout.Proofs.Building
import Readout.Proofs.Ordering

/-!
# Compiled patterns mean what they show

A compiled filter matches the words that its pattern shows, and its fields read the
numbers that stand under their markers.  The pattern is written from the most significant
bit down while the letters of a filter go up from bit 0, so a described character is found
among the letters by counting from the other end.
-/

namespace Readout

namespace Filter

theorem beq_one_fold (character : Char) : (Text.fold character == '1') = (character == '1') := by
  rw [Bool.eq_iff_iff, beq_iff_eq, beq_iff_eq]
  exact Text.fold_eq_one_iff character

theorem mem_described_iff (pattern : String) {character : Char}
    (visible : Text.isBlank character = false) :
    character ∈ described pattern ↔ character ∈ pattern.toList := by
  simp [described, Text.withoutBlanks, visible]

theorem getElem?_letters (pattern : String) (demanded : Option Nat) {index : Nat}
    (inside : index < (described pattern).length) :
    (ofPattern pattern demanded).letters[(described pattern).length - 1 - index]? =
      some (Text.fold (described pattern)[index]) := by
  have mirrored : (described pattern).length - 1 -
      ((described pattern).length - 1 - index) = index := by omega
  have below : (described pattern).length - 1 - index < (described pattern).length := by omega
  simp [ofPattern, ofLetters, below, mirrored]

/-- The fixed bits of a word decide whether a filter with the given letters matches. -/
theorem masked_eq_iff {letters : List Char} (short : letters.length ≤ maxBits)
    (word : Word) :
    word &&& maskWhere isFixed letters = maskWhere (· == '1') letters ↔
      ∀ position letter, letters[position]? = some letter → isFixed letter = true →
        Word.bit word position = (letter == '1') := by
  constructor
  · intro masked position letter letter_at fixed
    have same := congrArg (Word.bit · position) masked
    simpa [Word.bit_and, bit_maskWhere _ short, letter_at, fixed] using same
  · intro fixed
    apply Word.eq_of_bit_eq
    intro position _
    rw [Word.bit_and, bit_maskWhere _ short, bit_maskWhere _ short]
    cases letter_at : letters[position]? with
    | none => exact Bool.and_false _
    | some letter =>
        rw [Option.any_some, Option.any_some]
        cases letter_fixed : isFixed letter with
        | true => rw [Bool.and_true, fixed position letter letter_at letter_fixed]
        | false =>
            have not_one : (letter == '1') = false := (Bool.or_eq_false_iff.mp letter_fixed).2
            rw [Bool.and_false, not_one]

theorem maskWhere_and_of_imp {inner outer : Char → Bool} {letters : List Char}
    (short : letters.length ≤ maxBits)
    (implies : ∀ letter, inner letter = true → outer letter = true) :
    maskWhere inner letters &&& maskWhere outer letters = maskWhere inner letters := by
  rw [maskWhere_and short]
  have both (letter : Char) : (inner letter && outer letter) = inner letter :=
    Bool.and_eq_left_iff_imp.mpr (implies letter)
  exact congrArg (maskWhere · letters) (funext both)

theorem shows_iff (pattern : String) (demanded : Option Nat) (word : Word) :
    Shows pattern word ↔
      ∀ position letter, (ofPattern pattern demanded).letters[position]? = some letter →
        isFixed letter = true → Word.bit word position = (letter == '1') := by
  constructor
  · intro shows position letter letter_at fixed
    have below : position < (described pattern).length := by
      rw [← length_letters_ofPattern pattern demanded]
      exact (List.getElem?_eq_some_iff.mp letter_at).1
    have inside : (described pattern).length - 1 - position < (described pattern).length := by
      omega
    have mirrored : (described pattern).length - 1 -
        ((described pattern).length - 1 - position) = position := by omega
    have described_at := getElem?_letters pattern demanded inside
    have shown := shows _ inside
    rw [mirrored] at described_at shown
    rw [letter_at] at described_at
    cases described_at
    rw [isFixed_fold, isFixed_iff] at fixed
    rw [beq_one_fold]
    rcases fixed with zero | one
    · rw [shown.1 zero, zero]
      rfl
    · rw [shown.2 one, one]
      rfl
  · intro fixed index inside
    have letter_bit := fixed _ _ (getElem?_letters pattern demanded inside)
    rw [isFixed_fold, isFixed_iff, beq_one_fold] at letter_bit
    constructor
    · intro zero
      rw [letter_bit (.inl zero), zero]
      rfl
    · intro one
      rw [letter_bit (.inr one), one]
      rfl

theorem admits_iff (filter : Filter) (offered : Option Nat) :
    filter.admits offered = true ↔ filter.position = none ∨ offered = filter.position := by
  rw [admits]
  cases filter.position with
  | none => simp
  | some demanded => simp

section Compiled

variable {pattern : String} (short : IsShort pattern) (demanded : Option Nat)
include short

theorem short_letters_ofPattern : (ofPattern pattern demanded).letters.length ≤ maxBits := by
  rw [length_letters_ofPattern]
  exact short

theorem matchesAt_ofPattern_iff (word : Word) (offered : Option Nat) :
    (ofPattern pattern demanded).matchesAt word offered = true ↔
      (demanded = none ∨ offered = demanded) ∧ Shows pattern word := by
  rw [matchesAt, Bool.and_eq_true, admits_iff, beq_iff_eq, shows_iff pattern demanded,
    ← masked_eq_iff (short_letters_ofPattern short demanded)]
  rfl

theorem alwaysMatches_ofPattern_iff :
    (ofPattern pattern demanded).alwaysMatches = true ↔
      '0' ∉ described pattern ∧ '1' ∉ described pattern := by
  have free_iff : (ofPattern pattern demanded).alwaysMatches =
      !pattern.toList.any isFixed := by
    rw [← Header.marksBoundaries_ofPattern short, Header.marksBoundaries, Bool.not_not]
    rfl
  rw [free_iff, mem_described_iff pattern (by decide), mem_described_iff pattern (by decide),
    Bool.not_eq_true', List.any_eq_false]
  constructor
  · intro free
    exact ⟨fun zero => free '0' zero (by decide), fun one => free '1' one (by decide)⟩
  · rintro ⟨no_zero, no_one⟩ character member fixed
    rcases (isFixed_iff character).mp fixed with rfl | rfl
    · exact no_zero member
    · exact no_one member

theorem fixedValue_ofPattern_and :
    (ofPattern pattern demanded).fixedValue &&& (ofPattern pattern demanded).fixedMask =
      (ofPattern pattern demanded).fixedValue := by
  apply maskWhere_and_of_imp (short_letters_ofPattern short demanded)
  intro letter one
  rw [isFixed, one, Bool.or_true]

end Compiled

theorem shows_congr {pattern : String} {word other : Word}
    (same : ∀ position, position < (described pattern).length →
      Word.bit word position = Word.bit other position) :
    Shows pattern word ↔ Shows pattern other := by
  apply forall_congr'
  intro index
  apply forall_congr'
  intro inside
  rw [same _ (by omega)]

/-- A pattern compiles exactly if it describes no more bits than a word has.  The filter
matches at the demanded position, if one is demanded, and there the words whose described
bits are as the digits say.  It matches everything exactly if there is no digit. -/
theorem compile_fixes_digits (pattern : String) (demanded : Option Nat) :
    match compile pattern demanded with
    | .error error =>
        maxBits < (described pattern).length ∧
          error = .patternTooLong pattern (described pattern).length maxBits
    | .ok filter =>
        (described pattern).length ≤ maxBits ∧
        (∀ word offered, filter.matchesAt word offered = true ↔
          (demanded = none ∨ offered = demanded) ∧ Shows pattern word) ∧
        (∀ word other,
          (∀ position, position < (described pattern).length →
            Word.bit word position = Word.bit other position) →
          ∀ offered, filter.matchesAt word offered = filter.matchesAt other offered) ∧
        (filter.alwaysMatches = true ↔ '0' ∉ described pattern ∧ '1' ∉ described pattern) ∧
        filter.fixedValue &&& filter.fixedMask = filter.fixedValue := by
  by_cases short : IsShort pattern
  · rw [compile_of_short short]
    refine ⟨short, matchesAt_ofPattern_iff short demanded, ?_,
      alwaysMatches_ofPattern_iff short demanded, fixedValue_ofPattern_and short demanded⟩
    intro word other same offered
    rw [Bool.eq_iff_iff, matchesAt_ofPattern_iff short, matchesAt_ofPattern_iff short,
      shows_congr same]
  · rw [compile_of_not_short short]
    exact ⟨Nat.lt_of_not_le short, rfl⟩

/-- The bits of the described characters that a marker names. -/
def maskUnder (marker : Char) (characters : List Char) : Word :=
  maskWhere (· == Text.fold marker) (characters.map Text.fold).reverse

theorem positions_maskWhere (test : Char → Bool) {letters : List Char}
    (short : letters.length ≤ maxBits) :
    Word.positions (maskWhere test letters) =
      (List.range letters.length).filter fun position => letters[position]?.any test := by
  obtain ⟨above, size_eq⟩ := Nat.exists_eq_add_of_le short
  have parts : List.range Word.size =
      List.range letters.length ++ (List.range above).map (letters.length + ·) := by
    rw [← List.range_add, ← size_eq]
    rfl
  have none_above : ((List.range above).map (letters.length + ·)).filter
      (Word.bit (maskWhere test letters)) = [] := by
    rw [List.filter_eq_nil_iff]
    intro position member
    obtain ⟨distance, -, rfl⟩ := List.mem_map.mp member
    simp [bit_maskWhere test short]
  rw [Word.positions, parts, List.filter_append, none_above, List.append_nil]
  apply List.filter_congr
  intro position _
  exact bit_maskWhere test short position

theorem positions_maskWhere_concat (test : Char → Bool) {letters : List Char} {letter : Char}
    (short : (letters ++ [letter]).length ≤ maxBits) :
    Word.positions (maskWhere test (letters ++ [letter])) =
      Word.positions (maskWhere test letters) ++
        if test letter = true then [letters.length] else [] := by
  have longer : letters.length + 1 ≤ maxBits := by simpa using short
  rw [positions_maskWhere test short, positions_maskWhere test (Nat.le_of_succ_le longer),
    List.length_append, List.length_singleton, List.range_succ, List.filter_append]
  congr 1
  · apply List.filter_congr
    intro position member
    rw [List.getElem?_append_left (List.mem_range.mp member)]
  · simp [List.filter_cons]

theorem positions_maskUnder_nil (marker : Char) : Word.positions (maskUnder marker []) = [] :=
  positions_maskWhere _ (Nat.zero_le _)

/-- A character in front describes the bit above those of the others. -/
theorem positions_maskUnder_cons {marker character : Char} {rest : List Char}
    (short : (character :: rest).length ≤ maxBits) :
    Word.positions (maskUnder marker (character :: rest)) =
      Word.positions (maskUnder marker rest) ++
        if Text.fold character = Text.fold marker then [rest.length] else [] := by
  have letters_short : ((rest.map Text.fold).reverse ++ [Text.fold character]).length ≤
      maxBits := by simpa using short
  have concat := positions_maskWhere_concat (· == Text.fold marker) letters_short
  simpa [maskUnder] using concat

theorem popcount_maskUnder (marker : Char) {characters : List Char}
    (short : characters.length ≤ maxBits) :
    Word.popcount (maskUnder marker characters) =
      characters.countP fun character => Text.fold character = Text.fold marker := by
  induction characters with
  | nil => rw [Word.popcount, positions_maskUnder_nil, List.length_nil, List.countP_nil]
  | cons character rest induction =>
      rw [Word.popcount, positions_maskUnder_cons short, List.length_append, ← Word.popcount,
        induction (Nat.le_of_succ_le short), List.countP_cons]
      by_cases marked : Text.fold character = Text.fold marker
      · simp [marked]
      · simp [marked]

/-- Reading from left to right puts the bits under a marker behind the digits of the
number read so far. -/
theorem readFrom_eq (marker : Char) (word : Word) {characters : List Char}
    (short : characters.length ≤ maxBits) (number : Nat) :
    readFrom marker word characters number =
      number * 2 ^ Word.popcount (maskUnder marker characters) +
        (Word.gather word (maskUnder marker characters)).toNat := by
  rw [Word.toNat_gather]
  -- The first character describes the highest bit, so its digit is the last of the numeral.
  induction characters generalizing number with
  | nil =>
      rw [Word.popcount, positions_maskUnder_nil, List.length_nil, List.map_nil,
        Word.numeral_nil, Nat.pow_zero, Nat.mul_one, readFrom, Nat.add_zero]
  | cons character rest induction =>
      have rest_short : rest.length ≤ maxBits := Nat.le_of_succ_le short
      rw [readFrom, Word.popcount, positions_maskUnder_cons short]
      by_cases marked : Text.fold character = Text.fold marker
      · rw [if_pos marked, if_pos marked, induction rest_short, List.map_append, List.map_singleton,
          Word.numeral_append_single, List.length_append, List.length_singleton, List.length_map,
          Word.popcount, Nat.pow_succ]
        ring
      · rw [if_neg marked, if_neg marked, induction rest_short, List.append_nil, Word.popcount]

/-- A field of a compiled pattern holds the number that is read under its marker from left
to right.  It has one bit for each character that the marker names, and the number fits
into these. -/
theorem extract_field_eq_reading {pattern : String} {demanded : Option Nat} {filter : Filter}
    (compiled : compile pattern demanded = .ok filter) (marker : Char) (word : Word) :
    ((filter.field marker).extract word).toNat = reading pattern marker word ∧
    (filter.field marker).width =
      (described pattern).countP (fun character => Text.fold character = Text.fold marker) ∧
    ((filter.field marker).extract word).toNat < 2 ^ (filter.field marker).width := by
  have short := isShort_of_compile compiled
  have mask_eq : filter.fieldMask marker = maskUnder marker (described pattern) := by
    rw [(ofLetters_of_compile compiled).1]
    rfl
  have extract_eq : (filter.field marker).extract word =
      Word.gather word (maskUnder marker (described pattern)) := by
    rw [field, Field.extract_ofMask, mask_eq]
  have width_eq : (filter.field marker).width =
      Word.popcount (maskUnder marker (described pattern)) := by
    rw [field, mask_eq]
    rfl
  rw [extract_eq, width_eq]
  refine ⟨?_, popcount_maskUnder marker short, Word.toNat_gather_lt _ _⟩
  rw [reading, readFrom_eq marker word short, Nat.zero_mul, Nat.zero_add]

/-- A field in three pieces, its marker in both cases, between digits and another field
that is not written in ASCII. -/
theorem extract_field_eq_reading_interleaved :
    ∃ filter,
      compile "sä0 SÄ1s" (some 3) = .ok filter ∧
      ((filter.field 's').extract 0x41).toNat = 5 ∧
      (filter.field 's').width = 3 ∧
      ((filter.field 's').extract 0x41).toNat < 2 ^ (filter.field 's').width := by
  obtain ⟨reads, width_eq, fits⟩ :=
    extract_field_eq_reading (show compile "sä0 SÄ1s" (some 3) = .ok _ from rfl) 's' 0x41
  exact ⟨_, rfl, reads.trans (by decide), width_eq.trans (by decide), fits⟩

end Filter

end Readout
