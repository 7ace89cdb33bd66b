import Readout.Proofs.Meaning
import Readout.Proofs.Tiling

/-!
# Decoding loses nothing

A matching word is determined, as far as the pattern describes it, by the numbers that its
fields hold: a described bit is either fixed or belongs to the field of its letter.  The
other way round, `filled` writes a number into every field at once.  No field stands in
another one's way, so each of them reads back the number that was written into it.
-/

namespace Readout

namespace Filter

/-- The bit under a letter where the digits stand as written and the field of each marker
holds a number. -/
def filledBit (filter : Filter) (values : Char → Nat) (position : Nat) (letter : Char) : Bool :=
  if isFixed letter then letter == '1'
  else (values letter).testBit (Word.rank (filter.fieldMask letter) position)

def filled (filter : Filter) (values : Char → Nat) : Word :=
  Word.ofBits (filter.letters.mapIdx (filter.filledBit values))

namespace Formed

variable {filter : Filter} (formed : filter.Formed)
include formed

theorem matchesWord_iff (anywhere : filter.position = none) (word : Word) :
    filter.matchesWord word = true ↔
      ∀ position letter, filter.letters[position]? = some letter → isFixed letter = true →
        Word.bit word position = (letter == '1') := by
  rw [matchesWord, matchesAt, admits, anywhere, Bool.true_and, beq_iff_eq, formed.fixedMask_eq,
    formed.fixedValue_eq]
  exact masked_eq_iff formed.short word

theorem bit_eq_of_extract_eq (anywhere : filter.position = none) {word other : Word}
    (matched : filter.matchesWord word = true) (otherMatched : filter.matchesWord other = true)
    {position : Nat} {letter : Char} (letter_at : filter.letters[position]? = some letter)
    (same : (filter.field letter).extract word = (filter.field letter).extract other) :
    Word.bit word position = Word.bit other position := by
  cases fixed : isFixed letter with
  | true =>
      have bit_eq := (formed.matchesWord_iff anywhere word).mp matched
      have otherBit_eq := (formed.matchesWord_iff anywhere other).mp otherMatched
      exact (bit_eq position letter letter_at fixed).trans
        (otherBit_eq position letter letter_at fixed).symm
  | false =>
      have own : Text.fold letter = letter :=
        formed.folded letter (List.mem_of_getElem? letter_at)
      have inside : Word.bit (filter.fieldMask letter) position = true := by
        rw [formed.bit_fieldMask, letter_at, own]
        exact beq_self_eq_true letter
      rw [field, Field.extract_ofMask, Field.extract_ofMask] at same
      rw [← Word.bit_gather_rank word _ inside, same, Word.bit_gather_rank other _ inside]

theorem bit_filled (values : Char → Nat) {position : Nat} {letter : Char}
    (letter_at : filter.letters[position]? = some letter) :
    Word.bit (filter.filled values) position = filter.filledBit values position letter := by
  have bounded : (filter.letters.mapIdx (filter.filledBit values)).length ≤ Word.size := by
    rw [List.length_mapIdx]
    exact formed.short
  rw [filled, Word.bit_ofBits _ bounded, List.getD_eq_getElem?_getD, List.getElem?_mapIdx,
    letter_at]
  rfl

theorem matchesWord_filled (anywhere : filter.position = none) (values : Char → Nat) :
    filter.matchesWord (filter.filled values) = true := by
  apply (formed.matchesWord_iff anywhere _).mpr
  intro position letter letter_at fixed
  rw [formed.bit_filled values letter_at, filledBit, if_pos fixed]

theorem extract_filled (values : Char → Nat) {letter : Char} (own : Text.fold letter = letter)
    (free : isFixed letter = false)
    (fits : values letter < 2 ^ (filter.field letter).width) :
    ((filter.field letter).extract (filter.filled values)).toNat = values letter := by
  rw [field, Field.extract_ofMask]
  apply Word.toNat_gather_of_bits fits
  intro position inside
  have letter_at : filter.letters[position]? = some letter := by
    rw [formed.bit_fieldMask, own] at inside
    obtain ⟨found, found_at, named⟩ := (Option.any_eq_true _ _).mp inside
    rw [found_at, eq_of_beq named]
  rw [formed.bit_filled values letter_at, filledBit, if_neg (ne_true_of_eq_false free)]

end Formed

theorem field_fold (filter : Filter) (marker : Char) :
    filter.field (Text.fold marker) = filter.field marker := by
  rw [field, field, fieldMask, fieldMask, Text.fold_fold]

/-- Two words that match a pattern agree on all described bits if the fields of the pattern
hold the same numbers in them.  Whatever numbers that fit are chosen for the markers of the
pattern other than the digits, some word matches and holds just these numbers. -/
theorem fields_determine_word {pattern : String} {filter : Filter}
    (compiled : compile pattern none = .ok filter) :
    (∀ word other, filter.matchesWord word = true → filter.matchesWord other = true →
      (∀ marker ∈ described pattern,
        (filter.field marker).extract word = (filter.field marker).extract other) →
      ∀ position, position < filter.width →
        Word.bit word position = Word.bit other position) ∧
    (∀ values : Char → Nat,
      (∀ marker ∈ described pattern, isFixed marker = false →
        values (Text.fold marker) < 2 ^ (filter.field marker).width) →
      ∃ word, filter.matchesWord word = true ∧
        ∀ marker ∈ described pattern, isFixed marker = false →
          ((filter.field marker).extract word).toNat = values (Text.fold marker)) := by
  have formed := formed_of_compile compiled
  have anywhere := position_of_compile compiled
  constructor
  · intro word other matched otherMatched same position inside
    have letter_at : filter.letters[position]? = some filter.letters[position] :=
      List.getElem?_eq_getElem inside
    obtain ⟨marker, found, letter_eq⟩ :=
      (mem_letters_of_compile compiled).mp (List.mem_of_getElem? letter_at)
    have same_number := same marker found
    rw [← field_fold, letter_eq] at same_number
    exact formed.bit_eq_of_extract_eq anywhere matched otherMatched letter_at same_number
  · intro values fits
    refine ⟨filter.filled values, formed.matchesWord_filled anywhere values, ?_⟩
    intro marker found free
    have fits_field := fits marker found free
    rw [← field_fold] at fits_field ⊢
    apply formed.extract_filled values (Text.fold_fold marker) _ fits_field
    rw [isFixed_fold]
    exact free

/-- Two fields in pieces between digits.  The words differ above the pattern only. -/
theorem fields_determine_word_interleaved :
    ∃ filter,
      compile "sä0 SÄ1s" none = .ok filter ∧
      (∀ position, position < 7 → Word.bit 0x4B position = Word.bit 0xFCB position) ∧
      ∃ word, filter.matchesWord word = true ∧
        ((filter.field 's').extract word).toNat = 5 ∧
        ((filter.field 'Ä').extract word).toNat = 2 := by
  obtain ⟨determined, realised⟩ :=
    fields_determine_word (show compile "sä0 SÄ1s" none = .ok _ from rfl)
  obtain ⟨word, matched, holds⟩ :=
    realised (fun letter => if letter = 'S' then 5 else 2)
      (List.forall_iff_forall_mem.mp (by decide))
  have equal := determined 0x4B 0xFCB (by decide) (by decide)
    (List.forall_iff_forall_mem.mp (by decide))
  exact ⟨_, rfl, equal, word, matched, holds 's' (by decide) (by decide),
    holds 'Ä' (by decide) (by decide)⟩

end Filter

end Readout
