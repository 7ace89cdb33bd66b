import Mathlib.Data.List.Forall2
import Readout.Proofs.Tiling

/-!
# Markers that are the same in either case

Two markers name the same field exactly if they fold to the same character.  Of two
characters with the same simple upper case this is so unless one of them has a full
upper-case form of several characters: such a character is kept as it is written, so a
small letter like alpha with iota subscript and its capital name different fields.
-/

namespace Readout

namespace Text

theorem CodeRange.containsCode_of_between {ranges : List CodeRange} {low high : Nat}
    (covered : ∀ distance < high + 1 - low, containsCode ranges (low + distance) = true)
    {code : Nat} (above : low ≤ code) (below : code ≤ high) :
    containsCode ranges code = true := by
  have inside := covered (code - low) (by omega)
  rwa [Nat.add_sub_cancel' above] at inside

/-- A run leads to no expanding character, or starts from expanding characters alone. -/
theorem expanding_caseRuns : ∀ run ∈ caseRuns,
    CodeRange.Miss expandingRanges run.target run.highest ∨
      ∀ distance < run.last + 1 - run.first,
        CodeRange.containsCode expandingRanges (run.first + distance) = true := by
  decide +kernel

theorem expands_of_expands_simpleUpper {character : Char}
    (expanding : expands (simpleUpper character) = true) : expands character = true := by
  rw [simpleUpper] at expanding
  split at expanding
  · rename_i image found
    obtain ⟨run, member, moved⟩ := CaseRun.exists_run_of_lookup? found
    obtain ⟨above, below, -, -⟩ := CaseRun.image?_eq_some_iff.mp moved
    rcases expanding_caseRuns run member with missed | covered
    · rw [expands, CodeRange.covers] at expanding
      rcases toNat_ofNat_cases image with image_eq | zero
      · obtain ⟨image_above, image_below⟩ := CaseRun.le_highest moved
        rw [image_eq, CodeRange.containsCode_of_miss missed image_above image_below] at expanding
        cases expanding
      · rw [zero] at expanding
        cases expanding
    · exact CodeRange.containsCode_of_between covered above below
  · exact expanding

theorem ne_of_expands {character other : Char} (expanding : expands character = true)
    (kept : expands other = false) : character ≠ other ∧ character ≠ simpleUpper other := by
  constructor
  · rintro rfl
    exact Bool.false_ne_true (kept.symm.trans expanding)
  · rintro rfl
    exact Bool.false_ne_true (kept.symm.trans (expands_of_expands_simpleUpper expanding))

theorem fold_eq_fold_iff {first second : Char} (same : simpleUpper first = simpleUpper second) :
    fold first = fold second ↔
      first = second ∨ (expands first = false ∧ expands second = false) := by
  cases firstExpands : expands first with
  | true =>
      cases secondExpands : expands second with
      | true => simp [fold, firstExpands, secondExpands]
      | false =>
          obtain ⟨apart, unfolded⟩ := ne_of_expands firstExpands secondExpands
          simp [fold, firstExpands, secondExpands, unfolded, apart]
  | false =>
      cases secondExpands : expands second with
      | true =>
          obtain ⟨apart, unfolded⟩ := ne_of_expands secondExpands firstExpands
          simp [fold, firstExpands, secondExpands, unfolded.symm, apart.symm]
      | false => simp [fold, firstExpands, secondExpands, same]

end Text

namespace Filter

/-- One pattern comes from another by writing `new` for some of the characters `old`. -/
def Replaced (old new : Char) (pattern other : String) : Prop :=
  List.Forall₂ (fun before after => after = before ∨ (before = old ∧ after = new))
    pattern.toList other.toList

/-- Two patterns compile to the same filter, or neither of them compiles. -/
def SameOutcome : Except FilterError Filter → Except FilterError Filter → Prop
  | .ok filter, .ok other => filter = other
  | .error _, .error _ => True
  | _, _ => False

/-- Two characters are the same marker in every pattern and for every filter. -/
structure SameMarker (first second : Char) : Prop where
  compile : ∀ (pattern other : String) (position : Option Nat),
    Replaced first second pattern other →
      SameOutcome (compile pattern position) (Filter.compile other position)
  fieldMask : ∀ (pattern : String) (position : Option Nat) (filter : Filter),
    Filter.compile pattern position = .ok filter →
      filter.fieldMask first = filter.fieldMask second

theorem sameOutcome_of_canonical_eq {pattern other : String}
    (same : canonical pattern = canonical other) (position : Option Nat) :
    SameOutcome (compile pattern position) (compile other position) := by
  have folded_eq : (described pattern).map Text.fold = (described other).map Text.fold :=
    String.ofList_inj.mp same
  have length_eq := congrArg List.length folded_eq
  rw [List.length_map, List.length_map] at length_eq
  by_cases short : IsShort pattern
  · have otherShort : IsShort other := by
      rw [IsShort, ← length_eq]
      exact short
    rw [compile_of_short short, compile_of_short otherShort, ofPattern, folded_eq]
    rfl
  · have otherLong : ¬ IsShort other := by
      rw [IsShort, ← length_eq]
      exact short
    rw [compile_of_not_short short, compile_of_not_short otherLong]
    exact trivial

section Markers

variable {first second : Char} (visible : Text.isBlank first = false)
include visible

theorem canonical_of_replaced (otherVisible : Text.isBlank second = false)
    (same : Text.fold first = Text.fold second) {pattern other : String}
    (replaced : Replaced first second pattern other) :
    canonical pattern = canonical other := by
  have folded_eq : ∀ {characters others : List Char},
      List.Forall₂ (fun before after => after = before ∨ (before = first ∧ after = second))
        characters others →
      (Text.withoutBlanks characters).map Text.fold =
        (Text.withoutBlanks others).map Text.fold := by
    intro characters others changed
    induction changed with
    | nil => rfl
    | @cons before after characters others here _ induction =>
        rw [Text.withoutBlanks, List.filter_cons, Text.withoutBlanks, List.filter_cons]
        rcases here with rfl | ⟨rfl, rfl⟩
        · split
          · exact congrArg (_ :: ·) induction
          · exact induction
        · rw [if_pos (by simp [visible]), if_pos (by simp [otherVisible])]
          exact congrArg₂ List.cons same induction
  exact congrArg String.ofList (folded_eq replaced)

theorem fold_eq_of_sameMarker (same : SameMarker first second) :
    Text.fold first = Text.fold second := by
  have described_eq : described (String.singleton first) = [first] := by
    simp [described, Text.withoutBlanks, visible]
  have short : IsShort (String.singleton first) := by
    rw [IsShort, described_eq, List.length_singleton]
    decide
  have compiled := compile_of_short short none
  have formed := formed_of_compile compiled
  have letters_eq : (ofPattern (String.singleton first) none).letters = [Text.fold first] := by
    rw [ofPattern, described_eq]
    rfl
  have set : ∀ marker, (ofPattern (String.singleton first) none).fieldMask marker = 0 ↔
      Text.fold marker ≠ Text.fold first := by
    intro marker
    rw [formed.fieldMask_eq_zero_iff, letters_eq, List.mem_singleton]
  have masks_eq := same.fieldMask _ _ _ compiled
  by_contra different
  have unset := (set second).mpr (Ne.symm different)
  rw [← masks_eq] at unset
  exact (set first).mp unset rfl

theorem sameMarker_iff_fold_eq (otherVisible : Text.isBlank second = false) :
    SameMarker first second ↔ Text.fold first = Text.fold second := by
  constructor
  · exact fold_eq_of_sameMarker visible
  · intro same
    constructor
    · intro pattern other position replaced
      exact sameOutcome_of_canonical_eq
        (canonical_of_replaced visible otherVisible same replaced) position
    · intro pattern position filter _
      rw [fieldMask, fieldMask, same]

end Markers

/-- Two characters with the same simple upper case are the same marker, in every pattern
and for every filter, exactly if they are equal or neither has a full upper-case form of
several characters. -/
theorem sameMarker_iff {first second : Char} (visible : Text.isBlank first = false)
    (otherVisible : Text.isBlank second = false)
    (same : Text.simpleUpper first = Text.simpleUpper second) :
    SameMarker first second ↔
      first = second ∨ (Text.expands first = false ∧ Text.expands second = false) := by
  rw [sameMarker_iff_fold_eq visible otherVisible, Text.fold_eq_fold_iff same]

/-- The long s and the small s have the same simple upper case and are the same marker. -/
theorem sameMarker_long_s :
    SameMarker '\u017F' 's' ∧ Replaced '\u017F' 's' "1\u017F s" "1s s" ∧
      SameOutcome (compile "1\u017F s" none) (compile "1s s" none) := by
  have same : SameMarker '\u017F' 's' :=
    (sameMarker_iff (by decide) (by decide) (by decide)).mpr (.inr (by decide))
  have replaced : Replaced '\u017F' 's' "1\u017F s" "1s s" :=
    .cons (.inl rfl) (.cons (.inr ⟨rfl, rfl⟩) (.cons (.inl rfl) (.cons (.inl rfl) .nil)))
  exact ⟨same, replaced, same.compile _ _ none replaced⟩

/-- The small alpha with psili and iota subscript and its capital have the same simple upper
case, and name different fields. -/
theorem alpha_with_iota_not_sameMarker :
    Text.isBlank '\u1F80' = false ∧ Text.isBlank '\u1F88' = false ∧
      Text.simpleUpper '\u1F80' = Text.simpleUpper '\u1F88' ∧
      ∃ filter other,
        compile "\u1F80" none = .ok filter ∧ compile "\u1F88" none = .ok other ∧
        Replaced '\u1F80' '\u1F88' "\u1F80" "\u1F88" ∧
        filter ≠ other ∧ filter.fieldMask '\u1F80' ≠ filter.fieldMask '\u1F88' := by
  refine ⟨by decide, by decide, by decide, _, _, rfl, rfl, ?_, by decide, by decide⟩
  exact .cons (.inr ⟨rfl, rfl⟩) .nil

end Filter

end Readout
