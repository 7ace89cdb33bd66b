import Readout.Text.Blank
import Readout.Text.UpperCase

/-!
# How characters fold

Upper-casing moves letters to letters.  No code point of the table goes below the first
capital letter of ASCII, so the digits, which fix bits in a pattern, are folded from
nothing but themselves.  None goes to or comes from a blank, and none goes to a code point
that is moved as well, so folding twice is folding once.
-/

namespace Readout.Text

namespace CodeRange

/-- No code point from `low` to `high` lies in one of the ranges. -/
def Miss (ranges : List CodeRange) (low high : Nat) : Prop :=
  ∀ range ∈ ranges, high < range.first ∨ range.last < low

instance (ranges : List CodeRange) (low high : Nat) : Decidable (Miss ranges low high) :=
  inferInstanceAs (Decidable (∀ range ∈ ranges, _ ∨ _))

theorem containsCode_of_miss {ranges : List CodeRange} {low high code : Nat}
    (missed : Miss ranges low high) (above : low ≤ code) (below : code ≤ high) :
    containsCode ranges code = false := by
  induction ranges with
  | nil => rfl
  | cons range ranges induction =>
      obtain ⟨here, later⟩ := List.forall_mem_cons.mp missed
      rw [containsCode]
      split
      · rfl
      · have beyond : ¬ code ≤ range.last := by omega
        rw [if_neg beyond]
        exact induction later

end CodeRange

namespace CaseRun

theorem image?_eq_some_iff {run : CaseRun} {code image : Nat} :
    run.image? code = some image ↔
      run.first ≤ code ∧ code ≤ run.last ∧ (code - run.first) % run.step = 0 ∧
        run.target + (code - run.first) = image := by
  rw [image?]
  split
  · rename_i covered
    simp [covered]
  · rename_i uncovered
    constructor
    · intro found
      cases found
    · rintro ⟨above, below, stepped, -⟩
      exact absurd ⟨above, below, stepped⟩ uncovered

theorem exists_run_of_lookup? {runs : List CaseRun} {code image : Nat}
    (found : lookup? runs code = some image) :
    ∃ run ∈ runs, run.image? code = some image := by
  induction runs with
  | nil => cases found
  | cons run runs induction =>
      rw [lookup?] at found
      split at found
      · cases found
      · split at found
        · rename_i image_eq
          cases found
          exact ⟨run, List.mem_cons_self, image_eq⟩
        · obtain ⟨other, member, moved⟩ := induction found
          exact ⟨other, List.mem_cons_of_mem run member, moved⟩

/-- The last code point that a run leads to. -/
def highest (run : CaseRun) : Nat :=
  run.target + (run.last - run.first)

/-- The distance between neighbouring code points of a run, 0 if there is only one. -/
def stride (run : CaseRun) : Nat :=
  if run.first = run.last then 0 else run.step

/-- Whether a table in ascending order may move a code point that a run leads to.  Like a
look-up, the search ends at the first run above. -/
def meets (run : CaseRun) : List CaseRun → Bool
  | [] => false
  | other :: others =>
      bif run.highest.blt other.first then false
      else bif other.last.blt run.target then meets run others
      else
        run.stride % other.step != 0 || run.target % other.step == other.first % other.step ||
          meets run others

theorem le_highest {run : CaseRun} {code image : Nat} (moved : run.image? code = some image) :
    run.target ≤ image ∧ image ≤ run.highest := by
  obtain ⟨-, below, -, rfl⟩ := image?_eq_some_iff.mp moved
  rw [highest]
  omega

/-- All images of a run leave the same remainder by whatever divides its stride. -/
theorem image_mod {run : CaseRun} {code image divisor : Nat}
    (moved : run.image? code = some image) (divides : run.stride % divisor = 0) :
    image % divisor = run.target % divisor := by
  obtain ⟨above, below, stepped, rfl⟩ := image?_eq_some_iff.mp moved
  have distance : (code - run.first) % divisor = 0 := by
    rw [stride] at divides
    split at divides
    · have only : code - run.first = 0 := by omega
      rw [only, Nat.zero_mod]
    · exact Nat.mod_eq_zero_of_dvd
        (Nat.dvd_trans (Nat.dvd_of_mod_eq_zero divides) (Nat.dvd_of_mod_eq_zero stepped))
  rw [Nat.add_mod, distance, Nat.add_zero, Nat.mod_mod]

/-- What a run leads to is not moved by a run from which it differs in its remainder. -/
theorem image?_of_mod_ne {run other : CaseRun} {code image : Nat}
    (moved : run.image? code = some image) (divides : run.stride % other.step = 0)
    (different : run.target % other.step ≠ other.first % other.step) :
    other.image? image = none := by
  rw [Option.eq_none_iff_forall_not_mem]
  intro again moved_again
  obtain ⟨above, -, stepped, -⟩ := image?_eq_some_iff.mp moved_again
  have same : image % other.step = other.first % other.step := by
    obtain ⟨distance, rfl⟩ := Nat.exists_eq_add_of_le above
    rw [Nat.add_sub_cancel_left] at stepped
    rw [Nat.add_mod, stepped, Nat.add_zero, Nat.mod_mod]
  rw [image_mod moved divides] at same
  exact different same

theorem lookup?_of_not_meets {run : CaseRun} {code image : Nat}
    (moved : run.image? code = some image) {runs : List CaseRun}
    (apart : run.meets runs = false) : lookup? runs image = none := by
  obtain ⟨above, below⟩ := le_highest moved
  induction runs with
  | nil => rfl
  | cons other others induction =>
      simp only [meets, cond_eq_ite, Nat.blt_eq] at apart
      rw [lookup?]
      split
      · rfl
      · rw [if_neg (by omega)] at apart
        split at apart
        · have beyond : other.image? image = none := by
            rw [image?, if_neg (by omega)]
          rw [beyond]
          exact induction apart
        · simp only [Bool.or_eq_false_iff, bne_eq_false_iff_eq, beq_eq_false_iff_ne] at apart
          rw [image?_of_mod_ne moved apart.1.1 apart.1.2]
          exact induction apart.2

end CaseRun

theorem target_of_mem_caseRuns : ∀ run ∈ caseRuns, 'A'.toNat ≤ run.target := by
  decide +kernel

theorem meets_caseRuns : (caseRuns.any fun run => run.meets caseRuns) = false := by
  decide +kernel

theorem miss_blankRanges : ∀ run ∈ caseRuns,
    CodeRange.Miss blankRanges run.first run.last ∧
      CodeRange.Miss blankRanges run.target run.highest := by
  decide +kernel

/-- A number that is no code point becomes the character with code 0. -/
theorem toNat_ofNat_cases (code : Nat) :
    (Char.ofNat code).toNat = code ∨ (Char.ofNat code).toNat = 0 := by
  by_cases valid : code.isValidChar
  · rw [Char.ofNat, dif_pos valid]
    exact .inl rfl
  · rw [Char.ofNat, dif_neg valid]
    exact .inr rfl

theorem fold_cases (character : Char) :
    fold character = character ∨
      ∃ run ∈ caseRuns, ∃ image, run.image? character.toNat = some image ∧
        fold character = Char.ofNat image := by
  rw [fold]
  split
  · exact .inl rfl
  · rw [simpleUpper]
    split
    · rename_i image found
      obtain ⟨run, member, moved⟩ := CaseRun.exists_run_of_lookup? found
      exact .inr ⟨run, member, image, moved, rfl⟩
    · exact .inl rfl

/-- Only itself folds to a character in front of the capital letters of ASCII. -/
theorem fold_eq_iff {digit : Char} (visible : digit.toNat ≠ 0)
    (low : digit.toNat < 'A'.toNat) (kept : fold digit = digit) (character : Char) :
    fold character = digit ↔ character = digit := by
  constructor
  · intro folded
    rcases fold_cases character with unmoved | ⟨run, member, image, moved, fold_eq⟩
    · exact unmoved.symm.trans folded
    · have bound := Nat.le_trans (target_of_mem_caseRuns run member)
        (CaseRun.le_highest moved).1
      rw [← folded, fold_eq] at visible low
      rcases toNat_ofNat_cases image with image_eq | zero
      · rw [image_eq] at low
        exact absurd low (Nat.not_lt_of_le bound)
      · exact absurd zero visible
  · rintro rfl
    exact kept

theorem fold_eq_zero_iff (character : Char) : fold character = '0' ↔ character = '0' :=
  fold_eq_iff (by decide) (by decide) (by decide) character

theorem fold_eq_one_iff (character : Char) : fold character = '1' ↔ character = '1' :=
  fold_eq_iff (by decide) (by decide) (by decide) character

theorem fold_of_lookup?_eq_none {character : Char}
    (unmoved : CaseRun.lookup? caseRuns character.toNat = none) :
    fold character = character := by
  rw [fold, simpleUpper, unmoved]
  exact ite_self character

@[simp]
theorem fold_fold (character : Char) : fold (fold character) = fold character := by
  rcases fold_cases character with kept | ⟨run, member, image, moved, fold_eq⟩
  · rw [kept, kept]
  · apply fold_of_lookup?_eq_none
    rw [fold_eq]
    rcases toNat_ofNat_cases image with image_eq | zero
    · rw [image_eq]
      have apart := List.any_eq_false.mp meets_caseRuns run member
      exact CaseRun.lookup?_of_not_meets moved (eq_false_of_ne_true apart)
    · rw [zero]
      rfl

@[simp]
theorem isBlank_fold (character : Char) : isBlank (fold character) = isBlank character := by
  rcases fold_cases character with kept | ⟨run, member, image, moved, fold_eq⟩
  · rw [kept]
  · obtain ⟨above, below, -, -⟩ := CaseRun.image?_eq_some_iff.mp moved
    obtain ⟨image_above, image_below⟩ := CaseRun.le_highest moved
    obtain ⟨source_missed, target_missed⟩ := miss_blankRanges run member
    have source : isBlank character = false :=
      CodeRange.containsCode_of_miss source_missed above below
    rw [source, fold_eq, isBlank, CodeRange.covers]
    rcases toNat_ofNat_cases image with image_eq | zero
    · rw [image_eq]
      exact CodeRange.containsCode_of_miss target_missed image_above image_below
    · rw [zero]
      rfl

end Readout.Text
