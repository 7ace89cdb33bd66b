import Mathlib.Data.List.Basic
import Readout.Proofs.Letters
import Readout.Setup

/-!
# Which texts name a log level

A character outside ASCII has a lower-case form in which some character is no small letter
of ASCII, apart from the Kelvin sign, which becomes a k.  So a text whose lower case is a word
without a k is a text in ASCII, and the words that name log levels have no k.
-/

namespace Readout

namespace Text

/-- A small letter of ASCII that only ASCII has capitals of. -/
def IsOwnLetter (character : Char) : Prop :=
  'a'.toNat ≤ character.toNat ∧ character.toNat ≤ 'z'.toNat ∧ character ≠ 'k'

instance (character : Char) : Decidable (IsOwnLetter character) :=
  inferInstanceAs (Decidable (_ ∧ _ ∧ _))

theorem target_of_mem_lowerRuns : ∀ run ∈ lowerRuns,
    run.last < 128 ∨ 128 ≤ run.target ∨ run.target = 'k'.toNat ∧ run.first = run.last := by
  decide +kernel

theorem lower_of_ascii {character : Char} (ascii : character.toNat < 128) :
    lower character = [character.toLower] := by
  have each : ∀ code < 128, lower (Char.ofNat code) = [(Char.ofNat code).toLower] := by
    decide +kernel
  have found := each character.toNat ascii
  rwa [Char.ofNat_toNat] at found

theorem toLower_of_not_ascii {character : Char} (high : 128 ≤ character.toNat) :
    character.toLower = character := by
  have not_capital : ¬ (character.val ≥ 'A'.val ∧ character.val ≤ 'Z'.val) := by
    rintro ⟨-, below⟩
    exact absurd (Nat.le_trans high (UInt32.le_iff_toNat_le.mp below)) (by decide)
  exact dif_neg not_capital

theorem not_isOwnLetter_ofNat {image : Nat} (high : 128 ≤ image ∨ image = 'k'.toNat) :
    ¬ IsOwnLetter (Char.ofNat image) := by
  obtain high | rfl := high
  · rintro ⟨above, below, -⟩
    rcases toNat_ofNat_cases image with image_eq | zero
    · rw [image_eq] at below
      exact absurd (Nat.le_trans high below) (by decide)
    · rw [zero] at above
      exact absurd above (by decide)
  · decide

theorem exists_mem_lower {character : Char} (high : 128 ≤ character.toNat) :
    ∃ other ∈ lower character, ¬ IsOwnLetter other := by
  rw [lower]
  split
  · exact ⟨'\u0307', by simp, by decide⟩
  · refine ⟨_, List.mem_singleton.mpr rfl, ?_⟩
    rw [simpleLower]
    split
    case h_1 image found =>
      obtain ⟨run, member, moved⟩ := CaseRun.exists_run_of_lookup? found
      obtain ⟨-, below, -, rfl⟩ := CaseRun.image?_eq_some_iff.mp moved
      apply not_isOwnLetter_ofNat
      have where_to := target_of_mem_lowerRuns run member
      omega
    case h_2 => exact fun own => absurd (Nat.le_trans high own.2.1) (by decide)

/-- A word of such letters is the lower case of a text in ASCII only. -/
theorem lowered_eq_iff {word : String} (own : ∀ character ∈ word.toList, IsOwnLetter character)
    (text : String) : lowered text = word ↔ text.map Char.toLower = word := by
  rw [← String.toList_inj, ← String.toList_inj, lowered, String.toList_ofList, String.toList_map]
  by_cases ascii : ∀ character ∈ text.toList, character.toNat < 128
  · have same : text.toList.flatMap lower = text.toList.map Char.toLower := by
      rw [List.map_eq_flatMap, List.flatMap, List.flatMap]
      exact congrArg List.flatten
        (List.map_congr_left fun character member => lower_of_ascii (ascii character member))
    rw [same]
  · obtain ⟨character, member, high⟩ : ∃ character ∈ text.toList, 128 ≤ character.toNat := by
      simpa using ascii
    refine iff_of_false (fun word_eq => ?_) (fun word_eq => ?_)
    · obtain ⟨other, other_member, foreign⟩ := exists_mem_lower high
      apply foreign
      rw [← word_eq] at own
      exact own other (List.mem_flatMap.mpr ⟨character, member, other_member⟩)
    · rw [← word_eq] at own
      have kept := own _ (List.mem_map_of_mem member)
      rw [toLower_of_not_ascii high] at kept
      exact absurd (Nat.le_trans high kept.2.1) (by decide)

end Text

namespace LogLevel

theorem lowered_eq_name_iff (text : String) (level : LogLevel) :
    Text.lowered text = level.name ↔ text.map Char.toLower = level.name := by
  have own : (level.name.toList.all fun character => Text.IsOwnLetter character) = true := by
    cases level <;> decide
  exact Text.lowered_eq_iff (by simpa using own) text

theorem parse_eq_ok_iff {text : String} {level : LogLevel} :
    parse text = .ok level ↔ Text.lowered text = level.name := by
  rw [parse]
  split
  case h_6 foreign => cases level <;> simp_all [name]
  all_goals cases level <;> simp_all [name]

theorem parse_eq_error {text : String} (foreign : ∀ level, parse text ≠ .ok level) :
    parse text = .error (.invalid (.unknownLevel text)) := by
  rw [parse] at foreign ⊢
  split <;> simp_all

theorem validLevels_eq : Config.validLevels = all.map name :=
  rfl

theorem mem_all (level : LogLevel) : level ∈ all := by
  cases level <;> decide

theorem lowered_mem_validLevels_iff (text : String) :
    Text.lowered text ∈ Config.validLevels ↔ text.map Char.toLower ∈ all.map name := by
  rw [validLevels_eq, List.mem_map, List.mem_map]
  refine exists_congr fun level => and_congr_right fun _ => ?_
  rw [eq_comm, lowered_eq_name_iff, eq_comm]

/-- The levels that the check of a configuration knows are those that can be parsed. -/
theorem mem_validLevels_iff (text : String) :
    Text.lowered text ∈ Config.validLevels ↔ ∃ level, parse text = .ok level := by
  rw [validLevels_eq, List.mem_map]
  exact exists_congr fun level => by rw [and_iff_right (mem_all level), parse_eq_ok_iff, eq_comm]

end LogLevel

end Readout
