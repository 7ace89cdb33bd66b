import Readout.Peak
import Readout.Proofs.Recent

/-!
# The peak of a history

Comparing samples one after the other gives their peak, wherever among them the patterns
lie that are not numbers.  A history compares the samples it retains, so its largest sample
is their peak, and samples that have been overwritten leave no trace in it.
-/

namespace Readout

namespace Binary64

theorem mayBeLarger_larger (left right : Binary64) :
    MayBeLarger left right (left.larger right) := by
  unfold larger
  cases leftNumber : left.isNaN with
  | true =>
      cases rightNumber : right.isNaN with
      | true => exact .noNumber leftNumber rightNumber rightNumber
      | false => exact .onlyRight leftNumber rightNumber
  | false =>
      cases rightNumber : right.isNaN with
      | true => exact .onlyLeft leftNumber rightNumber
      | false =>
          by_cases less : left.orderKey < right.orderKey
          · simpa [less] using .right leftNumber rightNumber (Int.le_of_lt less)
          · simpa [less] using .left leftNumber rightNumber (Int.not_lt.mp less)

theorem Reduces.foldl {samples : List Binary64} {highest : Binary64}
    (reduces : Reduces samples highest) (others : List Binary64) :
    Reduces (samples ++ others) (others.foldl larger highest) := by
  induction others generalizing samples highest with
  | nil => simpa using reduces
  | cons sample others induction =>
      simpa using induction (reduces.next (mayBeLarger_larger highest sample))

namespace IsPeakOf

variable {peak sample : Binary64} {samples : List Binary64}

theorem of_number (number : peak.isNaN = false) (member : peak ∈ samples)
    (highest : ∀ sample ∈ samples, sample.isNaN = false → sample.orderKey ≤ peak.orderKey) :
    peak.IsPeakOf samples := by
  refine ⟨⟨?_, ?_⟩, fun _ => member, highest⟩
  · intro noNumber
    cases number.symm.trans noNumber
  · intro noneIs
    exact noneIs peak member

theorem of_noNumber (noNumber : peak.isNaN = true)
    (noneIs : ∀ sample ∈ samples, sample.isNaN = true) : peak.IsPeakOf samples := by
  refine ⟨⟨fun _ => noneIs, fun _ => noNumber⟩, ?_, ?_⟩
  · intro number
    cases number.symm.trans noNumber
  · intro sample member number
    cases number.symm.trans (noneIs sample member)

theorem single (sample : Binary64) : sample.IsPeakOf [sample] := by
  refine ⟨by simp, by simp, ?_⟩
  intro other member _
  cases List.mem_singleton.mp member
  exact Int.le_refl _

/-- Of the peak so far and one more sample, the larger one is the peak of all. -/
theorem next (isPeak : peak.IsPeakOf samples) {result : Binary64}
    (larger : MayBeLarger peak sample result) : result.IsPeakOf (samples ++ [sample]) := by
  have last : sample ∈ samples ++ [sample] := List.mem_append_right _ List.mem_cons_self
  have earlier (member : peak ∈ samples) : peak ∈ samples ++ [sample] :=
    List.mem_append_left _ member
  have each {Holds : Binary64 → Prop} (before : ∀ other ∈ samples, Holds other)
      (here : Holds sample) : ∀ other ∈ samples ++ [sample], Holds other :=
    List.forall_mem_append.mpr ⟨before, List.forall_mem_singleton.mpr here⟩
  cases larger with
  | noNumber peakNone sampleNone resultNone =>
      apply of_noNumber resultNone
      exact each (isPeak.isNaN_iff.mp peakNone) sampleNone
  | onlyLeft peakNumber sampleNone =>
      apply of_number peakNumber (earlier (isPeak.mem peakNumber))
      apply each isPeak.orderKey_le
      intro sampleNumber
      cases sampleNumber.symm.trans sampleNone
  | onlyRight peakNone sampleNumber =>
      apply of_number sampleNumber last
      refine each ?_ fun _ => Int.le_refl _
      intro other member number
      cases number.symm.trans (isPeak.isNaN_iff.mp peakNone other member)
  | left peakNumber sampleNumber le =>
      apply of_number peakNumber (earlier (isPeak.mem peakNumber))
      exact each isPeak.orderKey_le fun _ => le
  | right peakNumber sampleNumber le =>
      apply of_number sampleNumber last
      refine each ?_ fun _ => Int.le_refl _
      intro other member number
      exact Int.le_trans (isPeak.orderKey_le other member number) le

end IsPeakOf

theorem Reduces.isPeakOf {samples : List Binary64} {result : Binary64}
    (reduces : Reduces samples result) : result.IsPeakOf samples := by
  induction reduces with
  | single sample => exact .single sample
  | next _ larger induction => exact induction.next larger

end Binary64

theorem History.exists_max {history : History} (nonempty : history.toList ≠ []) :
    ∃ peak, history.max? = some peak ∧ Binary64.Reduces history.toList peak := by
  unfold max?
  cases toList_eq : history.toList with
  | nil => exact absurd toList_eq nonempty
  | cons sample samples => exact ⟨_, rfl, (Binary64.Reduces.single sample).foldl samples⟩

theorem History.max?_congr {history other : History} (same : other.toList = history.toList) :
    other.max? = history.max? := by
  unfold max?
  rw [same]

namespace Display

open Binary64

theorem Action.retained_ne_nil {actions : List Action} (pushes : pushed actions ≠ [])
    (requested : Nat) : retained requested actions ≠ [] := by
  have some_pushed : 0 < (pushed actions).length := List.length_pos_iff.mpr pushes
  intro nothing
  have all_dropped := List.drop_eq_nil_iff.mp nothing
  omega

/-- Once samples have been pushed, every reader finds the peak of those that are retained.
Comparing them one after the other leads to it, and can lead to nothing but a peak, whichever
of two equal numbers is taken.  Displays that retain the same samples have the same peak,
whatever has been overwritten in them. -/
theorem run_finds_peak (requested : Nat) (actions : List Action)
    (pushes : Action.pushed actions ≠ []) :
    ∃ last replies history peak,
      (ofCapacity requested).run actions = (last, replies) ∧
      (∀ reader, last.reader? reader = some history ↔ reader = 0 ∨ some reader ∈ replies) ∧
      history.max? = some peak ∧
      peak.IsPeakOf (Action.retained requested actions) ∧
      Reduces history.toList peak ∧
      (∀ result, Reduces history.toList result →
        result.IsPeakOf (Action.retained requested actions)) ∧
      (∀ otherRequested others,
        Action.retained otherRequested others = Action.retained requested actions →
          ((ofCapacity otherRequested).run others).1.history.max? = some peak) := by
  obtain ⟨last, replies, run_eq, stores, readers⟩ := exists_history_of_run requested actions
  have toList_eq : last.history.toList = Action.retained requested actions := stores.toList_eq
  have nonempty : last.history.toList ≠ [] := by
    rw [toList_eq]
    exact Action.retained_ne_nil pushes requested
  obtain ⟨peak, max_eq, reduces⟩ := History.exists_max nonempty
  have peaks (result : Binary64) (reduces : Reduces last.history.toList result) :
      result.IsPeakOf (Action.retained requested actions) := by
    rw [← toList_eq]
    exact reduces.isPeakOf
  refine ⟨last, replies, last.history, peak, run_eq, readers, max_eq, peaks peak reduces,
    reduces, peaks, ?_⟩
  intro otherRequested others same
  obtain ⟨other, _, other_run_eq, other_stores, -⟩ := exists_history_of_run otherRequested others
  have other_toList_eq : other.history.toList = Action.retained otherRequested others :=
    other_stores.toList_eq
  rw [other_run_eq, ← max_eq]
  apply History.max?_congr
  exact (other_toList_eq.trans same).trans toList_eq.symm

/-- The samples retained begin and end with patterns that are not numbers, and all numbers
among them are negative.  A higher number has been overwritten, which a display with room for
one more sample has never held. -/
theorem run_finds_peak_negative :
    ∃ actions last replies history peak,
      actions = [.push [⟨0x4022000000000000⟩, ⟨0x7FF8000000000000⟩], .openReader,
        .push [⟨0xFFF0000000000001⟩, ⟨0xC000000000000000⟩, ⟨0xBFF0000000000000⟩,
          ⟨0x7FF8000000000000⟩]] ∧
      Action.pushed actions ≠ [] ∧
      (ofCapacity 4).run actions = (last, replies) ∧
      last.reader? 0 = some history ∧
      history.max? = some peak ∧
      peak = ⟨0xBFF0000000000000⟩ ∧
      ((ofCapacity 5).run [.push [⟨0xFFF0000000000001⟩, ⟨0xC000000000000000⟩,
        ⟨0xBFF0000000000000⟩, ⟨0x7FF8000000000000⟩]]).1.history.max? = some peak := by
  have pushes : Action.pushed [.push [⟨0x4022000000000000⟩, ⟨0x7FF8000000000000⟩], .openReader,
      .push [⟨0xFFF0000000000001⟩, ⟨0xC000000000000000⟩, ⟨0xBFF0000000000000⟩,
        ⟨0x7FF8000000000000⟩]] ≠ [] := by decide
  obtain ⟨last, replies, history, peak, run_eq, readers, max_eq, isPeak, -, -, others⟩ :=
    run_finds_peak 4 _ pushes
  have number : peak.isNaN = false := by
    rw [Bool.eq_false_iff, ne_eq, isPeak.isNaN_iff]
    decide
  have above := isPeak.orderKey_le ⟨0xBFF0000000000000⟩ (by decide) (by decide)
  have member : peak ∈ [⟨0xFFF0000000000001⟩, ⟨0xC000000000000000⟩, ⟨0xBFF0000000000000⟩,
    ⟨0x7FF8000000000000⟩] := isPeak.mem number
  refine ⟨_, last, replies, history, peak, rfl, pushes, run_eq, (readers 0).mpr (.inl rfl),
    max_eq, ?_, others 5 _ (by decide)⟩
  simp only [List.mem_cons, List.not_mem_nil, or_false] at member
  rcases member with rfl | rfl | rfl | rfl
  · exact absurd number (by decide)
  · exact absurd above (by decide)
  · rfl
  · exact absurd number (by decide)

end Display

end Readout
