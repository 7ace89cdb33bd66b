import Readout.Proofs.Storage

/-!
# No dynamic word is lost, repeated or moved

Dynamic words leave a module in sub-events, as a whole region, by truncation or
in the final sweep.  However that happens, the words delivered are an initial
part of the words recorded, and the others are counted as unconsumed.
-/

namespace Readout

namespace Slot

theorem flatten_moduleWords_of_whole {slot : Slot} (whole : slot.splitting = false)
    (header : Header) (recorded : Regions) :
    (slot.moduleWords header recorded).flatten = recorded.dynamic := by
  cases dynamic_eq : recorded.dynamic with
  | nil => simp [moduleWords, whole, dynamic_eq]
  | cons word words => simp [moduleWords, whole, dynamic_eq]

theorem unconsumedWords_countWhole (recorded : Regions) (tally : ModuleTally) :
    (countWhole recorded tally).unconsumedWords = tally.unconsumedWords := by
  unfold countWhole
  split <;> rfl

end Slot

namespace Engine

/-- The words delivered for a module and the words that its statistics count as
unconsumed make up what was recorded for it, and nothing is left unconsumed in a
slot that is not split. -/
theorem finish_conserves_dynamic_words {patterns : List (List String)}
    {engine : Engine} {cycle : Cycle} {module : Nat} {recorded : Regions}
    (reachable : Reachable patterns engine) (opened : engine.cycle = some cycle)
    (recorded_at : cycle.recorded? module = some recorded) :
    ∃ ended report before after rest,
      engine.Ends ended cycle.event module report before after ∧
      recorded.dynamic =
        (Call.dynamicWords cycle.event module report.calls).flatten ++ rest ∧
      after.unconsumedWords = before.unconsumedWords + rest.length ∧
      (engine.splitter.splitting? cycle.event = some false → rest = []) := by
  obtain ⟨slot, header, ended, report, before, slot_at, -, ends, words⟩ :=
    exists_ends reachable.consistent opened recorded_at
  have same : engine.splitter.splitting? cycle.event = some slot.splitting := by
    simp [splitter, Splitter.splitting?, slot_at]
  rw [same]
  cases splitting : slot.splitting with
  | true =>
      refine ⟨ended, report, before, _, header.remainder recorded.dynamic, ends, ?_, ?_, ?_⟩
      · rw [words, Slot.moduleWords, if_pos splitting]
        exact (header.delivered_append_remainder recorded.dynamic).symm
      · rw [Slot.moduleTally, if_pos splitting]
        rfl
      · intro whole
        cases whole
  | false =>
      refine ⟨ended, report, before, _, [], ends, ?_, ?_, fun _ => rfl⟩
      · rw [words, Slot.flatten_moduleWords_of_whole splitting, List.append_nil]
      · rw [Slot.moduleTally, if_neg (by simp [splitting])]
        exact Slot.unconsumedWords_countWhole recorded before

/-- Two words of a truncated sub-event are not delivered. -/
theorem finish_conserves_dynamic_words_truncated :
    ∃ built engine replies cycle recorded ended report before after rest,
      (build [["1SSS", ""]]).2 = .ok built ∧
      built.run [.start 0, .record .dynamic 0 [9, 1, 15, 2]] = .ok (engine, replies) ∧
      engine.cycle = some cycle ∧
      cycle.recorded? 0 = some recorded ∧
      engine.Ends ended cycle.event 0 report before after ∧
      recorded.dynamic =
        (Call.dynamicWords cycle.event 0 report.calls).flatten ++ rest ∧
      after.unconsumedWords = before.unconsumedWords + rest.length := by
  have reachable : Reachable [["1SSS", ""]] _ :=
    ⟨_, [.start 0, .record .dynamic 0 [9, 1, 15, 2]], _, rfl, rfl⟩
  obtain ⟨ended, report, before, after, rest, ends, joined, counted, -⟩ :=
    finish_conserves_dynamic_words reachable rfl (show Cycle.recorded? _ 0 = some _ from rfl)
  exact ⟨_, _, _, _, _, ended, report, before, after, rest, rfl, rfl, rfl, rfl, ends, joined,
    counted⟩

end Engine

end Readout
