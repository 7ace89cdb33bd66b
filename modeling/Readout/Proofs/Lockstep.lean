import Readout.Proofs.Storage

/-!
# Lockstep splitting is cutting module by module

The rounds of a slot treat all modules together.  Their calls are nevertheless
those of the modules cut one at a time and laid side by side, after every run and
for everything recorded.
-/

namespace Readout

namespace Engine

/-- A cycle of a slot that is split ends with the brackets of the steps of its
modules, as many as the longest list of steps, and the bracket of a number holds
the sub-event of that number of every module. -/
theorem finish_eq_cutting {patterns : List (List String)} {engine : Engine}
    {cycle : Cycle} (reachable : Reachable patterns engine)
    (opened : engine.cycle = some cycle)
    (splitting : engine.splitter.splitting? cycle.event = some true) :
    ∃ slotPatterns slot ended report,
      patterns[cycle.event]? = some slotPatterns ∧
      Slot.compile slotPatterns = .ok slot ∧
      slot.headers.length = slotPatterns.length ∧
      cycle.regions.length = slotPatterns.length ∧
      engine.step .finish = .ok (ended, .finished report) ∧
      report.calls =
        (Cutting.brackets cycle.event (slot.headers.zip cycle.regions)).flatten ∧
      report.brackets = Cutting.stepCount (slot.headers.zip cycle.regions) ∧
      ∀ module header recorded number,
        slot.headers[module]? = some header →
        cycle.recorded? module = some recorded →
        Call.dynamicWords cycle.event module
            (Cutting.bracket cycle.event (slot.headers.zip cycle.regions) number) =
          ((header.delivered recorded.dynamic)[number]?).toList := by
  have consistent := reachable.consistent
  obtain ⟨slot, counted, ended, delivery, slot_at, -, fits, rfl, step_eq, -⟩ :=
    step_finish_of_opened consistent opened
  have split : slot.splitting = true := by
    simpa [splitter, Splitter.splitting?, slot_at] using splitting
  obtain ⟨slotPatterns, slotPatterns_at, compiled⟩ :=
    Splitter.patterns_of_slot consistent.splitter slot_at
  have counts := congrArg List.length (Slot.headers_of_compile compiled).1
  rw [List.length_map, List.length_map] at counts
  obtain ⟨calls, brackets, -⟩ :=
    Slot.deliver_of_splitting split fits.regions fits.tallies cycle.event
  refine ⟨slotPatterns, slot, ended, _, slotPatterns_at, compiled, counts.symm,
    fits.regions.trans counts.symm, step_eq, calls, ?_, ?_⟩
  · simpa [Delivery.report, Cutting.brackets] using brackets
  · intro module header recorded number header_at recorded_at
    exact Cutting.dynamicWords_bracket
      (List.getElem?_zip_eq_some.mpr ⟨header_at, recorded_at⟩) cycle.event number

/-- Of three modules one ends with a truncated sub-event, one delivers its region as
a whole and one stops at a word that is no header. -/
theorem finish_eq_cutting_three_modules :
    ∃ built engine replies cycle slot ended report,
      (build [["1SSS", "", "01"]]).2 = .ok built ∧
      built.run
          [.start 0, .record .leading 0 [5], .record .dynamic 0 [9, 1, 15, 2],
            .record .dynamic 1 [7, 7], .record .dynamic 2 [1, 1, 1, 0]] =
        .ok (engine, replies) ∧
      engine.cycle = some cycle ∧
      engine.splitter.splitting? cycle.event = some true ∧
      Slot.compile ["1SSS", "", "01"] = .ok slot ∧
      engine.step .finish = .ok (ended, .finished report) ∧
      report.calls =
        (Cutting.brackets cycle.event (slot.headers.zip cycle.regions)).flatten ∧
      report.brackets = Cutting.stepCount (slot.headers.zip cycle.regions) := by
  have reachable : Reachable [["1SSS", "", "01"]] _ :=
    ⟨_, [.start 0, .record .leading 0 [5], .record .dynamic 0 [9, 1, 15, 2],
      .record .dynamic 1 [7, 7], .record .dynamic 2 [1, 1, 1, 0]], _, rfl, rfl⟩
  obtain ⟨slotPatterns, slot, ended, report, slotPatterns_at, compiled, -, -, finished, calls,
    brackets, -⟩ := finish_eq_cutting reachable rfl rfl
  cases slotPatterns_at
  exact ⟨_, _, _, _, slot, ended, report, rfl, rfl, rfl, rfl, compiled, finished, calls,
    brackets⟩

end Engine

end Readout
