import Readout.Proofs.Progress
import Readout.Proofs.Shares

/-!
# Splitting where there is nothing to cut

In a slot that is split, a module that cannot tell headers delivers its dynamic words as a
whole.  If all dynamic words belong to modules of this kind, and no module has fixed words
alone, then the slot delivers what a slot that is not split delivers: one bracket with
everything that was recorded.
-/

namespace Readout

namespace Call

def inSlot (event : Nat) : Call → Call
  | beginEvent _ => beginEvent event
  | leading _ module words => leading event module words
  | dynamic _ module words => dynamic event module words
  | trailing _ module words => trailing event module words
  | endEvent _ => endEvent event

@[simp]
theorem map_inSlot_forWords (event other module : Nat) (region : Region) (words : List Word) :
    (forWords region other module words).map (inSlot event) =
      forWords region event module words := by
  unfold forWords
  split
  · rfl
  · cases region <;> rfl

end Call

namespace Regions

/-- How many sub-events the dynamic words are when they are delivered as a whole. -/
def wholeCount (recorded : Regions) : Nat :=
  if recorded.dynamic = [] then 0 else 1

end Regions

namespace Header

/-- Dynamic words that the header leaves as they are. -/
def KeepsWhole (header : Header) (words : List Word) : Prop :=
  header.marksBoundaries = true → words = []

instance (header : Header) (words : List Word) : Decidable (header.KeepsWhole words) :=
  inferInstanceAs (Decidable (_ = true → _ = []))

theorem cuts_of_keepsWhole {header : Header} {words : List Word}
    (kept : header.KeepsWhole words) :
    header.cuts words = if words = [] then [] else [.subEvent words] := by
  cases words with
  | nil => simp
  | cons word words =>
      have always : header.filter.alwaysMatches = true := by
        rw [KeepsWhole, marksBoundaries] at kept
        simpa using kept
      rw [cuts, if_pos always, if_neg (List.cons_ne_nil word words)]

theorem delivered_of_keepsWhole {header : Header} {words : List Word}
    (kept : header.KeepsWhole words) :
    header.delivered words = if words = [] then [] else [words] := by
  rw [delivered, cuts_of_keepsWhole kept]
  split <;> rfl

theorem remainder_of_keepsWhole {header : Header} {words : List Word}
    (kept : header.KeepsWhole words) : header.remainder words = [] := by
  rw [remainder, delivered_of_keepsWhole kept]
  split
  · simp_all
  · simp

end Header

namespace Slot

/-- What was recorded for the modules of a slot leaves nothing to cut. -/
structure Uncut (slot : Slot) (regions : List Regions) : Prop where
  /-- The modules that can tell headers have no dynamic words. -/
  kept : ∀ (module : Nat) (header : Header) (recorded : Regions),
    slot.headers[module]? = some header → regions[module]? = some recorded →
      header.KeepsWhole recorded.dynamic
  /-- Some module that cannot tell headers has dynamic words. -/
  some_whole : ∃ (module : Nat) (header : Header) (recorded : Regions),
    slot.headers[module]? = some header ∧ regions[module]? = some recorded ∧
      header.marksBoundaries = false ∧ recorded.dynamic ≠ []
  /-- No module has fixed words alone. -/
  around : ∀ recorded ∈ regions,
    recorded.leading ≠ [] ∨ recorded.trailing ≠ [] → recorded.dynamic ≠ []

section Modules

variable {header : Header} {recorded : Regions}

/-- In its only step a module delivers everything that was recorded for it. -/
theorem moduleCalls_of_keepsWhole (kept : header.KeepsWhole recorded.dynamic)
    (around : recorded.leading ≠ [] ∨ recorded.trailing ≠ [] → recorded.dynamic ≠ [])
    (event module : Nat) :
    Cutting.moduleCalls event 0 module header recorded =
      Call.forWords .leading event module recorded.leading ++
        (Call.forWords .dynamic event module recorded.dynamic ++
          Call.forWords .trailing event module recorded.trailing) := by
  rw [Cutting.moduleCalls, Header.cuts_of_keepsWhole kept]
  by_cases empty : recorded.dynamic = []
  · have nothing : recorded.leading = [] ∧ recorded.trailing = [] := by
      by_contra fixed
      exact around (by simpa [← not_and_or] using fixed) empty
    rw [if_pos empty, empty, nothing.1, nothing.2]
    rfl
  · rw [if_neg empty, Call.forWords_dynamic_of_ne_nil empty]
    rfl

theorem moduleTally_of_keepsWhole (slot : Slot)
    (kept : slot.splitting = true → header.KeepsWhole recorded.dynamic) (tally : ModuleTally) :
    (slot.moduleTally header recorded tally).subEvents =
        tally.subEvents + recorded.wholeCount ∧
      (slot.moduleTally header recorded tally).unconsumedWords = tally.unconsumedWords := by
  rw [moduleTally]
  cases splitting : slot.splitting with
  | true =>
      have whole := kept splitting
      rw [if_pos rfl, Header.settle, Header.delivered_of_keepsWhole whole,
        Header.remainder_of_keepsWhole whole, Regions.wholeCount]
      split <;> simp
  | false =>
      rw [if_neg (by decide), countWhole, Regions.wholeCount]
      cases recorded.dynamic <;> simp

end Modules

theorem callsFrom_eq_wholeCalls {event index : Nat} {headers : List Header}
    {regions : List Regions} (fitting : regions.length = headers.length)
    (kept : ∀ entry ∈ headers.zip regions, entry.1.KeepsWhole entry.2.dynamic)
    (around : ∀ recorded ∈ regions,
      recorded.leading ≠ [] ∨ recorded.trailing ≠ [] → recorded.dynamic ≠ []) :
    Cutting.callsFrom event 0 index (headers.zip regions) = wholeCalls event index regions := by
  induction headers generalizing index regions with
  | nil =>
      rw [List.eq_nil_of_length_eq_zero fitting]
      rfl
  | cons header headers induction =>
      obtain ⟨recorded, regions, rfl⟩ := List.exists_cons_of_length_eq_add_one fitting
      obtain ⟨here, later⟩ := List.forall_mem_cons.mp kept
      obtain ⟨hereAround, laterAround⟩ := List.forall_mem_cons.mp around
      rw [List.zip_cons_cons, Cutting.callsFrom, wholeCalls,
        induction (by simpa using fitting) later laterAround,
        moduleCalls_of_keepsWhole here hereAround, List.append_assoc, List.append_assoc]

theorem map_inSlot_wholeCalls (event other module : Nat) (regions : List Regions) :
    (wholeCalls other module regions).map (Call.inSlot event) =
      wholeCalls event module regions := by
  induction regions generalizing module with
  | nil => rfl
  | cons recorded regions induction => simp [wholeCalls, induction]

theorem tallies_of_keepsWhole {slot : Slot} {regions : List Regions}
    {tallies : List ModuleTally} (fitting : regions.length = slot.headers.length)
    (counted : tallies.length = slot.headers.length) (event : Nat)
    (kept : slot.splitting = true → ∀ (module : Nat) (header : Header) (recorded : Regions),
      slot.headers[module]? = some header → regions[module]? = some recorded →
        header.KeepsWhole recorded.dynamic) :
    (slot.deliver event regions tallies).tallies.map ModuleTally.subEvents =
        List.zipWith (· + ·) (tallies.map ModuleTally.subEvents)
          (regions.map Regions.wholeCount) ∧
      (slot.deliver event regions tallies).tallies.map ModuleTally.unconsumedWords =
        tallies.map ModuleTally.unconsumedWords := by
  have length_eq := slot.length_tallies_deliver event fitting counted
  have after_at : ∀ module (inside : module < tallies.length), ∃ recorded after,
      regions[module]? = some recorded ∧
      (slot.deliver event regions tallies).tallies[module]? = some after ∧
      after.subEvents = tallies[module].subEvents + recorded.wholeCount ∧
      after.unconsumedWords = tallies[module].unconsumedWords := by
    intro module inside
    have header_at := List.getElem?_eq_getElem (counted ▸ inside : module < slot.headers.length)
    have recorded_at := List.getElem?_eq_getElem
      (fitting.trans counted.symm ▸ inside : module < regions.length)
    obtain ⟨-, tally_at⟩ := deliver_module event fitting counted header_at recorded_at
      (List.getElem?_eq_getElem inside)
    have keeps := fun splitting => kept splitting _ _ _ header_at recorded_at
    exact ⟨_, _, recorded_at, tally_at, moduleTally_of_keepsWhole slot keeps _⟩
  constructor
  · apply List.ext_getElem?
    intro module
    rw [List.getElem?_map, List.getElem?_zipWith, List.getElem?_map, List.getElem?_map]
    by_cases inside : module < tallies.length
    · obtain ⟨recorded, after, recorded_at, tally_at, gained, -⟩ := after_at module inside
      rw [tally_at, recorded_at, List.getElem?_eq_getElem inside]
      exact congrArg some gained
    · rw [List.getElem?_eq_none (length_eq ▸ Nat.le_of_not_lt inside),
        List.getElem?_eq_none (Nat.le_of_not_lt inside)]
      rfl
  · apply List.ext_getElem?
    intro module
    rw [List.getElem?_map, List.getElem?_map]
    by_cases inside : module < tallies.length
    · obtain ⟨recorded, after, -, tally_at, -, kept_words⟩ := after_at module inside
      rw [tally_at, List.getElem?_eq_getElem inside]
      exact congrArg some kept_words
    · rw [List.getElem?_eq_none (length_eq ▸ Nat.le_of_not_lt inside),
        List.getElem?_eq_none (Nat.le_of_not_lt inside)]

section Uncut

variable {slot : Slot} {regions : List Regions} (uncut : slot.Uncut regions)
include uncut

theorem Uncut.keepsWhole_of_mem : ∀ entry ∈ slot.headers.zip regions,
    entry.1.KeepsWhole entry.2.dynamic := by
  intro entry member
  obtain ⟨module, entry_at⟩ := List.mem_iff_getElem?.mp member
  obtain ⟨header_at, recorded_at⟩ := List.getElem?_zip_eq_some.mp entry_at
  exact uncut.kept module _ _ header_at recorded_at

theorem Uncut.stepCount_eq : Cutting.stepCount (slot.headers.zip regions) = 1 := by
  apply Nat.le_antisymm
  · rw [Cutting.stepCount_le_iff]
    intro entry member
    rw [Header.cuts_of_keepsWhole (uncut.keepsWhole_of_mem entry member)]
    split <;> simp
  · obtain ⟨module, header, recorded, header_at, recorded_at, -, nonempty⟩ := uncut.some_whole
    refine (Cutting.lt_stepCount_iff _ 0).mpr ⟨(header, recorded), ?_, ?_⟩
    · exact List.mem_of_getElem? (List.getElem?_zip_eq_some.mpr ⟨header_at, recorded_at⟩)
    · rw [Header.cuts_of_keepsWhole (uncut.kept module _ _ header_at recorded_at),
        if_neg nonempty]
      exact Nat.one_pos

theorem Uncut.deliver_eq (splitting : slot.splitting = true)
    {tallies : List ModuleTally} (fitting : regions.length = slot.headers.length)
    (counted : tallies.length = slot.headers.length) (event : Nat) :
    (slot.deliver event regions tallies).calls =
        Call.beginEvent event :: wholeCalls event 0 regions ++ [Call.endEvent event] ∧
      (slot.deliver event regions tallies).brackets = 1 := by
  obtain ⟨calls, brackets, -⟩ := deliver_of_splitting splitting fitting counted event
  have only : Cutting.brackets event (slot.headers.zip regions) =
      [Cutting.bracket event (slot.headers.zip regions) 0] := by
    rw [Cutting.brackets, uncut.stepCount_eq]
    rfl
  rw [calls, brackets, only, List.flatten_singleton, Cutting.bracket,
    callsFrom_eq_wholeCalls fitting uncut.keepsWhole_of_mem uncut.around]
  exact ⟨rfl, rfl⟩

end Uncut

end Slot

namespace Engine

/-- A split slot with nothing to cut and a slot that is not split deliver the same calls
for the same regions, each labelled with its own slot, in one bracket, and count the same
sub-events and no undelivered words. -/
theorem finish_uncut_eq_whole {patterns others : List (List String)} {engine other : Engine}
    {cycle twin : Cycle} {slot plain : Slot}
    (reachable : Reachable patterns engine) (otherReachable : Reachable others other)
    (opened : engine.cycle = some cycle) (otherOpened : other.cycle = some twin)
    (slot_at : engine.slots[cycle.event]? = some slot)
    (plain_at : other.slots[twin.event]? = some plain)
    (splitting : slot.splitting = true) (whole : plain.splitting = false)
    (same : twin.regions = cycle.regions) (uncut : slot.Uncut cycle.regions) :
    ∃ counted otherCounted ended otherEnded report otherReport after otherAfter gains,
      engine.tally.events[cycle.event]? = some counted ∧
      other.tally.events[twin.event]? = some otherCounted ∧
      engine.step .finish = .ok (ended, .finished report) ∧
      other.step .finish = .ok (otherEnded, .finished otherReport) ∧
      ended.tally.events[cycle.event]? = some after ∧
      otherEnded.tally.events[twin.event]? = some otherAfter ∧
      report.calls = otherReport.calls.map (Call.inSlot cycle.event) ∧
      report.brackets = 1 ∧ otherReport.brackets = 1 ∧
      gains.length = slot.headers.length ∧ gains.length = plain.headers.length ∧
      after.modules.map ModuleTally.subEvents =
        List.zipWith (· + ·) (counted.modules.map ModuleTally.subEvents) gains ∧
      otherAfter.modules.map ModuleTally.subEvents =
        List.zipWith (· + ·) (otherCounted.modules.map ModuleTally.subEvents) gains ∧
      after.modules.map ModuleTally.unconsumedWords =
        counted.modules.map ModuleTally.unconsumedWords ∧
      otherAfter.modules.map ModuleTally.unconsumedWords =
        otherCounted.modules.map ModuleTally.unconsumedWords := by
  obtain ⟨found, counted, ended, delivery, found_at, counted_at, fits, rfl, step_eq, after_at⟩ :=
    exists_after_of_opened reachable.consistent opened
  obtain ⟨otherFound, otherCounted, otherEnded, otherDelivery, otherFound_at, otherCounted_at,
    otherFits, rfl, otherStep_eq, otherAfter_at⟩ :=
    exists_after_of_opened otherReachable.consistent otherOpened
  cases slot_at.symm.trans found_at
  cases plain_at.symm.trans otherFound_at
  have fitting : cycle.regions.length = slot.headers.length := fits.regions
  have otherFitting : twin.regions.length = plain.headers.length := otherFits.regions
  have counted_length : counted.modules.length = slot.headers.length := fits.tallies
  have otherCounted_length : otherCounted.modules.length = plain.headers.length :=
    otherFits.tallies
  obtain ⟨calls, brackets⟩ := uncut.deliver_eq splitting fitting counted_length cycle.event
  have otherDeliver :
      plain.deliver twin.event twin.regions otherCounted.modules =
        Slot.passThrough twin.event twin.regions otherCounted.modules := by
    rw [Slot.deliver, if_neg (by simp [whole])]
  obtain ⟨subEvents, unconsumed⟩ :=
    Slot.tallies_of_keepsWhole fitting counted_length cycle.event fun _ => uncut.kept
  obtain ⟨otherSubEvents, otherUnconsumed⟩ :=
    Slot.tallies_of_keepsWhole otherFitting otherCounted_length twin.event
      fun split => absurd (whole.symm.trans split) (by decide)
  refine ⟨counted, otherCounted, ended, otherEnded, _, _, _, _,
    cycle.regions.map Regions.wholeCount, counted_at, otherCounted_at, step_eq, otherStep_eq,
    after_at, otherAfter_at, ?_, brackets, ?_, ?_, ?_, subEvents, ?_, unconsumed,
    otherUnconsumed⟩
  · rw [otherDeliver, Delivery.report, calls, Delivery.report, Slot.passThrough, ← same]
    simp [Call.inSlot, Slot.map_inSlot_wholeCalls]
  · rw [otherDeliver]
    rfl
  · rw [List.length_map, fitting]
  · rw [List.length_map, ← same, otherFitting]
  · rw [← same]
    exact otherSubEvents

/-- Of four modules one can tell headers and holds nothing, one delivers fixed and dynamic
words, one holds nothing either, and one delivers dynamic words alone.  The other slot is
the second one of its splitter. -/
theorem finish_uncut_eq_whole_four_modules :
    ∃ (engine other : Engine) (cycle twin : Cycle) (ended otherEnded : Engine)
        (report otherReport : Report),
      Reachable [["1SSS", "", "XX", "S"]] engine ∧
      Reachable [["01"], ["", "S", "X", ""]] other ∧
      engine.cycle = some cycle ∧ other.cycle = some twin ∧
      twin.regions = cycle.regions ∧
      engine.step .finish = .ok (ended, .finished report) ∧
      other.step .finish = .ok (otherEnded, .finished otherReport) ∧
      report.calls = otherReport.calls.map (Call.inSlot 0) ∧
      report.brackets = 1 ∧ otherReport.brackets = 1 := by
  have reachable : Reachable [["1SSS", "", "XX", "S"]] _ :=
    ⟨_, [.start 0, .record .leading 1 [5], .record .dynamic 1 [9, 15], .record .trailing 1 [6],
      .record .dynamic 3 [8]], _, rfl, rfl⟩
  have otherReachable : Reachable [["01"], ["", "S", "X", ""]] _ :=
    ⟨_, [.start 1, .record .leading 1 [5], .record .dynamic 1 [9, 15], .record .trailing 1 [6],
      .record .dynamic 3 [8]], _, rfl, rfl⟩
  obtain ⟨-, -, ended, otherEnded, report, otherReport, -, -, -, -, -, step_eq, otherStep_eq, -,
    -, calls, brackets, otherBrackets, -⟩ :=
    finish_uncut_eq_whole reachable otherReachable rfl rfl rfl rfl rfl rfl rfl
      { kept := by
          intro module header recorded header_at recorded_at
          match module with
          | 0 | 1 | 2 | 3 => cases header_at; cases recorded_at; decide +kernel
          | _ + 4 => cases header_at
        some_whole := ⟨1, _, _, rfl, rfl, by decide +kernel, by decide⟩
        around := by decide }
  exact ⟨_, _, _, _, ended, otherEnded, report, otherReport, reachable, otherReachable, rfl, rfl,
    rfl, step_eq, otherStep_eq, calls, brackets, otherBrackets⟩

end Engine

end Readout
